import ManifestSarif.Decimal.Binary64

/-!
# Shortest decimal text

A binary floating-point number is written with the fewest digits that no other number of the format
rounds to, and among those with the digits nearest to it.

* `Shortest.digits` finds the digits and the power of ten of the first one,
* `Shortest.write` lays them out as a `Layout` says.
-/

namespace ManifestSarif.Shortest

/-- Where positional notation begins and ends, as powers of ten of the first digit. -/
structure Layout where
  positionalFrom : Int
  positionalBelow : Int

/-- The power of ten of the first digit of `num / den`, for `num` other than zero. -/
def leadingPower (num den : Nat) : Int :=
  if num ≥ den then ((Nat.toDigits 10 (num / den)).length : Int) - 1
  else
    let places := (Nat.toDigits 10 (den / num)).length
    if num * Nat.pow 10 (places - 1) ≥ den then 1 - (places : Int) else -(places : Int)

/-- The fraction `num / den` divided by `10 ^ power`. -/
def shift (num den : Nat) (power : Int) : Nat × Nat :=
  if power ≥ 0 then (num, den * Nat.pow 10 power.toNat)
  else (num * Nat.pow 10 (-power).toNat, den)

/-- The numbers strictly between `low` and `high`, or with the ends as well, all over `den`. -/
structure Interval where
  low : Nat
  high : Nat
  den : Nat
  closed : Bool

/-- Whether `n * 10 ^ power` lies in the interval. -/
def Interval.holds (i : Interval) (n : Nat) (power : Int) : Bool :=
  let (num, den) :=
    if power ≥ 0 then (n * Nat.pow 10 power.toNat, 1) else (n, Nat.pow 10 (-power).toNat)
  if i.closed then i.low * den ≤ num * i.den && num * i.den ≤ i.high * den
  else i.low * den < num * i.den && num * i.den < i.high * den

/-- The numbers that round to `x`: half-way to its neighbours, ends included for an even
significand.  Below a power of two the neighbour is half as far away. -/
def roundingInterval (x : Binary64) : Interval :=
  let near := x.significand = Nat.pow 2 52 && x.exponent > -1074
  let (one, den) := Binary64.scaled 1 (x.exponent - 2)
  ⟨(4 * x.significand - if near then 1 else 2) * one, (4 * x.significand + 2) * one, den,
    x.significand % 2 = 0⟩

/-- Of the multiples of `10 ^ power` next to `num / den`, the nearer one that lies in the interval;
of two equally near ones the even one. -/
def onGrid? (i : Interval) (num den : Nat) (power : Int) : Option Nat :=
  let (n, d) := shift num den power
  let below := n / d
  let twice := 2 * (n % d)
  let (first, second) :=
    if twice < d || (twice == d && below % 2 == 0) then (below, below + 1) else (below + 1, below)
  if i.holds first power then some first else if i.holds second power then some second else none

/-- The fewest digits, as a natural number, and the power of ten of the last one. -/
def decimal (x : Binary64) : Nat × Int :=
  let (num, den) := Binary64.scaled x.significand x.exponent
  let lead := leadingPower num den
  let interval := roundingInterval x
  let powers := (List.range 17).map fun (k : Nat) => lead - k
  let hit := powers.findSome? fun power => (onGrid? interval num den power).map (·, power)
  hit.getD (num, 0)

/-- The digits without zeros at their end, and the power of ten of the first digit. -/
def digits (x : Binary64) : List Char × Int :=
  if x.significand = 0 then (['0'], 0)
  else
    let (n, power) := decimal x
    let all := Nat.toDigits 10 n
    let kept := (all.reverse.dropWhile (· == '0')).reverse
    (kept, power + all.length - 1)

/-- Positional notation, with at least one place on either side of the point. -/
def positional (ds : List Char) (lead : Int) : List Char :=
  if lead < 0 then '0' :: '.' :: List.replicate (-lead - 1).toNat '0' ++ ds
  else
    let whole := lead.toNat + 1
    let padded := ds ++ List.replicate (whole - ds.length) '0'
    let places := padded.drop whole
    padded.take whole ++ '.' :: if places.isEmpty then ['0'] else places

/-- Scientific notation, with a signed exponent. -/
def scientific (ds : List Char) (lead : Int) : List Char :=
  let mantissa :=
    match ds with
    | first :: second :: more => first :: '.' :: second :: more
    | ds => ds
  let sign := if lead < 0 then '-' else '+'
  mantissa ++ 'e' :: sign :: Nat.toDigits 10 lead.natAbs

/-- The shortest text of the number. -/
def write (layout : Layout) (x : Binary64) : List Char :=
  let (ds, lead) := digits x
  if layout.positionalFrom ≤ lead && lead < layout.positionalBelow then positional ds lead
  else scientific ds lead

end ManifestSarif.Shortest
