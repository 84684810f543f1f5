/-!
# Binary floating point

The finite non-negative numbers of the 64-bit format as exact pairs of natural and integer, with
the rounding that its arithmetic uses: to the nearest number, a tie to the even significand.

* `Binary64.ofRatio` rounds a fraction,
* `Binary64.ofParts` rounds a decimal significand and scales it by powers of ten, one rounded
  operation at a time.
-/

namespace ManifestSarif

/-- The number `significand * 2 ^ exponent`. -/
structure Binary64 where
  significand : Nat
  exponent : Int
deriving DecidableEq, Repr

namespace Binary64

/-- The quotient rounded to the nearest natural number, a tie to the even one. -/
def roundDiv (num den : Nat) : Nat :=
  let quotient := num / den
  let twice := 2 * (num % den)
  if twice > den || (twice == den && quotient % 2 == 1) then quotient + 1 else quotient

/-- Numerator and denominator of `n * 2 ^ exponent`. -/
def scaled (n : Nat) (exponent : Int) : Nat × Nat :=
  if exponent ≥ 0 then (n * Nat.pow 2 exponent.toNat, 1) else (n, Nat.pow 2 (-exponent).toNat)

/-- The exponent that leaves 53 binary places to the fraction, but not less than that of the
smallest number of the format. -/
def unitExponent (num den : Nat) : Int :=
  let guess : Int := (num.log2 : Int) - den.log2 - 53
  let (n, d) := scaled num (-guess)
  max (-1074) (if n / (d * den) ≥ Nat.pow 2 53 then guess + 1 else guess)

/-- The number of the format that is nearest to `num / den`, where no number is too large. -/
def ofRatio (num den : Nat) : Binary64 :=
  if num = 0 then ⟨0, -1074⟩
  else
    let exponent := unitExponent num den
    let (n, d) := scaled num (-exponent)
    let significand := roundDiv n (d * den)
    if significand = Nat.pow 2 53 then ⟨Nat.pow 2 52, exponent + 1⟩ else ⟨significand, exponent⟩

/-- Whether the number is below the bound of the format. -/
def isFinite (x : Binary64) : Bool :=
  x.significand = 0 || x.exponent ≤ 971

/-- The rounded product. -/
def mul (x y : Binary64) : Binary64 :=
  let (n, d) := scaled (x.significand * y.significand) (x.exponent + y.exponent)
  ofRatio n d

/-- The rounded quotient by a number other than zero. -/
def div (x y : Binary64) : Binary64 :=
  let (n, d) := scaled x.significand (x.exponent - y.exponent)
  ofRatio n (d * y.significand)

/-- The number nearest to a power of ten. -/
def pow10 (exponent : Nat) : Binary64 :=
  ofRatio (Nat.pow 10 exponent) 1

/-- The largest power of ten that the format holds. -/
def maxPow10 : Nat := 308

/-- Division by a power of ten, in steps of at most the largest power that the format holds. -/
def scaleDown (x : Binary64) (exponent : Nat) : Binary64 :=
  if exponent ≤ maxPow10 then x.div (pow10 exponent)
  else if x.significand = 0 then x
  else scaleDown (x.div (pow10 maxPow10)) (exponent - maxPow10)
termination_by exponent
decreasing_by simp [maxPow10] at *; omega

/-- The significand, rounded, times a power of ten; `none` when the product is too large. -/
def ofParts (significand : Nat) (exponent : Int) : Option Binary64 :=
  let x := ofRatio significand 1
  if exponent < 0 then some (x.scaleDown (-exponent).toNat)
  else if significand = 0 then some x
  else if exponent ≤ maxPow10 then
    let product := x.mul (pow10 exponent.toNat)
    if product.isFinite then some product else none
  else none

end Binary64

end ManifestSarif
