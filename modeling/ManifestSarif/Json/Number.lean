import ManifestSarif.Decimal.Digits
import ManifestSarif.Decimal.Shortest

/-!
# Numbers of JSON

A numeral is what the text holds; its number is a 64-bit integer where it can be, and otherwise the
floating-point number that its digits are scaled to.

* `Numeral.number?` is the number, unless it is too large,
* `Number.write` is its text.
-/

namespace ManifestSarif.Json

open Decimal

/-- A decimal exponent. -/
structure Exponent where
  negative : Bool
  digits : List Char
deriving DecidableEq, Repr

/-- A numeral as it is written. -/
structure Numeral where
  negative : Bool
  whole : List Char
  places : Option (List Char)
  exponent : Option Exponent
deriving DecidableEq, Repr

/-- A number: a natural number of 64 bits, a negative integer of 64 bits with its sign, or a
floating-point number with its sign. -/
inductive Number where
  | natural (n : UInt64)
  | negative (magnitude : Nat)
  | float (minus : Bool) (magnitude : Binary64)
deriving DecidableEq, Repr

/-- How many natural numbers have 64 bits. -/
def wordCount : Nat := 0x10000000000000000

/-- A decimal number in the making: a significand of 64 bits and a power of ten.  It is `full` once
a digit did not fit. -/
structure Scale where
  significand : Nat
  power : Int
  full : Bool

namespace Scale

/-- The significand with a digit more, if it still fits. -/
def push? (s : Scale) (c : Char) : Option Nat :=
  let n := 10 * s.significand + digitValue c
  if n < wordCount then some n else none

/-- Takes a digit before the point: once one does not fit, each counts as a power of ten. -/
def addWhole (s : Scale) (c : Char) : Scale :=
  match if s.full then none else s.push? c with
  | some n => { s with significand := n }
  | none => { s with power := s.power + 1, full := true }

/-- Takes a digit after the point: once one does not fit, all are ignored. -/
def addPlace (s : Scale) (c : Char) : Scale :=
  match if s.full then none else s.push? c with
  | some n => { s with significand := n, power := s.power - 1 }
  | none => { s with full := true }

end Scale

namespace Numeral

/-- The significand and the power of ten of the numeral. -/
def scale (numeral : Numeral) : Nat × Int :=
  let whole := numeral.whole.foldl Scale.addWhole ⟨0, 0, false⟩
  let all := (numeral.places.getD []).foldl Scale.addPlace { whole with full := false }
  let exponent : Int :=
    match numeral.exponent with
    | none => 0
    | some ⟨minus, digits⟩ => if minus then -digitsValue digits else digitsValue digits
  (all.significand, all.power + exponent)

/-- The floating-point number nearest to the scaled significand; `none` when it is too large. -/
def float? (numeral : Numeral) : Option Number :=
  let (significand, power) := numeral.scale
  (Binary64.ofParts significand power).map (.float numeral.negative)

/-- The number of a numeral; `none` when it is too large.  Minus zero is no integer. -/
def number? (numeral : Numeral) : Option Number :=
  match numeral with
  | ⟨minus, whole, none, none⟩ =>
    let n := digitsValue whole
    if minus then
      if 0 < n ∧ 2 * n ≤ wordCount then some (.negative n) else numeral.float?
    else if n < wordCount then some (.natural (UInt64.ofNat n))
    else numeral.float?
  | _ => numeral.float?

end Numeral

/-- Floating-point numbers are positional from 10⁻⁵ to below 10¹⁶ and keep a place after the
point. -/
def floatLayout : Shortest.Layout := ⟨-5, 16⟩

namespace Number

/-- The number of an integer; one that is too large for 64 bits becomes the largest that fits. -/
def ofInt (n : Int) : Number :=
  if n < 0 then .negative n.natAbs else .natural (UInt64.ofNatClamp n.toNat)

/-- The shortest text of the number. -/
def write : Number → String
  | .natural n => toString n.toNat
  | .negative n => "-" ++ toString n
  | .float minus x =>
    let text := String.ofList (Shortest.write floatLayout x)
    if minus then "-" ++ text else text

end Number

end ManifestSarif.Json
