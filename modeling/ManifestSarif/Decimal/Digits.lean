/-!
# Decimal digits

The natural number that decimal digits denote.
-/

namespace ManifestSarif.Decimal

/-- The value of a digit. -/
def digitValue (c : Char) : Nat :=
  c.toNat - '0'.toNat

/-- The natural number that digits denote. -/
def digitsValue (digits : List Char) : Nat :=
  digits.foldl (fun n c => 10 * n + digitValue c) 0

end ManifestSarif.Decimal
