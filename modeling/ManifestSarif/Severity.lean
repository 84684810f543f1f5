/-!
# Severity

The worst level of vulnerability that a conversion has seen, and the counts it is derived from.

* `Severity.worst` of some levels is their maximum,
* `Summary.severity` is the level that the issue counts of one source imply,
* `FailOn.fails` says which levels a policy rejects.
-/

namespace ManifestSarif

/-- Levels of vulnerability, from the best to the worst. -/
inductive Severity where
  | none
  | warning
  | error
deriving DecidableEq, Repr

namespace Severity

/-- The position of the level in the order. -/
def rank : Severity → Nat
  | none => 0
  | warning => 1
  | error => 2

instance : LE Severity := ⟨fun a b => a.rank ≤ b.rank⟩

instance (a b : Severity) : Decidable (a ≤ b) := inferInstanceAs (Decidable (a.rank ≤ b.rank))

instance : Max Severity := ⟨fun a b => if a ≤ b then b else a⟩

/-- The word for the level. -/
def name : Severity → String
  | none => "none"
  | warning => "warning"
  | error => "error"

/-- The worst of some levels; the best level of all if there are none. -/
def worst (levels : List Severity) : Severity :=
  levels.foldl max none

end Severity

/-- The numbers of issues, by severity, that one source reports. -/
structure Summary where
  critical : UInt64
  high : UInt64
  medium : UInt64
  low : UInt64
deriving DecidableEq, Repr

/-- The level that the counts imply. -/
def Summary.severity (s : Summary) : Severity :=
  if s.critical > 0 ∨ s.high > 0 then .error
  else if s.medium > 0 ∨ s.low > 0 then .warning
  else .none

/-- Which levels make a run fail. -/
inductive FailOn where
  | error
  | warning
  | never
deriving DecidableEq, Repr

namespace FailOn

/-- Whether the policy rejects the level. -/
def fails : FailOn → Severity → Bool
  | error, severity => severity = .error
  | warning, severity => Severity.warning ≤ severity
  | never, _ => false

/-- The word for the policy. -/
def name : FailOn → String
  | error => "error"
  | warning => "warning"
  | never => "never"

/-- The policies, in the order of their strictness. -/
def all : List FailOn := [error, warning, never]

/-- The policy that a word names. -/
def ofName? (name : String) : Option FailOn :=
  all.find? fun policy => policy.name = name

end FailOn

end ManifestSarif
