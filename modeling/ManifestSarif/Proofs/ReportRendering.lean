import ManifestSarif.Ecosystem
import ManifestSarif.Proofs.JsonGrammar
import ManifestSarif.Report.Basic
import Mathlib.Data.List.Forall2

/-!
# How reports are written as JSON

The values that stand for the parts of a report, said without regard to how reports are read.  A
record is an object with one member for each field.  Members come in any order, keys and strings
have any spelling, and what is absent is left out or null.

* `Rendering.text` to `Rendering.keyed` are for scalars, lists and maps, `Rendering.object` for
  records.
* `Rendering.report` is for whole reports; `Report.Suits` tells the ecosystems that they are for.
-/

namespace ManifestSarif

namespace Rendering

open Json

variable {α : Type}

/-! ## Scalars, lists and maps -/

/-- A string of the characters, each of them escaped or not. -/
def text (s : String) (value : Value) : Prop :=
  ∃ pieces : Quotation, value = .text pieces ∧ pieces.Spells s.toList

/-- A truth value. -/
def bool (b : Bool) (value : Value) : Prop :=
  value = .bool b

/-- The count with all its digits. -/
def count (n : UInt64) (value : Value) : Prop :=
  value = .number ⟨false, Nat.toDigits 10 n.toNat, none, none⟩

/-- An array of the items in their order. -/
def list (item : α → Value → Prop) (items : List α) (value : Value) : Prop :=
  ∃ values, value = .array values ∧ List.Forall₂ item items values

/-- An object with the entries in any order. -/
def keyed (item : α → Value → Prop) (m : KeyMap α) (value : Value) : Prop :=
  ∃ entries members, value = .object members ∧ entries.Perm m.toList ∧
    List.Forall₂
      (fun (entry : String × α) member => member.1.Spells entry.1.toList ∧ item entry.2 member.2)
      entries members

/-! ## Records -/

/-- The member that stands for a field, and whether it may be left out. -/
structure Member where
  name : String
  value : Value → Prop
  absent : Bool

/-- The member of a field that is there. -/
def member (name : String) (value : Value → Prop) : Member :=
  ⟨name, value, false⟩

/-- The member of a field that may be absent. -/
def member? (name : String) : Option (Value → Prop) → Member
  | some value => ⟨name, value, false⟩
  | none => ⟨name, (· = .null), true⟩

/-- An object with the members in any order, those apart that are left out. -/
def object (members : List Member) (value : Value) : Prop :=
  ∃ written omitted values, value = .object values ∧ (written ++ omitted).Perm members ∧
    (∀ member ∈ omitted, member.absent) ∧
    List.Forall₂ (fun member value => value.1.Spells member.name.toList ∧ member.value value.2)
      written values

/-! ## Issues -/

def trustedContent (content : TrustedContent) : Value → Prop :=
  object [member "ref" (text content.ref)]

def remediation (remediation : Remediation) : Value → Prop :=
  object [member? "trustedContent" (remediation.trustedContent.map trustedContent)]

def cvss (cvss : Cvss) : Value → Prop :=
  object [member? "cvss" (cvss.score.map text)]

def issue (issue : Issue) : Value → Prop :=
  object
    [member "id" (text issue.id),
     member "title" (text issue.title),
     member "severity" (text issue.severity),
     member? "cves" (issue.cves.map (list text)),
     member? "cvss" (issue.cvss.map cvss),
     member? "remediation" (issue.remediation.map remediation)]

/-! ## Dependencies -/

mutual

def dependency : Dependency → Value → Prop
  | ⟨ref, issues, transitive, recommendation⟩ =>
    object
      [member? "ref" (ref.map text),
       member? "issues" (issues.map (list issue)),
       member? "transitive" (below transitive),
       member? "recommendation" (recommendation.map text)]

/-- The values for the dependencies below a dependency, if it has them. -/
def below : Option (List Dependency) → Option (Value → Prop)
  | none => none
  | some dependencies => some (list id (each dependencies))

/-- The values for each of the dependencies. -/
def each : List Dependency → List (Value → Prop)
  | [] => []
  | first :: rest => dependency first :: each rest

end

theorem each_eq (dependencies : List Dependency) :
    each dependencies = dependencies.map dependency := by
  induction dependencies with
  | nil => rfl
  | cons first rest ih => rw [each, ih, List.map_cons]

/-- The dependencies below a dependency are written as a list like any other. -/
theorem below_eq (transitive : Option (List Dependency)) :
    below transitive = transitive.map (list dependency) := by
  cases transitive with
  | none => rfl
  | some dependencies =>
    have hlist : list id (each dependencies) = list dependency dependencies := by
      funext value
      simp only [list, each_eq, List.forall₂_map_left_iff, id]
    rw [below, hlist, Option.map_some]

/-! ## Providers -/

def summary (summary : Summary) : Value → Prop :=
  object
    [member "critical" (count summary.critical),
     member "high" (count summary.high),
     member "medium" (count summary.medium),
     member "low" (count summary.low)]

def source (source : Source) : Value → Prop :=
  object
    [member? "summary" (source.summary.map summary),
     member? "dependencies" (source.dependencies.map (list dependency))]

def status (status : ProviderStatus) : Value → Prop :=
  object [member? "ok" (status.ok.map bool)]

def provider (provider : Provider) : Value → Prop :=
  object
    [member? "status" (provider.status.map status),
     member? "sources" (provider.sources.map (keyed source))]

/-! ## Reports -/

def analysis (report : AnalysisReport) : Value → Prop :=
  object [member? "providers" (report.providers.map (keyed provider))]

/-- A report of one manifest, or of container images by their references. -/
def report : Report → Value → Prop
  | .single report => analysis report
  | .images reports => keyed analysis reports

end Rendering

/-- Container files have a report for each image, other manifests have one report. -/
def Report.Suits (ecosystem : Ecosystem) : Report → Prop
  | .single _ => ecosystem ≠ .docker
  | .images _ => ecosystem = .docker

end ManifestSarif
