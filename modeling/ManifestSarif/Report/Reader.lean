import ManifestSarif.Ecosystem
import ManifestSarif.Json.Reader
import ManifestSarif.Report.Basic

/-!
# Reading analysis reports

The readers of the parts of a report.  Each takes the number of arrays and objects that may still be
nested, the one it reads included.  A dependency takes one for itself and one for the list of
dependencies below it, so this number also bounds how deep dependencies nest.

* `Report.readers` are the readers of the parts,
* `Report.ofText` reads a report of an ecosystem, or says why it is refused.
-/

namespace ManifestSarif.Report

open Json Json.Reader

/-- The reader of the parts of a container, where containers may nest `depth` deep from the
container on; `none` if not even the container may be there. -/
def within {α : Type} (parts : Nat → α) : Nat → Option α
  | 0 => none
  | depth + 1 => some (parts depth)

/-! ## Issues -/

/-- Fields of a trusted replacement. -/
def trustedContentFields : List (RecordField TrustedContent) :=
  [field "ref" .required text fun ref content => { content with ref }]

/-- Reads a trusted replacement. -/
def trustedContent (depth : Nat) : Reader TrustedContent :=
  record "TrustedContent" (within (fun _ => trustedContentFields) depth) ⟨""⟩

/-- Fields of a remediation. -/
def remediationFields (depth : Nat) : List (RecordField Remediation) :=
  [field "trustedContent" .optional (Reader.optional (trustedContent depth))
    fun trustedContent remediation => { remediation with trustedContent }]

/-- Reads a remediation. -/
def remediation (depth : Nat) : Reader Remediation :=
  record "Remediation" (within remediationFields depth) ⟨none⟩

/-- Fields of a scoring. -/
def cvssFields : List (RecordField Cvss) :=
  [field "cvss" .optional (Reader.optional text) fun score cvss => { cvss with score }]

/-- Reads a scoring. -/
def cvss (depth : Nat) : Reader Cvss :=
  record "Cvss" (within (fun _ => cvssFields) depth) ⟨none⟩

/-- Fields of an issue. -/
def issueFields (depth : Nat) : List (RecordField Issue) :=
  [field "id" .required text fun id issue => { issue with id },
   field "title" .defaulted text fun title issue => { issue with title },
   field "severity" .defaulted text fun severity issue => { issue with severity },
   field "cves" .optional (Reader.optional (list (within (fun _ => text) depth)))
    fun cves issue => { issue with cves },
   field "cvss" .optional (Reader.optional (cvss depth)) fun cvss issue => { issue with cvss },
   field "remediation" .optional (Reader.optional (remediation depth))
    fun remediation issue => { issue with remediation }]

/-- Reads an issue. -/
def issue (depth : Nat) : Reader Issue :=
  record "Issue" (within issueFields depth) ⟨"", "", "", none, none, none⟩

/-! ## Dependencies -/

/-- Fields of a dependency; `below` reads the dependencies below it. -/
def dependencyFields (below : Option (Reader Dependency)) (depth : Nat) :
    List (RecordField Dependency) :=
  [field "ref" .optional (Reader.optional text) fun ref dependency => { dependency with ref },
   field "issues" .optional (Reader.optional (list (within issue depth)))
    fun issues dependency => { dependency with issues },
   field "transitive" .optional (Reader.optional (list below))
    fun transitive dependency => { dependency with transitive },
   field "recommendation" .optional (Reader.optional text)
    fun recommendation dependency => { dependency with recommendation }]

/-- Reads a dependency given its fields. -/
def dependencyRecord (fields : Option (List (RecordField Dependency))) : Reader Dependency :=
  record "RawDependency" fields ⟨none, none, none, none⟩

/-- Reads a dependency. -/
def dependency : Nat → Reader Dependency
  | 0 => dependencyRecord none
  | 1 => dependencyRecord (some (dependencyFields none 0))
  | depth + 2 => dependencyRecord (some (dependencyFields (some (dependency depth)) (depth + 1)))

/-! ## Providers -/

/-- Fields of a summary. -/
def summaryFields : List (RecordField Summary) :=
  [field "critical" .defaulted count fun critical summary => { summary with critical },
   field "high" .defaulted count fun high summary => { summary with high },
   field "medium" .defaulted count fun medium summary => { summary with medium },
   field "low" .defaulted count fun low summary => { summary with low }]

/-- Reads a summary. -/
def summary (depth : Nat) : Reader Summary :=
  record "SourceSummary" (within (fun _ => summaryFields) depth) ⟨0, 0, 0, 0⟩

/-- Fields of a source. -/
def sourceFields (depth : Nat) : List (RecordField Source) :=
  [field "summary" .optional (Reader.optional (summary depth))
    fun summary source => { source with summary },
   field "dependencies" .optional (Reader.optional (list (within dependency depth)))
    fun dependencies source => { source with dependencies }]

/-- Reads a source. -/
def source (depth : Nat) : Reader Source :=
  record "RawSource" (within sourceFields depth) ⟨none, none⟩

/-- Fields of a status. -/
def statusFields : List (RecordField ProviderStatus) :=
  [field "ok" .optional (Reader.optional bool) fun ok status => { status with ok }]

/-- Reads a status. -/
def status (depth : Nat) : Reader ProviderStatus :=
  record "ProviderStatus" (within (fun _ => statusFields) depth) ⟨none⟩

/-- Fields of a provider. -/
def providerFields (depth : Nat) : List (RecordField Provider) :=
  [field "status" .optional (Reader.optional (status depth))
    fun status provider => { provider with status },
   field "sources" .optional (Reader.optional (keyed (within source depth)))
    fun sources provider => { provider with sources }]

/-- Reads a provider. -/
def provider (depth : Nat) : Reader Provider :=
  record "RawProvider" (within providerFields depth) ⟨none, none⟩

/-! ## Reports -/

/-- Fields of an analysis. -/
def analysisFields (depth : Nat) : List (RecordField AnalysisReport) :=
  [field "providers" .optional (Reader.optional (keyed (within provider depth)))
    fun providers report => { report with providers }]

/-- Reads an analysis. -/
def analysis (depth : Nat) : Reader AnalysisReport :=
  record "AnalysisReport" (within analysisFields depth) ⟨none⟩

/-- Reads the analyses of container images. -/
def imageAnalyses (depth : Nat) : Reader (KeyMap AnalysisReport) :=
  keyed (within analysis depth)

/-- How deep arrays and objects may nest in a report, members with unknown names apart. -/
def maxDepth : Nat := 127

/-- The reader of a report: container files have one analysis for each image. -/
def reader : Ecosystem → Reader Report
  | .docker => (imageAnalyses maxDepth).map .images
  | _ => (analysis maxDepth).map .single

/-- Why a text is no report. -/
inductive Refusal where
  /-- It does not start with a report. -/
  | malformed (ofImages : Bool) (failure : Failure)
  /-- Something follows the report. -/
  | trailing
deriving DecidableEq, Repr

/-- The words for the refusal, the cause last. -/
def Refusal.messages : Refusal → List String
  | malformed ofImages failure =>
    [if ofImages then "failed to parse image analysis report"
      else "failed to parse analysis report",
      failure.message]
  | trailing =>
    ["unexpected trailing data after analysis report", Cause.trailingCharacters.message]

/-- The report that a text holds, for the ecosystem of the manifest. -/
def ofText (ecosystem : Ecosystem) (text : String) : Except Refusal Report :=
  let refuse := Refusal.malformed (ecosystem = .docker)
  match Document.ofText text.toList with
  | .broken value => .error (refuse ((reader ecosystem).broken value))
  | .complete value trailing =>
    match (reader ecosystem).complete value with
    | .error failure => .error (refuse failure)
    | .ok report => if trailing then .error .trailing else .ok report

end ManifestSarif.Report
