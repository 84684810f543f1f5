import ManifestSarif.Run
import Mathlib.Data.List.Basic

/-!
# The entries of a report

What a report lists, read off the report itself: no records, groups or findings are built.  The
results about conversions compare their output with these lists.

* `Report.analyses` lists the analyses of a report with their images.
* `Report.entries` lists the dependency entries of all sources that could be asked, with where they
  come from; `Report.located` keeps those that a line of the manifest declares.
* `Dependency.nearIssues` lists the issues of an entry and of the entries right below it.

The lemmas say that the records and the conversions of the program are built from these lists:
`records_eq_filterMap_entries`, `nearIssues_of_record`, `findings_ofReport`, `severity_ofReport`,
`convert_of_read` and `map_convert_eq`.
-/

namespace ManifestSarif

/-! ## Dependency entries -/

namespace Dependency

/-- Whether the entry has a reference, and not an empty one. -/
def hasRef (dependency : Dependency) : Bool :=
  dependency.ref.any fun ref => !ref.isEmpty

def issueList (dependency : Dependency) : List Issue :=
  dependency.issues.getD []

def transitiveList (dependency : Dependency) : List Dependency :=
  dependency.transitive.getD []

/-- The issues listed on the entry, and those listed on the entries right below it that have a
reference. -/
def nearIssues (dependency : Dependency) : List Issue :=
  dependency.issueList ++ (dependency.transitiveList.filter hasRef).flatMap issueList

end Dependency

structure Entry where
  origin : Origin
  dependency : Dependency

namespace Entry

def record? (entry : Entry) : Option Record :=
  Record.ofDependency? entry.origin entry.dependency

/-- The line that declares the entry, if it has a reference and there is such a line. -/
def line? (lines : List String) (entry : Entry) : Option Nat :=
  if entry.dependency.hasRef then
    entry.record?.bind fun record => Declaration.line? entry.origin.ecosystem record lines
  else none

end Entry

/-- The entries of the sources of all providers whose status is ok, in the order of the report. -/
def AnalysisReport.entries (report : AnalysisReport) (ecosystem : Ecosystem)
    (image : Option String) : List Entry :=
  report.providerList.flatMap fun provider =>
    if provider.2.status.bind (·.ok) = some true then
      provider.2.sourceList.flatMap fun source =>
        (source.2.dependencies.getD []).map fun dependency =>
          ⟨⟨image, ecosystem, provider.1, source.1⟩, dependency⟩
    else []

namespace Report

/-- The analyses that the report holds, each with its image if it has one. -/
def analyses : Report → List (Option String × AnalysisReport)
  | single report => [(none, report)]
  | images reports => reports.toList.map fun (image, report) => (some image, report)

def entries (report : Report) (ecosystem : Ecosystem) : List Entry :=
  report.analyses.flatMap fun (image, analysis) => analysis.entries ecosystem image

/-- The entries that a line of the manifest declares, each with the number of that line. -/
def located (report : Report) (ecosystem : Ecosystem) (lines : List String) :
    List (Entry × Nat) :=
  (report.entries ecosystem).filterMap fun entry => (entry.line? lines).map (entry, ·)

end Report

/-! ## Records of entries -/

namespace Record

@[simp]
theorem someIssues?_getD (issues : Option (List Issue)) :
    (someIssues? issues).getD [] = issues.getD [] := by
  rcases issues with _ | (_ | ⟨issue, issues⟩) <;> rfl

/-- An entry has a record exactly when it has a reference, and the record tells all that the entry
says. -/
theorem ofDependency?_eq_some_iff {origin : Origin} {dependency : Dependency} {record : Record} :
    ofDependency? origin dependency = some record ↔
      ∃ ref, dependency.ref = some ref ∧ ref ≠ "" ∧
        record = {
          origin
          ref
          coordinates := PackageRef.coordinates ref
          issues := someIssues? dependency.issues
          transitives := dependency.transitive.map (·.filterMap (ofDependency? origin))
          recommendation :=
            recommendedVersion? dependency.issues dependency.recommendation } := by
  obtain ⟨ref, issues, transitive, recommendation⟩ := dependency
  rw [ofDependency?, ofTransitive_eq_map]
  -- A reference is absent, empty or of use.
  cases ref with
  | none => simp
  | some ref =>
    by_cases hempty : ref = ""
    · subst hempty
      rw [Option.filter_some_neg (by simp)]
      simp
    · rw [Option.filter_some_pos (by simp [hempty])]
      simp [hempty, eq_comm]

theorem isSome_ofDependency? (origin : Origin) (dependency : Dependency) :
    (ofDependency? origin dependency).isSome = dependency.hasRef := by
  rw [Bool.eq_iff_iff, Option.isSome_iff_exists, Dependency.hasRef, Option.any_eq_true]
  constructor
  · intro h
    obtain ⟨record, hrecord⟩ := h
    obtain ⟨ref, href, hne, _⟩ := ofDependency?_eq_some_iff.1 hrecord
    exact ⟨ref, href, by simpa using hne⟩
  · intro h
    obtain ⟨ref, href, hne⟩ := h
    exact ⟨_, ofDependency?_eq_some_iff.2 ⟨ref, href, by simpa using hne, rfl⟩⟩

variable {origin : Origin} {dependency : Dependency} {record : Record}

theorem origin_of_ofDependency? (h : ofDependency? origin dependency = some record) :
    record.origin = origin := by
  obtain ⟨ref, _, _, rfl⟩ := ofDependency?_eq_some_iff.1 h
  rfl

theorem ownIssues_of_ofDependency? (h : ofDependency? origin dependency = some record) :
    record.ownIssues = dependency.issueList := by
  obtain ⟨ref, _, _, rfl⟩ := ofDependency?_eq_some_iff.1 h
  exact someIssues?_getD dependency.issues

theorem directTransitives_of_ofDependency? (h : ofDependency? origin dependency = some record) :
    record.directTransitives = dependency.transitiveList.filterMap (ofDependency? origin) := by
  obtain ⟨ref, _, _, rfl⟩ := ofDependency?_eq_some_iff.1 h
  rw [directTransitives, Dependency.transitiveList]
  cases dependency.transitive <;> rfl

/-- The issues of the records of some entries are those of the entries with a reference. -/
theorem flatMap_ownIssues_filterMap (origin : Origin) (dependencies : List Dependency) :
    (dependencies.filterMap (ofDependency? origin)).flatMap ownIssues =
      (dependencies.filter Dependency.hasRef).flatMap Dependency.issueList := by
  induction dependencies with
  | nil => rfl
  | cons dependency dependencies ih =>
    have hsome := isSome_ofDependency? origin dependency
    cases hrecord : ofDependency? origin dependency with
    | none =>
      rw [hrecord] at hsome
      rw [List.filterMap_cons_none hrecord, List.filter_cons_of_neg (by simp [← hsome]), ih]
    | some record =>
      rw [hrecord] at hsome
      rw [List.filterMap_cons_some hrecord, List.filter_cons_of_pos (by simp [← hsome]),
        List.flatMap_cons, List.flatMap_cons, ih, ownIssues_of_ofDependency? hrecord]

/-- A record and the records right below it have the issues that the entry lists nearby. -/
theorem nearIssues_of_record (h : ofDependency? origin dependency = some record) :
    record.ownIssues ++ record.directTransitives.flatMap ownIssues = dependency.nearIssues := by
  rw [ownIssues_of_ofDependency? h, directTransitives_of_ofDependency? h,
    flatMap_ownIssues_filterMap, Dependency.nearIssues]

end Record

namespace Entry

theorem line?_of_record {entry : Entry} {record : Record} (h : entry.record? = some record)
    (lines : List String) :
    entry.line? lines = Declaration.line? record.origin.ecosystem record lines := by
  have href : entry.dependency.hasRef = true := by
    rw [← Record.isSome_ofDependency? entry.origin]
    exact Option.isSome_of_eq_some h
  rw [line?, if_pos href, h, Option.bind_some, Record.origin_of_ofDependency? h]

theorem line?_eq_none {entry : Entry} (h : entry.record? = none) (lines : List String) :
    entry.line? lines = none := by
  rw [line?, h, Option.bind_none, ite_self]

end Entry

/-! ## Records and conversions of a report -/

theorem Provider.succeeded_iff (provider : Provider) :
    provider.succeeded = true ↔ provider.status.bind (·.ok) = some true := by
  rw [succeeded]
  cases provider.status.bind (·.ok) <;> simp

/-- What is gathered from the sources of an analysis is gathered provider by provider. -/
theorem AnalysisReport.flatMap_sources {α : Type} (report : AnalysisReport)
    (f : String × String × Source → List α) :
    report.sources.flatMap f =
      report.providerList.flatMap fun provider =>
        if provider.2.status.bind (·.ok) = some true then
          provider.2.sourceList.flatMap fun source => f (provider.1, source.1, source.2)
        else [] := by
  have hsources : report.sources =
      (report.providerList.filter fun provider => provider.2.succeeded).flatMap fun provider =>
        provider.2.sourceList.map fun source => (provider.1, source.1, source.2) := rfl
  -- The program filters the providers first, so both sides are compared provider by provider.
  rw [hsources, List.flatMap_assoc]
  induction report.providerList with
  | nil => rfl
  | cons provider providers ih =>
    rw [List.flatMap_cons, ← ih, List.filter_cons]
    by_cases hok : provider.2.succeeded = true
    · rw [if_pos hok, if_pos (provider.2.succeeded_iff.1 hok), List.flatMap_cons,
        List.flatMap_map]
    · rw [if_neg hok, if_neg (mt provider.2.succeeded_iff.2 hok), List.nil_append]

theorem AnalysisReport.records_eq_filterMap_entries (report : AnalysisReport)
    (ecosystem : Ecosystem) (image : Option String) :
    report.records ecosystem image = (report.entries ecosystem image).filterMap Entry.record? := by
  rw [records, flatMap_sources, entries, List.filterMap_flatMap]
  refine List.flatMap_congr fun provider _ => ?_
  by_cases hok : provider.2.status.bind (·.ok) = some true
  · rw [if_pos hok, if_pos hok, List.filterMap_flatMap]
    refine List.flatMap_congr fun source _ => ?_
    rw [List.filterMap_map]
    rfl
  · rw [if_neg hok, if_neg hok, List.filterMap_nil]

theorem AnalysisReport.origin_of_mem_records {report : AnalysisReport} {ecosystem : Ecosystem}
    {image : Option String} {record : Record} (h : record ∈ report.records ecosystem image) :
    record.origin.image = image ∧ record.origin.ecosystem = ecosystem := by
  obtain ⟨source, -, h⟩ := List.mem_flatMap.1 h
  obtain ⟨dependency, -, hrecord⟩ := List.mem_filterMap.1 h
  rw [Record.origin_of_ofDependency? hrecord]
  exact ⟨rfl, rfl⟩

namespace Conversion

theorem findings_ofReport (target : Target) (report : Report) :
    (ofReport target report).findings =
      .concat (report.analyses.map fun (image, analysis) =>
        (ofAnalysis target image analysis).findings) := by
  cases report with
  | single report => rfl
  | images reports => simp only [ofReport, concat, parts, Report.analyses, List.map_map]; rfl

theorem severity_ofReport (target : Target) (report : Report) :
    (ofReport target report).severity =
      Severity.worst (report.analyses.map fun (_, analysis) => analysis.severity) := by
  cases report with
  | single report => rfl
  | images reports => simp only [ofReport, concat, parts, Report.analyses, List.map_map]; rfl

end Conversion

/-- A report is converted against every manifest that can be read. -/
theorem Run.convert_of_read {disk : Disk} {manifest content : String}
    (hread : disk.read manifest = .ok content) (cwd : String) (ecosystem : Ecosystem)
    (report : Report) :
    convert disk cwd manifest ecosystem report =
      .ok (Conversion.ofReport
        ⟨ecosystem, Manifest.lines ecosystem content, Path.uri cwd manifest⟩ report) := by
  rw [convert, manifestLines, hread]
  rfl

/-- Reports that are converted alike against the lines of every manifest are converted alike by a
run, or both not converted because the manifest cannot be read. -/
theorem Run.map_convert_eq {left right : Report}
    (h : ∀ target,
      (Conversion.ofReport target left).findings = (Conversion.ofReport target right).findings ∧
        (Conversion.ofReport target left).severity = (Conversion.ofReport target right).severity)
    (disk : Disk) (cwd manifest : String) (ecosystem : Ecosystem) :
    (convert disk cwd manifest ecosystem left).map
        (fun conversion => (conversion.document, conversion.severity)) =
      (convert disk cwd manifest ecosystem right).map
        fun conversion => (conversion.document, conversion.severity) := by
  cases hread : disk.read manifest with
  | ok content =>
    obtain ⟨hfindings, hseverity⟩ :=
      h ⟨ecosystem, Manifest.lines ecosystem content, Path.uri cwd manifest⟩
    rw [convert_of_read hread, convert_of_read hread]
    simp only [Except.map, Conversion.document, hfindings, hseverity]
  | error error =>
    rw [convert, convert, manifestLines, hread]
    rfl

/-! ## A sample -/

namespace Sample

def issue (id severity : String) : Issue :=
  ⟨id, "title", severity, none, none, none⟩

def dependency (ref : Option String) (issues : List Issue) (transitive : List Dependency) :
    Dependency :=
  ⟨ref, some issues, some transitive, none⟩

/-- An entry that a line declares, with issues on three levels. -/
def requests : Dependency :=
  dependency (some "pkg:pypi/requests@2.19.0") [issue "CVE-1" "HIGH"] [
    dependency (some "pkg:pypi/urllib3@1.23") [issue "CVE-2" "LOW"] [
      dependency (some "pkg:pypi/idna@2.7") [issue "CVE-3" "LOW"] []],
    dependency none [issue "CVE-4" "LOW"] []]

/-- An entry that a line declares, without issues and with a replacement. -/
def flask : Dependency :=
  ⟨some "pkg:pypi/flask@2.0.0", none, none, some "pkg:pypi/flask@2.0.0.redhat"⟩

/-- An entry that no line declares. -/
def jinja : Dependency :=
  dependency (some "pkg:pypi/jinja2@2.11") [issue "CVE-5" "HIGH"] []

/-- The analysis of a provider that failed and of one with two sources. -/
def analysis : AnalysisReport where
  providers := some (KeyMap.ofList [
    ("failed", ⟨none, some (KeyMap.ofList [("osv", ⟨some ⟨1, 0, 0, 0⟩, some [requests]⟩)])⟩),
    ("rhda", ⟨some ⟨some true⟩, some (KeyMap.ofList [
      ("csaf", ⟨some ⟨0, 0, 1, 0⟩, some [flask, jinja]⟩),
      ("osv", ⟨none, some [requests, dependency none [issue "CVE-6" "LOW"] []]⟩)])⟩)])

/-- The same with a provider more. -/
def analysisOfMore : AnalysisReport where
  providers := some ((analysis.providers.getD .empty).insert "trusted"
    ⟨some ⟨some true⟩, some (KeyMap.ofList [("osv", ⟨some ⟨1, 0, 0, 0⟩, none⟩)])⟩)

/-- The analysis of a provider that names an issue by an empty text. -/
def unnamed : AnalysisReport where
  providers := some (KeyMap.ofList [
    ("rhda", ⟨some ⟨some true⟩, some (KeyMap.ofList [
      ("osv", ⟨none, some [
        dependency (some "pkg:pypi/flask@2.0.0") [issue "" "HIGH"] []]⟩)])⟩)])

def content : String := "flask==2.0.0\nrequests==2.19.0\n"

def disk : Disk where
  cwd := ["work"]
  nodes := [(["work"], .directory), (["work", "requirements.txt"], .file (some content))]

end Sample

end ManifestSarif
