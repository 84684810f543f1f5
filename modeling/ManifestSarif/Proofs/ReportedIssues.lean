import ManifestSarif.Proofs.EmittedFindings

/-!
# Every issue is reported exactly once

A conversion groups records, asks whether a group has issues at all, locates each record and emits
the findings of its issues or of its recommendation.  This file shows that none of this loses,
invents or repeats an issue.

* `filter_ofRecord`: whatever the group says, the issue findings of a record are those of its own
  issues and of those right below it.
* `filter_findings_ofAnalysis_perm` and `issueResults_ofReport_perm` carry this over the groups of
  an analysis and over the analyses of a report.
* `issues_reported_exactly_once` is the result, for a run against a manifest on a disk.
-/

namespace ManifestSarif

open Sarif

namespace Sarif

/-- What a result reports: the identifier of its rule, the file and the line. -/
def Result.mark (result : Result) : String × String × Nat :=
  (result.ruleId, result.uri, result.line)

def Finding.mark (finding : Finding) : String × String × Nat :=
  finding.result.mark

/-- Whether the finding is one of an issue: its rule has another level than `note`. -/
def Finding.isIssue (finding : Finding) : Bool :=
  finding.rule.level ≠ .note

/-- The results of the document whose rule, at the same position, has another level than `note`. -/
def Document.issueResults (document : Document) : List Result :=
  ((document.results.zip document.rules).filter fun pair => pair.2.level ≠ .note).map (·.1)

namespace Findings

variable {place : Place} {record : Record}

/-! ## The findings of one record -/

theorem isIssue_of_mem_ofIssues {finding : Finding}
    (h : finding ∈ (ofIssues place record).toList) : finding.isIssue = true := by
  rw [Finding.isIssue, decide_eq_true_iff]
  obtain ⟨_, _, _, issue, _, rfl⟩ := exists_issue_of_mem h
  exact Level.ofIssue_ne_note issue.severity

theorem not_isIssue_of_mem_ofRecommendation {finding : Finding}
    (h : finding ∈ (ofRecommendation place record).toList) : ¬finding.isIssue = true := by
  obtain ⟨version, _, rfl⟩ := exists_version_of_mem h
  simp [Finding.isIssue, Finding.ofRecommendation, Rule.ofRecommendation]

/-- A record has issue findings only if it has issues nearby. -/
theorem toList_ofIssues_eq_nil (h : record.hasIssuesNearby = false) :
    (ofIssues place record).toList = [] := by
  rw [Record.hasIssuesNearby, Bool.or_eq_false_iff, List.any_eq_false] at h
  obtain ⟨hown, hbelow⟩ := h
  have hnone : ∀ record : Record, ¬record.hasIssues = true → record.ownIssues = [] := by
    intro record hrecord
    simpa [Record.hasIssues] using hrecord
  rw [toList_ofIssues, hnone record (by simp [hown]), List.map_nil, List.nil_append,
    List.flatMap_eq_nil_iff]
  intro transitive hmem
  rw [hnone transitive (hbelow transitive hmem), List.map_nil]

/-- The issue findings of a record do not hang on the other records of its group. -/
theorem filter_ofRecord {groupHasIssues : Bool}
    (h : record.hasIssuesNearby = true → groupHasIssues = true) :
    (ofRecord place groupHasIssues record).toList.filter Finding.isIssue =
      (ofIssues place record).toList := by
  cases groupHasIssues with
  | true => exact List.filter_eq_self.2 fun _ hmem => isIssue_of_mem_ofIssues hmem
  | false =>
    -- No record of the group has issues nearby, so only a recommendation is emitted.
    have hnone : record.hasIssuesNearby = false := by simpa using h
    rw [toList_ofIssues_eq_nil hnone]
    exact List.filter_eq_nil_iff.2 fun _ hmem => not_isIssue_of_mem_ofRecommendation hmem

/-- Issue findings have the identifiers of the issues and point at the place of the record. -/
theorem map_ofIssues (place : Place) (record : Record) :
    (ofIssues place record).toList.map Finding.mark =
      (record.ownIssues ++ record.directTransitives.flatMap Record.ownIssues).map fun issue =>
        (issue.id, place.uri, place.line) := by
  rw [toList_ofIssues, List.map_append, List.map_append, List.map_map, List.map_flatMap,
    List.map_flatMap]
  refine congrArg₂ _ rfl (List.flatMap_congr fun transitive _ => ?_)
  rw [List.map_map]
  rfl

end Findings

end Sarif

namespace Conversion

/-! ## The findings of an analysis -/

theorem issueResults_document (conversion : Conversion) :
    conversion.document.issueResults =
      (conversion.findings.toList.filter Finding.isIssue).map (·.result) := by
  rw [Findings.toList, List.filter_map, List.map_map]
  rfl

/-- The issue findings of a record, at the line that declares it. -/
def issueFindings (target : Target) (record : Record) : List Finding :=
  match Declaration.line? record.origin.ecosystem record target.lines with
  | some line => (Findings.ofIssues ⟨target.uri, line⟩ record).toList
  | none => []

theorem filter_findingsOf {target : Target} {group : Group} {record : Record}
    (hmem : record ∈ group.records) :
    (findingsOf target group record).toList.filter Finding.isIssue =
      issueFindings target record := by
  rw [findingsOf, issueFindings]
  cases Declaration.line? record.origin.ecosystem record target.lines with
  | none => rfl
  | some line => exact Findings.filter_ofRecord (Group.hasIssues_of_mem hmem)

/-- Grouping neither loses nor repeats the issue findings of a record. -/
theorem filter_findings_ofAnalysis_perm (target : Target) (image : Option String)
    (report : AnalysisReport) :
    ((ofAnalysis target image report).findings.toList.filter Finding.isIssue).Perm
      ((report.records target.ecosystem image).flatMap (issueFindings target)) := by
  let groups := Group.collect (report.records target.ecosystem image)
  have hgroups : (ofAnalysis target image report).findings.toList.filter Finding.isIssue =
      (Group.allRecords groups).flatMap (issueFindings target) := by
    rw [Group.allRecords, List.flatMap_assoc, toList_ofAnalysis, List.filter_flatMap]
    refine List.flatMap_congr fun group _ => ?_
    rw [List.filter_flatMap]
    exact List.flatMap_congr fun record hmem => filter_findingsOf hmem
  rw [hgroups]
  exact (Group.collect_perm _).flatMap_right _

end Conversion

/-! ## The issues of a report -/

/-- What an entry that a line declares calls for: one result at that line for each issue on the
entry or on an entry with a reference right below it. -/
def Entry.marks (uri : String) (located : Entry × Nat) : List (String × String × Nat) :=
  located.1.dependency.nearIssues.map fun issue => (issue.id, uri, located.2)

def Report.issueMarks (report : Report) (ecosystem : Ecosystem) (lines : List String)
    (uri : String) : List (String × String × Nat) :=
  (report.located ecosystem lines).flatMap (Entry.marks uri)

namespace Conversion

/-- The issue findings of the record of an entry are those that the entry calls for. -/
theorem map_issueFindings_record? (target : Target) (entry : Entry) :
    (entry.record?.toList.flatMap (issueFindings target)).map Finding.mark =
      ((entry.line? target.lines).map (entry, ·)).toList.flatMap (Entry.marks target.uri) := by
  cases hrecord : entry.record? with
  | none => rw [Entry.line?_eq_none hrecord]; rfl
  | some record =>
    rw [Entry.line?_of_record hrecord, Option.toList_some, List.flatMap_singleton, issueFindings]
    cases Declaration.line? record.origin.ecosystem record target.lines with
    | none => rfl
    | some line =>
      rw [Option.map_some, Option.toList_some, List.flatMap_singleton, Findings.map_ofIssues,
        Record.nearIssues_of_record hrecord, Entry.marks]

theorem map_issueFindings_records (target : Target) (image : Option String)
    (report : AnalysisReport) :
    ((report.records target.ecosystem image).flatMap (issueFindings target)).map Finding.mark =
      ((report.entries target.ecosystem image).filterMap fun entry =>
        (entry.line? target.lines).map (entry, ·)).flatMap (Entry.marks target.uri) := by
  rw [report.records_eq_filterMap_entries, List.filterMap_eq_flatMap_toList,
    List.filterMap_eq_flatMap_toList, List.flatMap_assoc, List.flatMap_assoc, List.map_flatMap]
  exact List.flatMap_congr fun entry _ => map_issueFindings_record? target entry

/-- The issue results of a conversion are the ones that the report calls for. -/
theorem issueResults_ofReport_perm (target : Target) (report : Report) :
    ((ofReport target report).document.issueResults.map Result.mark).Perm
      (report.issueMarks target.ecosystem target.lines target.uri) := by
  have hfindings : (ofReport target report).document.issueResults.map Result.mark =
      report.analyses.flatMap fun analysis =>
        ((ofAnalysis target analysis.1 analysis.2).findings.toList.filter Finding.isIssue).map
          Finding.mark := by
    rw [issueResults_document, toList_ofReport, List.filter_flatMap, List.map_map,
      List.map_flatMap]
    rfl
  have hmarks : report.issueMarks target.ecosystem target.lines target.uri =
      report.analyses.flatMap fun analysis =>
        ((analysis.2.records target.ecosystem analysis.1).flatMap (issueFindings target)).map
          Finding.mark := by
    rw [Report.issueMarks, Report.located, Report.entries, List.filterMap_flatMap,
      List.flatMap_assoc]
    exact List.flatMap_congr fun analysis _ =>
      (map_issueFindings_records target analysis.1 analysis.2).symm
  rw [hfindings, hmarks]
  exact List.Perm.flatMap_left _ fun analysis _ =>
    (filter_findings_ofAnalysis_perm target analysis.1 analysis.2).map _

end Conversion

/-- A report is converted against every manifest that can be read, every result has its rule, and no
issue is lost, invented or repeated: the results whose rule is no note are, as a multiset, one for
each issue of each located entry and of the entries with a reference right below it. -/
theorem issues_reported_exactly_once {disk : Disk} {manifest content : String}
    (hread : disk.read manifest = .ok content) (cwd : String) (ecosystem : Ecosystem)
    (report : Report) :
    ∃ conversion, Run.convert disk cwd manifest ecosystem report = .ok conversion ∧
      conversion.document.rules.length = conversion.document.results.length ∧
      (conversion.document.issueResults.map fun result =>
          (result.ruleId, result.uri, result.line)).Perm
        ((report.located ecosystem (Manifest.lines ecosystem content)).flatMap
          fun (entry, line) => entry.dependency.nearIssues.map fun issue =>
            (issue.id, Path.uri cwd manifest, line)) :=
  ⟨_, Run.convert_of_read hread cwd ecosystem report, Conversion.length_rules_document _ report,
    Conversion.issueResults_ofReport_perm _ report⟩

/-- Of six issues the sample reports the two that are on or right below a located entry of a
provider that could be asked. -/
theorem sample_reports_two_issues :
    ∃ conversion,
      Run.convert Sample.disk "/work" "requirements.txt" .pypi (.single Sample.analysis) =
        .ok conversion ∧
      (conversion.document.issueResults.map fun result =>
          (result.ruleId, result.uri, result.line)).Perm
        [("CVE-1", "requirements.txt", 2), ("CVE-2", "requirements.txt", 2)] := by
  have hread : Sample.disk.read "requirements.txt" = .ok Sample.content := by decide
  obtain ⟨conversion, hconvert, -, hissues⟩ :=
    issues_reported_exactly_once hread "/work" .pypi (.single Sample.analysis)
  exact ⟨conversion, hconvert, hissues⟩

end ManifestSarif
