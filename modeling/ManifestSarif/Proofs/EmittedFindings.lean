import ManifestSarif.Proofs.AlignedFindings
import ManifestSarif.Proofs.Grouping

/-!
# What every finding has in common

Findings come out of loops over groups, records and issues.  This file traces a finding back to the
entry that it is about, and reads off what holds of all of them.

* `Findings.exists_issue_of_mem` and `Findings.exists_version_of_mem` trace a finding back to an
  issue of a record or of one right below it, or to the version that the record recommends.
* `mem_findings_ofReport`: a finding is one of those of the record of an entry, at a line that
  declares the entry.
* `Finding.Anchored` is the invariant: rule and result have one identifier, the place is a line of
  the manifest, and what is recommended is not empty.
* `anchored_of_mem_findings`: all findings of a conversion are anchored.
-/

namespace ManifestSarif

open Sarif

/-! ## Where findings come from -/

namespace Sarif.Findings

variable {place : Place} {record : Record} {finding : Finding}

/-- The finding of an issue is about the record or about one right below it. -/
theorem exists_issue_of_mem (h : finding ∈ (ofIssues place record).toList) :
    ∃ other ∈ record :: record.directTransitives, ∃ direct, ∃ issue ∈ other.ownIssues,
      finding = .ofIssue place (directRef record) other direct issue := by
  rw [toList_ofIssues] at h
  rcases List.mem_append.1 h with h | h
  · obtain ⟨issue, hissue, rfl⟩ := List.mem_map.1 h
    exact ⟨record, List.mem_cons_self, true, issue, hissue, rfl⟩
  · obtain ⟨transitive, htransitive, h⟩ := List.mem_flatMap.1 h
    obtain ⟨issue, hissue, rfl⟩ := List.mem_map.1 h
    exact ⟨transitive, List.mem_cons_of_mem _ htransitive, false, issue, hissue, rfl⟩

theorem exists_version_of_mem (h : finding ∈ (ofRecommendation place record).toList) :
    ∃ version, record.recommendation = some version ∧
      finding = .ofRecommendation place version record.origin.image.isSome := by
  rw [toList_ofRecommendation, Option.mem_toList] at h
  obtain ⟨version, hversion, rfl⟩ := Option.map_eq_some_iff.1 h
  exact ⟨version, hversion, rfl⟩

end Sarif.Findings

/-- The issues of the record of an entry and of those right below it are the ones near the entry. -/
theorem Entry.mem_nearIssues {entry : Entry} {record other : Record}
    (h : entry.record? = some record) (hother : other ∈ record :: record.directTransitives)
    {issue : Issue} (hissue : issue ∈ other.ownIssues) : issue ∈ entry.dependency.nearIssues := by
  rw [← Record.nearIssues_of_record h, ← List.flatMap_cons]
  exact List.mem_flatMap.2 ⟨other, hother, hissue⟩

namespace Conversion

theorem mem_findings_ofAnalysis {target : Target} {image : Option String}
    {report : AnalysisReport} {finding : Finding}
    (h : finding ∈ (ofAnalysis target image report).findings.toList) :
    ∃ group, ∃ record ∈ report.records target.ecosystem image,
      finding ∈ (findingsOf target group record).toList := by
  rw [toList_ofAnalysis] at h
  obtain ⟨group, hgroup, h⟩ := List.mem_flatMap.1 h
  obtain ⟨record, hrecord, h⟩ := List.mem_flatMap.1 h
  have hall : record ∈
      Group.allRecords (Group.collect (report.records target.ecosystem image)) :=
    List.mem_flatMap.2 ⟨group, hgroup, hrecord⟩
  exact ⟨group, record, (Group.collect_perm _).mem_iff.1 hall, h⟩

/-- A finding of a conversion is one of those of the record of an entry, at a line that declares the
entry. -/
theorem mem_findings_ofReport {target : Target} {report : Report} {finding : Finding}
    (h : finding ∈ (ofReport target report).findings.toList) :
    ∃ entry ∈ report.entries target.ecosystem, ∃ record line hasIssues,
      entry.record? = some record ∧ entry.line? target.lines = some line ∧
        finding ∈ (Findings.ofRecord ⟨target.uri, line⟩ hasIssues record).toList := by
  rw [toList_ofReport] at h
  obtain ⟨⟨image, analysis⟩, hanalysis, h⟩ := List.mem_flatMap.1 h
  obtain ⟨group, record, hmem, h⟩ := mem_findings_ofAnalysis h
  rw [analysis.records_eq_filterMap_entries] at hmem
  obtain ⟨entry, hentry, hrecord⟩ := List.mem_filterMap.1 hmem
  have hentries : entry ∈ report.entries target.ecosystem :=
    List.mem_flatMap.2 ⟨_, hanalysis, hentry⟩
  rw [findingsOf] at h
  cases hline : Declaration.line? record.origin.ecosystem record target.lines with
  | none =>
    rw [hline] at h
    cases h
  | some line =>
    rw [hline] at h
    rw [← Entry.line?_of_record hrecord] at hline
    exact ⟨entry, hentries, record, line, group.hasIssues, hrecord, hline, h⟩

end Conversion

/-! ## The invariant -/

/-- What holds of every finding against the manifest with this address. -/
structure Sarif.Finding.Anchored (uri : String) (finding : Finding) : Prop where
  rule_id : finding.rule.id = finding.result.ruleId
  uri_eq : finding.result.uri = uri
  one_le_line : 1 ≤ finding.result.line
  recommended_ne_empty : finding.rule.level = .note → finding.result.ruleId ≠ ""

/-- No issue has the level of a recommendation. -/
theorem Sarif.Level.ofIssue_ne_note (severity : String) : Level.ofIssue severity ≠ .note := by
  unfold ofIssue
  by_cases hwarning : severity = "LOW" ∨ severity = "MEDIUM"
  · rw [if_pos hwarning]
    decide
  · rw [if_neg hwarning]
    by_cases herror : severity = "HIGH" ∨ severity = "CRITICAL"
    · rw [if_pos herror]
      decide
    · rw [if_neg herror]
      decide

theorem Declaration.one_le_of_line? {ecosystem : Ecosystem} {record : Record}
    {lines : List String} {line : Nat} (h : line? ecosystem record lines = some line) :
    1 ≤ line := by
  obtain ⟨position, _, rfl⟩ := Option.map_eq_some_iff.1 h
  have hoffset : 1 ≤ offset ecosystem := by
    cases ecosystem <;> decide
  omega

theorem Entry.one_le_of_line? {entry : Entry} {lines : List String} {line : Nat}
    (h : entry.line? lines = some line) : 1 ≤ line := by
  cases hrecord : entry.record? with
  | none =>
    rw [line?_eq_none hrecord] at h
    cases h
  | some record =>
    rw [line?_of_record hrecord] at h
    exact Declaration.one_le_of_line? h

theorem Record.ne_empty_of_recommendation {origin : Origin} {dependency : Dependency}
    {record : Record} (h : ofDependency? origin dependency = some record) {version : String}
    (hversion : record.recommendation = some version) : version ≠ "" := by
  obtain ⟨ref, _, _, rfl⟩ := ofDependency?_eq_some_iff.1 h
  change recommendedVersion? dependency.issues dependency.recommendation = some version at hversion
  unfold recommendedVersion? at hversion
  cases hissues : someIssues? dependency.issues with
  | some issues =>
    rw [hissues] at hversion
    cases hversion
  | none =>
    rw [hissues] at hversion
    have hfilter := (Option.filter_eq_some_iff.1 hversion).2
    simpa using hfilter

/-- The findings of a record are anchored where the record is. -/
theorem Sarif.Findings.anchored_of_mem_ofRecord {place : Place} {hasIssues : Bool}
    {record : Record} (hline : 1 ≤ place.line)
    (hrecommended : ∀ version, record.recommendation = some version → version ≠ "")
    {finding : Finding} (h : finding ∈ (ofRecord place hasIssues record).toList) :
    finding.Anchored place.uri := by
  cases hasIssues with
  | true =>
    obtain ⟨other, -, direct, issue, -, rfl⟩ := exists_issue_of_mem h
    exact ⟨rfl, rfl, hline, fun hnote => absurd hnote (Level.ofIssue_ne_note issue.severity)⟩
  | false =>
    obtain ⟨version, hversion, rfl⟩ := exists_version_of_mem h
    exact ⟨rfl, rfl, hline, fun _ => hrecommended version hversion⟩

/-- All findings of a conversion are anchored in the manifest. -/
theorem Conversion.anchored_of_mem_findings {target : Target} {report : Report}
    {finding : Finding} (h : finding ∈ (ofReport target report).findings.toList) :
    finding.Anchored target.uri := by
  obtain ⟨entry, _, record, line, hasIssues, hrecord, hline, h⟩ := mem_findings_ofReport h
  apply Findings.anchored_of_mem_ofRecord (Entry.one_le_of_line? hline) _ h
  intro version hversion
  exact Record.ne_empty_of_recommendation hrecord hversion

end ManifestSarif
