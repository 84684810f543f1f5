import ManifestSarif.Proofs.CountedIssues

/-!
# Summaries that count every issue

The severity of a summary comes from its counts, the level of an issue from the word for its
severity.  Where the counts are the numbers of issues, the two scales agree, however the issues are
spread over summaries.

* `Issue.level` is the level of an issue on the scale of severities, and `Severity.IsWorstOf` says
  which of these levels is the greatest.
* `Summary.Tallies` says that the counts of a summary are the numbers of some issues;
  `Summary.ofIssues` counts them.
* `Summary.Tallies.severity_eq_worst`: the counts imply the worst level of the issues.
* `Summary.worst_of_tallies`: so do the counts of several summaries among which the issues are
  spread.
* `Conversion.rules_le_severity_of_tallies` is what this means for a document.
* `severity_scales_agree` is the result.
-/

namespace ManifestSarif

open Sarif

/-! ## The level of an issue among the severities -/

/-- The level of the issue, as a severity. -/
def Issue.level (issue : Issue) : Severity :=
  (Level.ofIssue issue.severity).severity

/-- Both scales have the same word for the level of an issue, since no issue has that of a note. -/
theorem Issue.name_level (issue : Issue) :
    issue.level.name = (Level.ofIssue issue.severity).name := by
  rw [level, Level.ofIssue]
  split_ifs <;> rfl

theorem Issue.error_le_level_iff {issue : Issue} :
    Severity.error ≤ issue.level ↔ issue.severity = "CRITICAL" ∨ issue.severity = "HIGH" := by
  rw [level, or_comm]
  rcases Level.ofIssue_cases issue.severity with
    ⟨hwarning, hlevel⟩ | ⟨herror, hlevel⟩ | ⟨-, herror, hlevel⟩
  · rw [hlevel]
    refine iff_of_false (by decide) ?_
    rcases hwarning with hword | hword <;> rw [hword] <;> decide
  · rw [hlevel]
    exact iff_of_true le_rfl herror
  · rw [hlevel]
    exact iff_of_false (by decide) herror

theorem Issue.warning_le_level_iff {issue : Issue} :
    Severity.warning ≤ issue.level ↔
      issue.severity = "CRITICAL" ∨ issue.severity = "HIGH" ∨
        issue.severity = "MEDIUM" ∨ issue.severity = "LOW" := by
  have hwords : issue.severity = "CRITICAL" ∨ issue.severity = "HIGH" ∨
      issue.severity = "MEDIUM" ∨ issue.severity = "LOW" ↔
      (issue.severity = "LOW" ∨ issue.severity = "MEDIUM") ∨
        (issue.severity = "HIGH" ∨ issue.severity = "CRITICAL") := by
    tauto
  rw [level, hwords]
  rcases Level.ofIssue_cases issue.severity with
    ⟨hwarning, hlevel⟩ | ⟨herror, hlevel⟩ | ⟨hwarning, herror, hlevel⟩
  · rw [hlevel]
    exact iff_of_true le_rfl (Or.inl hwarning)
  · rw [hlevel]
    exact iff_of_true (by decide) (Or.inr herror)
  · rw [hlevel]
    exact iff_of_false (by decide) (not_or.2 ⟨hwarning, herror⟩)

/-- The severity is the greatest level of the issues, and the best of all if there are none. -/
structure Severity.IsWorstOf (severity : Severity) (issues : List Issue) : Prop where
  eq_none : issues = [] → severity = .none
  isGreatest : issues ≠ [] → IsGreatest {level | ∃ issue ∈ issues, issue.level = level} severity

theorem Severity.isWorstOf_worst (issues : List Issue) :
    (worst (issues.map Issue.level)).IsWorstOf issues := by
  have hgreatest := isGreatest_worst (issues.map Issue.level)
  simp only [List.mem_map] at hgreatest
  constructor
  · intro hnil
    rw [hnil]
    exact worst_nil
  · intro hissues
    refine ⟨?_, fun level hlevel => hgreatest.2 (Or.inr hlevel)⟩
    rcases hgreatest.1 with hnone | hmem
    · -- Nothing is better than `none`, so any issue has this level.
      obtain ⟨issue, hissue⟩ := List.exists_mem_of_ne_nil issues hissues
      refine ⟨issue, hissue, le_antisymm ?_ ?_⟩
      · exact hgreatest.2 (Or.inr ⟨issue, hissue, rfl⟩)
      · rw [hnone]
        exact none_le _
    · exact hmem

theorem Severity.IsWorstOf.level_le {severity : Severity} {issues : List Issue}
    (h : severity.IsWorstOf issues) {issue : Issue} (hissue : issue ∈ issues) :
    issue.level ≤ severity :=
  (h.isGreatest (List.ne_nil_of_mem hissue)).2 ⟨issue, hissue, rfl⟩

/-! ## Counting issues -/

/-- How many of the issues have the severity. -/
def Issue.count (severity : String) (issues : List Issue) : Nat :=
  issues.countP fun issue => issue.severity = severity

theorem Issue.count_pos_iff {severity : String} {issues : List Issue} :
    0 < count severity issues ↔ ∃ issue ∈ issues, issue.severity = severity := by
  simp only [count, List.countP_pos_iff, decide_eq_true_eq]

namespace Summary

variable {summary : Summary} {issues : List Issue}

/-- The counts of the summary are the numbers of issues of the four severities; other issues are not
counted. -/
structure Tallies (summary : Summary) (issues : List Issue) : Prop where
  critical : summary.critical.toNat = Issue.count "CRITICAL" issues
  high : summary.high.toNat = Issue.count "HIGH" issues
  medium : summary.medium.toNat = Issue.count "MEDIUM" issues
  low : summary.low.toNat = Issue.count "LOW" issues

/-- The summary with the numbers of the issues, up to the width of the counts. -/
def ofIssues (issues : List Issue) : Summary where
  critical := .ofNat (Issue.count "CRITICAL" issues)
  high := .ofNat (Issue.count "HIGH" issues)
  medium := .ofNat (Issue.count "MEDIUM" issues)
  low := .ofNat (Issue.count "LOW" issues)

/-- Issues that are few enough for the width of the counts have a summary that counts them. -/
theorem tallies_ofIssues (h : issues.length < UInt64.size) : (ofIssues issues).Tallies issues := by
  have hcount (severity : String) :
      (UInt64.ofNat (Issue.count severity issues)).toNat = Issue.count severity issues :=
    UInt64.toNat_ofNat_of_lt' (Nat.lt_of_le_of_lt List.countP_le_length h)
  exact ⟨hcount _, hcount _, hcount _, hcount _⟩

theorem forall₂_tallies_map_ofIssues {parts : List (List Issue)}
    (h : ∀ part ∈ parts, part.length < UInt64.size) :
    List.Forall₂ Tallies (parts.map ofIssues) parts := by
  rw [List.forall₂_map_left_iff, List.forall₂_same]
  exact fun part hpart => tallies_ofIssues (h part hpart)

theorem pos_iff_of_toNat_eq {number : UInt64} {severity : String}
    (h : number.toNat = Issue.count severity issues) :
    0 < number ↔ ∃ issue ∈ issues, issue.severity = severity := by
  rw [UInt64.lt_iff_toNat_lt, h]
  exact Issue.count_pos_iff

namespace Tallies

/-- The counts imply a level exactly when one of the issues reaches it. -/
theorem le_severity_iff (h : summary.Tallies issues) {level : Severity} (hlevel : level ≠ .none) :
    level ≤ summary.severity ↔ ∃ issue ∈ issues, level ≤ issue.level := by
  have hcritical := pos_iff_of_toNat_eq h.critical
  have hhigh := pos_iff_of_toNat_eq h.high
  have hmedium := pos_iff_of_toNat_eq h.medium
  have hlow := pos_iff_of_toNat_eq h.low
  cases level with
  | none => exact absurd rfl hlevel
  | warning =>
    simp only [warning_le_severity_iff, Issue.warning_le_level_iff, hcritical, hhigh, hmedium, hlow,
      and_or_left, exists_or]
  | error =>
    simp only [error_le_severity_iff, Issue.error_le_level_iff, hcritical, hhigh, and_or_left,
      exists_or]

/-- The counts imply the worst level of the issues. -/
theorem severity_eq_worst (h : summary.Tallies issues) :
    summary.severity = Severity.worst (issues.map Issue.level) := by
  apply eq_of_forall_le_iff
  intro level
  by_cases hlevel : level = .none
  · -- The counts do not tell of this level, but nothing is better.
    rw [hlevel]
    exact iff_of_true (Severity.none_le _) (Severity.none_le _)
  · rw [h.le_severity_iff hlevel, Severity.le_worst_iff hlevel]
    simp only [List.mem_map, exists_exists_and_eq_and]

end Tallies

end Summary

/-! ## Issues that are spread over summaries -/

section Spread

variable {issues : List Issue} {parts : List (List Issue)} {summaries : List Summary}

theorem Summary.map_severity_of_tallies (h : List.Forall₂ Summary.Tallies summaries parts) :
    summaries.map Summary.severity =
      parts.map fun part => Severity.worst (part.map Issue.level) := by
  induction h with
  | nil => rfl
  | cons htallies _ ih => rw [List.map_cons, List.map_cons, htallies.severity_eq_worst, ih]

/-- The summaries of the parts imply the worst level of all issues, whatever the parts are and in
whatever order they come. -/
theorem Summary.worst_of_tallies (hparts : parts.flatten.Perm issues)
    (htallies : List.Forall₂ Summary.Tallies summaries parts) :
    Severity.worst (summaries.map Summary.severity) = Severity.worst (issues.map Issue.level) := by
  calc Severity.worst (summaries.map Summary.severity)
      = Severity.worst (parts.map fun part => Severity.worst (part.map Issue.level)) := by
        rw [map_severity_of_tallies htallies]
    _ = Severity.worst (parts.flatten.map Issue.level) := by
        rw [Severity.worst_map_worst, List.map_flatten, List.flatMap_def]
    _ = Severity.worst (issues.map Issue.level) :=
        Severity.worst_perm (hparts.map Issue.level)

namespace Conversion

variable {target : Target} {report : Report}

/-- The severity of a conversion is the worst level of the issues that the summaries count. -/
theorem isWorstOf_severity_of_tallies (hparts : parts.flatten.Perm issues)
    (htallies : List.Forall₂ Summary.Tallies report.summaries parts) :
    (ofReport target report).severity.IsWorstOf issues := by
  rw [severity_ofReport_eq_worst, Summary.worst_of_tallies hparts htallies]
  exact Severity.isWorstOf_worst issues

/-- Where the summaries count every issue that is reported, the severity is at least the level of
every rule. -/
theorem rules_le_severity_of_tallies (hparts : parts.flatten.Perm issues)
    (htallies : List.Forall₂ Summary.Tallies report.summaries parts)
    (hreported : ∀ located ∈ report.located target.ecosystem target.lines,
      located.1.dependency.nearIssues ⊆ issues)
    {rule : Rule} (hrule : rule ∈ (ofReport target report).document.rules) :
    rule.level.severity ≤ (ofReport target report).severity := by
  rcases level_of_mem_rules hrule with hnote | ⟨located, hlocated, issue, hissue, hlevel⟩
  · rw [hnote]
    exact Severity.none_le _
  · rw [hlevel]
    have hworst : (ofReport target report).severity.IsWorstOf issues :=
      isWorstOf_severity_of_tallies hparts htallies
    exact hworst.level_le (hreported located hlocated hissue)

end Conversion

end Spread

/-- The level of an issue has one word on both scales.  A summary that counts the issues of a list
has their greatest level, or the best level of all for no issue, and the fold over summaries that
each count a part of the issues has it too, for every way to part them and in every order.  So has
the conversion of a report with these summaries, and where all reported issues are among those that
are counted, no rule of its document has a greater level. -/
theorem severity_scales_agree (issues : List Issue) :
    (∀ issue ∈ issues, issue.level.name = (Level.ofIssue issue.severity).name) ∧
    (∀ summary : Summary, summary.Tallies issues → summary.severity.IsWorstOf issues) ∧
    (∀ (parts : List (List Issue)) (summaries : List Summary), parts.flatten.Perm issues →
      List.Forall₂ Summary.Tallies summaries parts →
      (Severity.worst (summaries.map Summary.severity)).IsWorstOf issues) ∧
    ∀ (target : Conversion.Target) (report : Report) (parts : List (List Issue)),
      parts.flatten.Perm issues → List.Forall₂ Summary.Tallies report.summaries parts →
      (Conversion.ofReport target report).severity.IsWorstOf issues ∧
      ((∀ located ∈ report.located target.ecosystem target.lines,
          located.1.dependency.nearIssues ⊆ issues) →
        ∀ rule ∈ (Conversion.ofReport target report).document.rules,
          rule.level.severity ≤ (Conversion.ofReport target report).severity) := by
  refine ⟨fun issue _ => issue.name_level, ?_, ?_, ?_⟩
  · intro summary htallies
    rw [htallies.severity_eq_worst]
    exact Severity.isWorstOf_worst issues
  · intro parts summaries hparts htallies
    rw [Summary.worst_of_tallies hparts htallies]
    exact Severity.isWorstOf_worst issues
  · intro target report parts hparts htallies
    refine ⟨Conversion.isWorstOf_severity_of_tallies hparts htallies, ?_⟩
    intro hreported rule hrule
    exact Conversion.rules_le_severity_of_tallies hparts htallies hreported hrule

namespace Sample

def issueOf (severity : String) : Issue := ⟨"CVE-1", "", severity, none, none, none⟩

/-- Issues of three severities that are counted, and of two words that are not. -/
def gradedIssues : List Issue := ["LOW", "UNKNOWN", "HIGH", "critical", "MEDIUM"].map issueOf

/-- The same issues in another order, in four parts: one is empty, and of one no issue is
counted. -/
def gradedParts : List (List Issue) :=
  [["MEDIUM", "HIGH"].map issueOf, [], ["critical", "UNKNOWN"].map issueOf, ["LOW"].map issueOf]

/-- A source that reports the issues against one dependency and counts them. -/
def gradedSource (issues : List Issue) : Source :=
  ⟨some (.ofIssues issues), some [dependency (some "pkg:pypi/flask@2.0.0") issues []]⟩

/-- A report of four sources, one for each of the parts. -/
def gradedReport : Report :=
  .single ⟨some (KeyMap.ofList [("rhda", ⟨some ⟨some true⟩, some (KeyMap.ofList
    (["csaf", "ghsa", "nvd", "osv"].zip (gradedParts.map gradedSource)))⟩)])⟩

def flaskTarget : Conversion.Target := ⟨.pypi, ["flask==2.0.0"], "requirements.txt"⟩

end Sample

/-- The issue of high severity decides, for the summary of the whole list, for those of its parts
and for a report with these, and its rule is among the worst of the document. -/
theorem sample_graded_issues_are_errors :
    Summary.ofIssues Sample.gradedIssues = ⟨0, 1, 1, 1⟩ ∧
    (Summary.ofIssues Sample.gradedIssues).Tallies Sample.gradedIssues ∧
    Sample.gradedParts.flatten.Perm Sample.gradedIssues ∧
    List.Forall₂ Summary.Tallies (Sample.gradedParts.map Summary.ofIssues) Sample.gradedParts ∧
    Severity.error.IsWorstOf Sample.gradedIssues ∧
    (Summary.ofIssues Sample.gradedIssues).severity = .error ∧
    Severity.worst ((Sample.gradedParts.map Summary.ofIssues).map Summary.severity) = .error ∧
    Sample.gradedReport.summaries = Sample.gradedParts.map Summary.ofIssues ∧
    (∃ rule ∈ (Conversion.ofReport Sample.flaskTarget Sample.gradedReport).document.rules,
      rule.level = .error) ∧
    ∀ rule ∈ (Conversion.ofReport Sample.flaskTarget Sample.gradedReport).document.rules,
      rule.level.severity ≤
        (Conversion.ofReport Sample.flaskTarget Sample.gradedReport).severity := by
  have htallies : (Summary.ofIssues Sample.gradedIssues).Tallies Sample.gradedIssues :=
    Summary.tallies_ofIssues (by decide)
  have hparts : Sample.gradedParts.flatten.Perm Sample.gradedIssues := by decide
  have hspread : List.Forall₂ Summary.Tallies (Sample.gradedParts.map Summary.ofIssues)
      Sample.gradedParts :=
    Summary.forall₂_tallies_map_ofIssues (by decide)
  obtain ⟨-, hwhole, hfold, hreports⟩ := severity_scales_agree Sample.gradedIssues
  have hgreatest := (hwhole _ htallies).isGreatest (by decide)
  have hgreatest' := (hfold _ _ hparts hspread).isGreatest (by decide)
  have herror : (Summary.ofIssues Sample.gradedIssues).severity = .error := by decide
  have hsummaries : Sample.gradedReport.summaries = Sample.gradedParts.map Summary.ofIssues := by
    decide +kernel
  have hrule : ∃ rule ∈
      (Conversion.ofReport Sample.flaskTarget Sample.gradedReport).document.rules,
      rule.level = .error := by
    decide +kernel
  have hlocated : ∀ located ∈ Sample.gradedReport.located .pypi Sample.flaskTarget.lines,
      located.1.dependency.nearIssues ⊆ Sample.gradedIssues := by
    decide +kernel
  refine ⟨by decide, htallies, hparts, hspread, ?_, herror, ?_, hsummaries, hrule, ?_⟩
  · rw [← herror]
    exact hwhole _ htallies
  · rw [← herror]
    exact hgreatest'.unique hgreatest
  · rw [← hsummaries] at hspread
    exact (hreports Sample.flaskTarget _ _ hparts hspread).2 hlocated

end ManifestSarif
