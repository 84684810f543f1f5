import ManifestSarif.Proofs.AggregateSeverity
import ManifestSarif.Proofs.Delivery
import ManifestSarif.Proofs.ReportedIssues

/-!
# When the severity covers the findings

The levels of rules come from the severities of issues, the severity of a conversion from the counts
of summaries.  A report may list issues and count none of them.

* `level_of_mem_rules` says which levels the rules of a conversion have.
* `Report.Counted` says that the counts cover the issues that are reported.
* `rules_le_severity_iff`: this is exactly when no rule is worse than the severity.
* `severity_covers_rules_iff_counted` is the result, with what it means for the exit code of a run.
* `uncounted_issue_passes_strict_run` is a run for which it is not so.
-/

namespace ManifestSarif

open Sarif

/-- The severity that a level stands for; notes are no sign of a vulnerability. -/
def Sarif.Level.severity : Level → Severity
  | none => .none
  | note => .none
  | warning => .warning
  | error => .error

/-! ## Levels of issues and of summaries -/

theorem Sarif.Level.ofIssue_cases (severity : String) :
    ((severity = "LOW" ∨ severity = "MEDIUM") ∧ (ofIssue severity).severity = .warning) ∨
      ((severity = "HIGH" ∨ severity = "CRITICAL") ∧ (ofIssue severity).severity = .error) ∨
      (¬(severity = "LOW" ∨ severity = "MEDIUM") ∧ ¬(severity = "HIGH" ∨ severity = "CRITICAL") ∧
        (ofIssue severity).severity = .none) := by
  rw [ofIssue]
  by_cases hwarning : severity = "LOW" ∨ severity = "MEDIUM"
  · rw [if_pos hwarning]
    exact Or.inl ⟨hwarning, rfl⟩
  · rw [if_neg hwarning]
    by_cases herror : severity = "HIGH" ∨ severity = "CRITICAL"
    · rw [if_pos herror]
      exact Or.inr (Or.inl ⟨herror, rfl⟩)
    · rw [if_neg herror]
      exact Or.inr (Or.inr ⟨hwarning, herror, rfl⟩)

namespace Summary

theorem error_le_severity_iff {summary : Summary} :
    Severity.error ≤ summary.severity ↔ 0 < summary.critical ∨ 0 < summary.high := by
  rw [severity]
  by_cases herror : summary.critical > 0 ∨ summary.high > 0
  · rw [if_pos herror]
    exact iff_of_true le_rfl herror
  · rw [if_neg herror]
    refine iff_of_false ?_ herror
    split <;> decide

theorem warning_le_severity_iff {summary : Summary} :
    Severity.warning ≤ summary.severity ↔
      0 < summary.critical ∨ 0 < summary.high ∨ 0 < summary.medium ∨ 0 < summary.low := by
  rw [severity, ← or_assoc]
  by_cases herror : summary.critical > 0 ∨ summary.high > 0
  · rw [if_pos herror]
    exact iff_of_true (by decide) (Or.inl herror)
  · rw [if_neg herror]
    by_cases hwarning : summary.medium > 0 ∨ summary.low > 0
    · rw [if_pos hwarning]
      exact iff_of_true le_rfl (Or.inr hwarning)
    · rw [if_neg hwarning]
      exact iff_of_false (by decide) (not_or.2 ⟨herror, hwarning⟩)

end Summary

/-- A level other than the best one is reached only by one of the levels of the fold. -/
theorem Severity.le_worst_iff {level : Severity} {levels : List Severity} (h : level ≠ none) :
    level ≤ worst levels ↔ ∃ other ∈ levels, level ≤ other := by
  constructor
  · intro hle
    rcases worst_eq_none_or_mem levels with hnone | hmem
    · rw [hnone] at hle
      exact absurd (le_antisymm hle (none_le level)) h
    · exact ⟨_, hmem, hle⟩
  · intro hex
    obtain ⟨other, hmem, hle⟩ := hex
    exact hle.trans (le_worst hmem)

theorem Severity.error_le_iff {level : Severity} : error ≤ level ↔ level = error := by
  cases level <;> decide

/-! ## Levels of rules -/

namespace Conversion

variable {target : Target} {report : Report}

/-- Every issue of a located entry has a rule of its level in the document. -/
theorem exists_rule_of_issue {located : Entry × Nat}
    (hlocated : located ∈ report.located target.ecosystem target.lines) {issue : Issue}
    (hissue : issue ∈ located.1.dependency.nearIssues) :
    ∃ rule ∈ (ofReport target report).document.rules,
      rule.level = Level.ofIssue issue.severity := by
  obtain ⟨entry, hentry, hmapped⟩ := List.mem_filterMap.1 hlocated
  obtain ⟨line, hline, rfl⟩ := Option.map_eq_some_iff.1 hmapped
  obtain ⟨⟨image, analysis⟩, hanalysis, hentry⟩ := List.mem_flatMap.1 hentry
  cases hrecord : entry.record? with
  | none =>
    rw [Entry.line?_eq_none hrecord] at hline
    cases hline
  | some record =>
    rw [Entry.line?_of_record hrecord] at hline
    rw [← Record.nearIssues_of_record hrecord] at hissue
    have hfinding : ∃ finding ∈ issueFindings target record,
        finding.rule.level = Level.ofIssue issue.severity := by
      rw [issueFindings, hline]
      simp only [Findings.toList_ofIssues]
      rcases List.mem_append.1 hissue with hown | hbelow
      · exact ⟨_, List.mem_append_left _ (List.mem_map_of_mem hown), rfl⟩
      · obtain ⟨transitive, htransitive, hbelow⟩ := List.mem_flatMap.1 hbelow
        exact ⟨_, List.mem_append_right _
          (List.mem_flatMap.2 ⟨transitive, htransitive, List.mem_map_of_mem hbelow⟩), rfl⟩
    obtain ⟨finding, hfinding, hlevel⟩ := hfinding
    have hrecords : record ∈ analysis.records target.ecosystem image := by
      rw [analysis.records_eq_filterMap_entries]
      exact List.mem_filterMap.2 ⟨entry, hentry, hrecord⟩
    have hall := (filter_findings_ofAnalysis_perm target image analysis).mem_iff.2
      (List.mem_flatMap.2 ⟨record, hrecords, hfinding⟩)
    refine ⟨finding.rule, ?_, hlevel⟩
    rw [rules_document, toList_ofReport]
    apply List.mem_map_of_mem
    exact List.mem_flatMap.2 ⟨_, hanalysis, (List.mem_filter.1 hall).1⟩

/-- A rule is a note, or it has the level of an issue of a located entry. -/
theorem level_of_mem_rules {rule : Rule} (h : rule ∈ (ofReport target report).document.rules) :
    rule.level = .note ∨
      ∃ located ∈ report.located target.ecosystem target.lines,
        ∃ issue ∈ located.1.dependency.nearIssues,
          rule.level = Level.ofIssue issue.severity := by
  rw [rules_document] at h
  obtain ⟨finding, hfinding, rfl⟩ := List.mem_map.1 h
  obtain ⟨entry, hentry, record, line, hasIssues, hrecord, hline, hmem⟩ :=
    mem_findings_ofReport hfinding
  have hlocated : (entry, line) ∈ report.located target.ecosystem target.lines :=
    List.mem_filterMap.2 ⟨entry, hentry, by rw [hline]; rfl⟩
  cases hasIssues with
  | true =>
    right
    obtain ⟨other, hother, _, issue, hissue, rfl⟩ := Findings.exists_issue_of_mem hmem
    exact ⟨(entry, line), hlocated, issue, Entry.mem_nearIssues hrecord hother hissue, rfl⟩
  | false =>
    left
    obtain ⟨version, -, rfl⟩ := Findings.exists_version_of_mem hmem
    rfl

end Conversion

/-! ## Counts that cover the issues -/

/-- Where a reported issue has the level of an error, some summary that counts has a critical or
high issue, and where it has the level of a warning, some summary has an issue at all. -/
def Report.Counted (report : Report) (ecosystem : Ecosystem) (lines : List String) : Prop :=
  ∀ located ∈ report.located ecosystem lines, ∀ issue ∈ located.1.dependency.nearIssues,
    (issue.severity = "HIGH" ∨ issue.severity = "CRITICAL" →
      ∃ summary ∈ report.summaries, 0 < summary.critical ∨ 0 < summary.high) ∧
    (issue.severity = "LOW" ∨ issue.severity = "MEDIUM" →
      ∃ summary ∈ report.summaries,
        0 < summary.critical ∨ 0 < summary.high ∨ 0 < summary.medium ∨ 0 < summary.low)

namespace Conversion

variable {target : Target} {report : Report}

/-- The level of an issue is reached exactly when a summary counts an issue as bad. -/
theorem ofIssue_le_severity_iff (severity : String) :
    (Level.ofIssue severity).severity ≤ (ofReport target report).severity ↔
      (severity = "HIGH" ∨ severity = "CRITICAL" →
        ∃ summary ∈ report.summaries, 0 < summary.critical ∨ 0 < summary.high) ∧
      (severity = "LOW" ∨ severity = "MEDIUM" →
        ∃ summary ∈ report.summaries,
          0 < summary.critical ∨ 0 < summary.high ∨ 0 < summary.medium ∨ 0 < summary.low) := by
  have hreached : ∀ level : Severity, level ≠ .none →
      (level ≤ (ofReport target report).severity ↔
        ∃ summary ∈ report.summaries, level ≤ summary.severity) := by
    intro level hlevel
    rw [severity_ofReport_eq_worst, Severity.le_worst_iff hlevel]
    simp
  rcases Level.ofIssue_cases severity with
    ⟨hwarning, hlevel⟩ | ⟨herror, hlevel⟩ | ⟨hwarning, herror, hlevel⟩
  · have hother : ¬(severity = "HIGH" ∨ severity = "CRITICAL") := by
      rcases hwarning with rfl | rfl <;> decide
    rw [hlevel, hreached _ (by decide)]
    simp only [Summary.warning_le_severity_iff, hwarning, hother, false_imp_iff, true_imp_iff,
      true_and]
  · have hother : ¬(severity = "LOW" ∨ severity = "MEDIUM") := by
      rcases herror with rfl | rfl <;> decide
    rw [hlevel, hreached _ (by decide)]
    simp only [Summary.error_le_severity_iff, herror, hother, false_imp_iff, true_imp_iff,
      and_true]
  · rw [hlevel]
    exact iff_of_true (Severity.none_le _)
      ⟨fun h => absurd h herror, fun h => absurd h hwarning⟩

/-- No rule is worse than the severity exactly when the counts cover the reported issues. -/
theorem rules_le_severity_iff :
    (∀ rule ∈ (ofReport target report).document.rules,
        rule.level.severity ≤ (ofReport target report).severity) ↔
      report.Counted target.ecosystem target.lines := by
  constructor
  · intro h located hlocated issue hissue
    obtain ⟨rule, hrule, hlevel⟩ := exists_rule_of_issue hlocated hissue
    have hle := h rule hrule
    rw [hlevel] at hle
    exact (ofIssue_le_severity_iff issue.severity).1 hle
  · intro h rule hrule
    rcases level_of_mem_rules hrule with hnote | ⟨located, hlocated, issue, hissue, hlevel⟩
    · rw [hnote]
      exact Severity.none_le _
    · rw [hlevel]
      exact (ofIssue_le_severity_iff issue.severity).2 (h located hlocated issue hissue)

end Conversion

/-! ## Exit codes -/

namespace Run

/-- Where the counts cover the issues, the policy sees every error of the document. -/
theorem code_of_counted {world : World} {options : Options} {manifest content : String}
    {ecosystem : Ecosystem} {report : Report} {code : Nat}
    (hread : world.disk.read manifest = .ok content)
    (hmanifest : chooseManifest world.disk options.manifest = .ok manifest)
    (hecosystem : chooseEcosystem options.ecosystem manifest = .ok ecosystem)
    (hreport : loadReport world.disk options.report ecosystem = .ok report)
    (hpolicy : options.failOn = .error)
    (hcounted : report.Counted ecosystem (Manifest.lines ecosystem content))
    (hresult : (perform world options).result = .ok code) :
    ∃ conversion, (perform world options).Delivered world.disk options.output conversion ∧
      ((∃ rule ∈ conversion.document.rules, rule.level = .error) → code = 2) := by
  obtain ⟨conversion, hconverts, hdelivered, hcode⟩ := delivered_of_result hresult
  have hconvert := (converts_iff_of_report hmanifest hecosystem hreport).1 hconverts
  rw [convert_of_read hread] at hconvert
  have hrules : ∀ rule ∈ conversion.document.rules, rule.level.severity ≤ conversion.severity := by
    rw [← Except.ok.inj hconvert]
    exact Conversion.rules_le_severity_iff.2 hcounted
  refine ⟨conversion, hdelivered, ?_⟩
  intro hrule
  obtain ⟨rule, hrule, hlevel⟩ := hrule
  have hle := hrules rule hrule
  rw [hlevel] at hle
  rw [hcode, exitCode, hpolicy, Severity.error_le_iff.1 hle]
  rfl

end Run

/-- A report is converted against every manifest that can be read.  The severity of the conversion
is at least the level of every rule in its document exactly when the counts of the report cover the
issues that are reported.  If they do, a run that is to fail on errors and returns a code returns 2
for a document with a rule of level error. -/
theorem severity_covers_rules_iff_counted {world : Run.World} {manifest content : String}
    (hread : world.disk.read manifest = .ok content) (cwd : String) (ecosystem : Ecosystem)
    (report : Report) :
    (∃ conversion, Run.convert world.disk cwd manifest ecosystem report = .ok conversion ∧
      ((∀ rule ∈ conversion.document.rules, rule.level.severity ≤ conversion.severity) ↔
        report.Counted ecosystem (Manifest.lines ecosystem content))) ∧
    ∀ options code,
      Run.chooseManifest world.disk options.manifest = .ok manifest →
      Run.chooseEcosystem options.ecosystem manifest = .ok ecosystem →
      Run.loadReport world.disk options.report ecosystem = .ok report →
      options.failOn = .error →
      report.Counted ecosystem (Manifest.lines ecosystem content) →
      (Run.perform world options).result = .ok code →
        ∃ conversion,
          (Run.perform world options).Delivered world.disk options.output conversion ∧
          ((∃ rule ∈ conversion.document.rules, rule.level = .error) → code = 2) := by
  constructor
  · exact ⟨_, Run.convert_of_read hread cwd ecosystem report, Conversion.rules_le_severity_iff⟩
  · intro options code hmanifest hecosystem hreport hpolicy hcounted hresult
    exact Run.code_of_counted hread hmanifest hecosystem hreport hpolicy hcounted hresult

/-! ## A sample -/

instance (report : Report) (ecosystem : Ecosystem) (lines : List String) :
    Decidable (report.Counted ecosystem lines) :=
  inferInstanceAs (Decidable (∀ located ∈ _, ∀ issue ∈ _, _))

namespace Sample

/-- A report of one issue of high severity; its source has the members `summary` first. -/
def lodashText (summary : String) : String :=
  "\x7b\"providers\":\x7b\"rhda\":\x7b\"status\":\x7b\"ok\":true\x7d,\"sources\":\x7b\"osv\":\x7b" ++
    summary ++ "\"dependencies\":[\x7b\"ref\":\"pkg:npm/lodash@4.17.20\",\"issues\":[\x7b" ++
    "\"id\":\"CVE-1\",\"severity\":\"HIGH\"\x7d]\x7d]\x7d\x7d\x7d\x7d\x7d"

def package : String := "\x7b\"dependencies\":\x7b\"lodash\":\"4.17.20\"\x7d\x7d"

def lodashTarget : Conversion.Target :=
  ⟨.npm, Manifest.lines .npm package, Path.uri "/work" "./package.json"⟩

def lodashDisk (summary : String) : Disk where
  cwd := ["work"]
  nodes := [(["work"], .directory), (["work", "package.json"], .file (some package)),
    (["work", "report.json"], .file (some (lodashText summary)))]

/-- Options that find the manifest in the working directory and fail on errors. -/
def strictOptions : Options := ⟨"report.json", none, none, none, .error⟩

theorem read_package (summary : String) : (lodashDisk summary).read "./package.json" = .ok package :=
  rfl

theorem loadReport_lodash (summary : String) :
    Run.loadReport (lodashDisk summary) "report.json" .npm =
      (Report.ofText .npm (lodashText summary)).mapError (.malformedReport "report.json") :=
  rfl

theorem converts_lodash {summary : String} {report : Report}
    (h : Report.ofText .npm (lodashText summary) = .ok report) :
    Run.Converts ⟨lodashDisk summary, none⟩ strictOptions
      (Conversion.ofReport lodashTarget report) := by
  have hload : Run.loadReport (lodashDisk summary) "report.json" .npm = .ok report := by
    rw [loadReport_lodash, h]
    rfl
  have hcwd : Disk.pathText (lodashDisk summary).cwd = "/work" := rfl
  have hconvert := Run.convert_of_read (read_package summary) "/work" .npm report
  rw [← hcwd] at hconvert
  exact ⟨"./package.json", .npm, report, rfl, rfl, hload, hconvert⟩

theorem deliverable_lodash (summary : String) (conversion : Conversion) :
    Run.Deliverable ⟨lodashDisk summary, none⟩ strictOptions conversion :=
  ⟨fun h => (Bool.false_ne_true h).elim, trivial⟩

end Sample

/-- The issue of the sample is counted, so its run fails by the policy. -/
theorem sample_counted_issue_fails_strict_run :
    ∃ report,
      Report.ofText .npm (Sample.lodashText "\"summary\":\x7b\"high\":1\x7d,") = .ok report ∧
      report.Counted .npm (Manifest.lines .npm Sample.package) ∧
      (∃ conversion,
        Run.convert (Sample.lodashDisk "\"summary\":\x7b\"high\":1\x7d,") "/work" "./package.json"
          .npm report = .ok conversion ∧
        ∀ rule ∈ conversion.document.rules, rule.level.severity ≤ conversion.severity) ∧
      ∃ code, (Run.perform ⟨Sample.lodashDisk "\"summary\":\x7b\"high\":1\x7d,", none⟩
          Sample.strictOptions).result = .ok code ∧
        ∃ conversion, (Run.perform ⟨Sample.lodashDisk "\"summary\":\x7b\"high\":1\x7d,", none⟩
            Sample.strictOptions).Delivered
            (Sample.lodashDisk "\"summary\":\x7b\"high\":1\x7d,") none conversion ∧
          ((∃ rule ∈ conversion.document.rules, rule.level = .error) → code = 2) := by
  generalize hsummary : "\"summary\":\x7b\"high\":1\x7d," = summary
  have hcounted : (Report.ofText .npm (Sample.lodashText summary)).toOption.any (fun report =>
      decide (report.Counted .npm (Manifest.lines .npm Sample.package))) = true := by
    rw [← hsummary]
    decide +kernel
  cases hreport : Report.ofText .npm (Sample.lodashText summary) with
  | error failure =>
    rw [hreport] at hcounted
    cases hcounted
  | ok report =>
    rw [hreport] at hcounted
    have hcovers : report.Counted .npm (Manifest.lines .npm Sample.package) :=
      of_decide_eq_true hcounted
    have hload : Run.loadReport (Sample.lodashDisk summary) "report.json" .npm = .ok report := by
      rw [Sample.loadReport_lodash, hreport]
      rfl
    have hresult := Run.result_of_converts (Sample.converts_lodash hreport)
      (Sample.deliverable_lodash summary _)
    have hread : (Run.World.mk (Sample.lodashDisk summary) none).disk.read "./package.json" =
        .ok Sample.package := Sample.read_package summary
    obtain ⟨⟨conversion, hconvert, hiff⟩, hruns⟩ :=
      severity_covers_rules_iff_counted hread "/work" .npm report
    exact ⟨report, rfl, hcovers, ⟨conversion, hconvert, hiff.2 hcovers⟩, _, hresult,
      hruns Sample.strictOptions _ rfl rfl hload rfl hcovers hresult⟩

/-- Without a summary the issue counts for nothing: its rule has the level of an error, and the run
that is to fail on errors returns 0. -/
theorem uncounted_issue_passes_strict_run :
    ∃ report conversion, Report.ofText .npm (Sample.lodashText "") = .ok report ∧
      Run.convert (Sample.lodashDisk "") "/work" "./package.json" .npm report = .ok conversion ∧
      (∃ rule ∈ conversion.document.rules, rule.level = .error) ∧
      conversion.severity = .none ∧
      Run.Converts ⟨Sample.lodashDisk "", none⟩ Sample.strictOptions conversion ∧
      Sample.strictOptions.failOn = .error ∧
      (Run.perform ⟨Sample.lodashDisk "", none⟩ Sample.strictOptions).result = .ok 0 := by
  have hunderstated : (Report.ofText .npm (Sample.lodashText "")).toOption.any (fun report =>
      decide ((∃ rule ∈ (Conversion.ofReport Sample.lodashTarget report).document.rules,
          rule.level = .error) ∧
        (Conversion.ofReport Sample.lodashTarget report).severity = .none)) = true := by
    decide +kernel
  cases hreport : Report.ofText .npm (Sample.lodashText "") with
  | error failure =>
    rw [hreport] at hunderstated
    cases hunderstated
  | ok report =>
    rw [hreport] at hunderstated
    obtain ⟨hrule, hseverity⟩ := of_decide_eq_true hunderstated
    have hconverts := Sample.converts_lodash hreport
    have hresult := Run.result_of_converts hconverts (Sample.deliverable_lodash "" _)
    rw [hseverity] at hresult
    exact ⟨report, _, rfl, Run.convert_of_read (Sample.read_package "") _ _ _, hrule, hseverity,
      hconverts, rfl, hresult⟩

end ManifestSarif
