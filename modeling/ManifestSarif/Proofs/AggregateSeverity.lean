import ManifestSarif.Proofs.Entries
import ManifestSarif.Proofs.KeyMapEntries
import ManifestSarif.Proofs.WorstSeverity

/-!
# The severity of a conversion

The severity of a conversion is the worst level that the summaries of a report imply, whatever the
report says about dependencies and whatever the manifest declares.

* `Report.summaries` lists the summaries that count; `severity_ofReport_eq_worst` is the fold over
  them.
* `Report.withoutDependencies` keeps only what counts.
* `Report.Gains` is the addition of a source, a provider or an image; `Gains.summaries_subset` says
  that nothing that counts is lost by it.
* `severity_is_worst_of_summaries` is the result.
-/

namespace ManifestSarif

/-! ## Summaries -/

/-- The summaries of the sources of a provider that could be asked; no others count. -/
def Provider.summaries (provider : Provider) : List Summary :=
  if provider.status.bind (·.ok) = some true then
    provider.sourceList.flatMap fun source => source.2.summary.toList
  else []

/-- The summaries of all providers, in the order of the report. -/
def AnalysisReport.summaries (report : AnalysisReport) : List Summary :=
  report.providerList.flatMap fun provider => provider.2.summaries

/-- The levels that the summaries of an analysis imply, in the order in which they are taken up. -/
def AnalysisReport.levels (report : AnalysisReport) : List Severity :=
  report.summaries.map Summary.severity

def Report.summaries (report : Report) : List Summary :=
  report.analyses.flatMap fun (_, analysis) => analysis.summaries

@[simp]
theorem Report.summaries_single (report : AnalysisReport) :
    (single report).summaries = report.summaries :=
  List.append_nil _

@[simp]
theorem Report.summaries_images (reports : KeyMap AnalysisReport) :
    (images reports).summaries = reports.toList.flatMap fun image => image.2.summaries := by
  rw [summaries, analyses, List.flatMap_map]

theorem AnalysisReport.severity_eq_worst (report : AnalysisReport) :
    report.severity = Severity.worst report.levels := by
  rw [severity, levels, summaries, List.filterMap_eq_flatMap_toList, flatMap_sources,
    List.map_flatMap]
  refine congrArg _ (List.flatMap_congr fun provider _ => ?_)
  by_cases hok : provider.2.status.bind (·.ok) = some true
  · rw [Provider.summaries, if_pos hok, if_pos hok, List.map_flatMap]
    refine List.flatMap_congr fun source _ => ?_
    show (source.2.summary.map Summary.severity).toList = _
    cases source.2.summary <;> rfl
  · rw [Provider.summaries, if_neg hok, if_neg hok, List.map_nil]

/-- The severity of a conversion is a fold over the summaries that count. -/
theorem Conversion.severity_ofReport_eq_worst (target : Target) (report : Report) :
    (ofReport target report).severity =
      Severity.worst (report.summaries.map Summary.severity) := by
  rw [severity_ofReport, Report.summaries, List.map_flatMap, ← Severity.worst_map_worst]
  refine congrArg _ (List.map_congr_left fun analysis _ => ?_)
  exact analysis.2.severity_eq_worst

/-! ## Reports that differ in dependencies -/

def Source.withoutDependencies (source : Source) : Source :=
  { source with dependencies := none }

/-- The provider with the dependencies of all sources left out. -/
def Provider.withoutDependencies (provider : Provider) : Provider :=
  { provider with sources := provider.sources.map (KeyMap.map Source.withoutDependencies) }

/-- The analysis with all dependencies, and so all issues, left out. -/
def AnalysisReport.withoutDependencies (report : AnalysisReport) : AnalysisReport :=
  ⟨report.providers.map (KeyMap.map Provider.withoutDependencies)⟩

/-- The report with all dependencies, and so all issues, left out. -/
def Report.withoutDependencies : Report → Report
  | .single report => .single report.withoutDependencies
  | .images reports => .images (reports.map AnalysisReport.withoutDependencies)

theorem Provider.sourceList_withoutDependencies (provider : Provider) :
    provider.withoutDependencies.sourceList =
      provider.sourceList.map fun source => (source.1, source.2.withoutDependencies) := by
  rw [sourceList, sourceList, withoutDependencies]
  cases provider.sources <;> rfl

theorem AnalysisReport.providerList_withoutDependencies (report : AnalysisReport) :
    report.withoutDependencies.providerList =
      report.providerList.map fun provider => (provider.1, provider.2.withoutDependencies) := by
  rw [providerList, providerList, withoutDependencies]
  cases report.providers <;> rfl

theorem Provider.summaries_withoutDependencies (provider : Provider) :
    provider.withoutDependencies.summaries = provider.summaries := by
  rw [summaries, summaries, sourceList_withoutDependencies, List.flatMap_map]
  rfl

theorem AnalysisReport.summaries_withoutDependencies (report : AnalysisReport) :
    report.withoutDependencies.summaries = report.summaries := by
  rw [summaries, summaries, providerList_withoutDependencies, List.flatMap_map]
  exact List.flatMap_congr fun provider _ => provider.2.summaries_withoutDependencies

theorem Report.summaries_withoutDependencies (report : Report) :
    report.withoutDependencies.summaries = report.summaries := by
  cases report with
  | single report =>
    rw [withoutDependencies, summaries_single, summaries_single,
      report.summaries_withoutDependencies]
  | images reports =>
    rw [withoutDependencies, summaries_images, summaries_images, KeyMap.toList_map,
      List.flatMap_map]
    exact List.flatMap_congr fun image _ => image.2.summaries_withoutDependencies

/-! ## Reports that gain something -/

/-- A provider gains a source of a new name. -/
inductive Provider.Gains : Provider → Provider → Prop where
  | source {provider : Provider} {name : String} (source : Source)
      (hnew : ∀ entry ∈ provider.sourceList, entry.1 ≠ name) :
      Gains provider
        { provider with sources := some ((provider.sources.getD .empty).insert name source) }

/-- An analysis gains a provider of a new name, or one of its providers gains something. -/
inductive AnalysisReport.Gains : AnalysisReport → AnalysisReport → Prop where
  | provider {report : AnalysisReport} {name : String} (provider : Provider)
      (hnew : ∀ entry ∈ report.providerList, entry.1 ≠ name) :
      Gains report ⟨some ((report.providers.getD .empty).insert name provider)⟩
  | within {report : AnalysisReport} {name : String} {provider more : Provider}
      (hmem : (name, provider) ∈ report.providerList) (hgains : provider.Gains more) :
      Gains report ⟨some ((report.providers.getD .empty).insert name more)⟩

/-- A report gains an image of a new name, or one of its analyses gains something. -/
inductive Report.Gains : Report → Report → Prop where
  | image {reports : KeyMap AnalysisReport} {name : String} (analysis : AnalysisReport)
      (hnew : ∀ entry ∈ reports.toList, entry.1 ≠ name) :
      Gains (.images reports) (.images (reports.insert name analysis))
  | withinImage {reports : KeyMap AnalysisReport} {name : String}
      {analysis more : AnalysisReport} (hmem : (name, analysis) ∈ reports.toList)
      (hgains : analysis.Gains more) :
      Gains (.images reports) (.images (reports.insert name more))
  | withinSingle {analysis more : AnalysisReport} (hgains : analysis.Gains more) :
      Gains (.single analysis) (.single more)

/-- What is listed for the entries of a map stays listed when an entry is added, and when the value
of an entry is replaced by one that lists as much. -/
theorem KeyMap.flatMap_insert_subset {α β : Type} {m : KeyMap α} {key : String} {value : α}
    {f : String × α → List β}
    (h : ∀ entry ∈ m.toList, entry.1 = key → f entry ⊆ f (key, value)) :
    m.toList.flatMap f ⊆ (m.insert key value).toList.flatMap f := by
  intro x hx
  obtain ⟨entry, hmem, hx⟩ := List.mem_flatMap.1 hx
  by_cases hkey : entry.1 = key
  · exact List.mem_flatMap.2 ⟨_, mem_insert_iff.2 (Or.inl rfl), h entry hmem hkey hx⟩
  · exact List.mem_flatMap.2 ⟨entry, mem_insert_iff.2 (Or.inr ⟨hmem, hkey⟩), hx⟩

theorem Provider.sourceList_getD (provider : Provider) :
    (provider.sources.getD .empty).toList = provider.sourceList := by
  rw [sourceList]
  cases provider.sources <;> rfl

theorem AnalysisReport.providerList_getD (report : AnalysisReport) :
    (report.providers.getD .empty).toList = report.providerList := by
  rw [providerList]
  cases report.providers <;> rfl

theorem Provider.Gains.summaries_subset {provider more : Provider} (h : provider.Gains more) :
    provider.summaries ⊆ more.summaries := by
  cases h with
  | @source name source hnew =>
    rw [summaries, summaries]
    by_cases hok : provider.status.bind (·.ok) = some true
    · rw [if_pos hok, if_pos hok, ← sourceList_getD]
      apply KeyMap.flatMap_insert_subset
      intro entry hmem hname
      rw [sourceList_getD] at hmem
      exact absurd hname (hnew entry hmem)
    · rw [if_neg hok]
      exact List.nil_subset _

theorem AnalysisReport.Gains.summaries_subset {report more : AnalysisReport}
    (h : report.Gains more) : report.summaries ⊆ more.summaries := by
  rw [summaries, summaries, ← providerList_getD]
  cases h with
  | @provider name provider hnew =>
    apply KeyMap.flatMap_insert_subset
    intro entry hmem hname
    rw [providerList_getD] at hmem
    exact absurd hname (hnew entry hmem)
  | @within name provider more hold hgains =>
    apply KeyMap.flatMap_insert_subset
    intro entry hmem hname
    rw [← providerList_getD] at hold
    -- The entry of this name is the one that gained something, since a name occurs once.
    obtain rfl := KeyMap.eq_of_mem_of_key_eq hmem hold hname
    exact hgains.summaries_subset

/-- Whatever a report gains, it loses no summary. -/
theorem Report.Gains.summaries_subset {report more : Report} (h : report.Gains more) :
    report.summaries ⊆ more.summaries := by
  cases h with
  | @image reports name analysis hnew =>
    rw [summaries_images, summaries_images]
    apply KeyMap.flatMap_insert_subset
    intro entry hmem hname
    exact absurd hname (hnew entry hmem)
  | @withinImage reports name analysis more hold hgains =>
    rw [summaries_images, summaries_images]
    apply KeyMap.flatMap_insert_subset
    intro entry hmem hname
    obtain rfl := KeyMap.eq_of_mem_of_key_eq hmem hold hname
    exact hgains.summaries_subset
  | withinSingle hgains =>
    rw [summaries_single, summaries_single]
    exact hgains.summaries_subset

/-! ## The severity of every conversion -/

theorem Run.ofReport_of_convert {disk : Disk} {cwd manifest : String} {ecosystem : Ecosystem}
    {report : Report} {conversion : Conversion}
    (h : convert disk cwd manifest ecosystem report = .ok conversion) :
    ∃ target, Conversion.ofReport target report = conversion := by
  cases hread : disk.read manifest with
  | ok content =>
    rw [convert_of_read hread] at h
    exact ⟨_, Except.ok.inj h⟩
  | error error =>
    rw [convert, manifestLines, hread] at h
    cases h

/-- Neither the manifest nor the ecosystem has a say in the severity. -/
theorem Run.severity_of_convert {disk : Disk} {cwd manifest : String} {ecosystem : Ecosystem}
    {report : Report} {conversion : Conversion}
    (h : convert disk cwd manifest ecosystem report = .ok conversion) :
    conversion.severity = Severity.worst (report.summaries.map Summary.severity) := by
  obtain ⟨target, rfl⟩ := ofReport_of_convert h
  exact Conversion.severity_ofReport_eq_worst target report

/-- A report is converted against every manifest that can be read, and the severity is the worst
level that a summary of a provider that could be asked implies.  It is the same for every other
manifest and for every report that differs in dependencies only, and it is no better for a report
that gained something.  The fold over the summaries of an analysis never falls on its way to the
severity of the analysis, nor does the fold over the analyses on its way to the severity of the
conversion. -/
theorem severity_is_worst_of_summaries {disk : Disk} {manifest content : String}
    (hread : disk.read manifest = .ok content) (cwd : String) (ecosystem : Ecosystem)
    (report : Report) :
    ∃ conversion,
      Run.convert disk cwd manifest ecosystem report = .ok conversion ∧
      IsGreatest
        {level | level = .none ∨ ∃ summary ∈ report.summaries, summary.severity = level}
        conversion.severity ∧
      (∀ disk' cwd' manifest' ecosystem' report' conversion',
        Run.convert disk' cwd' manifest' ecosystem' report' = .ok conversion' →
          (report'.withoutDependencies = report.withoutDependencies →
            conversion'.severity = conversion.severity) ∧
          (report.Gains report' → conversion.severity ≤ conversion'.severity)) ∧
      (∀ analysis ∈ report.analyses,
        (Severity.running analysis.2.levels).Pairwise (· ≤ ·) ∧
        (Severity.running analysis.2.levels).getLast? = some analysis.2.severity) ∧
      (Severity.running (report.analyses.map (·.2.severity))).Pairwise (· ≤ ·) ∧
      (Severity.running (report.analyses.map (·.2.severity))).getLast? =
        some conversion.severity := by
  have hconvert := Run.convert_of_read hread cwd ecosystem report
  have hseverity := Run.severity_of_convert hconvert
  refine ⟨_, hconvert, ?_, ?_, ?_, Severity.running_pairwise_le _, ?_⟩
  · rw [hseverity]
    have hgreatest := Severity.isGreatest_worst (report.summaries.map Summary.severity)
    simp only [List.mem_map] at hgreatest
    exact hgreatest
  · intro disk' cwd' manifest' ecosystem' report' conversion' hconvert'
    rw [hseverity, Run.severity_of_convert hconvert']
    constructor
    · intro hsame
      rw [← report'.summaries_withoutDependencies, hsame, report.summaries_withoutDependencies]
    · intro hgains
      apply Severity.worst_mono
      exact List.map_subset _ hgains.summaries_subset
  · intro analysis _
    refine ⟨Severity.running_pairwise_le _, ?_⟩
    rw [Severity.running_getLast?, analysis.2.severity_eq_worst]
  · rw [Severity.running_getLast?, Conversion.severity_ofReport]

/-- One source of the sample tells of an issue of medium severity, and the failed provider does not
count.  A provider more makes nothing better. -/
theorem sample_severity_is_warning :
    ∃ conversion conversion',
      Run.convert Sample.disk "/work" "requirements.txt" .pypi (.single Sample.analysis) =
        .ok conversion ∧
      conversion.severity = .warning ∧
      Run.convert Sample.disk "/work" "requirements.txt" .pypi (.single Sample.analysisOfMore) =
        .ok conversion' ∧
      conversion.severity ≤ conversion'.severity := by
  have hread : Sample.disk.read "requirements.txt" = .ok Sample.content := by decide
  obtain ⟨conversion, hconvert, hgreatest, hothers, -⟩ :=
    severity_is_worst_of_summaries hread "/work" .pypi (.single Sample.analysis)
  have hconvert' := Run.convert_of_read hread "/work" .pypi (.single Sample.analysisOfMore)
  have hsummaries : (Report.single Sample.analysis).summaries = [⟨0, 0, 1, 0⟩] := by decide
  have hnew : ∀ entry ∈ Sample.analysis.providerList, entry.1 ≠ "trusted" := by decide
  refine ⟨conversion, _, hconvert, hgreatest.unique ?_, hconvert', ?_⟩
  · rw [hsummaries]
    refine ⟨Or.inr ⟨_, List.mem_singleton_self _, rfl⟩, ?_⟩
    intro level hlevel
    rcases hlevel with rfl | ⟨summary, hsummary, rfl⟩
    · exact Severity.none_le _
    · rw [List.mem_singleton.1 hsummary]
      decide
  · exact (hothers _ _ _ _ _ _ hconvert').2 (.withinSingle (.provider _ hnew))

end ManifestSarif
