import ManifestSarif.Proofs.AggregateSeverity

/-!
# Providers that failed have no say

What a provider tells counts only if its status is ok.  Two reports that have the same providers of
this kind are converted alike, whatever the other providers are called and tell.

* `AnalysisReport.SameSucceeded` and `Report.SameSucceeded` say that two reports differ in providers
  that failed only.
* `sources_eq_of_sameSucceeded`: such reports have the same sources in the same order, and
  everything else is made from these.
* `failed_providers_leave_no_trace` is the result, together with what is said about the providers
  that failed.
-/

namespace ManifestSarif

/-! ## Reports with the same providers of status ok -/

/-- A provider whose status is ok is in both analyses, with the same contents, or in neither. -/
def AnalysisReport.SameSucceeded (left right : AnalysisReport) : Prop :=
  ∀ name (provider : Provider), provider.status.bind (·.ok) = some true →
    ((name, provider) ∈ left.providerList ↔ (name, provider) ∈ right.providerList)

/-- The reports have the same images, if they are about images, and differ in providers that failed
only. -/
inductive Report.SameSucceeded : Report → Report → Prop where
  | single {left right : AnalysisReport} (h : left.SameSucceeded right) :
      SameSucceeded (.single left) (.single right)
  | images {left right : KeyMap AnalysisReport}
      (h : List.Forall₂ (fun image other => image.1 = other.1 ∧ image.2.SameSucceeded other.2)
        left.toList right.toList) :
      SameSucceeded (.images left) (.images right)

namespace AnalysisReport

variable {left right : AnalysisReport}

theorem SameSucceeded.trans {other : AnalysisReport} (h : left.SameSucceeded right)
    (h' : right.SameSucceeded other) : left.SameSucceeded other :=
  fun name provider hok => (h name provider hok).trans (h' name provider hok)

/-- A provider that failed can come in, also in the place of another one that failed. -/
theorem sameSucceeded_insert {report : AnalysisReport} {name : String} {provider : Provider}
    (hfailed : provider.status.bind (·.ok) ≠ some true)
    (hplace : ∀ entry ∈ report.providerList, entry.1 = name →
      entry.2.status.bind (·.ok) ≠ some true) :
    report.SameSucceeded ⟨some ((report.providers.getD .empty).insert name provider)⟩ := by
  intro other otherProvider hok
  show _ ↔ (other, otherProvider) ∈ ((report.providers.getD .empty).insert name provider).toList
  rw [KeyMap.mem_insert_iff, providerList_getD]
  constructor
  · intro hmem
    have hname : other ≠ name := fun hname => hplace _ hmem hname hok
    exact Or.inr ⟨hmem, hname⟩
  · intro hmem
    rcases hmem with hnew | ⟨hmem, -⟩
    · cases hnew
      exact absurd hok hfailed
    · exact hmem

/-- Failed providers take no place among the sources, wherever their names stand in the order. -/
theorem sources_eq_of_sameSucceeded (h : left.SameSucceeded right) :
    left.sources = right.sources := by
  have hproviders : left.providerList.filter (fun provider => provider.2.succeeded) =
      right.providerList.filter fun provider => provider.2.succeeded := by
    rw [← providerList_getD, ← providerList_getD]
    apply KeyMap.filter_toList_eq
    intro provider hok
    rw [providerList_getD, providerList_getD]
    exact h provider.1 provider.2 (provider.2.succeeded_iff.1 hok)
  have hsources : ∀ report : AnalysisReport, report.sources =
      (report.providerList.filter fun provider => provider.2.succeeded).flatMap fun provider =>
        provider.2.sourceList.map fun source => (provider.1, source.1, source.2) :=
    fun _ => rfl
  rw [hsources, hsources, hproviders]

theorem severity_eq_of_sameSucceeded (h : left.SameSucceeded right) :
    left.severity = right.severity := by
  rw [severity, severity, sources_eq_of_sameSucceeded h]

end AnalysisReport

namespace Conversion

theorem findings_ofAnalysis_eq_of_sameSucceeded {left right : AnalysisReport}
    (h : left.SameSucceeded right) (target : Target) (image : Option String) :
    (ofAnalysis target image left).findings = (ofAnalysis target image right).findings := by
  have hrecords : left.records target.ecosystem image = right.records target.ecosystem image := by
    rw [AnalysisReport.records, AnalysisReport.records,
      AnalysisReport.sources_eq_of_sameSucceeded h]
  simp only [ofAnalysis, Flattening.ofReport, hrecords]

end Conversion

/-- The analyses of the two reports are about the same images, one by one, and have the same
providers of status ok. -/
theorem Report.forall₂_analyses_of_sameSucceeded {left right : Report}
    (h : left.SameSucceeded right) :
    List.Forall₂ (fun analysis other => analysis.1 = other.1 ∧ analysis.2.SameSucceeded other.2)
      left.analyses right.analyses := by
  cases h with
  | single h => exact .cons ⟨rfl, h⟩ .nil
  | images h =>
    rw [analyses, analyses, List.forall₂_map_left_iff, List.forall₂_map_right_iff]
    exact h.imp fun image other hsame => ⟨congrArg some hsame.1, hsame.2⟩

private theorem map_eq_of_forall₂ {α β : Type} {R : α → α → Prop} {f : α → β} {left right : List α}
    (h : List.Forall₂ R left right) (hf : ∀ a b, R a b → f a = f b) :
    left.map f = right.map f := by
  rw [← List.forall₂_eq_eq_eq, List.forall₂_map_left_iff, List.forall₂_map_right_iff]
  exact h.imp hf

namespace Conversion

/-- What a conversion delivers is made from the sources of the analyses. -/
theorem ofReport_eq_of_sameSucceeded {left right : Report} (h : left.SameSucceeded right)
    (target : Target) :
    (ofReport target left).findings = (ofReport target right).findings ∧
      (ofReport target left).severity = (ofReport target right).severity := by
  rw [findings_ofReport, findings_ofReport, severity_ofReport, severity_ofReport]
  have hanalyses := Report.forall₂_analyses_of_sameSucceeded h
  constructor
  · refine congrArg Sarif.Findings.concat
      (map_eq_of_forall₂ hanalyses fun analysis other hsame => ?_)
    show (ofAnalysis target analysis.1 analysis.2).findings = (ofAnalysis target _ _).findings
    rw [hsame.1]
    exact findings_ofAnalysis_eq_of_sameSucceeded hsame.2 target other.1
  · refine congrArg Severity.worst (map_eq_of_forall₂ hanalyses fun analysis other hsame => ?_)
    exact AnalysisReport.severity_eq_of_sameSucceeded hsame.2

end Conversion

/-! ## The providers that failed -/

theorem AnalysisReport.ascending_providerList (report : AnalysisReport) :
    report.providerList.Pairwise fun a b => a.1 < b.1 := by
  rw [← providerList_getD]
  exact (report.providers.getD .empty).ascending

theorem AnalysisReport.ascending_failedProviders (report : AnalysisReport) :
    report.failedProviders.Pairwise (· < ·) := by
  rw [failedProviders, List.pairwise_map]
  exact report.ascending_providerList.filter _

theorem AnalysisReport.mem_failedProviders_iff {report : AnalysisReport} {name : String} :
    name ∈ report.failedProviders ↔
      ∃ provider, (name, provider) ∈ report.providerList ∧
        provider.status.bind (·.ok) ≠ some true := by
  have hfailed : ∀ provider : Provider,
      (!provider.succeeded) = true ↔ provider.status.bind (·.ok) ≠ some true := by
    intro provider
    rw [Bool.not_eq_true', ← Bool.not_eq_true, ne_eq, provider.succeeded_iff]
  simp only [failedProviders, List.mem_map, List.mem_filter, hfailed, Prod.exists,
    exists_and_right, exists_eq_right]

/-! ## The result -/

/-- Reports that differ in failed providers only are converted to the same document with the same
severity, or both not converted.  The failed providers of an analysis are the ones whose status is
not ok, each once and in the order of their names. -/
theorem failed_providers_leave_no_trace {left right : Report} (h : left.SameSucceeded right) :
    (∀ disk cwd manifest ecosystem,
      (Run.convert disk cwd manifest ecosystem left).map
          (fun conversion => (conversion.document, conversion.severity)) =
        (Run.convert disk cwd manifest ecosystem right).map
          fun conversion => (conversion.document, conversion.severity)) ∧
    ∀ (analysis : AnalysisReport) ecosystem image,
      (Flattening.ofReport analysis ecosystem image).failedProviders.Pairwise (· < ·) ∧
      ∀ name, name ∈ (Flattening.ofReport analysis ecosystem image).failedProviders ↔
        ∃ provider, (name, provider) ∈ analysis.providerList ∧
          provider.status.bind (·.ok) ≠ some true := by
  refine ⟨Run.map_convert_eq (Conversion.ofReport_eq_of_sameSucceeded h), ?_⟩
  intro analysis ecosystem image
  exact ⟨analysis.ascending_failedProviders, fun _ => AnalysisReport.mem_failedProviders_iff⟩

namespace Sample

/-- The sample analysis with other providers that failed, before and behind the one that did not. -/
def analysisOfOthers : AnalysisReport where
  providers := some (((analysis.providers.getD .empty).insert
    "failed" ⟨some ⟨some false⟩, none⟩).insert
    "trusted" ⟨some ⟨none⟩, some (KeyMap.ofList [("osv", ⟨some ⟨1, 0, 0, 0⟩, some [requests]⟩)])⟩)

theorem sameSucceeded_analysisOfOthers : analysis.SameSucceeded analysisOfOthers := by
  have hfailed : analysis.SameSucceeded
      ⟨some ((analysis.providers.getD .empty).insert "failed" ⟨some ⟨some false⟩, none⟩)⟩ :=
    AnalysisReport.sameSucceeded_insert (by decide) (by decide)
  exact hfailed.trans (AnalysisReport.sameSucceeded_insert (by decide) (by decide))

end Sample

/-- The failed providers of the two samples differ and tell of issues, yet the documents are
equal. -/
theorem sample_converts_alike_without_failed :
    Sample.analysis.failedProviders = ["failed"] ∧
      Sample.analysisOfOthers.failedProviders = ["failed", "trusted"] ∧
      ∃ conversion conversion',
        Run.convert Sample.disk "/work" "requirements.txt" .pypi (.single Sample.analysis) =
          .ok conversion ∧
        Run.convert Sample.disk "/work" "requirements.txt" .pypi
          (.single Sample.analysisOfOthers) = .ok conversion' ∧
        conversion.document.results.length = 3 ∧
        conversion'.document = conversion.document ∧
        conversion'.severity = conversion.severity := by
  have hread : Sample.disk.read "requirements.txt" = .ok Sample.content := by decide
  have hsame := (failed_providers_leave_no_trace
    (.single Sample.sameSucceeded_analysisOfOthers)).1 Sample.disk "/work" "requirements.txt" .pypi
  rw [Run.convert_of_read hread, Run.convert_of_read hread] at hsame
  simp only [Except.map, Except.ok.injEq, Prod.mk.injEq] at hsame
  refine ⟨by decide, by decide, _, _, Run.convert_of_read hread _ _ _,
    Run.convert_of_read hread _ _ _, by decide, hsame.1.symm, hsame.2.symm⟩

end ManifestSarif
