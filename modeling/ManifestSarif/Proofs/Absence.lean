import ManifestSarif.Proofs.AggregateSeverity
import ManifestSarif.Proofs.ShownRecords
import Mathlib.Logic.Relation

/-!
# Ways to tell that something is absent

A report can leave a part out, or give an empty one in its place, and a conversion makes no
difference between the two.

* `Issue.Respells` to `Report.Respells` tell one absence in another way, at one place.  Places nest:
  a dependency may stand at any depth below others (`Dependency.ListRespells`).
* `Source.Respells.keeps` to `Report.Respells.keeps`: neither the records as they are shown nor the
  level of the summaries change with it.
* `absent_and_empty_convert_alike` is the result, for any number of such changes.
-/

namespace ManifestSarif

/-! ## One absence told in another way -/

inductive Issue.Respells : Issue → Issue → Prop where
  | cves {issue : Issue} :
      Respells { issue with cves := none } { issue with cves := some [] }
  | cvss {issue : Issue} :
      Respells { issue with cvss := none } { issue with cvss := some ⟨none⟩ }
  | remediation {issue : Issue} :
      Respells { issue with remediation := none } { issue with remediation := some ⟨none⟩ }

/-- An absence on a dependency itself. -/
inductive Dependency.Respells : Dependency → Dependency → Prop where
  | issues {dependency : Dependency} :
      Respells { dependency with issues := none } { dependency with issues := some [] }
  | issue {dependency : Dependency} {before after : List Issue} {issue other : Issue}
      (h : issue.Respells other) :
      Respells { dependency with issues := some (before ++ issue :: after) }
        { dependency with issues := some (before ++ other :: after) }
  | transitive {dependency : Dependency} :
      Respells { dependency with transitive := none } { dependency with transitive := some [] }
  | recommendation {dependency : Dependency} {ref : String} (h : PackageRef.version ref = "") :
      Respells { dependency with recommendation := none }
        { dependency with recommendation := some ref }

/-- An absence in a list of dependencies, at any depth below them. -/
inductive Dependency.ListRespells : List Dependency → List Dependency → Prop where
  | unreferenced (before after : List Dependency) {dependency : Dependency}
      (h : dependency.ref = none ∨ dependency.ref = some "") :
      ListRespells (before ++ dependency :: after) (before ++ after)
  | entry (before after : List Dependency) {dependency other : Dependency}
      (h : dependency.Respells other) :
      ListRespells (before ++ dependency :: after) (before ++ other :: after)
  | nested (before after : List Dependency) {transitive others : List Dependency}
      {dependency : Dependency} (h : ListRespells transitive others) :
      ListRespells (before ++ { dependency with transitive := some transitive } :: after)
        (before ++ { dependency with transitive := some others } :: after)

inductive Source.Respells : Source → Source → Prop where
  | summary {source : Source} :
      Respells { source with summary := none } { source with summary := some ⟨0, 0, 0, 0⟩ }
  | dependencies {source : Source} :
      Respells { source with dependencies := none } { source with dependencies := some [] }
  | within {source : Source} {dependencies others : List Dependency}
      (h : Dependency.ListRespells dependencies others) :
      Respells { source with dependencies := some dependencies }
        { source with dependencies := some others }

/-- The maps have the same keys, and the same values but for one key, whose values are related. -/
inductive KeyMap.AtOneKey {α : Type} (r : α → α → Prop) : KeyMap α → KeyMap α → Prop where
  | mk {m n : KeyMap α} (before after : List (String × α)) {key : String} {a b : α}
      (hm : m.toList = before ++ (key, a) :: after) (hn : n.toList = before ++ (key, b) :: after)
      (h : r a b) : AtOneKey r m n

inductive Provider.Respells : Provider → Provider → Prop where
  | status {provider : Provider} :
      Respells { provider with status := none } { provider with status := some ⟨none⟩ }
  | notOk {provider : Provider} :
      Respells { provider with status := none } { provider with status := some ⟨some false⟩ }
  | sources {provider : Provider} :
      Respells { provider with sources := none } { provider with sources := some .empty }
  | within {provider : Provider} {sources others : KeyMap Source}
      (h : KeyMap.AtOneKey Source.Respells sources others) :
      Respells { provider with sources := some sources } { provider with sources := some others }

inductive AnalysisReport.Respells : AnalysisReport → AnalysisReport → Prop where
  | providers : Respells ⟨none⟩ ⟨some .empty⟩
  | within {providers others : KeyMap Provider}
      (h : KeyMap.AtOneKey Provider.Respells providers others) :
      Respells ⟨some providers⟩ ⟨some others⟩

inductive Report.Respells : Report → Report → Prop where
  | single {report other : AnalysisReport} (h : report.Respells other) :
      Respells (.single report) (.single other)
  | images {reports others : KeyMap AnalysisReport}
      (h : KeyMap.AtOneKey AnalysisReport.Respells reports others) :
      Respells (.images reports) (.images others)

/-- What is gathered from the entries of the maps is the same if the values of the one key give the
same. -/
theorem KeyMap.AtOneKey.map_eq {α β : Type} {r : α → α → Prop} {m n : KeyMap α}
    (h : AtOneKey r m n) {f : String × α → β} (hf : ∀ key a b, r a b → f (key, a) = f (key, b)) :
    m.toList.map f = n.toList.map f := by
  cases h with
  | mk before after hm hn h =>
    rw [hm, hn, List.map_append, List.map_append, List.map_cons, List.map_cons, hf _ _ _ h]

/-! ## Dependencies -/

theorem Issue.Respells.plain_eq {issue other : Issue} (h : issue.Respells other) :
    issue.plain = other.plain := by
  cases h <;> rfl

namespace Record

/-- What is shown of the record of a dependency is read off the lists of the dependency. -/
theorem map_shown_ofDependency? (origin : Origin) (dependency : Dependency) :
    (ofDependency? origin dependency).map shown =
      (dependency.ref.filter fun ref => !ref.isEmpty).map fun ref =>
        { origin
          ref
          coordinates := PackageRef.coordinates ref
          issues := some (dependency.issueList.map Issue.plain)
          transitives := some
            ((dependency.transitiveList.filterMap (ofDependency? origin)).map shallow)
          recommendation :=
            recommendedVersion? dependency.issues dependency.recommendation } := by
  obtain ⟨ref, issues, transitive, recommendation⟩ := dependency
  rw [ofDependency?, ofTransitive_eq_map]
  cases ref.filter fun ref => !ref.isEmpty with
  | none => rfl
  | some ref =>
    have hissues : (someIssues? issues).getD [] = issues.getD [] := someIssues?_getD issues
    have htransitives : (transitive.map (·.filterMap (ofDependency? origin))).getD [] =
        (transitive.getD []).filterMap (ofDependency? origin) := by
      cases transitive <;> rfl
    simp only [Option.map_some, shown, ownIssues, directTransitives, hissues, htransitives,
      Dependency.issueList, Dependency.transitiveList]

/-- Only the presence of issues has a say in what is recommended. -/
theorem recommendedVersion?_eq_none {issues : List Issue} (h : issues ≠ [])
    (recommendation : Option String) : recommendedVersion? (some issues) recommendation = none := by
  have hkept : someIssues? (some issues) = some issues := by
    simp [someIssues?, h]
  rw [recommendedVersion?, hkept]

theorem recommendedVersion?_eq_of_version_eq_empty {ref : String} (h : PackageRef.version ref = "")
    (issues : Option (List Issue)) :
    recommendedVersion? issues none = recommendedVersion? issues (some ref) := by
  rw [recommendedVersion?, recommendedVersion?]
  cases someIssues? issues with
  | none => simp only [Option.map_none, Option.map_some, h]; rfl
  | some issues => rfl

end Record

namespace Dependency

variable {origin : Origin}

/-- What is shown of the records of some dependencies. -/
def shownRecords (origin : Origin) (dependencies : List Dependency) : List Record :=
  (dependencies.filterMap (Record.ofDependency? origin)).map Record.shown

theorem shownRecords_append (left right : List Dependency) :
    shownRecords origin (left ++ right) =
      shownRecords origin left ++ shownRecords origin right := by
  rw [shownRecords, List.filterMap_append, List.map_append]
  rfl

theorem shownRecords_cons (dependency : Dependency) (rest : List Dependency) :
    shownRecords origin (dependency :: rest) =
      ((Record.ofDependency? origin dependency).map Record.shown).toList ++
        shownRecords origin rest := by
  rw [shownRecords, List.filterMap_cons]
  cases Record.ofDependency? origin dependency <;> rfl

/-- A record right below another one shows less than a record of its own. -/
theorem map_shallow_eq {left right : List Dependency}
    (h : shownRecords origin left = shownRecords origin right) :
    (left.filterMap (Record.ofDependency? origin)).map Record.shallow =
      (right.filterMap (Record.ofDependency? origin)).map Record.shallow := by
  have hshown : Record.shallow ∘ Record.shown = Record.shallow := funext Record.shallow_shown
  have hshallow := congrArg (List.map Record.shallow) h
  simpa only [shownRecords, List.map_map, hshown] using hshallow

theorem Respells.shown_eq {dependency other : Dependency} (h : dependency.Respells other) :
    (Record.ofDependency? origin dependency).map Record.shown =
      (Record.ofDependency? origin other).map Record.shown := by
  rw [Record.map_shown_ofDependency?, Record.map_shown_ofDependency?]
  cases h with
  | issues => rfl
  | @issue dependency before after issue other h =>
    have hplain : (before ++ issue :: after).map Issue.plain =
        (before ++ other :: after).map Issue.plain := by
      rw [List.map_append, List.map_append, List.map_cons, List.map_cons, h.plain_eq]
    simp only [issueList, Option.getD_some, hplain]
    rw [Record.recommendedVersion?_eq_none (by simp), Record.recommendedVersion?_eq_none (by simp)]
    rfl
  | transitive => rfl
  | recommendation h => rw [Record.recommendedVersion?_eq_of_version_eq_empty h]; rfl

/-- At whatever depth an absence is told in another way, the same is shown. -/
theorem ListRespells.shown_eq {dependencies others : List Dependency}
    (h : ListRespells dependencies others) :
    shownRecords origin dependencies = shownRecords origin others := by
  induction h with
  | @unreferenced before after dependency h =>
    have hnone : Record.ofDependency? origin dependency = none := by
      rw [← Option.not_isSome_iff_eq_none, Record.isSome_ofDependency?, hasRef]
      rcases h with h | h <;> simp [h]
    rw [shownRecords_append, shownRecords_append, shownRecords_cons, hnone]
    rfl
  | entry before after h =>
    rw [shownRecords_append, shownRecords_append, shownRecords_cons, shownRecords_cons, h.shown_eq]
  | @nested before after transitive others dependency _ ih =>
    have hbelow : (Record.ofDependency? origin
          { dependency with transitive := some transitive }).map Record.shown =
        (Record.ofDependency? origin
          { dependency with transitive := some others }).map Record.shown := by
      rw [Record.map_shown_ofDependency?, Record.map_shown_ofDependency?]
      simp only [transitiveList, Option.getD_some, map_shallow_eq ih]
      rfl
    rw [shownRecords_append, shownRecords_append, shownRecords_cons, shownRecords_cons, hbelow]

end Dependency

/-! ## Sources and providers -/

/-- The level of the summary of a source; the best level if it has none. -/
def Source.level (source : Source) : Severity :=
  (source.summary.map Summary.severity).getD .none

def Source.dependencyList (source : Source) : List Dependency :=
  source.dependencies.getD []

theorem Source.Respells.keeps {source other : Source} (h : source.Respells other) :
    (∀ origin, Dependency.shownRecords origin source.dependencyList =
      Dependency.shownRecords origin other.dependencyList) ∧
    source.level = other.level := by
  cases h with
  | summary =>
    have hzero : Summary.severity ⟨0, 0, 0, 0⟩ = .none := by decide
    exact ⟨fun _ => rfl, hzero.symm⟩
  | dependencies => exact ⟨fun _ => rfl, rfl⟩
  | within h => exact ⟨fun _ => h.shown_eq, rfl⟩

namespace Provider

/-- What is shown of the records of the provider, which has them only if its status is ok. -/
def shownRecords (ecosystem : Ecosystem) (image : Option String) (name : String)
    (provider : Provider) : List Record :=
  if provider.status.bind (·.ok) = some true then
    provider.sourceList.flatMap fun source =>
      Dependency.shownRecords ⟨image, ecosystem, name, source.1⟩ source.2.dependencyList
  else []

/-- The worst level of the summaries of the provider, which count only if its status is ok. -/
def level (provider : Provider) : Severity :=
  if provider.status.bind (·.ok) = some true then
    Severity.worst (provider.sourceList.map fun source => source.2.level)
  else .none

theorem Respells.keeps {provider other : Provider} (h : provider.Respells other) :
    (∀ ecosystem image name, provider.shownRecords ecosystem image name =
      other.shownRecords ecosystem image name) ∧
    provider.level = other.level := by
  cases h with
  | status | notOk | sources => exact ⟨fun _ _ _ => rfl, rfl⟩
  | @within provider sources others h =>
    have hlevels := h.map_eq (f := fun source => source.2.level) fun _ _ _ h => h.keeps.2
    constructor
    · intro ecosystem image name
      have hrecords := h.map_eq
        (f := fun source => Dependency.shownRecords ⟨image, ecosystem, name, source.1⟩
          source.2.dependencyList) fun _ _ _ h => h.keeps.1 _
      simp only [shownRecords, sourceList, Option.map_some, Option.getD_some, List.flatMap_def,
        hrecords]
    · simp only [level, sourceList, Option.map_some, Option.getD_some, hlevels]

end Provider

/-! ## Reports -/

namespace AnalysisReport

theorem map_shown_records (report : AnalysisReport) (ecosystem : Ecosystem)
    (image : Option String) :
    (report.records ecosystem image).map Record.shown =
      report.providerList.flatMap fun provider =>
        provider.2.shownRecords ecosystem image provider.1 := by
  rw [records, flatMap_sources, List.map_flatMap]
  refine List.flatMap_congr fun provider _ => ?_
  rw [Provider.shownRecords, apply_ite (List.map Record.shown), List.map_flatMap]
  rfl

theorem severity_eq_worst_levels (report : AnalysisReport) :
    report.severity =
      Severity.worst (report.providerList.map fun provider => provider.2.level) := by
  rw [severity_eq_worst, levels, summaries, List.map_flatMap, ← Severity.worst_map_worst]
  refine congrArg _ (List.map_congr_left fun provider _ => ?_)
  rw [Provider.summaries, Provider.level]
  split
  · rw [List.map_flatMap, ← Severity.worst_map_worst]
    refine congrArg _ (List.map_congr_left fun source _ => ?_)
    rw [Source.level]
    cases source.2.summary with
    | none => rfl
    | some summary => exact Severity.none_max _
  · rfl

theorem Respells.keeps {report other : AnalysisReport} (h : report.Respells other) :
    (∀ ecosystem image, (report.records ecosystem image).map Record.shown =
      (other.records ecosystem image).map Record.shown) ∧
    report.severity = other.severity := by
  cases h with
  | providers => exact ⟨fun _ _ => rfl, rfl⟩
  | @within providers others h =>
    constructor
    · intro ecosystem image
      have hrecords := h.map_eq
        (f := fun provider => provider.2.shownRecords ecosystem image provider.1)
        fun _ _ _ h => h.keeps.1 _ _ _
      rw [map_shown_records, map_shown_records]
      simp only [providerList, Option.map_some, Option.getD_some, List.flatMap_def, hrecords]
    · have hlevels := h.map_eq (f := fun provider => provider.2.level) fun _ _ _ h => h.keeps.2
      rw [severity_eq_worst_levels, severity_eq_worst_levels]
      simp only [providerList, Option.map_some, Option.getD_some, hlevels]

end AnalysisReport

namespace Conversion

theorem findings_ofAnalysis_eq_of_respells {report other : AnalysisReport}
    (h : report.Respells other) (target : Target) (image : Option String) :
    (ofAnalysis target image report).findings = (ofAnalysis target image other).findings := by
  rw [findings_ofAnalysis, findings_ofAnalysis]
  exact ofRecords_eq_of_shown (h.keeps.1 target.ecosystem image)

theorem ofReport_eq_of_respells {report other : Report} (h : report.Respells other)
    (target : Target) :
    (ofReport target report).findings = (ofReport target other).findings ∧
      (ofReport target report).severity = (ofReport target other).severity := by
  rw [findings_ofReport, findings_ofReport, severity_ofReport, severity_ofReport]
  cases h with
  | single h =>
    simp only [Report.analyses, List.map_singleton]
    rw [findings_ofAnalysis_eq_of_respells h, h.keeps.2]
    exact ⟨rfl, rfl⟩
  | @images reports others h =>
    have hfindings := h.map_eq
      (f := fun image => (ofAnalysis target (some image.1) image.2).findings)
      fun _ _ _ h => findings_ofAnalysis_eq_of_respells h target _
    have hseverity := h.map_eq (f := fun image => image.2.severity) fun _ _ _ h => h.keeps.2
    rw [Report.analyses, Report.analyses, List.map_map, List.map_map, List.map_map, List.map_map]
    exact ⟨congrArg Sarif.Findings.concat hfindings, congrArg Severity.worst hseverity⟩

end Conversion

/-- Reports that differ in the way in which they tell absences, at any places and depths, are
converted to the same document with the same severity, or both not converted. -/
theorem absent_and_empty_convert_alike {left right : Report}
    (h : Relation.EqvGen Report.Respells left right) (disk : Disk) (cwd manifest : String)
    (ecosystem : Ecosystem) :
    (Run.convert disk cwd manifest ecosystem left).map
        (fun conversion => (conversion.document, conversion.severity)) =
      (Run.convert disk cwd manifest ecosystem right).map
        fun conversion => (conversion.document, conversion.severity) := by
  induction h with
  | rel left right h =>
    exact Run.map_convert_eq (Conversion.ofReport_eq_of_respells h) disk cwd manifest ecosystem
  | refl report => rfl
  | symm left right _ ih => exact ih.symm
  | trans left middle right _ _ ihleft ihright => exact ihleft.trans ihright

namespace Sample

/-- The report of one provider with one source. -/
def ofSource (source : Source) : Report :=
  .single ⟨some (KeyMap.ofList [
    ("rhda", ⟨some ⟨some true⟩, some (KeyMap.ofList [("osv", source)])⟩)])⟩

theorem respells_ofSource {source other : Source} (h : source.Respells other) :
    (ofSource source).Respells (ofSource other) := by
  have hsources : KeyMap.AtOneKey Source.Respells (KeyMap.ofList [("osv", source)])
      (KeyMap.ofList [("osv", other)]) := .mk [] [] rfl rfl h
  have hprovider : Provider.Respells ⟨some ⟨some true⟩, some (KeyMap.ofList [("osv", source)])⟩
      ⟨some ⟨some true⟩, some (KeyMap.ofList [("osv", other)])⟩ :=
    @Provider.Respells.within ⟨some ⟨some true⟩, none⟩ _ _ hsources
  exact .single (.within (.mk [] [] rfl rfl hprovider))

theorem respells_dependencies {dependencies others : List Dependency}
    (h : Dependency.ListRespells dependencies others) :
    (ofSource ⟨some ⟨0, 0, 0, 0⟩, some dependencies⟩).Respells
      (ofSource ⟨some ⟨0, 0, 0, 0⟩, some others⟩) :=
  respells_ofSource (@Source.Respells.within ⟨some ⟨0, 0, 0, 0⟩, none⟩ _ _ h)

/-- An empty list of issues, and below an entry without a reference that has an issue. -/
def flaskPadded : Dependency :=
  { flask with issues := some [], transitive := some [dependency none [issue "CVE-4" "HIGH"] []] }

theorem eqvGen_padded :
    Relation.EqvGen Report.Respells (ofSource ⟨none, some [flask]⟩)
      (ofSource ⟨some ⟨0, 0, 0, 0⟩, some [flaskPadded]⟩) := by
  have hsummary : (ofSource ⟨none, some [flask]⟩).Respells
      (ofSource ⟨some ⟨0, 0, 0, 0⟩, some [flask]⟩) :=
    respells_ofSource (@Source.Respells.summary ⟨none, some [flask]⟩)
  have hissues : flask.Respells { flask with issues := some [] } :=
    @Dependency.Respells.issues flask
  have htransitive : Dependency.Respells { flask with issues := some [] }
      { flask with issues := some [], transitive := some [] } :=
    @Dependency.Respells.transitive { flask with issues := some [] }
  have hbelow : Dependency.ListRespells [dependency none [issue "CVE-4" "HIGH"] []] [] :=
    .unreferenced [] [] (Or.inl rfl)
  have hpadded : Dependency.ListRespells [flaskPadded]
      [{ flask with issues := some [], transitive := some [] }] :=
    @Dependency.ListRespells.nested [] [] _ _ { flask with issues := some [] } hbelow
  exact .trans _ _ _ (.rel _ _ hsummary)
    (.trans _ _ _ (.rel _ _ (respells_dependencies (.entry [] [] hissues)))
      (.trans _ _ _ (.rel _ _ (respells_dependencies (.entry [] [] htransitive)))
        (.symm _ _ (.rel _ _ (respells_dependencies hpadded)))))

end Sample

/-- The empty lists and the entry without a reference do not keep the sample from its note. -/
theorem sample_padded_converts_alike :
    Relation.EqvGen Report.Respells (Sample.ofSource ⟨none, some [Sample.flask]⟩)
      (Sample.ofSource ⟨some ⟨0, 0, 0, 0⟩, some [Sample.flaskPadded]⟩) ∧
    ∃ conversion conversion',
      Run.convert Sample.disk "/work" "requirements.txt" .pypi
        (Sample.ofSource ⟨none, some [Sample.flask]⟩) = .ok conversion ∧
      Run.convert Sample.disk "/work" "requirements.txt" .pypi
        (Sample.ofSource ⟨some ⟨0, 0, 0, 0⟩, some [Sample.flaskPadded]⟩) = .ok conversion' ∧
      (conversion.document.results.map fun result => (result.ruleId, result.line)) =
        [("2.0.0.redhat", 1)] ∧
      conversion'.document = conversion.document ∧
      conversion'.severity = conversion.severity := by
  have hread : Sample.disk.read "requirements.txt" = .ok Sample.content := by decide
  have hsame := absent_and_empty_convert_alike Sample.eqvGen_padded Sample.disk "/work"
    "requirements.txt" .pypi
  rw [Run.convert_of_read hread, Run.convert_of_read hread] at hsame
  simp only [Except.map, Except.ok.injEq, Prod.mk.injEq] at hsame
  exact ⟨Sample.eqvGen_padded, _, _, Run.convert_of_read hread _ _ _,
    Run.convert_of_read hread _ _ _, by decide, hsame.1.symm, hsame.2.symm⟩

end ManifestSarif
