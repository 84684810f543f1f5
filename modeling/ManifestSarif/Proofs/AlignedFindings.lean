import ManifestSarif.Proofs.Entries

/-!
# Results and rules grow together

Findings are two lists.  Nothing in them says which rule explains a result, so this has to be kept
by whatever makes them grow: `push` puts one result and one rule behind, and `extend` puts the lists
of other findings behind.

* `Aligned` is the invariant: there are as many rules as results.  `toList` pairs them by position,
  and of aligned findings no result and no rule is left over.
* `Adds` says what a step does: aligned findings stay aligned and get these pairs more.
  `adds_push` and `adds_extend` are the two steps, and `adds_foldl` is any loop of steps.
* `aligned_ofRecord`, `aligned_ofAnalysis` and `aligned_ofReport` carry the invariant from the
  issues of a record to the findings of a report; the lemmas on `toList` beside them say which pairs
  these are.
-/

namespace ManifestSarif

namespace Sarif

/-- A result and its rule. -/
structure Finding where
  result : Result
  rule : Rule
deriving DecidableEq, Repr

/-- The finding of an issue. -/
def Finding.ofIssue (place : Place) (directRef : String) (record : Record) (direct : Bool)
    (issue : Issue) : Finding :=
  ⟨.ofIssue place record direct issue, .ofIssue issue directRef⟩

/-- The finding of a recommendation. -/
def Finding.ofRecommendation (place : Place) (version : String) (forImage : Bool) : Finding :=
  ⟨.ofRecommendation place version forImage, .ofRecommendation version forImage⟩

namespace Findings

/-! ## The invariant -/

/-- There are as many rules as results. -/
def Aligned (findings : Findings) : Prop :=
  findings.rules.length = findings.results.length

/-- The results, each with the rule at its position. -/
def toList (findings : Findings) : List Finding :=
  (findings.results.zip findings.rules).map fun pair => ⟨pair.1, pair.2⟩

theorem map_result_toList {findings : Findings} (h : findings.Aligned) :
    findings.toList.map (·.result) = findings.results := by
  rw [toList, List.map_map]
  exact List.map_fst_zip (Nat.le_of_eq h.symm)

theorem map_rule_toList {findings : Findings} (h : findings.Aligned) :
    findings.toList.map (·.rule) = findings.rules := by
  rw [toList, List.map_map]
  exact List.map_snd_zip (Nat.le_of_eq h)

theorem aligned_empty : empty.Aligned := rfl

theorem toList_extend {findings : Findings} (h : findings.Aligned) (other : Findings) :
    (findings.extend other).toList = findings.toList ++ other.toList := by
  rw [toList, extend, List.zip_append h.symm, List.map_append, toList, toList]

/-! ## Steps and loops -/

/-- The step keeps findings aligned and adds these pairs to them. -/
structure Adds (step : Findings → Findings) (new : List Finding) : Prop where
  aligned : ∀ {findings : Findings}, findings.Aligned → (step findings).Aligned
  toList_eq : ∀ {findings : Findings}, findings.Aligned →
    (step findings).toList = findings.toList ++ new

theorem adds_extend {other : Findings} (h : other.Aligned) :
    Adds (fun findings => findings.extend other) other.toList where
  aligned := by
    intro findings hfindings
    simp only [Aligned, extend, List.length_append] at *
    omega
  toList_eq := fun hfindings => toList_extend hfindings other

/-- One result and one rule are pushed at once. -/
theorem adds_push (result : Result) (rule : Rule) :
    Adds (fun findings => findings.push result rule) [⟨result, rule⟩] :=
  @adds_extend ⟨[result], [rule]⟩ rfl

/-- A loop of steps adds what they add, one after the other. -/
theorem adds_foldl {α : Type} {step : Findings → α → Findings} {new : α → List Finding}
    {items : List α} (h : ∀ x ∈ items, Adds (fun findings => step findings x) (new x)) :
    Adds (fun findings => items.foldl step findings) (items.flatMap new) := by
  induction items with
  | nil => exact ⟨id, fun _ => (List.append_nil _).symm⟩
  | cons x rest ih =>
    have hstep := h x List.mem_cons_self
    have hrest := ih fun y hy => h y (List.mem_cons_of_mem x hy)
    refine ⟨fun hfindings => hrest.aligned (hstep.aligned hfindings), fun hfindings => ?_⟩
    rw [List.foldl_cons, hrest.toList_eq (hstep.aligned hfindings), hstep.toList_eq hfindings,
      List.append_assoc, List.flatMap_cons]

theorem adds_concat {parts : List Findings} (h : ∀ part ∈ parts, part.Aligned) :
    Adds (fun findings => parts.foldl extend findings) (parts.flatMap toList) :=
  adds_foldl fun part hpart => adds_extend (h part hpart)

/-- Findings that are put behind others add to each of the two lists. -/
theorem foldl_extend {α : Type} {list : Findings → List α}
    (h : ∀ findings other : Findings, list (findings.extend other) = list findings ++ list other)
    (parts : List Findings) (findings : Findings) :
    list (parts.foldl extend findings) = list findings ++ parts.flatMap list := by
  induction parts generalizing findings with
  | nil => exact (List.append_nil _).symm
  | cons part parts ih => rw [List.foldl_cons, ih, h, List.append_assoc, List.flatMap_cons]

theorem results_concat (parts : List Findings) :
    (concat parts).results = parts.flatMap (·.results) :=
  foldl_extend (fun _ _ => rfl) parts empty

theorem rules_concat (parts : List Findings) :
    (concat parts).rules = parts.flatMap (·.rules) :=
  foldl_extend (fun _ _ => rfl) parts empty

/-- It does not matter how parts are put together before they are. -/
theorem concat_flatMap {α : Type} (items : List α) (f : α → List Findings) :
    concat (items.flatMap f) = concat (items.map fun x => concat (f x)) := by
  ext1
  · simp only [results_concat, List.flatMap_assoc, List.flatMap_map]
  · simp only [rules_concat, List.flatMap_assoc, List.flatMap_map]

theorem concat_eq_empty {parts : List Findings} (h : ∀ part ∈ parts, part = empty) :
    concat parts = empty := by
  ext1
  · rw [results_concat]
    exact List.flatMap_eq_nil_iff.2 fun part hpart => by rw [h part hpart, empty]
  · rw [rules_concat]
    exact List.flatMap_eq_nil_iff.2 fun part hpart => by rw [h part hpart, empty]

theorem aligned_concat {parts : List Findings} (h : ∀ part ∈ parts, part.Aligned) :
    (concat parts).Aligned :=
  (adds_concat h).aligned aligned_empty

theorem toList_concat {parts : List Findings} (h : ∀ part ∈ parts, part.Aligned) :
    (concat parts).toList = parts.flatMap toList :=
  (adds_concat h).toList_eq aligned_empty

/-! ## The findings of one record -/

variable (place : Place) (record : Record)

theorem adds_pushIssues (directRef : String) (direct : Bool) :
    Adds (fun findings => pushIssues place directRef direct findings record)
      (record.ownIssues.map (Finding.ofIssue place directRef record direct)) := by
  rw [List.map_eq_flatMap]
  exact adds_foldl fun issue _ => adds_push _ _

theorem adds_below (directRef : String) :
    Adds (fun findings =>
        record.directTransitives.foldl (pushIssues place directRef false) findings)
      (record.directTransitives.flatMap fun transitive =>
        transitive.ownIssues.map (Finding.ofIssue place directRef transitive false)) :=
  adds_foldl fun transitive _ => adds_pushIssues place transitive directRef false

theorem aligned_ofIssues : (ofIssues place record).Aligned :=
  (adds_below place record _).aligned ((adds_pushIssues place record _ true).aligned aligned_empty)

/-- The issues of a record come first, then those of the records right below it. -/
theorem toList_ofIssues :
    (ofIssues place record).toList =
      record.ownIssues.map (Finding.ofIssue place (directRef record) record true) ++
        record.directTransitives.flatMap fun transitive =>
          transitive.ownIssues.map (Finding.ofIssue place (directRef record) transitive false) := by
  have hown := adds_pushIssues place record (directRef record) true
  rw [ofIssues, (adds_below place record _).toList_eq (hown.aligned aligned_empty),
    hown.toList_eq aligned_empty]
  rfl

theorem aligned_ofRecommendation : (ofRecommendation place record).Aligned := by
  unfold ofRecommendation
  cases record.recommendation with
  | some version => exact (adds_push _ _).aligned aligned_empty
  | none => exact aligned_empty

theorem toList_ofRecommendation :
    (ofRecommendation place record).toList =
      (record.recommendation.map fun version =>
        Finding.ofRecommendation place version record.origin.image.isSome).toList := by
  unfold ofRecommendation
  cases record.recommendation with
  | some version => exact (adds_push _ _).toList_eq aligned_empty
  | none => rfl

theorem aligned_ofRecord (groupHasIssues : Bool) :
    (ofRecord place groupHasIssues record).Aligned := by
  cases groupHasIssues with
  | true => exact aligned_ofIssues place record
  | false => exact aligned_ofRecommendation place record

end Findings

end Sarif

namespace Conversion

open Sarif Findings

/-! ## The findings of a report -/

variable (target : Target)

theorem aligned_findingsOf (group : Group) (record : Record) :
    (findingsOf target group record).Aligned := by
  unfold findingsOf
  split
  · exact aligned_ofRecord _ record group.hasIssues
  · exact aligned_empty

theorem aligned_of_mem_flatMap {groups : List Group} :
    ∀ part ∈ groups.flatMap fun group => group.records.map (findingsOf target group),
      part.Aligned := by
  intro part hpart
  obtain ⟨group, -, hpart⟩ := List.mem_flatMap.1 hpart
  obtain ⟨record, -, rfl⟩ := List.mem_map.1 hpart
  exact aligned_findingsOf target group record

theorem aligned_ofAnalysis (image : Option String) (report : AnalysisReport) :
    (ofAnalysis target image report).findings.Aligned :=
  aligned_concat (aligned_of_mem_flatMap target)

/-- The findings of an analysis are those of its records, group by group. -/
theorem toList_ofAnalysis (image : Option String) (report : AnalysisReport) :
    (ofAnalysis target image report).findings.toList =
      (Group.collect (report.records target.ecosystem image)).flatMap fun group =>
        group.records.flatMap fun record => (findingsOf target group record).toList := by
  rw [ofAnalysis, toList_concat (aligned_of_mem_flatMap target), List.flatMap_assoc]
  simp only [List.flatMap_map]
  rfl

private theorem aligned_of_mem_analyses {report : Report} :
    ∀ part ∈ report.analyses.map fun (image, analysis) =>
        (ofAnalysis target image analysis).findings,
      part.Aligned := by
  intro part hpart
  obtain ⟨analysis, -, rfl⟩ := List.mem_map.1 hpart
  exact aligned_ofAnalysis target analysis.1 analysis.2

/-- There are as many rules as results, whatever the report says. -/
theorem aligned_ofReport (report : Report) : (ofReport target report).findings.Aligned := by
  rw [findings_ofReport]
  exact aligned_concat (aligned_of_mem_analyses target)

theorem toList_ofReport (report : Report) :
    (ofReport target report).findings.toList =
      report.analyses.flatMap fun (image, analysis) =>
        (ofAnalysis target image analysis).findings.toList := by
  rw [findings_ofReport, toList_concat (aligned_of_mem_analyses target), List.flatMap_map]

/-- So the document has a rule at the position of every result. -/
theorem length_rules_document (report : Report) :
    (ofReport target report).document.rules.length =
      (ofReport target report).document.results.length :=
  aligned_ofReport target report

/-- The document lists the results of the findings and their rules. -/
theorem results_document (report : Report) :
    (ofReport target report).document.results =
      (ofReport target report).findings.toList.map (·.result) :=
  (map_result_toList (aligned_ofReport target report)).symm

theorem rules_document (report : Report) :
    (ofReport target report).document.rules =
      (ofReport target report).findings.toList.map (·.rule) :=
  (map_rule_toList (aligned_ofReport target report)).symm

end Conversion

end ManifestSarif
