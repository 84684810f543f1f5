import ManifestSarif.Proofs.Entries
import ManifestSarif.Proofs.Grouping

/-!
# What a conversion reads of a record

A conversion looks at the issues of a record and of the records right below it, and of an issue at
its lists and texts only, not at how their absence is told.

* `Issue.plain` and `Record.shown` keep what is looked at and tell every absence in one way.
* `Group.collect_map`: a change of records that keeps their keys keeps the groups.
* `Conversion.ofRecords` are the findings of an analysis as a function of its records;
  `ofRecords_eq_of_shown` says that it sees no more of them than is shown.
-/

namespace ManifestSarif

open Sarif

/-! ## Issues -/

/-- The issue with every absence told in one way. -/
def Issue.plain (issue : Issue) : Issue :=
  { issue with
    cves := some issue.cveList
    cvss := some ⟨issue.score?⟩
    remediation := some ⟨issue.trustedRef?.map TrustedContent.mk⟩ }

namespace Issue

variable (issue : Issue)

@[simp] theorem id_plain : issue.plain.id = issue.id := rfl

@[simp] theorem title_plain : issue.plain.title = issue.title := rfl

@[simp] theorem severity_plain : issue.plain.severity = issue.severity := rfl

@[simp] theorem cveList_plain : issue.plain.cveList = issue.cveList := rfl

@[simp] theorem score?_plain : issue.plain.score? = issue.score? := rfl

@[simp]
theorem trustedRef?_plain : issue.plain.trustedRef? = issue.trustedRef? := by
  show (issue.trustedRef?.map TrustedContent.mk).map (·.ref) = issue.trustedRef?
  rw [Option.map_map]
  exact Option.map_id'

@[simp]
theorem plain_plain : issue.plain.plain = issue.plain := by
  have htrusted := issue.trustedRef?_plain
  rw [plain, htrusted]
  rfl

end Issue

/-! ## Records -/

namespace Record

/-- The record as one right below another one is looked at. -/
def shallow (record : Record) : Record :=
  { record with issues := some (record.ownIssues.map Issue.plain), transitives := none }

/-- The record as it is looked at. -/
def shown (record : Record) : Record :=
  { record with
    issues := some (record.ownIssues.map Issue.plain)
    transitives := some (record.directTransitives.map shallow) }

theorem ownIssues_shallow (record : Record) :
    record.shallow.ownIssues = record.ownIssues.map Issue.plain := rfl

theorem ownIssues_shown (record : Record) :
    record.shown.ownIssues = record.ownIssues.map Issue.plain := rfl

theorem directTransitives_shown (record : Record) :
    record.shown.directTransitives = record.directTransitives.map shallow := rfl

@[simp]
theorem shallow_shown (record : Record) : record.shown.shallow = record.shallow := by
  have hissues : (record.ownIssues.map Issue.plain).map Issue.plain =
      record.ownIssues.map Issue.plain := by
    simp
  rw [shallow, shallow, ownIssues_shown, hissues]
  rfl

theorem hasIssues_shallow (record : Record) : record.shallow.hasIssues = record.hasIssues := by
  rw [hasIssues, hasIssues, ownIssues_shallow, List.isEmpty_map]

theorem hasIssuesNearby_shown (record : Record) :
    record.shown.hasIssuesNearby = record.hasIssuesNearby := by
  have hbelow : (record.directTransitives.map shallow).any hasIssues =
      record.directTransitives.any hasIssues := by
    rw [List.any_map]
    exact congrArg _ (funext hasIssues_shallow)
  rw [hasIssuesNearby, hasIssuesNearby, directTransitives_shown, hbelow, hasIssues, hasIssues,
    ownIssues_shown, List.isEmpty_map]

end Record

theorem Declaration.line?_shown (ecosystem : Ecosystem) (record : Record) (lines : List String) :
    line? ecosystem record.shown lines = line? ecosystem record lines := by
  cases ecosystem <;> rfl

/-! ## Findings of a record -/

namespace Sarif

/-- A result tells what is told of the issue and of the record in plain words. -/
theorem Result.ofIssue_plain (place : Place) (record : Record) (direct : Bool) (issue : Issue) :
    ofIssue place record direct issue.plain = ofIssue place record direct issue := by
  have hmessage : issueMessage issue.plain record direct = issueMessage issue record direct := by
    unfold issueMessage
    rw [Issue.title_plain, Issue.severity_plain, Issue.trustedRef?_plain]
  rw [ofIssue, ofIssue, Issue.id_plain, hmessage]

theorem Rule.ofIssue_plain (issue : Issue) (directRef : String) :
    ofIssue issue.plain directRef = ofIssue issue directRef := by
  unfold ofIssue issueTags
  rw [Issue.id_plain, Issue.title_plain, Issue.severity_plain, Issue.cveList_plain,
    Issue.score?_plain]

namespace Findings

/-- Issues are pushed as they are in plain words. -/
private theorem pushIssues_eq_of_plain {place : Place} {directRef : String} {direct : Bool}
    {record other : Record} (hissues : other.ownIssues = record.ownIssues.map Issue.plain)
    (hresult : Result.ofIssue place other direct = Result.ofIssue place record direct)
    (findings : Findings) :
    pushIssues place directRef direct findings other =
      pushIssues place directRef direct findings record := by
  rw [pushIssues, pushIssues, hissues, List.foldl_map]
  simp only [hresult, Result.ofIssue_plain, Rule.ofIssue_plain]

theorem ofIssues_shown (place : Place) (record : Record) :
    ofIssues place record.shown = ofIssues place record := by
  have hown : pushIssues place (directRef record) true empty record.shown =
      pushIssues place (directRef record) true empty record :=
    pushIssues_eq_of_plain record.ownIssues_shown rfl empty
  have hbelow : ∀ findings transitive,
      pushIssues place (directRef record) false findings (Record.shallow transitive) =
        pushIssues place (directRef record) false findings transitive :=
    fun findings transitive => pushIssues_eq_of_plain transitive.ownIssues_shallow rfl findings
  show (record.directTransitives.map Record.shallow).foldl
    (pushIssues place (directRef record) false)
    (pushIssues place (directRef record) true empty record.shown) = _
  rw [List.foldl_map, hown, ofIssues]
  simp only [hbelow]

theorem ofRecord_shown (place : Place) (groupHasIssues : Bool) (record : Record) :
    ofRecord place groupHasIssues record.shown = ofRecord place groupHasIssues record := by
  rw [ofRecord, ofRecord, ofIssues_shown]
  rfl

end Findings

end Sarif

/-! ## Groups -/

namespace Group

/-- The group with every record changed. -/
def map (f : Record → Record) (group : Group) : Group :=
  ⟨group.key, group.records.map f⟩

theorem add_map (f : Record → Record) (key : String) (record : Record) (groups : List Group) :
    add key (f record) (groups.map (map f)) = (add key record groups).map (map f) := by
  induction groups with
  | nil => rfl
  | cons group groups ih =>
    rw [List.map_cons, add, add]
    have hkey : (map f group).key = group.key := rfl
    rw [hkey]
    by_cases h : group.key = key
    · rw [if_pos h, if_pos h, List.map_cons]
      simp [map, push]
    · rw [if_neg h, if_neg h, ih, List.map_cons]

/-- A change that keeps the keys of records does not move them between groups. -/
theorem collect_map {f : Record → Record} (hkey : ∀ record, keyOf (f record) = keyOf record)
    (records : List Record) : collect (records.map f) = (collect records).map (map f) := by
  have hfold : ∀ groups : List Group,
      (records.map f).foldl (fun groups record => add (keyOf record) record groups)
          (groups.map (map f)) =
        (records.foldl (fun groups record => add (keyOf record) record groups) groups).map
          (map f) := by
    induction records with
    | nil => exact fun _ => rfl
    | cons record records ih =>
      intro groups
      rw [List.map_cons, List.foldl_cons, List.foldl_cons, hkey, add_map, ih]
  rw [collect_eq_foldl, collect_eq_foldl]
  exact hfold []

theorem hasIssues_map_shown (group : Group) :
    (group.map Record.shown).hasIssues = group.hasIssues := by
  rw [hasIssues, hasIssues, map, List.any_map]
  exact congrArg _ (funext Record.hasIssuesNearby_shown)

end Group

/-! ## Findings of records -/

namespace Conversion

/-- The findings for some records: group by group, each record at its line. -/
def ofRecords (target : Target) (records : List Record) : Findings :=
  .concat ((Group.collect records).flatMap fun group =>
    group.records.map (findingsOf target group))

theorem findings_ofAnalysis (target : Target) (image : Option String) (report : AnalysisReport) :
    (ofAnalysis target image report).findings =
      ofRecords target (report.records target.ecosystem image) := rfl

theorem findingsOf_shown (target : Target) (group : Group) (record : Record) :
    findingsOf target (group.map Record.shown) record.shown = findingsOf target group record := by
  have hline : Declaration.line? record.shown.origin.ecosystem record.shown target.lines =
      Declaration.line? record.origin.ecosystem record target.lines :=
    Declaration.line?_shown record.origin.ecosystem record target.lines
  rw [findingsOf, findingsOf, hline, Group.hasIssues_map_shown]
  cases Declaration.line? record.origin.ecosystem record target.lines with
  | none => rfl
  | some line => exact Findings.ofRecord_shown _ _ _

theorem ofRecords_map_shown (target : Target) (records : List Record) :
    ofRecords target (records.map Record.shown) = ofRecords target records := by
  have hkey : ∀ record : Record, Group.keyOf record.shown = Group.keyOf record := fun _ => rfl
  rw [ofRecords, Group.collect_map hkey, List.flatMap_map]
  refine congrArg Findings.concat (List.flatMap_congr fun group _ => ?_)
  show (group.records.map Record.shown).map _ = _
  rw [List.map_map]
  exact List.map_congr_left fun record _ => findingsOf_shown target group record

/-- Records that are shown alike have the same findings. -/
theorem ofRecords_eq_of_shown {target : Target} {records others : List Record}
    (h : records.map Record.shown = others.map Record.shown) :
    ofRecords target records = ofRecords target others := by
  rw [← ofRecords_map_shown, h, ofRecords_map_shown]

end Conversion

end ManifestSarif
