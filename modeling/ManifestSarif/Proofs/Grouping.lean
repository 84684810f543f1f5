import ManifestSarif.Proofs.GroupIndex
import Mathlib.Data.List.Nodup
import Mathlib.Data.List.Perm.Basic

/-!
# Grouping keeps the records

`Group.collect` puts records into groups one after the other.

* `add_perm` is what one step does to the records of all groups: it adds the record to them.
* `collect_perm`: the groups together hold the records, each as often as it was given.
* `Keyed` is the invariant of the groups: keys differ, and a group has the records of its key.
* `hasIssues_of_mem`: a record with issues nearby marks its whole group.
* `hasIssues_iff_of_mem_collect`: no other record than one of its key marks a group.
-/

namespace ManifestSarif.Group

/-- The records of all groups. -/
def allRecords (groups : List Group) : List Record :=
  groups.flatMap (·.records)

/-- Adding a record to the group of its key adds it to the records of all groups. -/
theorem add_perm (key : String) (record : Record) (groups : List Group) :
    (allRecords (add key record groups)).Perm (record :: allRecords groups) := by
  induction groups with
  | nil => exact List.Perm.refl _
  | cons group groups ih =>
    rw [add]
    by_cases hkey : group.key = key
    · rw [if_pos hkey]
      have hsplit : allRecords (group.push record :: groups) =
          group.records ++ record :: allRecords groups := by
        simp [allRecords, push]
      rw [hsplit]
      exact List.perm_middle
    · rw [if_neg hkey]
      -- The record lands behind this group, so it is moved over the records of the group.
      have htail : (group.records ++ allRecords (add key record groups)).Perm
          (group.records ++ record :: allRecords groups) := ih.append_left group.records
      exact htail.trans List.perm_middle

private theorem foldl_add_perm (records : List Record) (groups : List Group) :
    (allRecords (records.foldl (fun groups record => add (keyOf record) record groups) groups)).Perm
      (records ++ allRecords groups) := by
  induction records generalizing groups with
  | nil => exact List.Perm.refl _
  | cons record records ih =>
    rw [List.foldl_cons]
    refine (ih (add (keyOf record) record groups)).trans ?_
    exact ((add_perm (keyOf record) record groups).append_left records).trans List.perm_middle

/-- The groups hold the records that were given, each as often as it was given. -/
theorem collect_perm (records : List Record) : (allRecords (collect records)).Perm records := by
  rw [collect_eq_foldl]
  have h := foldl_add_perm records []
  have hnil : records ++ allRecords [] = records := List.append_nil records
  rwa [hnil] at h

/-! ## Keys -/

/-- Groups have different keys, and each holds records of its key only. -/
structure Keyed (groups : List Group) : Prop where
  keys_nodup : (groups.map (·.key)).Nodup
  keyOf_eq : ∀ group ∈ groups, ∀ record ∈ group.records, keyOf record = group.key

theorem keys_add (key : String) (record : Record) (groups : List Group) :
    (add key record groups).map (·.key) =
      if key ∈ groups.map (·.key) then groups.map (·.key) else groups.map (·.key) ++ [key] := by
  induction groups with
  | nil => rfl
  | cons group groups ih =>
    rw [add]
    by_cases hkey : group.key = key
    · have hmem : key ∈ (group :: groups).map (·.key) := by simp [hkey]
      rw [if_pos hkey, if_pos hmem, List.map_cons, List.map_cons, push]
    · rw [if_neg hkey, List.map_cons, ih, List.map_cons]
      by_cases hrest : key ∈ groups.map (·.key)
      · have hmem : key ∈ group.key :: groups.map (·.key) := List.mem_cons_of_mem _ hrest
        rw [if_pos hrest, if_pos hmem]
      · have hmem : key ∉ group.key :: groups.map (·.key) := by
          rw [List.mem_cons, not_or]
          exact ⟨Ne.symm hkey, hrest⟩
        rw [if_neg hrest, if_neg hmem, List.cons_append]

/-- The records of a group after one step: those that it had, and perhaps the record of its key. -/
theorem mem_records_of_mem_add {key : String} {record other : Record} {groups : List Group}
    {group : Group} (hgroup : group ∈ add key record groups) (h : other ∈ group.records) :
    other = record ∧ group.key = key ∨
      ∃ old ∈ groups, old.key = group.key ∧ other ∈ old.records := by
  induction groups with
  | nil =>
    obtain rfl := List.mem_singleton.1 hgroup
    exact Or.inl ⟨List.mem_singleton.1 h, rfl⟩
  | cons first rest ih =>
    rw [add] at hgroup
    by_cases hkey : first.key = key
    · rw [if_pos hkey] at hgroup
      rcases List.mem_cons.1 hgroup with rfl | hgroup
      · rcases List.mem_append.1 h with h | h
        · exact Or.inr ⟨first, List.mem_cons_self, rfl, h⟩
        · exact Or.inl ⟨List.mem_singleton.1 h, hkey⟩
      · exact Or.inr ⟨group, List.mem_cons_of_mem first hgroup, rfl, h⟩
    · rw [if_neg hkey] at hgroup
      rcases List.mem_cons.1 hgroup with rfl | hgroup
      · exact Or.inr ⟨group, List.mem_cons_self, rfl, h⟩
      · rcases ih hgroup with hnew | ⟨old, hold, hsame, hmem⟩
        · exact Or.inl hnew
        · exact Or.inr ⟨old, List.mem_cons_of_mem first hold, hsame, hmem⟩

theorem keyed_nil : Keyed [] :=
  ⟨List.nodup_nil, by simp⟩

theorem Keyed.add {groups : List Group} (h : Keyed groups) (record : Record) :
    Keyed (add (keyOf record) record groups) where
  keys_nodup := by
    rw [keys_add]
    by_cases hmem : keyOf record ∈ groups.map (·.key)
    · rw [if_pos hmem]
      exact h.keys_nodup
    · rw [if_neg hmem]
      exact List.Nodup.append h.keys_nodup (List.nodup_singleton _) (by simpa using hmem)
  keyOf_eq := by
    intro group hgroup other hother
    rcases mem_records_of_mem_add hgroup hother with ⟨rfl, hkey⟩ | ⟨old, hold, hkey, hmem⟩
    · exact hkey.symm
    · rw [← hkey]
      exact h.keyOf_eq old hold other hmem

theorem keyed_collect (records : List Record) : Keyed (collect records) := by
  rw [collect_eq_foldl]
  have hfold : ∀ groups, Keyed groups →
      Keyed (records.foldl (fun groups record => add (keyOf record) record groups) groups) := by
    induction records with
    | nil => exact fun _ h => h
    | cons record records ih => exact fun groups h => ih _ (h.add record)
  exact hfold [] keyed_nil

theorem Keyed.eq_of_key_eq {groups : List Group} (h : Keyed groups) {left right : Group}
    (hleft : left ∈ groups) (hright : right ∈ groups) (hkey : left.key = right.key) :
    left = right :=
  List.inj_on_of_nodup_map h.keys_nodup hleft hright hkey

/-- A record with issues nearby marks its group. -/
theorem hasIssues_of_mem {group : Group} {record : Record} (hmem : record ∈ group.records)
    (hissues : record.hasIssuesNearby = true) : group.hasIssues = true :=
  List.any_eq_true.2 ⟨record, hmem, hissues⟩

/-- The records of one key mark their group, wherever they stand among the others. -/
theorem hasIssues_iff_of_mem_collect {records : List Record} {group : Group}
    (hgroup : group ∈ collect records) :
    group.hasIssues = true ↔
      ∃ record ∈ records, keyOf record = group.key ∧ record.hasIssuesNearby = true := by
  have hkeyed := keyed_collect records
  constructor
  · intro hissues
    obtain ⟨record, hmem, hnearby⟩ := List.any_eq_true.1 hissues
    have hrecord : record ∈ allRecords (collect records) :=
      List.mem_flatMap.2 ⟨group, hgroup, hmem⟩
    exact ⟨record, (collect_perm records).mem_iff.1 hrecord, hkeyed.keyOf_eq group hgroup _ hmem,
      hnearby⟩
  · intro h
    obtain ⟨record, hmem, hkey, hnearby⟩ := h
    obtain ⟨other, hother, hrecord⟩ :=
      List.mem_flatMap.1 ((collect_perm records).mem_iff.2 hmem)
    -- The group that the record went to has the same key, so it is this one.
    have hsame : other = group := by
      apply hkeyed.eq_of_key_eq hother hgroup
      rw [← hkey, hkeyed.keyOf_eq other hother record hrecord]
    rw [hsame] at hrecord
    exact hasIssues_of_mem hrecord hnearby

end ManifestSarif.Group
