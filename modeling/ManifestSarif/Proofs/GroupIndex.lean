import ManifestSarif.Flattening
import ManifestSarif.Proofs.KeyMapEntries

/-!
# The index of the groups

A walk does not look for the group of a record: it keeps the positions of the groups in a map beside
them.  This file shows that the two stay in step, so that the walk is the plain one that looks
through the groups.

* `Grouping.InStep` is the invariant: the index finds a position exactly when the group there has
  the key.  So it leads to no other group and to no place behind the last one.
* `Group.add` puts a record into the first group of its key.
* `InStep.add` is what one step keeps, and `InStep.groups_add` is what it does to the groups.
* `collect_eq_foldl` carries this over a whole walk.
-/

namespace ManifestSarif

namespace Group

/-! ## Looking through the groups -/

/-- The groups with the record added to the first group of the key, or as a new group at the end. -/
def add (key : String) (record : Record) : List Group → List Group
  | [] => [⟨key, [record]⟩]
  | group :: rest =>
    if group.key = key then group.push record :: rest
    else group :: add key record rest

/-- Without a group of the key, the record opens one. -/
theorem add_of_forall_ne {key : String} {groups : List Group}
    (h : ∀ group ∈ groups, group.key ≠ key) (record : Record) :
    add key record groups = groups ++ [⟨key, [record]⟩] := by
  induction groups with
  | nil => rfl
  | cons group rest ih =>
    have hrest := ih fun other hother => h other (List.mem_cons_of_mem group hother)
    rw [add, if_neg (h group List.mem_cons_self), hrest, List.cons_append]

/-- The record is pushed to the group of the key that comes first. -/
theorem add_of_getElem? {key : String} {groups : List Group} {position : Nat}
    (h : groups[position]?.map (·.key) = some key)
    (hfirst : ∀ before < position, groups[before]?.map (·.key) ≠ some key) (record : Record) :
    add key record groups = groups.modify position (·.push record) := by
  induction groups generalizing position with
  | nil => simp at h
  | cons group rest ih =>
    rw [add]
    cases position with
    | zero =>
      have hkey : group.key = key := by simpa using h
      rw [if_pos hkey]
      rfl
    | succ position =>
      have hkey : group.key ≠ key := by simpa using hfirst 0 (Nat.zero_lt_succ position)
      have hrest : add key record rest = rest.modify position (·.push record) := by
        refine ih (by simpa using h) fun before hbefore => ?_
        simpa using hfirst (before + 1) (Nat.succ_lt_succ hbefore)
      rw [if_neg hkey, hrest]
      rfl

end Group

namespace Grouping

variable {grouping : Grouping} {record : Record}

/-! ## One step -/

theorem add_of_get?_eq_some {position : Nat}
    (h : grouping.index.get? (Group.keyOf record) = some position) :
    grouping.add record =
      ⟨grouping.groups.modify position (·.push record), grouping.index⟩ := by
  simp only [add, h]

theorem add_of_get?_eq_none (h : grouping.index.get? (Group.keyOf record) = none) :
    grouping.add record =
      ⟨grouping.groups ++ [⟨Group.keyOf record, [record]⟩],
        grouping.index.insert (Group.keyOf record) grouping.groups.length⟩ := by
  simp only [add, h]

/-! ## The invariant -/

/-- The index finds a position for a key exactly when the group at the position has the key. -/
def InStep (grouping : Grouping) : Prop :=
  ∀ key position, grouping.index.get? key = some position ↔
    grouping.groups[position]?.map (·.key) = some key

theorem inStep_empty : empty.InStep := by
  intro key position
  simp [empty, KeyMap.empty, KeyMap.get?]

/-- A key that the index does not find is that of no group. -/
theorem InStep.key_ne (h : grouping.InStep) {key : String}
    (hindex : grouping.index.get? key = none) : ∀ group ∈ grouping.groups, group.key ≠ key := by
  intro group hgroup hkey
  obtain ⟨position, hposition⟩ := List.mem_iff_getElem?.1 hgroup
  have hfound : grouping.index.get? key = some position :=
    (h key position).2 (by rw [hposition, Option.map_some, hkey])
  rw [hindex] at hfound
  cases hfound

/-- The step puts the record where a look through the groups would put it. -/
theorem InStep.groups_add (h : grouping.InStep) (record : Record) :
    (grouping.add record).groups = Group.add (Group.keyOf record) record grouping.groups := by
  cases hindex : grouping.index.get? (Group.keyOf record) with
  | none =>
    rw [add_of_get?_eq_none hindex, Group.add_of_forall_ne (h.key_ne hindex)]
  | some position =>
    rw [add_of_get?_eq_some hindex, Group.add_of_getElem? ((h _ _).1 hindex)]
    -- If an earlier group had the key, the index would find that one.
    intro before hbefore hkey
    rw [← h, hindex] at hkey
    exact Nat.ne_of_gt hbefore (Option.some.inj hkey)

/-- A group that gets a record keeps its key, and a group that is opened is entered in the index. -/
theorem InStep.add (h : grouping.InStep) (record : Record) : (grouping.add record).InStep := by
  intro key position
  cases hindex : grouping.index.get? (Group.keyOf record) with
  | some found =>
    rw [add_of_get?_eq_some hindex, h, List.getElem?_modify]
    by_cases hfound : found = position
    · simp [hfound, Group.push]
    · simp [hfound]
  | none =>
    rw [add_of_get?_eq_none hindex, KeyMap.get?_insert]
    by_cases hlt : position < grouping.groups.length
    · rw [List.getElem?_append_left hlt, ← h]
      by_cases hkey : key = Group.keyOf record
      · simp [hkey, hindex, Nat.ne_of_gt hlt]
      · rw [if_neg hkey]
    · -- The index has found nothing here so far, and there is the new group at most.
      have hout : grouping.index.get? key ≠ some position := by
        rw [Ne, h, List.getElem?_eq_none (Nat.le_of_not_lt hlt)]
        simp
      rw [List.getElem?_append_right (Nat.le_of_not_lt hlt), List.getElem?_singleton]
      have hlast : position - grouping.groups.length = 0 ↔ grouping.groups.length = position := by
        omega
      by_cases hkey : key = Group.keyOf record
      · simp [hkey, hlast]
      · simp [hkey, hout, Ne.symm hkey]

/-! ## The whole walk -/

theorem inStep_foldl (records : List Record) : (records.foldl add empty).InStep :=
  List.foldlRecOn records add inStep_empty fun _ h record _ => h.add record

end Grouping

/-- A walk groups as if it looked for the group of every record. -/
theorem Group.collect_eq_foldl (records : List Record) :
    collect records = records.foldl (fun groups record => add (keyOf record) record groups) [] := by
  have hfold : ∀ grouping : Grouping, grouping.InStep →
      (records.foldl Grouping.add grouping).groups =
        records.foldl (fun groups record => add (keyOf record) record groups) grouping.groups := by
    induction records with
    | nil => exact fun _ _ => rfl
    | cons record records ih =>
      intro grouping h
      rw [List.foldl_cons, List.foldl_cons, ih _ (h.add record), h.groups_add]
  exact hfold .empty Grouping.inStep_empty

end ManifestSarif
