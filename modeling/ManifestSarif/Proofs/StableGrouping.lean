import ManifestSarif.Proofs.FailedProviders
import ManifestSarif.Proofs.Grouping
import Mathlib.Data.List.Induction

/-!
# Grouping keeps the order

The groups of a walk come in the order in which their keys first come up, and a group has the
records of its key in the order of the walk, each as often as it comes up there.

* `Group.Stable` is the invariant that ties the groups to the records put into them.
* `Stable.add` is what one step does to it, and `stable_collect` what all steps do.
* `walk_groups_stably` is the result, for a walk over a report, where the records are those of the
  entries that have a reference.
-/

namespace ManifestSarif

namespace Group

variable {key : String} {record : Record} {records : List Record} {groups : List Group}
  {group : Group}

/-- The keys are those of the records, in the order in which they first come up, and each group has
the records of its key, in their order. -/
structure Stable (records : List Record) (groups : List Group) : Prop where
  keys_eq : groups.map (·.key) = (records.map keyOf).eraseDups
  records_eq : ∀ group ∈ groups,
    group.records = records.filter fun record => keyOf record = group.key

/-! ## One step -/

/-- A group after one step is an old one of another key, the old one of the key with the record at
its end, or a new one if there was none of the key. -/
theorem mem_add (hnodup : (groups.map (·.key)).Nodup) (h : group ∈ add key record groups) :
    group.key ≠ key ∧ group ∈ groups ∨
      group.key = key ∧ ((∃ old ∈ groups, old.key = key ∧ group.records = old.records ++ [record]) ∨
        key ∉ groups.map (·.key) ∧ group.records = [record]) := by
  induction groups with
  | nil =>
    obtain rfl := List.mem_singleton.1 h
    exact Or.inr ⟨rfl, Or.inr ⟨List.not_mem_nil, rfl⟩⟩
  | cons first rest ih =>
    obtain ⟨hfirst, hrest⟩ := List.nodup_cons.1 hnodup
    rw [add] at h
    by_cases hkey : first.key = key
    · rw [if_pos hkey] at h
      rcases List.mem_cons.1 h with rfl | h
      · exact Or.inr ⟨hkey, Or.inl ⟨first, List.mem_cons_self, hkey, rfl⟩⟩
      · -- The key is that of the first group, and no other group has it.
        have hother : group.key ≠ key := by
          intro hsame
          have hmem : group.key ∈ rest.map (·.key) := List.mem_map_of_mem h
          rw [hsame, ← hkey] at hmem
          exact hfirst hmem
        exact Or.inl ⟨hother, List.mem_cons_of_mem first h⟩
    · rw [if_neg hkey] at h
      rcases List.mem_cons.1 h with rfl | h
      · exact Or.inl ⟨hkey, List.mem_cons_self⟩
      · rcases ih hrest h with ⟨hother, hmem⟩ | ⟨hsame, ⟨old, hold, hkeys⟩ | ⟨hnew, hsingle⟩⟩
        · exact Or.inl ⟨hother, List.mem_cons_of_mem first hmem⟩
        · exact Or.inr ⟨hsame, Or.inl ⟨old, List.mem_cons_of_mem first hold, hkeys⟩⟩
        · refine Or.inr ⟨hsame, Or.inr ⟨?_, hsingle⟩⟩
          rw [List.map_cons, List.mem_cons, not_or]
          exact ⟨Ne.symm hkey, hnew⟩

theorem eraseDups_concat (keys : List String) (key : String) :
    (keys ++ [key]).eraseDups =
      if key ∈ keys.eraseDups then keys.eraseDups else keys.eraseDups ++ [key] := by
  rw [List.eraseDups_append]
  by_cases hmem : key ∈ keys
  · rw [if_pos (List.mem_eraseDups.2 hmem)]
    simp [List.removeAll, hmem]
  · rw [if_neg (mt List.mem_eraseDups.1 hmem)]
    simp [List.removeAll, hmem, List.eraseDups_cons]

/-- A record comes to the end of the group of its key; if its key is new, so is its group, and it
comes last. -/
theorem Stable.add (h : Stable records groups) (hkeyed : Keyed groups) (record : Record) :
    Stable (records ++ [record]) (add (keyOf record) record groups) where
  keys_eq := by
    rw [keys_add, h.keys_eq, List.map_append, List.map_singleton, eraseDups_concat]
  records_eq := by
    intro group hgroup
    rw [List.filter_append]
    rcases mem_add hkeyed.keys_nodup hgroup with ⟨hother, hmem⟩ |
      ⟨hsame, ⟨old, hold, hkey, hrecords⟩ | ⟨hnew, hrecords⟩⟩
    · rw [List.filter_cons_of_neg (by simpa using Ne.symm hother), List.filter_nil,
        List.append_nil]
      exact h.records_eq group hmem
    · rw [hrecords, h.records_eq old hold, hkey, hsame, List.filter_cons_of_pos (by simp),
        List.filter_nil]
    · -- No record had the key before, or its group would be there.
      have hnone : records.filter (fun other => keyOf other = group.key) = [] := by
        rw [List.filter_eq_nil_iff]
        intro other hother hkey
        rw [h.keys_eq, List.mem_eraseDups, ← hsame, ← of_decide_eq_true hkey] at hnew
        exact hnew (List.mem_map_of_mem hother)
      rw [hrecords, hnone, hsame, List.filter_cons_of_pos (by simp), List.filter_nil,
        List.nil_append]

/-! ## All steps -/

theorem collect_concat (records : List Record) (record : Record) :
    collect (records ++ [record]) = Group.add (keyOf record) record (collect records) := by
  rw [collect_eq_foldl, collect_eq_foldl, List.foldl_append]
  rfl

theorem stable_collect (records : List Record) : Stable records (collect records) := by
  induction records using List.reverseRecOn with
  | nil => exact ⟨rfl, by simp [collect, Grouping.empty]⟩
  | append_singleton records record ih =>
    rw [collect_concat]
    exact ih.add (keyed_collect records) record

/-- A group was opened for a record, so it has one. -/
theorem Stable.records_ne_nil (h : Stable records groups) (hgroup : group ∈ groups) :
    group.records ≠ [] := by
  have hkey : group.key ∈ groups.map (·.key) := List.mem_map_of_mem hgroup
  rw [h.keys_eq, List.mem_eraseDups] at hkey
  obtain ⟨record, hrecord, hkey⟩ := List.mem_map.1 hkey
  rw [h.records_eq group hgroup]
  exact List.ne_nil_of_mem (List.mem_filter.2 ⟨hrecord, by simpa using hkey⟩)

theorem Stable.mem_of_mem (h : Stable records groups) (hgroup : group ∈ groups)
    (hrecord : record ∈ group.records) : record ∈ records := by
  rw [h.records_eq group hgroup] at hrecord
  exact List.mem_of_mem_filter hrecord

/-- Groups of one key are one group at most. -/
theorem Keyed.length_le_one (h : Keyed groups) (hkey : ∀ group ∈ groups, group.key = key) :
    groups.length ≤ 1 := by
  match groups, h.keys_nodup with
  | [], _ => exact Nat.zero_le 1
  | [_], _ => exact Nat.le_refl 1
  | first :: second :: rest, hnodup =>
    have hfirst : first.key = key := hkey first List.mem_cons_self
    have hsecond : second.key = key := hkey second (by simp)
    have hdiffer : first.key ∉ (second :: rest).map (·.key) := (List.nodup_cons.1 hnodup).1
    rw [hfirst, ← hsecond] at hdiffer
    exact absurd List.mem_cons_self hdiffer

end Group

/-! ## The walk over a report -/

/-- The sources of a provider are in the order of their names. -/
theorem Provider.ascending_sourceList (provider : Provider) :
    provider.sourceList.Pairwise fun a b => a.1 < b.1 := by
  rw [← provider.sourceList_getD]
  exact (provider.sources.getD .empty).ascending

namespace AnalysisReport

variable {report : AnalysisReport} {ecosystem : Ecosystem} {image : Option String}

/-- The records of a walk are those of the entries that have a reference, one by one. -/
theorem forall₂_records (report : AnalysisReport) (ecosystem : Ecosystem)
    (image : Option String) :
    List.Forall₂ (fun entry record => Entry.record? entry = some record)
      ((report.entries ecosystem image).filter fun entry => entry.dependency.hasRef)
      (report.records ecosystem image) := by
  rw [records_eq_filterMap_entries]
  generalize report.entries ecosystem image = entries
  induction entries with
  | nil => exact .nil
  | cons entry entries ih =>
    have hsome : (Entry.record? entry).isSome = entry.dependency.hasRef :=
      Record.isSome_ofDependency? entry.origin entry.dependency
    cases hrecord : entry.record? with
    | none =>
      rw [hrecord] at hsome
      rw [List.filterMap_cons_none hrecord, List.filter_cons_of_neg (by simp [← hsome])]
      exact ih
    | some record =>
      rw [hrecord] at hsome
      rw [List.filterMap_cons_some hrecord, List.filter_cons_of_pos (by simp [← hsome])]
      exact .cons hrecord ih

theorem keyOf_of_mem_records {record : Record} (h : record ∈ report.records ecosystem image) :
    Group.keyOf record = image.getD record.ref := by
  rw [Group.keyOf, (origin_of_mem_records h).1]

end AnalysisReport

/-- The groups of a walk over a report are a stable grouping of its records.  Entries with a
reference have one record each, in the order of providers, sources and places.  However far the walk
has come, the index leads from a key to the position of its group and to no other.  A record has the
key of its group: the image of the walk, or its own reference if there is none.  Keys differ and
come in the order in which they first come up, and a group has all records of its key, in their
order; it has at least one, and a walk over an image has one group at most. -/
theorem walk_groups_stably (report : AnalysisReport) (ecosystem : Ecosystem)
    (image : Option String) :
    report.providerList.Pairwise (fun provider next => provider.1 < next.1) ∧
    (∀ provider ∈ report.providerList,
      provider.2.sourceList.Pairwise fun source next => source.1 < next.1) ∧
    ∃ records,
      List.Forall₂ (fun entry record => Entry.record? entry = some record)
        ((report.entries ecosystem image).filter fun entry => entry.dependency.hasRef) records ∧
      (Flattening.ofReport report ecosystem image).groups =
        (records.foldl Grouping.add .empty).groups ∧
      (∀ count, ((records.take count).foldl Grouping.add .empty).InStep) ∧
      ((Flattening.ofReport report ecosystem image).groups.map (·.key)).Nodup ∧
      (Flattening.ofReport report ecosystem image).groups.map (·.key) =
        (records.map fun record => image.getD record.ref).eraseDups ∧
      (∀ group ∈ (Flattening.ofReport report ecosystem image).groups,
        group.records ≠ [] ∧
        (∀ record ∈ group.records, image.getD record.ref = group.key) ∧
        group.records = records.filter fun record => image.getD record.ref = group.key) ∧
      (image.isSome = true →
        (Flattening.ofReport report ecosystem image).groups.length ≤ 1) := by
  have hstable := Group.stable_collect (report.records ecosystem image)
  have hkeyed := Group.keyed_collect (report.records ecosystem image)
  have hkey : ∀ record ∈ report.records ecosystem image,
      Group.keyOf record = image.getD record.ref :=
    fun _ => AnalysisReport.keyOf_of_mem_records
  refine ⟨report.ascending_providerList, fun provider _ => provider.2.ascending_sourceList,
    report.records ecosystem image, report.forall₂_records ecosystem image, rfl,
    fun count => Grouping.inStep_foldl _, hkeyed.keys_nodup, ?_, ?_, ?_⟩
  · rw [← List.map_congr_left hkey]
    exact hstable.keys_eq
  · intro group hgroup
    have hrecords : group.records = (report.records ecosystem image).filter fun record =>
        image.getD record.ref = group.key := by
      rw [hstable.records_eq group hgroup]
      exact List.filter_congr fun record hrecord => by rw [hkey record hrecord]
    refine ⟨hstable.records_ne_nil hgroup, ?_, hrecords⟩
    intro record hrecord
    rw [hrecords, List.mem_filter] at hrecord
    exact of_decide_eq_true hrecord.2
  · intro himage
    obtain ⟨name, rfl⟩ := Option.isSome_iff_exists.1 himage
    -- Every group has a record, and all records of an image have the image as key.
    have hname : ∀ group ∈ Group.collect (report.records ecosystem (some name)),
        group.key = name := by
      intro group hgroup
      obtain ⟨record, hrecord⟩ := List.exists_mem_of_ne_nil _ (hstable.records_ne_nil hgroup)
      rw [← hkeyed.keyOf_eq group hgroup record hrecord]
      exact hkey record (hstable.mem_of_mem hgroup hrecord)
    exact hkeyed.length_le_one hname

end ManifestSarif
