import ManifestSarif.KeyMap
import Mathlib.Data.List.Nodup

/-!
# The entries of a key map

* `mem_insert_iff`: the entries after an insertion are the new one and those with other keys.
* `eq_of_mem_of_key_eq`: a key has one value, and `get?_eq_some_iff` that it is the one found.
* `mem_of_mem_ofList` and `ofList_of_perm`: a map has no other entries than it is made from, and it
  is made from them in any order.
* `filter_toList_eq`: maps that agree on which entries of some kind they have list these alike.
* `KeyMap.map` changes the values and keeps the keys.
-/

namespace ManifestSarif.KeyMap

variable {α β : Type} {key : String} {value : α} {x : String × α}

private theorem mem_insertIn_iff {entries : List (String × α)}
    (h : entries.Pairwise fun a b => a.1 < b.1) :
    x ∈ insertIn key value entries ↔ x = (key, value) ∨ x ∈ entries ∧ x.1 ≠ key := by
  induction entries with
  | nil => simp [insertIn]
  | cons entry rest ih =>
    obtain ⟨hfirst, hrest⟩ := List.pairwise_cons.1 h
    rw [insertIn]
    by_cases hlt : key < entry.1
    · rw [if_pos hlt, List.mem_cons]
      have hother : x ∈ entry :: rest → x.1 ≠ key := by
        intro hmem hkey
        subst hkey
        rcases List.mem_cons.1 hmem with rfl | hmem
        · exact String.lt_irrefl _ hlt
        · exact String.lt_irrefl _ (String.lt_trans hlt (hfirst x hmem))
      exact or_congr_right ⟨fun hmem => ⟨hmem, hother hmem⟩, And.left⟩
    · rw [if_neg hlt]
      by_cases heq : key = entry.1
      · rw [if_pos heq, List.mem_cons]
        have hother : x ∈ rest → x.1 ≠ key := by
          intro hmem hkey
          subst hkey
          exact String.lt_irrefl _ (heq ▸ hfirst x hmem)
        refine or_congr_right ⟨fun hmem => ⟨List.mem_cons_of_mem _ hmem, hother hmem⟩, ?_⟩
        intro h
        obtain ⟨hmem, hne⟩ := h
        rcases List.mem_cons.1 hmem with rfl | hmem
        · exact absurd heq.symm hne
        · exact hmem
      · rw [if_neg heq, List.mem_cons, ih hrest, List.mem_cons]
        have hentry : x = entry → x.1 ≠ key := by
          intro hx
          rw [hx]
          exact Ne.symm heq
        constructor
        · intro h
          rcases h with hx | hx | ⟨hmem, hne⟩
          · exact Or.inr ⟨Or.inl hx, hentry hx⟩
          · exact Or.inl hx
          · exact Or.inr ⟨Or.inr hmem, hne⟩
        · intro h
          rcases h with hx | ⟨hx | hmem, hne⟩
          · exact Or.inr (Or.inl hx)
          · exact Or.inl hx
          · exact Or.inr (Or.inr ⟨hmem, hne⟩)

/-- An insertion replaces the value of its key and keeps all other entries. -/
theorem mem_insert_iff {m : KeyMap α} :
    x ∈ (m.insert key value).toList ↔ x = (key, value) ∨ x ∈ m.toList ∧ x.1 ≠ key :=
  mem_insertIn_iff m.ascending

theorem nodup_keys (m : KeyMap α) : (m.toList.map Prod.fst).Nodup := by
  rw [List.Nodup, List.pairwise_map]
  refine List.Pairwise.imp (fun {a b} hlt heq => ?_) m.ascending
  rw [heq] at hlt
  exact String.lt_irrefl _ hlt

/-- A key has one value. -/
theorem eq_of_mem_of_key_eq {m : KeyMap α} {y : String × α} (hx : x ∈ m.toList)
    (hy : y ∈ m.toList) (h : x.1 = y.1) : x = y :=
  List.inj_on_of_nodup_map m.nodup_keys hx hy h

/-- The value of a key is the one that an entry gives it. -/
theorem get?_eq_some_iff {m : KeyMap α} : m.get? key = some value ↔ (key, value) ∈ m.toList := by
  constructor
  · intro h
    obtain ⟨before, after, hentries, -⟩ := List.lookup_eq_some_iff.1 h
    rw [toList, hentries]
    simp
  · intro hmem
    cases hvalue : m.get? key with
    | none => simpa using List.lookup_eq_none_iff.1 hvalue _ hmem
    | some other =>
      obtain ⟨before, after, hentries, -⟩ := List.lookup_eq_some_iff.1 hvalue
      have hother : (key, other) ∈ m.toList := by
        rw [toList, hentries]
        simp
      exact congrArg (some ·.2) (eq_of_mem_of_key_eq hother hmem rfl)

theorem get?_insert (m : KeyMap α) (key : String) (value : α) (other : String) :
    (m.insert key value).get? other = if other = key then some value else m.get? other := by
  ext found
  rw [get?_eq_some_iff, mem_insert_iff]
  by_cases hkey : other = key
  · simp [hkey, eq_comm]
  · simp [hkey, get?_eq_some_iff]

private theorem insertIn_perm {entries : List (String × α)} (h : key ∉ entries.map Prod.fst) :
    (insertIn key value entries).Perm ((key, value) :: entries) := by
  induction entries with
  | nil => exact .refl _
  | cons entry rest ih =>
    simp only [List.map_cons, List.mem_cons, not_or] at h
    rw [insertIn]
    by_cases hlt : key < entry.1
    · rw [if_pos hlt]
    · rw [if_neg hlt, if_neg h.1]
      exact ((ih h.2).cons entry).trans (.swap ..)

/-- Entries with different keys are all kept. -/
theorem toList_ofList_perm {entries : List (String × α)} (h : (entries.map Prod.fst).Nodup) :
    (ofList entries).toList.Perm entries := by
  have hfold : ∀ m : KeyMap α, ((entries ++ m.toList).map Prod.fst).Nodup →
      (entries.foldl (fun m entry => m.insert entry.1 entry.2) m).toList.Perm
        (entries ++ m.toList) := by
    clear h
    induction entries with
    | nil => exact fun m _ => .refl _
    | cons entry rest ih =>
      intro m hnodup
      simp only [List.cons_append, List.map_cons, List.nodup_cons] at hnodup
      have hnew : entry.1 ∉ m.toList.map Prod.fst := fun hmem => hnodup.1 (by
        rw [List.map_append]
        exact List.mem_append_right _ hmem)
      have hinsert : (rest ++ (m.insert entry.1 entry.2).toList).Perm
          (entry :: (rest ++ m.toList)) :=
        ((insertIn_perm hnew).append_left rest).trans List.perm_middle
      refine (ih _ ?_).trans hinsert
      rw [(hinsert.map Prod.fst).nodup_iff, List.map_cons, List.nodup_cons]
      exact hnodup
  have hkeys : ((entries ++ (empty : KeyMap α).toList).map Prod.fst).Nodup := by
    simpa [empty, toList] using h
  simpa [empty, toList, ofList] using hfold empty hkeys

/-- A map has no entries but those that it is made from. -/
theorem mem_of_mem_ofList {entries : List (String × α)} (h : x ∈ (ofList entries).toList) :
    x ∈ entries := by
  have hfold : ∀ m : KeyMap α,
      x ∈ (entries.foldl (fun m entry => m.insert entry.1 entry.2) m).toList →
        x ∈ entries ∨ x ∈ m.toList := by
    clear h
    induction entries with
    | nil => exact fun m hmem => .inr hmem
    | cons entry rest ih =>
      intro m hmem
      rcases ih _ hmem with hrest | hinsert
      · exact .inl (List.mem_cons_of_mem _ hrest)
      · rcases mem_insertIn hinsert with rfl | hold
        · exact .inl List.mem_cons_self
        · exact .inr hold
  exact (hfold empty h).resolve_right List.not_mem_nil

/-- The entries of a map make up the map in any order. -/
theorem ofList_of_perm {m : KeyMap α} {entries : List (String × α)} (h : entries.Perm m.toList) :
    ofList entries = m := by
  have hkeys : (entries.map Prod.fst).Nodup := (h.map Prod.fst).nodup_iff.2 m.nodup_keys
  refine ext (((toList_ofList_perm hkeys).trans h).eq_of_pairwise ?_ (ofList entries).ascending
    m.ascending)
  intro a b _ _ hab hba
  exact absurd (String.lt_trans hab hba) (String.lt_irrefl _)

/-- Two maps with the same entries of some kind have these in the same order, whatever other entries
stand between them. -/
theorem filter_toList_eq {m n : KeyMap α} {p : String × α → Bool}
    (h : ∀ x, p x = true → (x ∈ m.toList ↔ x ∈ n.toList)) :
    m.toList.filter p = n.toList.filter p := by
  have hperm : (m.toList.filter p).Perm (n.toList.filter p) := by
    have hm : (m.toList.filter p).Nodup := m.nodup_keys.of_map.filter p
    have hn : (n.toList.filter p).Nodup := n.nodup_keys.of_map.filter p
    rw [List.perm_ext_iff_of_nodup hm hn]
    intro x
    rw [List.mem_filter, List.mem_filter]
    exact and_congr_left (h x)
  refine hperm.eq_of_pairwise ?_ (m.ascending.filter p) (n.ascending.filter p)
  intro a b _ _ hab hba
  exact absurd (String.lt_trans hab hba) (String.lt_irrefl _)

/-- The map with every value changed. -/
def map (f : α → β) (m : KeyMap α) : KeyMap β where
  entries := m.entries.map fun entry => (entry.1, f entry.2)
  ascending := List.pairwise_map.2 m.ascending

@[simp]
theorem toList_map (f : α → β) (m : KeyMap α) :
    (m.map f).toList = m.toList.map fun entry => (entry.1, f entry.2) := rfl

end ManifestSarif.KeyMap
