/-!
# Maps with text keys

A finite map from texts to values as a list of entries in ascending order of their keys, by code
point.  Two maps with the same entries are equal.

* `KeyMap.insert` adds an entry or replaces the value of its key,
* `KeyMap.ofList` inserts entries one after the other, so that of equal keys the last one counts.
-/

namespace ManifestSarif

/-- Entries in strictly ascending order of their keys. -/
structure KeyMap (α : Type) where
  entries : List (String × α)
  ascending : entries.Pairwise fun a b => a.1 < b.1

namespace KeyMap

variable {α β : Type}

/-- The map without entries. -/
def empty : KeyMap α := ⟨[], .nil⟩

@[ext]
theorem ext {m n : KeyMap α} (h : m.entries = n.entries) : m = n := by
  cases m; cases n; cases h; rfl

/-- The entries with the value of `key` set. -/
def insertIn (key : String) (value : α) : List (String × α) → List (String × α)
  | [] => [(key, value)]
  | entry :: rest =>
    if key < entry.1 then (key, value) :: entry :: rest
    else if key = entry.1 then (key, value) :: rest
    else entry :: insertIn key value rest

theorem mem_insertIn {key : String} {value : α} {x : String × α} {entries : List (String × α)}
    (h : x ∈ insertIn key value entries) : x = (key, value) ∨ x ∈ entries := by
  induction entries with
  | nil => simpa [insertIn] using h
  | cons entry rest ih =>
    simp only [insertIn] at h
    split at h
    · simpa using h
    · split at h
      · rcases List.mem_cons.1 h with h | h
        · exact .inl h
        · exact .inr (List.mem_cons_of_mem _ h)
      · rcases List.mem_cons.1 h with h | h
        · exact .inr (h ▸ List.mem_cons_self)
        · exact (ih h).imp_right (List.mem_cons_of_mem _)

theorem pairwise_insertIn {key : String} {value : α} {entries : List (String × α)}
    (h : entries.Pairwise fun a b => a.1 < b.1) :
    (insertIn key value entries).Pairwise fun a b => a.1 < b.1 := by
  induction entries with
  | nil => simp [insertIn]
  | cons entry rest ih =>
    obtain ⟨hlt, hrest⟩ := List.pairwise_cons.1 h
    simp only [insertIn]
    split
    · next hkey =>
      refine List.pairwise_cons.2 ⟨fun x hx => ?_, h⟩
      rcases List.mem_cons.1 hx with rfl | hx
      · exact hkey
      · exact String.lt_trans hkey (hlt x hx)
    · split
      · next heq => exact List.pairwise_cons.2 ⟨fun x hx => heq ▸ hlt x hx, hrest⟩
      · next hkey hne =>
        refine List.pairwise_cons.2 ⟨fun x hx => ?_, ih hrest⟩
        rcases mem_insertIn hx with rfl | hx
        · exact Std.lt_of_le_of_ne (String.not_lt.1 hkey) (Ne.symm hne)
        · exact hlt x hx

/-- The map with the value of `key` set. -/
def insert (m : KeyMap α) (key : String) (value : α) : KeyMap α :=
  ⟨insertIn key value m.entries, pairwise_insertIn m.ascending⟩

/-- The map of some entries; of equal keys the last one counts. -/
def ofList (entries : List (String × α)) : KeyMap α :=
  entries.foldl (fun m entry => m.insert entry.1 entry.2) empty

/-- The value of a key. -/
def get? (m : KeyMap α) (key : String) : Option α :=
  m.entries.lookup key

/-- The entries, in order of their keys. -/
def toList (m : KeyMap α) : List (String × α) :=
  m.entries

end KeyMap

end ManifestSarif
