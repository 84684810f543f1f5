import ManifestSarif.Manifest.Symbols
import Mathlib.Data.List.Induction
import Mathlib.Data.List.Nodup

/-!
# Tables of variables

A table is filled by one definition after the other.  A name that is defined again keeps its place
in the table and gets the new value.

* `names_define` says which names are in a table after a definition, and `mem_defineIn` which
  entries.
* `Symbols.Tabulates` says which table belongs to a list of definitions, without a look at how it is
  filled; `Tabulates.unique` says that it is one only.
* `tabulates_iff`: it is the table that the definitions fill.
-/

namespace ManifestSarif.Symbols

variable {entries definitions : List (List Char × List Char)} {name : List Char} {symbols : Symbols}

/-! ## One definition -/

theorem defineIn_of_not_mem (h : name ∉ entries.map (·.1)) (value : List Char) :
    defineIn name value entries = entries ++ [(name, value)] := by
  induction entries with
  | nil => rfl
  | cons entry entries ih =>
    rw [List.map_cons, List.mem_cons, not_or] at h
    rw [defineIn, if_neg (Ne.symm h.1), ih h.2, List.cons_append]

theorem map_fst_defineIn_of_mem (h : name ∈ entries.map (·.1)) (value : List Char) :
    (defineIn name value entries).map (·.1) = entries.map (·.1) := by
  induction entries with
  | nil => cases h
  | cons entry entries ih =>
    rw [defineIn]
    split
    · next heq => rw [List.map_cons, List.map_cons, heq]
    · next hne =>
      rw [List.map_cons, List.mem_cons] at h
      rw [List.map_cons, List.map_cons, ih (h.resolve_left (Ne.symm hne))]

/-- A name is in a table once, however often it is defined. -/
theorem names_define (h : (symbols.entries.map (·.1)).Nodup) (name value : List Char) :
    ((symbols.define name value).entries.map (·.1)).Nodup ∧
      ∀ other, other ∈ (symbols.define name value).entries.map (·.1) ↔
        other ∈ symbols.entries.map (·.1) ∨ other = name := by
  rw [define]
  by_cases hmem : name ∈ symbols.entries.map (·.1)
  · rw [map_fst_defineIn_of_mem hmem]
    refine ⟨h, fun other => ⟨Or.inl, ?_⟩⟩
    rintro (hother | rfl)
    · exact hother
    · exact hmem
  · rw [defineIn_of_not_mem hmem, List.map_append]
    refine ⟨List.nodup_append.2 ⟨h, by simp, ?_⟩, fun other => by simp⟩
    intro first hfirst last hlast heq
    rw [heq, List.mem_singleton.1 hlast] at hfirst
    exact hmem hfirst

/-- An entry after a definition is the new one, or an old one of another name. -/
theorem mem_defineIn (h : (entries.map (·.1)).Nodup) {value : List Char}
    {entry : List Char × List Char} (hentry : entry ∈ defineIn name value entries) :
    entry = (name, value) ∨ entry.1 ≠ name ∧ entry ∈ entries := by
  induction entries with
  | nil => exact Or.inl (List.mem_singleton.1 hentry)
  | cons first rest ih =>
    obtain ⟨hfirst, hrest⟩ := List.nodup_cons.1 h
    rw [defineIn] at hentry
    split at hentry
    · next hname =>
      rcases List.mem_cons.1 hentry with rfl | hentry
      · exact Or.inl rfl
      · -- The name is that of the first entry, and no other entry has it.
        have hother : entry.1 ≠ first.1 := fun hsame =>
          hfirst (List.mem_map.2 ⟨entry, hentry, hsame⟩)
        exact Or.inr ⟨hname ▸ hother, List.mem_cons_of_mem first hentry⟩
    · next hname =>
      rcases List.mem_cons.1 hentry with rfl | hentry
      · exact Or.inr ⟨hname, List.mem_cons_self⟩
      · exact (ih hrest hentry).imp_right fun hold => ⟨hold.1, List.mem_cons_of_mem first hold.2⟩

/-! ## All definitions -/

/-- The table that the definitions fill, from the first to the last. -/
def ofDefinitions (definitions : List (List Char × List Char)) : Symbols :=
  definitions.foldl (fun table entry => table.define entry.1 entry.2) .empty

/-- The table of the definitions: each name that is defined, once, in the order in which the names
are first defined, with the value of its last definition. -/
structure Tabulates (definitions : List (List Char × List Char)) (symbols : Symbols) : Prop where
  names_nodup : (symbols.entries.map (·.1)).Nodup
  names_eq : symbols.entries.map (·.1) = (definitions.map (·.1)).eraseDups
  last_of_mem : ∀ entry ∈ symbols.entries, ∃ before after,
    definitions = before ++ entry :: after ∧ entry.1 ∉ after.map (·.1)

theorem Tabulates.define (h : Tabulates definitions symbols) (name value : List Char) :
    Tabulates (definitions ++ [(name, value)]) (symbols.define name value) where
  names_nodup := (names_define h.names_nodup name value).1
  names_eq := by
    have hmem : name ∈ symbols.entries.map (·.1) ↔ name ∈ definitions.map (·.1) := by
      rw [h.names_eq, List.mem_eraseDups]
    rw [Symbols.define, List.map_append, List.map_singleton, List.eraseDups_append]
    by_cases hnew : name ∈ definitions.map (·.1)
    · rw [map_fst_defineIn_of_mem (hmem.2 hnew), h.names_eq]
      simp [List.removeAll, hnew]
    · rw [defineIn_of_not_mem (mt hmem.1 hnew), List.map_append, h.names_eq]
      simp [List.removeAll, hnew, List.eraseDups_cons]
  last_of_mem := by
    intro entry hentry
    rcases mem_defineIn h.names_nodup hentry with rfl | ⟨hother, hold⟩
    · exact ⟨definitions, [], rfl, List.not_mem_nil⟩
    · obtain ⟨before, after, rfl, hlast⟩ := h.last_of_mem entry hold
      refine ⟨before, after ++ [(name, value)], by rw [List.append_assoc, List.cons_append], ?_⟩
      rw [List.map_append, List.mem_append, not_or]
      exact ⟨hlast, mt List.mem_singleton.1 hother⟩

theorem ofDefinitions_concat (definitions : List (List Char × List Char))
    (entry : List Char × List Char) :
    ofDefinitions (definitions ++ [entry]) =
      (ofDefinitions definitions).define entry.1 entry.2 := by
  rw [ofDefinitions, List.foldl_append]
  rfl

theorem tabulates_ofDefinitions (definitions : List (List Char × List Char)) :
    Tabulates definitions (ofDefinitions definitions) := by
  induction definitions using List.reverseRecOn with
  | nil => exact ⟨List.nodup_nil, rfl, by simp [ofDefinitions, empty]⟩
  | append_singleton definitions entry ih =>
    rw [ofDefinitions_concat]
    exact ih.define entry.1 entry.2

/-- Names that are defined once each are in the table as they are defined. -/
theorem ofDefinitions_of_nodup (h : (definitions.map (·.1)).Nodup) :
    ofDefinitions definitions = ⟨definitions⟩ := by
  induction definitions using List.reverseRecOn with
  | nil => rfl
  | append_singleton definitions entry ih =>
    rw [List.map_append, List.nodup_append] at h
    have hfresh : entry.1 ∉ definitions.map (·.1) := fun hmem =>
      h.2.2 _ hmem _ (List.mem_singleton_self _) rfl
    rw [ofDefinitions_concat, ih h.1, define, defineIn_of_not_mem hfresh]

theorem Tabulates.mem_names_iff (h : Tabulates definitions symbols) :
    name ∈ symbols.entries.map (·.1) ↔ name ∈ definitions.map (·.1) := by
  rw [h.names_eq, List.mem_eraseDups]

/-- A definition of a name that is not defined again later is the same wherever it is looked for. -/
theorem eq_of_last {entry other : List Char × List Char} (hname : entry.1 = other.1)
    (hentry : ∃ before after, definitions = before ++ entry :: after ∧ entry.1 ∉ after.map (·.1))
    (hother : ∃ before after, definitions = before ++ other :: after ∧ other.1 ∉ after.map (·.1)) :
    entry = other := by
  obtain ⟨before, after, rfl, hlast⟩ := hentry
  obtain ⟨front, back, heq, hback⟩ := hother
  rcases List.append_eq_append_iff.1 heq with ⟨middle, rfl, hmiddle⟩ | ⟨middle, rfl, hmiddle⟩
  · cases middle with
    | nil => exact (List.cons.inj hmiddle).1
    | cons first middle =>
      obtain ⟨-, rfl⟩ := List.cons.inj hmiddle
      rw [hname] at hlast
      exact absurd (by simp) hlast
  · cases middle with
    | nil => exact (List.cons.inj hmiddle).1.symm
    | cons first middle =>
      obtain ⟨-, rfl⟩ := List.cons.inj hmiddle
      rw [← hname] at hback
      exact absurd (by simp) hback

/-- One table at most belongs to a list of definitions. -/
theorem Tabulates.unique {other : Symbols} (h : Tabulates definitions symbols)
    (h' : Tabulates definitions other) : symbols = other := by
  obtain ⟨entries⟩ := symbols
  obtain ⟨others⟩ := other
  have hnames : entries.map (·.1) = others.map (·.1) := h.names_eq.trans h'.names_eq.symm
  have hsame : entries = others := by
    refine List.ext_getElem (by simpa using congrArg List.length hnames) fun i hi hi' => ?_
    refine eq_of_last ?_ (h.last_of_mem _ (List.getElem_mem hi))
      (h'.last_of_mem _ (List.getElem_mem hi'))
    have hi'' : i < (entries.map (·.1)).length := by rwa [List.length_map]
    simpa using List.getElem_of_eq hnames hi''
  rw [hsame]

theorem tabulates_iff : Tabulates definitions symbols ↔ symbols = ofDefinitions definitions := by
  have htable := tabulates_ofDefinitions definitions
  exact ⟨fun hother => hother.unique htable, fun heq => heq ▸ htable⟩

end ManifestSarif.Symbols
