import ManifestSarif.Manifest.Gradle
import ManifestSarif.Proofs.Occurrences
import ManifestSarif.Proofs.Words

/-!
# What a line of a script says

A line of a Gradle script is looked at for the word `ext` and for assignments of quoted values, of
which the first counts.

* `NamesExt` are the lines that have the word; `namesExt_iff`: they are found.
* `StartsAssignment` is the way an assignment is written, and `AssignsFrom` says where on a line one
  is; `assignmentFrom?_eq_some_iff`: the first one is found.
* `Defines` is what a line defines, and `defines_iff` says that this is what is read from it.
-/

namespace ManifestSarif.Gradle

open Text

/-! ## The word -/

theorem isWord_of_mem_ext : ∀ c ∈ ['e', 'x', 't'], isWord c = true :=
  List.all_eq_true.1 (by decide)

/-- The line has the word `ext`. -/
def NamesExt (code : List Char) : Prop :=
  HasWord ['e', 'x', 't'] code

variable {word code text name value before : List Char} {inWord : Bool}

/-- A word is found at the start, if no word character comes before the text, or further on. -/
theorem hasWord_eq_true_iff (hne : word ≠ []) (hword : ∀ c ∈ word, isWord c = true) :
    hasWord word inWord text = true ↔ ∃ before after, text = before ++ word ++ after ∧
      (before = [] → inWord = false) ∧ (∀ c ∈ before.getLast?, isWord c = false) ∧
        ∀ c ∈ after.head?, isWord c = false := by
  induction text generalizing inWord with
  | nil =>
    refine ⟨fun h => absurd h Bool.false_ne_true, ?_⟩
    rintro ⟨before, after, heq, -⟩
    exact absurd heq.symm (by simp [hne])
  | cons c rest ih =>
    rw [hasWord, Bool.or_eq_true, Bool.and_eq_true, any_boundary_iff, ih]
    constructor
    · rintro (⟨hstarts, after, heq, hafter⟩ | ⟨before, after, rfl, hnil, hbefore, hafter⟩)
      · refine ⟨[], after, heq, fun _ => ?_, by simp, hafter⟩
        obtain ⟨first, word, rfl⟩ := List.exists_cons_of_ne_nil hne
        obtain ⟨rfl, -⟩ := List.cons.inj heq
        rw [boundary_cons (hword _ List.mem_cons_self)] at hstarts
        simpa using hstarts
      · refine ⟨c :: before, after, rfl, by simp, ?_, hafter⟩
        cases before with
        | nil => simpa using hnil rfl
        | cons d before => simpa using hbefore
    · rintro ⟨before, after, heq, hnil, hbefore, hafter⟩
      cases before with
      | nil =>
        refine Or.inl ⟨?_, after, heq, hafter⟩
        obtain ⟨first, word, rfl⟩ := List.exists_cons_of_ne_nil hne
        obtain ⟨rfl, -⟩ := List.cons.inj heq
        rw [boundary_cons (hword _ List.mem_cons_self), hnil rfl]
        rfl
      | cons d before =>
        obtain ⟨rfl, rfl⟩ := List.cons.inj heq
        refine Or.inr ⟨before, after, by simp, ?_, ?_, hafter⟩
        · rintro rfl
          exact hbefore c rfl
        · cases before with
          | nil => simp
          | cons d before => simpa using hbefore

theorem namesExt_iff : namesExt code = true ↔ NamesExt code := by
  rw [namesExt, hasWord_eq_true_iff (List.cons_ne_nil _ _) isWord_of_mem_ext]
  simp only [NamesExt, HasWord, implies_true, true_and]

instance : DecidablePred NamesExt := fun _ =>
  decidable_of_iff _ namesExt_iff

/-! ## Assignments -/

/-- The text starts with a name, `=` and a value between two equal quotes that are not in it; white
space may stand around the `=`. -/
def StartsAssignment (name value text : List Char) : Prop :=
  ∃ gap gap' quote after, text = name ++ gap ++ '=' :: gap' ++ quote :: value ++ quote :: after ∧
    Blanks gap ∧ Blanks gap' ∧ (quote = '\'' ∨ quote = '"') ∧ quote ∉ value ∧ name ≠ [] ∧
    ∀ c ∈ name, isWord c = true

theorem quoted?_eq_some_iff : quoted? text = some value ↔ ∃ quote after,
    text = quote :: value ++ quote :: after ∧ (quote = '\'' ∨ quote = '"') ∧ quote ∉ value := by
  constructor
  · intro h
    unfold quoted? at h
    split at h
    · cases h
    · next quote rest =>
      split at h
      · next hquote =>
        obtain ⟨⟨inner, after⟩, hcut, rfl⟩ := Option.map_eq_some_iff.1 h
        obtain ⟨rfl, hvalue⟩ := cutAt_eq_some_iff.1 hcut
        exact ⟨quote, after, rfl, hquote, hvalue⟩
      · cases h
  · rintro ⟨quote, after, rfl, hquote, hvalue⟩
    show (if quote = '\'' ∨ quote = '"' then (cutAt quote (value ++ quote :: after)).map (·.1)
      else none) = some value
    rw [if_pos hquote, cutAt_append hvalue]
    rfl

theorem assignmentAt?_eq_some_iff (hfirst : ∃ c ∈ text.head?, isWord c = true) :
    assignmentAt? text = some (name, value) ↔ StartsAssignment name value text := by
  constructor
  · intro h
    rw [assignmentAt?] at h
    split at h
    · next rest hrest =>
      obtain ⟨inner, hquoted, heq⟩ := Option.map_eq_some_iff.1 h
      obtain ⟨rfl, rfl⟩ := Prod.mk.inj heq
      obtain ⟨gap, hgap, hdrop⟩ := exists_blanks_trimStart (text.dropWhile isWord)
      obtain ⟨gap', hgap', htail⟩ := exists_blanks_trimStart rest
      obtain ⟨quote, after, hvalue, hquote, hmem⟩ := quoted?_eq_some_iff.1 hquoted
      refine ⟨gap, gap', quote, after, ?_, hgap, hgap', hquote, hmem, ?_, isWord_of_mem_takeWhile⟩
      · rw [hrest, htail, hvalue] at hdrop
        have hsplit := (List.takeWhile_append_dropWhile (p := isWord) (l := text)).symm
        rw [hdrop] at hsplit
        simpa using hsplit
      · obtain ⟨c, hc, hword⟩ := hfirst
        obtain ⟨rest, rfl⟩ := List.head?_eq_some_iff.1 (Option.mem_def.1 hc)
        rw [List.takeWhile_cons_of_pos hword]
        exact List.cons_ne_nil _ _
    · cases h
  · rintro ⟨gap, gap', quote, after, rfl, hgap, hgap', hquote, hmem, hne, hword⟩
    have hequals : isWord '=' = false := by decide
    have hends : ∀ c ∈ (gap ++ '=' :: (gap' ++ quote :: (value ++ quote :: after))).head?,
        isWord c = false := by
      cases gap with
      | nil => simpa using hequals
      | cons c gap => simpa using isWord_of_isBlank (hgap c List.mem_cons_self)
    obtain ⟨htake, hdrop⟩ := takeWhile_append_of_head? hword hends
    have hblank : isBlank quote = false := by rcases hquote with rfl | rfl <;> decide
    have hstart : trimStart ('=' :: (gap' ++ quote :: (value ++ quote :: after))) =
        '=' :: (gap' ++ quote :: (value ++ quote :: after)) :=
      trimStart_eq_self fun c hc => by cases hc; decide
    have hvalue : trimStart (quote :: (value ++ quote :: after)) =
        quote :: (value ++ quote :: after) := trimStart_eq_self (by simpa using hblank)
    simp only [List.append_assoc, List.cons_append]
    rw [assignmentAt?, htake, hdrop, trimStart_append hgap, hstart]
    show (quoted? (trimStart (gap' ++ quote :: (value ++ quote :: after)))).map _ = _
    rw [trimStart_append hgap', hvalue, ← List.cons_append,
      quoted?_eq_some_iff.2 ⟨quote, after, rfl, hquote, hmem⟩]
    rfl

/-- Behind `before` the text goes on with an assignment, whose name is a word from its first
character on; `inWord` tells whether a word character comes before the text. -/
structure AssignsFrom (inWord : Bool) (before name value text : List Char) : Prop where
  starts : ∃ rest, text = before ++ rest ∧ StartsAssignment name value rest
  inWord_of_nil : before = [] → inWord = false
  isWord_of_getLast? : ∀ c ∈ before.getLast?, isWord c = false

theorem StartsAssignment.isWord_of_head? (h : StartsAssignment name value text) :
    ∃ c ∈ text.head?, isWord c = true := by
  obtain ⟨gap, gap', quote, after, rfl, -, -, -, -, hne, hword⟩ := h
  obtain ⟨c, name, rfl⟩ := List.exists_cons_of_ne_nil hne
  exact ⟨c, rfl, hword c List.mem_cons_self⟩

theorem AssignsFrom.append (h : AssignsFrom inWord before name value text) (more : List Char) :
    AssignsFrom inWord before name value (text ++ more) := by
  obtain ⟨⟨rest, rfl, gap, gap', quote, after, rfl, hassigns⟩, hnil, hlast⟩ := h
  exact ⟨⟨_, List.append_assoc _ _ more, gap, gap', quote, after ++ more, by simp, hassigns⟩, hnil,
    hlast⟩

theorem assignsFrom_nil_iff :
    AssignsFrom inWord [] name value text ↔ inWord = false ∧ StartsAssignment name value text := by
  constructor
  · rintro ⟨⟨rest, rfl, hrest⟩, hnil, -⟩
    exact ⟨hnil rfl, hrest⟩
  · rintro ⟨hnil, hstarts⟩
    exact ⟨⟨text, rfl, hstarts⟩, fun _ => hnil, by simp⟩

theorem assignsFrom_cons_iff {c d : Char} :
    AssignsFrom inWord (d :: before) name value (c :: text) ↔
      d = c ∧ AssignsFrom (isWord c) before name value text := by
  have hlast : (∀ e ∈ (c :: before).getLast?, isWord e = false) ↔
      (before = [] → isWord c = false) ∧ ∀ e ∈ before.getLast?, isWord e = false := by
    cases before <;> simp
  constructor
  · rintro ⟨⟨rest, heq, hrest⟩, -, hends⟩
    obtain ⟨rfl, rfl⟩ := List.cons.inj heq
    obtain ⟨hnil, hends⟩ := hlast.1 hends
    exact ⟨rfl, ⟨rest, rfl, hrest⟩, hnil, hends⟩
  · rintro ⟨rfl, ⟨rest, rfl, hrest⟩, hnil, hends⟩
    exact ⟨⟨rest, rfl, hrest⟩, nofun, hlast.2 ⟨hnil, hends⟩⟩

theorem not_assignsFrom_nil : ¬AssignsFrom inWord before name value [] := by
  rintro ⟨⟨rest, heq, hrest⟩, -⟩
  obtain ⟨-, rfl⟩ := List.append_eq_nil_iff.1 heq.symm
  obtain ⟨c, hc, -⟩ := hrest.isWord_of_head?
  cases hc

/-- The assignment at the start of a text, if a word starts there. -/
theorem assignment_here_iff {c : Char} {rest : List Char} :
    (if isWord c && !inWord then assignmentAt? (c :: rest) else none) = some (name, value) ↔
      AssignsFrom inWord [] name value (c :: rest) := by
  rw [assignsFrom_nil_iff]
  by_cases hc : isWord c = true
  · cases inWord with
    | true => simp
    | false =>
      simp only [hc, Bool.not_false, Bool.and_self, if_true, true_and]
      exact assignmentAt?_eq_some_iff ⟨c, rfl, hc⟩
  · simp only [hc, Bool.false_and, Bool.false_eq_true, if_false, reduceCtorEq, false_iff, not_and]
    intro _ hstarts
    obtain ⟨d, hd, hword⟩ := hstarts.isWord_of_head?
    cases hd
    exact hc hword

theorem assignmentFrom?_cons (inWord : Bool) (c : Char) (rest : List Char) :
    assignmentFrom? inWord (c :: rest) =
      (if isWord c && !inWord then assignmentAt? (c :: rest) else none).or
        (assignmentFrom? (isWord c) rest) := by
  rw [assignmentFrom?]
  cases (if isWord c && !inWord then assignmentAt? (c :: rest) else none) <;> rfl

/-- The first assignment of the text. -/
def FirstAssigns (inWord : Bool) (name value text : List Char) : Prop :=
  ∃ before, AssignsFrom inWord before name value text ∧
    ∀ other name value, AssignsFrom inWord other name value text → before.length ≤ other.length

theorem firstAssigns_of_assignmentFrom? (h : assignmentFrom? inWord text = some (name, value)) :
    FirstAssigns inWord name value text := by
  induction text generalizing inWord with
  | nil => cases h
  | cons c rest ih =>
    rw [assignmentFrom?_cons] at h
    rcases Option.or_eq_some_iff.1 h with hhere | ⟨hhere, hlater⟩
    · exact ⟨[], assignment_here_iff.1 hhere, fun _ _ _ _ => Nat.zero_le _⟩
    · obtain ⟨before, hbefore, hfirst⟩ := ih hlater
      refine ⟨c :: before, assignsFrom_cons_iff.2 ⟨rfl, hbefore⟩, ?_⟩
      intro other name value hother
      cases other with
      | nil =>
        rw [assignment_here_iff.2 hother] at hhere
        cases hhere
      | cons d other => exact Nat.succ_le_succ (hfirst _ _ _ (assignsFrom_cons_iff.1 hother).2)

theorem assignmentFrom?_eq_none (h : assignmentFrom? inWord text = none) :
    ¬AssignsFrom inWord before name value text := by
  induction text generalizing inWord before with
  | nil => exact not_assignsFrom_nil
  | cons c rest ih =>
    rw [assignmentFrom?_cons] at h
    obtain ⟨hhere, hlater⟩ := Option.or_eq_none_iff.1 h
    cases before with
    | nil =>
      intro hnow
      rw [assignment_here_iff.2 hnow] at hhere
      cases hhere
    | cons d before => exact fun hother => ih hlater (assignsFrom_cons_iff.1 hother).2

/-- What is assigned at a place of a text, and the text before it, are told by how long that text
is. -/
theorem AssignsFrom.unique {other name' value' : List Char}
    (h : AssignsFrom inWord before name value text)
    (h' : AssignsFrom inWord other name' value' text) (hlength : before.length = other.length) :
    name = name' ∧ value = value' := by
  obtain ⟨⟨rest, rfl, hrest⟩, -⟩ := h
  obtain ⟨⟨rest', heq, hrest'⟩, -⟩ := h'
  obtain ⟨rfl, rfl⟩ := List.append_inj heq hlength
  have hread := (assignmentAt?_eq_some_iff hrest.isWord_of_head?).2 hrest
  rw [(assignmentAt?_eq_some_iff hrest.isWord_of_head?).2 hrest'] at hread
  obtain ⟨rfl, rfl⟩ := Prod.mk.inj (Option.some.inj hread)
  exact ⟨rfl, rfl⟩

/-- The assignment that is found is the first one. -/
theorem assignmentFrom?_eq_some_iff :
    assignmentFrom? inWord text = some (name, value) ↔ FirstAssigns inWord name value text := by
  refine ⟨firstAssigns_of_assignmentFrom?, ?_⟩
  rintro ⟨before, hbefore, hfirst⟩
  cases hfound : assignmentFrom? inWord text with
  | none => exact absurd hbefore (assignmentFrom?_eq_none hfound)
  | some found =>
    obtain ⟨other, hother, hearlier⟩ := firstAssigns_of_assignmentFrom? hfound
    obtain ⟨rfl, rfl⟩ := hbefore.unique hother
      (Nat.le_antisymm (hfirst _ _ _ hother) (hearlier _ _ _ hbefore))
    rfl

/-! ## Definitions -/

/-- What a line defines: the name of its first assignment, as the value without the white space at
its ends, or nothing if it has no assignment. -/
inductive Defines (code : List Char) : Option (List Char × List Char) → Prop where
  | assigned {name value : List Char} (hfirst : FirstAssigns false name value code) :
      Defines code (some (name, trim value))
  | nothing (hnone : ∀ before name value, ¬AssignsFrom false before name value code) :
      Defines code none

/-- What a line defines is what is read from it. -/
theorem defines_iff {said : Option (List Char × List Char)} :
    Defines code said ↔ assignment? code = said := by
  constructor
  · rintro (hfirst | hnone)
    · rw [assignment?, assignmentFrom?_eq_some_iff.2 hfirst, Option.map_some]
    · cases hfound : assignmentFrom? false code with
      | none => rw [assignment?, hfound, Option.map_none]
      | some found =>
        obtain ⟨before, hbefore, -⟩ := assignmentFrom?_eq_some_iff.1 hfound
        exact absurd hbefore (hnone before _ _)
  · rintro rfl
    cases hfound : assignmentFrom? false code with
    | none =>
      rw [assignment?, hfound, Option.map_none]
      exact .nothing fun before name value => assignmentFrom?_eq_none hfound
    | some found =>
      rw [assignment?, hfound, Option.map_some]
      exact .assigned (assignmentFrom?_eq_some_iff.1 hfound)

end ManifestSarif.Gradle
