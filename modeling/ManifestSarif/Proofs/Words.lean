import ManifestSarif.Proofs.WhiteSpace
import ManifestSarif.Text.Word
import Mathlib.Data.List.Infix

/-!
# Words in a text

A word of a text is a run of word characters that has none before it and none behind it.

* `takeWhile_append_of_head?` reads a run of word characters back.
* `isWord_of_isBlank`: white space is no part of a word.
* `HasWord` says where a given word stands in a text; `HasWord.append_iff`: if no run of word
  characters goes on from one text to the next, their words are those of the whole.
-/

namespace ManifestSarif.Text

/-! ## Runs of word characters -/

theorem isWord_of_mem_takeWhile {text : List Char} : ∀ c ∈ text.takeWhile isWord, isWord c = true :=
  List.all_eq_true.1 List.all_takeWhile

theorem isWord_of_mem_head?_dropWhile {text : List Char} :
    ∀ c ∈ (text.dropWhile isWord).head?, isWord c = false := by
  intro c hc
  have hhead := List.head?_dropWhile_not isWord text
  rw [Option.mem_def.1 hc] at hhead
  simpa using hhead

theorem takeWhile_append_of_head? {word after : List Char} (hword : ∀ c ∈ word, isWord c = true)
    (hafter : ∀ c ∈ after.head?, isWord c = false) :
    (word ++ after).takeWhile isWord = word ∧ (word ++ after).dropWhile isWord = after := by
  have hstop : after.takeWhile isWord = [] ∧ after.dropWhile isWord = after := by
    cases after with
    | nil => exact ⟨rfl, rfl⟩
    | cons c after => simp [hafter c rfl]
  rw [List.takeWhile_append_of_pos hword, List.dropWhile_append_of_pos hword, hstop.1, hstop.2,
    List.append_nil]
  exact ⟨rfl, rfl⟩

/-- A word in the first of two texts ends there, so that its run is told by the first text. -/
theorem takeWhile_append_of_ends {text more : List Char}
    (h : (∃ c ∈ text, isWord c = false) ∨ ∀ c ∈ more.head?, isWord c = false) :
    (text ++ more).takeWhile isWord = text.takeWhile isWord ∧
      (text ++ more).dropWhile isWord = text.dropWhile isWord ++ more := by
  have hends : ∀ c ∈ (text.dropWhile isWord ++ more).head?, isWord c = false := by
    cases hdrop : text.dropWhile isWord with
    | cons c rest =>
      have hhead := @isWord_of_mem_head?_dropWhile text
      rwa [hdrop] at hhead
    | nil =>
      refine h.resolve_left ?_
      rintro ⟨c, hc, hword⟩
      rw [← List.takeWhile_append_dropWhile (p := isWord) (l := text), hdrop, List.append_nil] at hc
      rw [isWord_of_mem_takeWhile c hc] at hword
      cases hword
  have hsplit := takeWhile_append_of_head? (@isWord_of_mem_takeWhile text) hends
  rwa [← List.append_assoc, List.takeWhile_append_dropWhile] at hsplit

/-- The codes of the white-space characters. -/
def blankCodes : List Nat :=
  [0x09, 0x0a, 0x0b, 0x0c, 0x0d, 0x20, 0x85, 0xa0, 0x1680, 0x2000, 0x2001, 0x2002, 0x2003, 0x2004,
    0x2005, 0x2006, 0x2007, 0x2008, 0x2009, 0x200a, 0x2028, 0x2029, 0x202f, 0x205f, 0x3000]

theorem toNat_mem_blankCodes {c : Char} (h : isBlank c = true) : c.toNat ∈ blankCodes := by
  simp only [isBlank, Bool.or_eq_true, Bool.and_eq_true, decide_eq_true_eq, beq_iff_eq] at h
  simp only [blankCodes, List.mem_cons, List.not_mem_nil, or_false]
  omega

theorem isWord_of_isBlank {c : Char} (h : isBlank c = true) : isWord c = false := by
  have hcodes : ∀ n ∈ blankCodes, isWord (Char.ofNat n) = false := by decide +kernel
  rw [← Char.ofNat_toNat c]
  exact hcodes _ (toNat_mem_blankCodes h)

theorem isWord_of_mem_head?_of_blanks {text : List Char} (h : Blanks text) :
    ∀ c ∈ text.head?, isWord c = false :=
  fun c hc => isWord_of_isBlank (h c (List.mem_of_mem_head? hc))

theorem isWord_of_mem_head?_blanks_append {front : List Char} (h : Blanks front) (hne : front ≠ [])
    (text : List Char) : ∀ c ∈ (front ++ text).head?, isWord c = false := by
  rw [List.head?_append_of_ne_nil _ hne]
  exact isWord_of_mem_head?_of_blanks h

/-! ## Word boundaries -/

theorem boundary_cons {c : Char} (hc : isWord c = true) (inWord : Bool) (rest : List Char) :
    boundary inWord (c :: rest) = !inWord := by
  cases inWord <;> simp [boundary, hc]

/-- A text starts with the word, and no word character follows. -/
theorem any_boundary_iff {word text : List Char} :
    (word.isPrefixOf? text).any (boundary true) = true ↔
      ∃ after, text = word ++ after ∧ ∀ c ∈ after.head?, isWord c = false := by
  have hends : ∀ after : List Char,
      boundary true after = true ↔ ∀ c ∈ after.head?, isWord c = false := by
    intro after
    cases after <;> simp [boundary]
  rw [Option.any_eq_true]
  constructor
  · rintro ⟨after, hstart, hafter⟩
    exact ⟨after, (List.isPrefixOf?_eq_some_iff_append_eq.1 hstart).symm, (hends after).1 hafter⟩
  · rintro ⟨after, rfl, hafter⟩
    exact ⟨after, List.isPrefixOf?_eq_some_iff_append_eq.2 rfl, (hends after).2 hafter⟩

/-! ## A given word -/

/-- The word stands in the text, and no word character before it or behind it. -/
def HasWord (word text : List Char) : Prop :=
  ∃ before after, text = before ++ word ++ after ∧ (∀ c ∈ before.getLast?, isWord c = false) ∧
    ∀ c ∈ after.head?, isWord c = false

/-- No run of word characters goes on from the first text to the second. -/
def WordsApart (left right : List Char) : Prop :=
  (∀ c ∈ left.getLast?, isWord c = false) ∨ ∀ c ∈ right.head?, isWord c = false

variable {word left right : List Char}

theorem WordsApart.of_blanks_left (h : Blanks left) (right : List Char) : WordsApart left right :=
  Or.inl fun c hc => isWord_of_isBlank (h c (List.mem_of_mem_getLast? hc))

theorem WordsApart.of_blanks_right (left : List Char) (h : Blanks right) : WordsApart left right :=
  Or.inr (isWord_of_mem_head?_of_blanks h)

theorem not_hasWord_of_forall (h : ∀ c ∈ left, isWord c = false) (hne : word ≠ [])
    (hword : ∀ c ∈ word, isWord c = true) : ¬HasWord word left := by
  rintro ⟨before, after, rfl, -⟩
  obtain ⟨c, rest, rfl⟩ := List.exists_cons_of_ne_nil hne
  have hc := h c (by simp)
  rw [hword c List.mem_cons_self] at hc
  cases hc

theorem HasWord.append_left (h : HasWord word left) (hne : word ≠ [])
    (hword : ∀ c ∈ word, isWord c = true) (hapart : WordsApart left right) :
    HasWord word (left ++ right) := by
  obtain ⟨before, after, rfl, hbefore, hafter⟩ := h
  refine ⟨before, after ++ right, by simp, hbefore, ?_⟩
  cases after with
  | cons c after => exact hafter
  | nil =>
    rw [List.append_nil] at hapart
    rcases hapart with hleft | hright
    · rw [List.getLast?_append_of_ne_nil before hne,
        List.getLast?_eq_getLast_of_ne_nil hne] at hleft
      have hlast := hleft _ rfl
      rw [hword _ (List.getLast_mem hne)] at hlast
      cases hlast
    · exact hright

theorem HasWord.append_right (h : HasWord word right) (hne : word ≠ [])
    (hword : ∀ c ∈ word, isWord c = true) (hapart : WordsApart left right) :
    HasWord word (left ++ right) := by
  obtain ⟨before, after, rfl, hbefore, hafter⟩ := h
  refine ⟨left ++ before, after, by simp, ?_, hafter⟩
  by_cases hnil : before = []
  · subst hnil
    obtain ⟨first, word, rfl⟩ := List.exists_cons_of_ne_nil hne
    rcases hapart with hleft | hright
    · rwa [List.append_nil]
    · have hfirst := hright first rfl
      rw [hword first List.mem_cons_self] at hfirst
      cases hfirst
  · rwa [List.getLast?_append_of_ne_nil left hnil]

/-- The words of two texts that are apart are the words of the whole. -/
theorem HasWord.append_iff (hne : word ≠ []) (hword : ∀ c ∈ word, isWord c = true)
    (hapart : WordsApart left right) :
    HasWord word (left ++ right) ↔ HasWord word left ∨ HasWord word right := by
  refine ⟨?_, fun h => h.elim (fun h => h.append_left hne hword hapart)
    fun h => h.append_right hne hword hapart⟩
  rintro ⟨before, after, heq, hbefore, hafter⟩
  rw [List.append_assoc] at heq
  rcases List.append_eq_append_iff.1 heq with ⟨front, rfl, rfl⟩ | ⟨back, rfl, hover⟩
  · refine Or.inr ⟨front, after, by simp, ?_, hafter⟩
    cases front with
    | nil => simp
    | cons c front =>
      rwa [List.getLast?_append_of_ne_nil left (List.cons_ne_nil c front)] at hbefore
  · rcases List.append_eq_append_iff.1 hover with ⟨front, rfl, rfl⟩ | ⟨rest, rfl, rfl⟩
    · refine Or.inl ⟨before, front, by simp, hbefore, ?_⟩
      cases front with
      | nil => simp
      | cons c front => exact hafter
    · -- The word stands across the place where the texts meet, unless it ends or starts there.
      by_cases hback : back = []
      · subst hback
        exact Or.inr ⟨[], after, by simp, by simp, hafter⟩
      · cases rest with
        | nil => exact Or.inl ⟨before, [], by simp, hbefore, by simp⟩
        | cons c rest =>
          rcases hapart with hleft | hright
          · rw [List.getLast?_append_of_ne_nil before hback,
              List.getLast?_eq_getLast_of_ne_nil hback] at hleft
            have hlast := hleft _ rfl
            rw [hword _ (List.mem_append_left _ (List.getLast_mem hback))] at hlast
            cases hlast
          · have hfirst := hright c rfl
            rw [hword c (by simp)] at hfirst
            cases hfirst

end ManifestSarif.Text
