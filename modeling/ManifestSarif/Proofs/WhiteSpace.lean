import ManifestSarif.Text.Blank
import Mathlib.Data.List.Basic

/-!
# White space at the ends of a text

Cutting white space from an end of a text takes all of it that is there and nothing else.

* `Blanks` are the texts of white space.
* `trimStart_append` and `trimEnd_append` cut white space that is put at an end, and
  `trimStart_eq_self` and `trimEnd_eq_self` say which texts are not cut.
* `trim_of_blanks` puts them together, and `exists_blanks_trim` says what `trim` has cut.
-/

namespace ManifestSarif.Text

/-- The text is white space, perhaps none. -/
def Blanks (text : List Char) : Prop :=
  ∀ c ∈ text, isBlank c = true

instance : DecidablePred Blanks := fun _ =>
  decidable_of_iff _ List.all_eq_true

variable {text lead trail : List Char}

theorem blanks_nil : Blanks [] :=
  List.forall_mem_nil _

theorem Blanks.reverse (h : Blanks text) : Blanks text.reverse :=
  fun c hc => h c (List.mem_reverse.1 hc)

theorem not_mem_of_blanks {c : Char} (h : Blanks text) (hc : isBlank c = false) : c ∉ text := by
  intro hmem
  rw [h c hmem] at hc
  cases hc

/-! ## The start -/

theorem trimStart_append (h : Blanks lead) (text : List Char) :
    trimStart (lead ++ text) = trimStart text :=
  List.dropWhile_append_of_pos h

theorem trimStart_eq_self (h : ∀ c ∈ text.head?, isBlank c = false) : trimStart text = text := by
  cases text with
  | nil => rfl
  | cons c text => exact List.dropWhile_cons_of_neg (by simp [h c rfl])

theorem trimStart_of_blanks (h : Blanks text) : trimStart text = [] := by
  rw [← List.append_nil text, trimStart_append h]
  rfl

theorem trimStart_append_of_not_blanks (h : ¬Blanks text) (trail : List Char) :
    trimStart (text ++ trail) = trimStart text ++ trail := by
  induction text with
  | nil => exact absurd blanks_nil h
  | cons c text ih =>
    by_cases hc : isBlank c = true
    · rw [List.cons_append, trimStart, List.dropWhile_cons_of_pos hc, trimStart,
        List.dropWhile_cons_of_pos hc]
      exact ih fun hblank => h (List.forall_mem_cons.2 ⟨hc, hblank⟩)
    · rw [List.cons_append, trimStart, List.dropWhile_cons_of_neg hc, trimStart,
        List.dropWhile_cons_of_neg hc, List.cons_append]

theorem isBlank_of_mem_head?_trimStart : ∀ c ∈ (trimStart text).head?, isBlank c = false := by
  intro c hc
  have hhead := List.head?_dropWhile_not isBlank text
  rw [trimStart] at hc
  rw [Option.mem_def.1 hc] at hhead
  simpa using hhead

/-- What is cut at the start is white space. -/
theorem exists_blanks_trimStart (text : List Char) :
    ∃ lead, Blanks lead ∧ text = lead ++ trimStart text :=
  ⟨text.takeWhile isBlank, List.all_eq_true.1 List.all_takeWhile,
    List.takeWhile_append_dropWhile.symm⟩

theorem blanks_of_trimStart_eq_nil (h : trimStart text = []) : Blanks text := by
  obtain ⟨lead, hlead, heq⟩ := exists_blanks_trimStart text
  rwa [heq, h, List.append_nil]

theorem head?_trimStart_append (h : ¬Blanks text) (trail : List Char) :
    (trimStart (text ++ trail)).head? = (trimStart text).head? := by
  rw [trimStart_append_of_not_blanks h]
  exact List.head?_append_of_ne_nil _ (mt blanks_of_trimStart_eq_nil h)

/-! ## The end -/

theorem trimEnd_append (h : Blanks trail) (text : List Char) :
    trimEnd (text ++ trail) = trimEnd text := by
  rw [trimEnd, List.reverse_append, List.dropWhile_append_of_pos h.reverse, trimEnd]

theorem trimEnd_eq_self (h : ∀ c ∈ text.getLast?, isBlank c = false) : trimEnd text = text := by
  have hstart : trimStart text.reverse = text.reverse :=
    trimStart_eq_self (by rwa [List.head?_reverse])
  rw [trimEnd, ← trimStart, hstart, List.reverse_reverse]

/-- What is cut at the end is white space. -/
theorem exists_blanks_trimEnd (text : List Char) :
    ∃ trail, Blanks trail ∧ text = trimEnd text ++ trail := by
  obtain ⟨lead, hlead, heq⟩ := exists_blanks_trimStart text.reverse
  refine ⟨lead.reverse, hlead.reverse, ?_⟩
  rw [trimEnd, ← trimStart, ← List.reverse_append, ← heq, List.reverse_reverse]

/-! ## Both ends -/

/-- White space around a text that neither starts nor ends with it is what is cut. -/
theorem trim_of_blanks (hlead : Blanks lead) (htrail : Blanks trail)
    (hfirst : ∀ c ∈ text.head?, isBlank c = false)
    (hlast : ∀ c ∈ text.getLast?, isBlank c = false) : trim (lead ++ text ++ trail) = text := by
  cases text with
  | nil =>
    have hall : Blanks (lead ++ [] ++ trail) := by
      rw [List.append_nil]
      exact List.forall_mem_append.2 ⟨hlead, htrail⟩
    rw [← List.append_nil (lead ++ [] ++ trail), trim, trimStart_append hall]
    rfl
  | cons c text =>
    have hstart : trimStart (c :: text ++ trail) = c :: text ++ trail := trimStart_eq_self hfirst
    rw [trim, List.append_assoc, trimStart_append hlead, hstart, trimEnd_append htrail,
      trimEnd_eq_self hlast]

/-- White space behind a text is cut whatever the text is. -/
theorem trim_append (h : Blanks trail) (text : List Char) : trim (text ++ trail) = trim text := by
  by_cases hblank : Blanks text
  · rw [trim, trimStart_append hblank, trimStart_of_blanks h, trim, trimStart_of_blanks hblank]
  · rw [trim, trimStart_append_of_not_blanks hblank, trimEnd_append h, trim]

theorem isBlank_of_mem_head?_trim : ∀ c ∈ (trim text).head?, isBlank c = false := by
  intro c hc
  obtain ⟨trail, -, heq⟩ := exists_blanks_trimEnd (trimStart text)
  refine @isBlank_of_mem_head?_trimStart text c ?_
  rw [heq, ← trim, Option.mem_def, List.head?_append, Option.mem_def.1 hc]
  rfl

theorem trimStart_trim (text : List Char) : trimStart (trim text) = trim text :=
  trimStart_eq_self isBlank_of_mem_head?_trim

/-- What is cut at the ends is white space. -/
theorem exists_blanks_trim (text : List Char) :
    ∃ lead trail, Blanks lead ∧ Blanks trail ∧ text = lead ++ trim text ++ trail := by
  obtain ⟨lead, hlead, hstart⟩ := exists_blanks_trimStart text
  obtain ⟨trail, htrail, hend⟩ := exists_blanks_trimEnd (trimStart text)
  exact ⟨lead, trail, hlead, htrail, by rw [trim, List.append_assoc, ← hend, ← hstart]⟩

end ManifestSarif.Text
