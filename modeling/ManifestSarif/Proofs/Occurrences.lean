import ManifestSarif.Text.Search
import Mathlib.Data.List.Infix

/-!
# Occurrences of a piece in a text

What searches find, said in terms of the parts of a text.

* `occurs_iff`: a piece occurs in a text if it is an infix of it.
* `cutAt_eq_some_iff` and `cutAt_eq_none` cut a text at the first mark, and `exists_upTo` says what
  stands before it.
* `cutAtPiece_of_leftmost` cuts a text at the first occurrence of a piece, and
  `cutAtPiece_eq_none_iff` says that there is none.  `cutAtPiece_eq_some_iff` is for a piece that
  overlaps no other occurrence, since its first character is not in it again.
* `eq_replicate_of_append_comm`: a text that such a piece may be put before or behind, with the same
  result, consists of copies of the piece.
-/

namespace ManifestSarif.Text

/-! ## Single marks -/

theorem cutAt_append {mark : Char} {before : List Char} (h : mark ∉ before) (after : List Char) :
    cutAt mark (before ++ mark :: after) = some (before, after) := by
  induction before with
  | nil => exact if_pos rfl
  | cons c before ih =>
    rw [List.mem_cons, not_or] at h
    rw [List.cons_append, cutAt, if_neg (Ne.symm h.1), ih h.2]
    rfl

theorem cutAt_eq_none {mark : Char} {text : List Char} (h : mark ∉ text) :
    cutAt mark text = none := by
  induction text with
  | nil => rfl
  | cons c text ih =>
    rw [List.mem_cons, not_or] at h
    rw [cutAt, if_neg (Ne.symm h.1), ih h.2]
    rfl

theorem cutAt_eq_some_iff {mark : Char} {text before after : List Char} :
    cutAt mark text = some (before, after) ↔ text = before ++ mark :: after ∧ mark ∉ before := by
  refine ⟨fun h => ?_, fun ⟨htext, hbefore⟩ => htext ▸ cutAt_append hbefore after⟩
  induction text generalizing before with
  | nil => cases h
  | cons c text ih =>
    rw [cutAt] at h
    split at h
    · next hc =>
      cases h
      exact ⟨by rw [hc, List.nil_append], List.not_mem_nil⟩
    · next hc =>
      obtain ⟨⟨front, back⟩, hcut, heq⟩ := Option.map_eq_some_iff.1 h
      cases heq
      obtain ⟨rfl, hfront⟩ := ih hcut
      exact ⟨rfl, by simpa [hfront] using Ne.symm hc⟩

/-- A text is cut at its first mark in one way. -/
theorem append_mark_inj {mark : Char} {before after before' after' : List Char}
    (h : mark ∉ before) (h' : mark ∉ before')
    (heq : before ++ mark :: after = before' ++ mark :: after') :
    before = before' ∧ after = after' := by
  have hcut := cutAt_append h after
  rw [heq, cutAt_append h' after'] at hcut
  exact Prod.mk.inj (Option.some.inj hcut.symm)

theorem upTo_append {mark : Char} {text rest : List Char} (h : mark ∉ text)
    (hrest : ∀ c ∈ rest.head?, c = mark) : upTo mark (text ++ rest) = text := by
  rw [upTo, List.takeWhile_append_of_pos fun c hc => by simpa using ne_of_mem_of_not_mem hc h]
  cases rest with
  | nil => rw [List.takeWhile_nil, List.append_nil]
  | cons c rest => rw [List.takeWhile_cons_of_neg (by simpa using hrest c rfl), List.append_nil]

/-- What is left out behind a mark starts with it, and the mark is nowhere before. -/
theorem exists_upTo (mark : Char) (text : List Char) :
    ∃ rest, text = upTo mark text ++ rest ∧ mark ∉ upTo mark text ∧ ∀ c ∈ rest.head?, c = mark := by
  refine ⟨text.dropWhile (· ≠ mark), List.takeWhile_append_dropWhile.symm, fun hmem => ?_, ?_⟩
  · simpa using List.all_eq_true.1 List.all_takeWhile mark hmem
  · intro c hc
    have hhead := List.head?_dropWhile_not (· ≠ mark) text
    rw [Option.mem_def.1 hc] at hhead
    simpa using hhead

/-! ## Longer pieces -/

variable {piece text before after : List Char}

theorem occurs_iff : occurs piece text = true ↔ piece <:+: text := by
  induction text with
  | nil => rw [occurs, List.isEmpty_iff, List.infix_nil]
  | cons c rest ih =>
    rw [occurs, Bool.or_eq_true, List.isPrefixOf_iff_prefix, ih, List.infix_cons_iff]

theorem cutAtPiece_of_prefix (piece after : List Char) :
    cutAtPiece piece (piece ++ after) = some ([], after) := by
  cases htext : piece ++ after with
  | nil =>
    obtain ⟨rfl, rfl⟩ := List.append_eq_nil_iff.1 htext
    rfl
  | cons c rest =>
    rw [cutAtPiece, List.isPrefixOf?_eq_some_iff_append_eq.2 htext]

theorem cutAtPiece_cons {c : Char} {rest : List Char} (h : ¬piece <+: c :: rest) :
    cutAtPiece piece (c :: rest) =
      (cutAtPiece piece rest).map fun (before, after) => (c :: before, after) := by
  have hnone : piece.isPrefixOf? (c :: rest) = none :=
    Option.eq_none_iff_forall_ne_some.2 fun after hafter =>
      h ⟨after, List.isPrefixOf?_eq_some_iff_append_eq.1 hafter⟩
  rw [cutAtPiece, hnone]

/-- A text is cut at the leftmost occurrence of a piece, whether or not it overlaps others. -/
theorem cutAtPiece_of_leftmost
    (hleft : ∀ front back, before ++ piece ++ after = front ++ piece ++ back →
      before.length ≤ front.length) :
    cutAtPiece piece (before ++ piece ++ after) = some (before, after) := by
  induction before with
  | nil => exact cutAtPiece_of_prefix piece after
  | cons c before ih =>
    have hstart : ¬piece <+: c :: (before ++ piece ++ after) := by
      rintro ⟨back, hback⟩
      have hlength := hleft [] back hback.symm
      simp at hlength
    show cutAtPiece piece (c :: (before ++ piece ++ after)) = _
    rw [cutAtPiece_cons hstart, ih]
    · rfl
    · intro front back heq
      have hlength := hleft (c :: front) back (congrArg (c :: ·) heq)
      simpa using hlength

theorem cutAtPiece_eq_none_iff : cutAtPiece piece text = none ↔ ¬piece <:+: text := by
  induction text with
  | nil =>
    rw [cutAtPiece, List.infix_nil, ← List.isEmpty_iff]
    split <;> simp_all
  | cons c rest ih =>
    rw [List.infix_cons_iff, not_or]
    by_cases hstarts : piece <+: c :: rest
    · obtain ⟨after, hafter⟩ := hstarts
      rw [← hafter, cutAtPiece_of_prefix]
      simp
    · rw [cutAtPiece_cons hstarts, Option.map_eq_none_iff, ih]
      exact ⟨fun h => ⟨hstarts, h⟩, fun h => h.2⟩

/-- Nothing before the place where a text is cut is the piece. -/
theorem of_cutAtPiece (hne : piece ≠ []) (h : cutAtPiece piece text = some (before, after)) :
    text = before ++ piece ++ after ∧ ¬piece <:+: before := by
  induction text generalizing before with
  | nil =>
    rw [cutAtPiece, if_neg (by simpa using hne)] at h
    cases h
  | cons c rest ih =>
    by_cases hstarts : piece <+: c :: rest
    · obtain ⟨more, hmore⟩ := hstarts
      rw [← hmore, cutAtPiece_of_prefix] at h
      cases h
      exact ⟨hmore.symm, by simpa using hne⟩
    · rw [cutAtPiece_cons hstarts] at h
      obtain ⟨⟨front, back⟩, hcut, heq⟩ := Option.map_eq_some_iff.1 h
      cases heq
      obtain ⟨rfl, hfront⟩ := ih hcut
      refine ⟨rfl, ?_⟩
      rw [List.infix_cons_iff, not_or]
      refine ⟨fun hstart => hstarts (hstart.trans ?_), hfront⟩
      exact ⟨piece ++ after, by simp⟩

section Apart

variable {first : Char} {tail : List Char}

/-- The first occurrence of a piece whose first character is not in it again. -/
theorem cutAtPiece_eq_some_iff (htail : first ∉ tail) :
    cutAtPiece (first :: tail) text = some (before, after) ↔
      text = before ++ first :: tail ++ after ∧ ¬first :: tail <:+: before := by
  refine ⟨of_cutAtPiece (List.cons_ne_nil first tail), ?_⟩
  rintro ⟨rfl, hbefore⟩
  induction before with
  | nil => exact cutAtPiece_of_prefix (first :: tail) after
  | cons c before ih =>
    rw [List.infix_cons_iff, not_or] at hbefore
    rw [List.cons_append, List.cons_append, cutAtPiece_cons, ih hbefore.2]
    · rfl
    · -- An occurrence that goes on behind `before` has the first character of the next one in it.
      rintro ⟨more, hmore⟩
      rw [← List.cons_append, ← List.cons_append, List.append_assoc (c :: before)] at hmore
      rcases List.append_eq_append_iff.1 hmore with ⟨rest, hinside, -⟩ | ⟨rest, hover, hnext⟩
      · exact hbefore.1 ⟨rest, hinside.symm⟩
      · cases rest with
        | nil => exact hbefore.1 ⟨[], by rw [List.append_nil, hover, List.append_nil]⟩
        | cons d rest =>
          obtain ⟨rfl, -⟩ := List.cons.inj hnext
          obtain ⟨-, rfl⟩ := List.cons.inj hover
          exact htail (by simp)

/-- A text that the piece may be put before or behind consists of copies of the piece. -/
theorem eq_replicate_of_append_comm (htail : first ∉ tail)
    (h : text ++ first :: tail = first :: tail ++ text) :
    ∃ count, text = (List.replicate count (first :: tail)).flatten := by
  induction hlength : text.length using Nat.strongRecOn generalizing text with
  | ind length ih =>
    cases text with
    | nil => exact ⟨0, rfl⟩
    | cons c text =>
      obtain ⟨rfl, -⟩ := List.cons.inj h
      rcases List.append_eq_append_iff.1 h with ⟨rest, hpiece, hrest⟩ | ⟨rest, htext, hrest⟩
      · -- The piece goes on behind the text, so it ends with the text and has its first character.
        cases rest with
        | nil =>
          exact ⟨1, by rw [List.replicate_one, List.flatten_singleton, hrest, List.nil_append]⟩
        | cons d rest =>
          obtain ⟨rfl, rfl⟩ := List.cons.inj hrest
          exact absurd (by simp) htail
      · have hshorter : rest.length < length := by
          rw [← hlength, htext, List.length_append, List.length_cons]
          omega
        obtain ⟨count, hcount⟩ := ih _ hshorter (by rw [← htext, hrest]) rfl
        exact ⟨count + 1, by rw [htext, List.replicate_succ, List.flatten_cons, ← hcount]⟩

end Apart

end ManifestSarif.Text
