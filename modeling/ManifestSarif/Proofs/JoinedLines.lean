import ManifestSarif.Proofs.LineNumbers

/-!
# Lines of joined texts

A text that is put together from others has their lines, but where two texts meet the last line of
the one goes on with the first line of the other.

* `firstLine` and `lastLine` are the lines at the ends of a text.
* `pieces_append` are the lines of two texts, and `pieces_of_lines` those of a text that is given
  by its first line, its last line and what stands between them.
-/

namespace ManifestSarif.Text

variable {front back text first last : List Char} {init more : List (List Char)} {c : Char}

/-! ## The first and the last line -/

/-- The last line of a text; it is empty behind a line feed. -/
def lastLine (text : List Char) : List Char :=
  ((pieces '\n' text).getLast?).getD []

/-- The first line of a text; it is empty before a line feed. -/
def firstLine (text : List Char) : List Char :=
  ((pieces '\n' text).head?).getD []

theorem exists_pieces_lastLine (text : List Char) :
    ∃ init, pieces '\n' text = init ++ [lastLine text] := by
  obtain ⟨init, last, heq⟩ := (List.eq_nil_or_concat _).resolve_left (pieces_ne_nil '\n' text)
  rw [List.concat_eq_append] at heq
  exact ⟨init, by rw [lastLine, heq, List.getLast?_concat, Option.getD_some]⟩

theorem lastLine_eq (h : pieces '\n' text = init ++ [last]) : lastLine text = last := by
  rw [lastLine, h, List.getLast?_concat, Option.getD_some]

theorem exists_pieces_firstLine (text : List Char) :
    ∃ more, pieces '\n' text = firstLine text :: more := by
  obtain ⟨first, more, heq⟩ := List.exists_cons_of_ne_nil (pieces_ne_nil '\n' text)
  exact ⟨more, by rw [firstLine, heq]; rfl⟩

theorem firstLine_eq (h : pieces '\n' text = first :: more) : firstLine text = first := by
  rw [firstLine, h, List.head?_cons, Option.getD_some]

theorem firstLine_mem (text : List Char) : firstLine text ∈ pieces '\n' text := by
  obtain ⟨more, heq⟩ := exists_pieces_firstLine text
  exact heq ▸ List.mem_cons_self

/-! ## Lines of joined texts -/

theorem pieces_cons_mark (mark : Char) (text : List Char) :
    pieces mark (mark :: text) = [] :: pieces mark text := by
  rw [pieces, if_pos rfl]

theorem pieces_cons_of_ne {mark : Char} (hc : c ≠ mark)
    (hpieces : pieces mark text = first :: more) :
    pieces mark (c :: text) = (c :: first) :: more := by
  rw [pieces, if_neg hc, hpieces]

/-- Where two texts meet, the last line of the one goes on with the first line of the other. -/
theorem pieces_append {mark : Char} (hfront : pieces mark front = init ++ [last])
    (hback : pieces mark back = first :: more) :
    pieces mark (front ++ back) = init ++ (last ++ first) :: more := by
  induction front generalizing init last with
  | nil =>
    obtain ⟨rfl, heq⟩ := List.append_eq_singleton_iff.1 hfront.symm |>.resolve_right (by simp)
    obtain rfl := (List.cons.inj heq).1
    exact hback
  | cons c front ih =>
    by_cases hc : c = mark
    · subst hc
      rw [pieces_cons_mark] at hfront
      cases init with
      | nil => exact absurd (List.cons.inj hfront).2 (pieces_ne_nil c front)
      | cons piece init =>
        obtain ⟨rfl, hrest⟩ := List.cons.inj hfront
        rw [List.cons_append, pieces_cons_mark, ih hrest, List.cons_append]
    · obtain ⟨piece, parts, hpieces⟩ := List.exists_cons_of_ne_nil (pieces_ne_nil mark front)
      rw [pieces_cons_of_ne hc hpieces] at hfront
      cases init with
      | nil =>
        obtain ⟨rfl, rfl⟩ := List.cons.inj hfront
        exact pieces_cons_of_ne hc (@ih _ [] hpieces)
      | cons line init =>
        obtain ⟨rfl, rfl⟩ := List.cons.inj hfront
        exact pieces_cons_of_ne hc (@ih _ (piece :: init) hpieces)

theorem pieces_append_mark_cons (mark : Char) (front back : List Char) :
    pieces mark (front ++ mark :: back) = pieces mark front ++ pieces mark back := by
  obtain ⟨init, last, hfront⟩ :=
    (List.eq_nil_or_concat _).resolve_left (pieces_ne_nil mark front)
  rw [List.concat_eq_append] at hfront
  rw [pieces_append hfront (pieces_cons_mark mark back), hfront, List.append_nil, List.append_assoc,
    List.singleton_append]

theorem pieces_eq_singleton {mark : Char} (h : mark ∉ text) : pieces mark text = [text] := by
  rw [← pieces_intercalate (List.cons_ne_nil text []) (by simpa using h),
    List.intercalate_singleton]

theorem pieces_of_lines {mark : Char} (hfirst : mark ∉ first) (hlast : mark ∉ last)
    (inner : List Char) :
    pieces mark (first ++ mark :: (inner ++ mark :: last)) =
      first :: pieces mark inner ++ [last] := by
  rw [pieces_append_mark_cons, pieces_append_mark_cons, pieces_eq_singleton hfirst,
    pieces_eq_singleton hlast, List.singleton_append, List.cons_append]

/-- Characters in the place of others change no line end, if none of them is one. -/
theorem pieces_map {f : Char → Char} (hf : ∀ c, f c = '\n' ↔ c = '\n') (text : List Char) :
    pieces '\n' (text.map f) = (pieces '\n' text).map (List.map f) := by
  induction text with
  | nil => rfl
  | cons c text ih =>
    by_cases hc : c = '\n'
    · subst hc
      rw [List.map_cons, (hf '\n').2 rfl, pieces_cons_mark, ih, pieces_cons_mark]
      rfl
    · obtain ⟨first, more, hpieces⟩ := List.exists_cons_of_ne_nil (pieces_ne_nil '\n' text)
      rw [hpieces] at ih
      rw [List.map_cons, pieces_cons_of_ne (mt (hf c).1 hc) ih, pieces_cons_of_ne hc hpieces]
      rfl

end ManifestSarif.Text
