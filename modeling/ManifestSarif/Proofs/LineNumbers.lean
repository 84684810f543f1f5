import ManifestSarif.Proofs.LineEndings

/-!
# Lines keep their numbers

The variables of a manifest are replaced in the text as a whole, one name after the other and in two
passes for each.  Names and values are without line feeds, so this is the same as replacing them in
each line alone.

* `pieces_eq_splitOn` ties the lines to the list library, which joins them again.
* `replaceFrom_append_mark`: a piece that lacks the mark is not found across it, so a replacement
  does not see what stands behind the next mark.
* `substitute_append_newline` takes this to all variables, and `pieces_substitute` to all lines.
* `preprocessing_keeps_line_numbers` is the result.
-/

namespace ManifestSarif

namespace Text

/-! ## Lines of a text -/

theorem pieces_eq_splitOn (mark : Char) (text : List Char) :
    pieces mark text = text.splitOn mark := by
  induction text with
  | nil => rfl
  | cons c rest ih =>
    rw [pieces, List.splitOn_cons_eq_if_modifyHead, ih]
    by_cases hc : c = mark
    · rw [if_pos hc, if_pos (beq_iff_eq.2 hc)]
    · rw [if_neg hc, if_neg (mt beq_iff_eq.1 hc)]
      cases hrest : rest.splitOn mark with
      | nil => exact absurd hrest (List.splitOn_ne_nil mark rest)
      | cons piece more => rfl

/-- The pieces with the marks between them are the text. -/
theorem intercalate_pieces (mark : Char) (text : List Char) :
    [mark].intercalate (pieces mark text) = text := by
  rw [pieces_eq_splitOn, List.intercalate_splitOn]

theorem pieces_ne_nil (mark : Char) (text : List Char) : pieces mark text ≠ [] := by
  rw [pieces_eq_splitOn]
  exact List.splitOn_ne_nil mark text

theorem pieces_intercalate {mark : Char} {parts : List (List Char)} (hne : parts ≠ [])
    (h : ∀ part ∈ parts, mark ∉ part) : pieces mark ([mark].intercalate parts) = parts := by
  rw [pieces_eq_splitOn, List.splitOn_intercalate mark h hne]

theorem infix_of_mem_pieces {mark : Char} {text piece : List Char} (h : piece ∈ pieces mark text) :
    piece <:+: text := by
  rw [← intercalate_pieces mark text]
  generalize pieces mark text = parts at h
  induction parts with
  | nil => cases h
  | cons first parts ih =>
    cases parts with
    | nil =>
      simp only [List.mem_singleton.1 h, List.intercalate_singleton, List.infix_rfl]
    | cons next parts =>
      rw [List.intercalate_cons_cons]
      rcases List.mem_cons.1 h with rfl | h
      · rw [List.append_assoc]
        exact (List.prefix_append _ _).isInfix
      · exact (ih h).trans (List.suffix_append _ _).isInfix

theorem chomp_prefix_self (line : List Char) : chomp line <+: line := by
  rw [chomp]
  split
  · exact List.dropLast_prefix line
  · exact List.prefix_rfl

/-- A part of a line that does not end in a carriage return is not shortened at the line end. -/
theorem infix_chomp {piece line : List Char} (h : piece <:+: line)
    (hlast : piece.getLast? ≠ some '\r') : piece <:+: chomp line := by
  obtain ⟨front, back, rfl⟩ := h
  rw [chomp]
  split
  · next hreturn =>
    cases hback : back with
    | nil =>
      rw [hback, List.append_nil, List.getLast?_append] at hreturn
      cases hpiece : piece.getLast? with
      | none =>
        rw [List.getLast?_eq_none_iff.1 hpiece]
        exact List.nil_infix
      | some c =>
        rw [hpiece, Option.some_or] at hreturn
        exact absurd (hpiece.trans hreturn) hlast
    | cons c rest =>
      rw [List.dropLast_append_of_ne_nil (List.cons_ne_nil c rest)]
      exact List.infix_append front piece _
  · exact List.infix_append front piece back

/-! ## Replacing up to a mark -/

section Replacing

variable {mark : Char} {size? : List Char → Option Nat} {new rest : List Char}

/-- Where pieces are found without a look behind the first of two texts, replacing them in both is
replacing them in each.  What is left of a piece that was replaced ends in the first text. -/
theorem replaceFrom_append {line : List Char}
    (hlength : ∀ text size, size? text = some size → size ≤ text.length)
    (hlocal : ∀ tail, tail <:+ line → tail ≠ [] → size? (tail ++ rest) = size? tail) {skip : Nat}
    (hskip : skip ≤ line.length) :
    replaceFrom size? new skip (line ++ rest) =
      replaceFrom size? new skip line ++ replaceFrom size? new 0 rest := by
  induction line generalizing skip with
  | nil =>
    obtain rfl := Nat.le_zero.1 hskip
    rw [replaceFrom, List.nil_append, List.nil_append]
  | cons c line ih =>
    have hlater : ∀ tail, tail <:+ line → tail ≠ [] → size? (tail ++ rest) = size? tail :=
      fun tail htail => hlocal tail (htail.trans (List.suffix_cons c line))
    cases skip with
    | succ skip =>
      rw [List.cons_append, replaceFrom, replaceFrom]
      exact ih hlater (Nat.le_of_succ_le_succ hskip)
    | zero =>
      have hsame : size? (c :: (line ++ rest)) = size? (c :: line) :=
        hlocal (c :: line) List.suffix_rfl (List.cons_ne_nil c line)
      rw [List.cons_append, replaceFrom, replaceFrom, hsame]
      cases hfound : size? (c :: line) with
      | none =>
        show c :: replaceFrom size? new 0 (line ++ rest) = c :: _ ++ _
        rw [ih hlater (Nat.zero_le _), List.cons_append]
      | some size =>
        have hsize := hlength _ _ hfound
        rw [List.length_cons] at hsize
        show new ++ replaceFrom size? new (size - 1) (line ++ rest) = new ++ _ ++ _
        rw [ih hlater (by omega), List.append_assoc]

/-- Where pieces lack a mark and are found without a look behind it, replacing them in a text is
replacing them before the first mark and behind it. -/
theorem replaceFrom_append_mark
    (hlacks : ∀ text size, size? text = some size → 0 < size ∧ mark ∉ text.take size)
    (hlength : ∀ text size, size? text = some size → size ≤ text.length)
    (hlocal : ∀ line, mark ∉ line → size? (line ++ mark :: rest) = size? line)
    {line : List Char} (hline : mark ∉ line) {skip : Nat} (hskip : skip ≤ line.length) :
    replaceFrom size? new skip (line ++ mark :: rest) =
      replaceFrom size? new skip line ++ mark :: replaceFrom size? new 0 rest := by
  rw [replaceFrom_append hlength (fun tail htail _ => hlocal tail fun hmem =>
    hline (htail.subset hmem)) hskip]
  simp only [replaceFrom, size?_eq_none hlacks]

end Replacing

theorem isPrefixOf?_append_mark {mark : Char} {piece : List Char} (hpiece : mark ∉ piece)
    (line rest : List Char) :
    piece.isPrefixOf? (line ++ mark :: rest) =
      (piece.isPrefixOf? line).map (· ++ mark :: rest) := by
  induction piece generalizing line with
  | nil => rfl
  | cons p piece ih =>
    rw [List.mem_cons, not_or] at hpiece
    cases line with
    | nil => simp [List.isPrefixOf?, Ne.symm hpiece.1]
    | cons c line =>
      by_cases hp : p = c
      · simp [List.isPrefixOf?, hp, ih hpiece.2]
      · simp [List.isPrefixOf?, hp]

theorem replaceWhere_append_mark {mark : Char} {piece new line rest : List Char}
    {fits : List Char → Bool} (hne : piece ≠ []) (hpiece : mark ∉ piece)
    (hfits : ∀ after, fits (after ++ mark :: rest) = fits after) (hline : mark ∉ line) :
    replaceWhere piece fits new (line ++ mark :: rest) =
      replaceWhere piece fits new line ++ mark :: replaceWhere piece fits new rest := by
  refine replaceFrom_append_mark (lacks_of_sizeWhere? hne hpiece) ?_ ?_ hline (Nat.zero_le _)
  · intro text size hfound
    obtain ⟨hsize, htake⟩ := take_of_sizeWhere? hfound
    rw [hsize, ← htake]
    exact List.length_take_le' size text
  · intro line _
    rw [sizeWhere?, isPrefixOf?_append_mark hpiece, sizeWhere?]
    cases piece.isPrefixOf? line with
    | none => rfl
    | some after => simp [hfits]

/-- Nothing is replaced in a text that lacks a character of the piece. -/
theorem replaceWhere_eq_self {c : Char} {piece text : List Char} (hpiece : c ∈ piece)
    (h : c ∉ text) (fits : List Char → Bool) (new : List Char) :
    replaceWhere piece fits new text = text := by
  rw [replaceWhere]
  induction text with
  | nil => rfl
  | cons d rest ih =>
    have hnone : sizeWhere? piece fits (d :: rest) = none := by
      rw [sizeWhere?, Option.bind_eq_none_iff]
      intro after hafter
      rw [← List.isPrefixOf?_eq_some_iff_append_eq.1 hafter] at h
      exact absurd (List.mem_append_left after hpiece) h
    rw [replaceFrom, hnone]
    exact congrArg (d :: ·) (ih (List.not_mem_of_not_mem_cons h))

/-- A line feed is no part of a word, so a boundary does not see it. -/
theorem boundary_append_newline (before : Bool) (after rest : List Char) :
    boundary before (after ++ '\n' :: rest) = boundary before after := by
  cases after with
  | nil =>
    have hnewline : isWord '\n' = false := by decide
    simp [boundary, hnewline]
  | cons c after => rfl

end Text

/-! ## Variables -/

namespace Symbols

open Text

theorem substituteOne_append_newline {entry : List Char × List Char} (hname : '\n' ∉ entry.1)
    (hvalue : '\n' ∉ entry.2) {line : List Char} (hline : '\n' ∉ line) (rest : List Char) :
    substituteOne (line ++ '\n' :: rest) entry =
      substituteOne line entry ++ '\n' :: substituteOne rest entry := by
  have hbraced : '\n' ∉ braced entry.1 := by simp [braced, hname]
  have hbare : '\n' ∉ bare entry.1 := by simp [bare, hname]
  have hends : ∀ {rest} after, bareEnds entry.1 (after ++ '\n' :: rest) = bareEnds entry.1 after :=
    fun after => boundary_append_newline _ after _
  -- The first pass brings no line feed into the line for the second one.
  have hfirst : '\n' ∉ replaceWhere (braced entry.1) (fun _ => true) entry.2 line := by
    intro hmem
    exact (List.mem_append.1 (replaceFrom_subset hmem)).elim hvalue hline
  rw [substituteOne, replaceWhere_append_mark (by simp [braced]) hbraced (fun _ => rfl) hline,
    replaceWhere_append_mark (by simp [bare]) hbare hends hfirst]
  rfl

variable {symbols : Symbols}

/-- Variables are replaced in the first line of a text as if it stood alone. -/
theorem substitute_append_newline (h : symbols.Inline) {line : List Char} (hline : '\n' ∉ line)
    (rest : List Char) :
    symbols.substitute (line ++ '\n' :: rest) =
      symbols.substitute line ++ '\n' :: symbols.substitute rest := by
  obtain ⟨entries⟩ := symbols
  rw [Inline] at h
  simp only [substitute]
  induction entries generalizing line rest with
  | nil => rfl
  | cons entry entries ih =>
    obtain ⟨⟨hname, hvalue⟩, hrest⟩ := List.forall_mem_cons.1 h
    have hone : '\n' ∉ substituteOne line entry := fun hmem =>
      (List.mem_append.1 (substituteOne_subset line entry hmem)).elim hvalue hline
    rw [List.foldl_cons, substituteOne_append_newline hname hvalue hline, ih hone _ hrest]
    rfl

theorem substitute_intercalate (h : symbols.Inline) {parts : List (List Char)} (hne : parts ≠ [])
    (hparts : ∀ part ∈ parts, '\n' ∉ part) :
    symbols.substitute (['\n'].intercalate parts) =
      ['\n'].intercalate (parts.map symbols.substitute) := by
  induction parts with
  | nil => exact absurd rfl hne
  | cons part more ih =>
    obtain ⟨hpart, hmore⟩ := List.forall_mem_cons.1 hparts
    cases more with
    | nil => rw [List.map_singleton, List.intercalate_singleton, List.intercalate_singleton]
    | cons next more =>
      have hnext := ih (List.cons_ne_nil next more) hmore
      rw [List.map_cons] at hnext
      rw [List.map_cons, List.map_cons, List.intercalate_cons_cons, List.intercalate_cons_cons,
        List.append_assoc, List.singleton_append, substitute_append_newline h hpart, hnext,
        List.append_assoc, List.singleton_append]

/-- The lines after all variables are replaced are the lines with the variables replaced in each. -/
theorem pieces_substitute (h : symbols.Inline) (text : List Char) :
    pieces '\n' (symbols.substitute text) = (pieces '\n' text).map symbols.substitute := by
  have hparts : ∀ part ∈ pieces '\n' text, '\n' ∉ part := fun _ => not_mem_of_mem_pieces
  have hmapped : ∀ part ∈ (pieces '\n' text).map symbols.substitute, '\n' ∉ part := by
    intro part hpart
    obtain ⟨raw, hraw, rfl⟩ := List.mem_map.1 hpart
    exact not_mem_substitute (fun entry hentry => (h entry hentry).2) (hparts raw hraw)
  have hne := pieces_ne_nil '\n' text
  calc pieces '\n' (symbols.substitute text)
      = pieces '\n' (symbols.substitute (['\n'].intercalate (pieces '\n' text))) := by
        rw [intercalate_pieces]
    _ = pieces '\n' (['\n'].intercalate ((pieces '\n' text).map symbols.substitute)) := by
        rw [substitute_intercalate h hne hparts]
    _ = (pieces '\n' text).map symbols.substitute :=
        pieces_intercalate (mt List.map_eq_nil_iff.1 hne) hmapped

/-- A text without a `$` refers to nothing. -/
theorem substitute_eq_self {text : List Char} (h : '$' ∉ text) :
    symbols.substitute text = text := by
  obtain ⟨entries⟩ := symbols
  rw [substitute]
  induction entries with
  | nil => rfl
  | cons entry entries ih =>
    have hone : substituteOne text entry = text := by
      rw [substituteOne, replaceWhere_eq_self (c := '$') (by simp [braced]) h,
        replaceWhere_eq_self (c := '$') (by simp [bare]) h]
    rw [List.foldl_cons, hone, ih]

end Symbols

/-! ## Manifests -/

namespace Manifest

open Text

/-- Each line of a manifest comes from the line of the content at its place. -/
theorem lines_eq_map (ecosystem : Ecosystem) (content : String) :
    lines ecosystem content = (pieces '\n' content.toList).map fun raw =>
      String.ofList (chomp ((symbols ecosystem content.toList).substitute raw)) := by
  rw [lines, splitLines, Symbols.pieces_substitute (inline_symbols ecosystem content.toList),
    List.map_map, List.map_map]
  rfl

theorem symbols_eq_empty {ecosystem : Ecosystem} (hgradle : ecosystem ≠ .gradle)
    (hdocker : ecosystem ≠ .docker) (content : List Char) : symbols ecosystem content = .empty := by
  cases ecosystem <;> first | rfl | contradiction

end Manifest

/-! ## The result -/

/-- The raw lines of a manifest are its content cut at the line feeds and nowhere else.  There is
one more than line feeds, and as many lines are looked up in: each is the raw line at its place
after the variables of the manifest are replaced in this line alone, without one carriage return at
its end.  A raw line without a `$` is taken as it is, and so are all lines but those of Gradle
scripts and container files, which alone have variables. -/
theorem preprocessing_keeps_line_numbers (ecosystem : Ecosystem) (content : String) :
    ['\n'].intercalate (Text.pieces '\n' content.toList) = content.toList ∧
    (∀ raw ∈ Text.pieces '\n' content.toList, '\n' ∉ raw) ∧
    (Manifest.lines ecosystem content).length = content.toList.count '\n' + 1 ∧
    (∀ i : Nat, (Manifest.lines ecosystem content)[i]? =
      (Text.pieces '\n' content.toList)[i]?.map fun raw => String.ofList
        (Text.chomp ((Manifest.symbols ecosystem content.toList).substitute raw))) ∧
    (∀ (i : Nat) raw, (Text.pieces '\n' content.toList)[i]? = some raw → '$' ∉ raw →
      (Manifest.lines ecosystem content)[i]? = some (String.ofList (Text.chomp raw))) ∧
    (ecosystem ≠ .gradle → ecosystem ≠ .docker →
      Manifest.symbols ecosystem content.toList = .empty ∧
        Manifest.lines ecosystem content =
          (Text.pieces '\n' content.toList).map fun raw => String.ofList (Text.chomp raw)) := by
  have hlines := Manifest.lines_eq_map ecosystem content
  refine ⟨Text.intercalate_pieces '\n' content.toList, fun _ => Text.not_mem_of_mem_pieces,
    Manifest.length_lines ecosystem content, ?_, ?_, ?_⟩
  · intro i
    rw [hlines, List.getElem?_map]
  · intro i raw hraw hdollar
    rw [hlines, List.getElem?_map, hraw, Option.map_some, Symbols.substitute_eq_self hdollar]
  · intro hgradle hdocker
    have hnone := Manifest.symbols_eq_empty hgradle hdocker content.toList
    rw [hnone] at hlines
    exact ⟨hnone, hlines⟩

end ManifestSarif
