import ManifestSarif.Manifest.Lines
import Mathlib.Data.List.Basic

/-!
# The lines of a manifest stay in place

Variables of a manifest are replaced before lines are looked up.  Names and values of variables are
parts of single lines, so no line is joined, split or moved by it.

* `length_pieces` and `not_mem_of_mem_pieces` say what cutting a text at a mark does.
* `count_replaceFrom`: replacing pieces without the mark by texts without it keeps the count.
* `Symbols.PartOf` is the invariant of the tables of variables, and `partOf_symbols` that collecting
  them keeps it; so they are `Inline`.
* `length_lines`: a manifest has one line more than it has line feeds, whatever its variables are.
-/

namespace ManifestSarif

namespace Text

/-! ## Cutting at a mark -/

theorem length_pieces (mark : Char) (text : List Char) :
    (pieces mark text).length = text.count mark + 1 := by
  induction text with
  | nil => rfl
  | cons c rest ih =>
    rw [pieces]
    by_cases hc : c = mark
    · rw [if_pos hc, hc, List.count_cons_self, List.length_cons, ih]
    · have hcount : (c :: rest).count mark = rest.count mark := List.count_cons_of_ne hc
      rw [if_neg hc, hcount, ← ih]
      -- The character joins the first piece, and there always is one.
      cases hrest : pieces mark rest with
      | nil => simp [hrest] at ih
      | cons piece more => rfl

theorem not_mem_of_mem_pieces {mark : Char} {text piece : List Char}
    (h : piece ∈ pieces mark text) : mark ∉ piece := by
  induction text generalizing piece with
  | nil => simp_all [pieces]
  | cons c rest ih =>
    rw [pieces] at h
    by_cases hc : c = mark
    · rw [if_pos hc, List.mem_cons] at h
      rcases h with rfl | h
      · exact List.not_mem_nil
      · exact ih h
    · rw [if_neg hc] at h
      cases hrest : pieces mark rest with
      | nil =>
        rw [hrest, List.mem_singleton] at h
        subst h
        simpa using Ne.symm hc
      | cons first more =>
        rw [hrest] at h
        rcases List.mem_cons.1 h with rfl | h
        · have hfirst : mark ∉ first := ih (hrest ▸ List.mem_cons_self)
          simp [hfirst, Ne.symm hc]
        · exact ih (hrest ▸ List.mem_cons_of_mem first h)

theorem chomp_subset (line : List Char) : chomp line ⊆ line := by
  rw [chomp]
  split
  · exact List.dropLast_subset line
  · exact List.Subset.refl line

/-- A line is a piece between line feeds, perhaps without a part of its end. -/
theorem exists_piece_of_mem_terminated {text line : List Char} (h : line ∈ terminated text) :
    ∃ piece ∈ pieces '\n' text, line ⊆ piece := by
  have hend : ∀ parts : List (List Char), ∀ line ∈ endLines parts, ∃ part ∈ parts, line ⊆ part := by
    intro parts line hline
    fun_induction endLines parts with
    | case1 => simp at hline
    | case2 last hlast => simp at hline
    | case3 last hlast => exact ⟨line, hline, List.Subset.refl line⟩
    | case4 piece more hmore ih =>
      rcases List.mem_cons.1 hline with rfl | hline
      · exact ⟨piece, List.mem_cons_self, chomp_subset piece⟩
      · obtain ⟨part, hpart, hsubset⟩ := ih hline
        exact ⟨part, List.mem_cons_of_mem piece hpart, hsubset⟩
  exact hend _ line h

/-- A line that ends before a line feed, or with the text, has none in it. -/
theorem not_mem_of_mem_terminated {text line : List Char} (h : line ∈ terminated text) :
    '\n' ∉ line := by
  obtain ⟨piece, hpiece, hsubset⟩ := exists_piece_of_mem_terminated h
  exact fun hmem => not_mem_of_mem_pieces hpiece (hsubset hmem)

theorem trim_subset (text : List Char) : trim text ⊆ text := by
  intro c hc
  rw [trim, trimEnd, List.mem_reverse] at hc
  have hstart : c ∈ trimStart text :=
    List.mem_reverse.1 ((List.dropWhile_sublist _).subset hc)
  exact (List.dropWhile_sublist _).subset hstart

theorem trimStart_subset (text : List Char) : trimStart text ⊆ text :=
  (List.dropWhile_sublist _).subset

theorem upTo_subset (mark : Char) (text : List Char) : upTo mark text ⊆ text :=
  (List.takeWhile_sublist _).subset

theorem cutAt_subset {mark : Char} {text before after : List Char}
    (h : cutAt mark text = some (before, after)) : before ⊆ text ∧ after ⊆ text := by
  induction text generalizing before with
  | nil => cases h
  | cons c rest ih =>
    rw [cutAt] at h
    by_cases hc : c = mark
    · rw [if_pos hc] at h
      cases h
      exact ⟨List.nil_subset _, List.subset_cons_self c after⟩
    · rw [if_neg hc] at h
      obtain ⟨⟨front, back⟩, hcut, heq⟩ := Option.map_eq_some_iff.1 h
      cases heq
      obtain ⟨hfront, hback⟩ := ih hcut
      exact ⟨List.cons_subset_cons c hfront, List.subset_cons_of_subset c hback⟩

theorem cutAtPiece_subset {piece text before after : List Char}
    (h : cutAtPiece piece text = some (before, after)) : before ⊆ text := by
  induction text generalizing before with
  | nil =>
    rw [cutAtPiece] at h
    split at h <;> cases h
    exact List.Subset.refl _
  | cons c rest ih =>
    rw [cutAtPiece] at h
    split at h
    · cases h
      exact List.nil_subset _
    · obtain ⟨⟨front, back⟩, hcut, heq⟩ := Option.map_eq_some_iff.1 h
      cases heq
      exact List.cons_subset_cons c (ih hcut)

/-! ## Replacing -/

theorem replaceFrom_subset {size? : List Char → Option Nat} {new : List Char} {skip : Nat}
    {text : List Char} : replaceFrom size? new skip text ⊆ new ++ text := by
  induction text generalizing skip with
  | nil => simp [replaceFrom]
  | cons c rest ih =>
    have hrest : ∀ {skip}, replaceFrom size? new skip rest ⊆ new ++ c :: rest := by
      intro skip x hx
      have := ih hx
      simp only [List.mem_append, List.mem_cons] at this ⊢
      tauto
    cases skip with
    | succ skip => exact hrest
    | zero =>
      rw [replaceFrom]
      split
      · exact List.append_subset.2 ⟨List.subset_append_left _ _, hrest⟩
      · exact List.cons_subset.2 ⟨by simp, hrest⟩

/-- Pieces that lack the mark are replaced by a text that lacks it. -/
theorem count_replaceFrom {mark : Char} {size? : List Char → Option Nat} {new : List Char}
    (hnew : mark ∉ new)
    (hsize : ∀ text size, size? text = some size → 0 < size ∧ mark ∉ text.take size)
    (text : List Char) : (replaceFrom size? new 0 text).count mark = text.count mark := by
  -- What is left of a piece that was replaced counts for nothing.
  have hskip : ∀ (text : List Char) (skip : Nat), mark ∉ text.take skip →
      (replaceFrom size? new skip text).count mark = text.count mark := by
    intro text
    induction text with
    | nil =>
      intro skip _
      rw [replaceFrom]
    | cons c rest ih =>
      intro skip hmark
      cases skip with
      | succ skip =>
        rw [List.take_succ_cons, List.mem_cons, not_or] at hmark
        rw [replaceFrom, ih skip hmark.2, List.count_cons_of_ne (Ne.symm hmark.1)]
      | zero =>
        rw [replaceFrom]
        split
        · next size hfound =>
          obtain ⟨hpos, hpiece⟩ := hsize _ _ hfound
          obtain ⟨size, rfl⟩ : ∃ n, size = n + 1 := ⟨size - 1, by omega⟩
          rw [List.take_succ_cons, List.mem_cons, not_or] at hpiece
          rw [List.count_append, List.count_eq_zero.2 hnew, Nat.zero_add, Nat.add_sub_cancel,
            ih size hpiece.2, List.count_cons_of_ne (Ne.symm hpiece.1)]
        · rw [List.count_cons, List.count_cons, ih 0 (by simp)]
  exact hskip text 0 (by simp)

theorem take_of_sizeWhere? {piece : List Char} {fits : List Char → Bool} {text : List Char}
    {size : Nat} (h : sizeWhere? piece fits text = some size) :
    size = piece.length ∧ text.take size = piece := by
  rw [sizeWhere?, Option.bind_eq_some_iff] at h
  obtain ⟨after, hstart, hfits⟩ := h
  obtain rfl := List.isPrefixOf?_eq_some_iff_append_eq.1 hstart
  split at hfits <;> cases hfits
  exact ⟨rfl, List.take_left⟩

/-- A piece that is found has a length, and lacks what the piece lacks that is searched for. -/
theorem lacks_of_sizeWhere? {mark : Char} {piece : List Char} {fits : List Char → Bool}
    (hne : piece ≠ []) (hpiece : mark ∉ piece) (text : List Char) (size : Nat)
    (h : sizeWhere? piece fits text = some size) : 0 < size ∧ mark ∉ text.take size := by
  obtain ⟨hsize, htake⟩ := take_of_sizeWhere? h
  rw [htake, hsize]
  exact ⟨List.length_pos_iff.2 hne, hpiece⟩

theorem count_replaceWhere {mark : Char} {piece new : List Char} {fits : List Char → Bool}
    (hne : piece ≠ []) (hpiece : mark ∉ piece) (hnew : mark ∉ new) (text : List Char) :
    (replaceWhere piece fits new text).count mark = text.count mark :=
  count_replaceFrom hnew (lacks_of_sizeWhere? hne hpiece) text

end Text

/-! ## Variables -/

namespace Symbols

open Text

/-- Each name and its value are parts of one of the lines. -/
def PartOf (lines : List (List Char)) (symbols : Symbols) : Prop :=
  ∀ entry ∈ symbols.entries, ∃ line ∈ lines, entry.1 ⊆ line ∧ entry.2 ⊆ line

/-- Names and values are without line feeds. -/
def Inline (symbols : Symbols) : Prop :=
  ∀ entry ∈ symbols.entries, '\n' ∉ entry.1 ∧ '\n' ∉ entry.2

theorem partOf_empty (lines : List (List Char)) : PartOf lines empty := by simp [PartOf, empty]

theorem PartOf.define {lines : List (List Char)} {symbols : Symbols} (h : symbols.PartOf lines)
    {line name value : List Char} (hline : line ∈ lines) (hname : name ⊆ line)
    (hvalue : value ⊆ line) : (symbols.define name value).PartOf lines := by
  have hin : ∀ entries : List (List Char × List Char), ∀ entry ∈ defineIn name value entries,
      entry = (name, value) ∨ entry ∈ entries := by
    intro entries entry hentry
    induction entries with
    | nil => simpa [defineIn] using hentry
    | cons first rest ih =>
      rw [defineIn] at hentry
      split at hentry
      · grind
      · grind
  intro entry hentry
  rcases hin _ entry hentry with rfl | hold
  · exact ⟨line, hline, hname, hvalue⟩
  · exact h entry hold

/-- What no line has, no name and no value has. -/
theorem PartOf.lacks {mark : Char} {lines : List (List Char)} {symbols : Symbols}
    (h : symbols.PartOf lines) (hlines : ∀ line ∈ lines, mark ∉ line) :
    ∀ entry ∈ symbols.entries, mark ∉ entry.1 ∧ mark ∉ entry.2 := by
  intro entry hentry
  obtain ⟨line, hline, hname, hvalue⟩ := h entry hentry
  exact ⟨mt (@hname _) (hlines line hline), mt (@hvalue _) (hlines line hline)⟩

theorem count_substituteOne {entry : List Char × List Char} (hname : '\n' ∉ entry.1)
    (hvalue : '\n' ∉ entry.2) (text : List Char) :
    (substituteOne text entry).count '\n' = text.count '\n' := by
  have hbraced : '\n' ∉ braced entry.1 := by simp [braced, hname]
  have hbare : '\n' ∉ bare entry.1 := by simp [bare, hname]
  rw [substituteOne, count_replaceWhere (by simp [bare]) hbare hvalue,
    count_replaceWhere (by simp [braced]) hbraced hvalue]

theorem Inline.count_substitute {symbols : Symbols} (h : symbols.Inline) (text : List Char) :
    (symbols.substitute text).count '\n' = text.count '\n' := by
  obtain ⟨entries⟩ := symbols
  rw [Inline] at h
  rw [substitute]
  induction entries generalizing text with
  | nil => rfl
  | cons entry entries ih =>
    obtain ⟨⟨hname, hvalue⟩, hrest⟩ := List.forall_mem_cons.1 h
    rw [List.foldl_cons, ih _ hrest, count_substituteOne hname hvalue]

end Symbols

/-! ## Collecting variables -/

namespace Dockerfile

open Text

theorem argument?_subset {keyword line argument : List Char}
    (h : argument? keyword line = some argument) : argument ⊆ line := by
  rw [argument?] at h
  split at h
  · next c rest hstart =>
    have happend := List.isPrefixOf?_eq_some_iff_append_eq.1 hstart
    have hrest : c :: rest ⊆ line := by
      refine List.Subset.trans ?_ (trimStart_subset line)
      rw [← happend]
      exact List.subset_append_right _ _
    split at h <;> cases h
    have hargument := List.Subset.trans (upTo_subset '\n' _) (trimStart_subset rest)
    exact List.Subset.trans hargument (List.Subset.trans (List.subset_cons_self c rest) hrest)
  · cases h

theorem unquote_subset (value : List Char) : unquote value ⊆ value := by
  have hbetween : ∀ quote inner, between? quote value = some inner → inner ⊆ value := by
    intro quote inner h
    unfold between? at h
    split at h
    · cases h
    · next c rest =>
      split at h <;> cases h
      exact List.Subset.trans (List.dropLast_subset rest) (List.subset_cons_self c rest)
  rw [unquote]
  cases hdouble : between? '"' value with
  | some inner => exact hbetween _ _ hdouble
  | none =>
    cases hsingle : between? '\'' value with
    | some inner => exact hbetween _ _ hsingle
    | none => exact List.Subset.refl value

theorem declaration?_subset {line name value : List Char}
    (h : declaration? line = some (name, value)) : name ⊆ line ∧ value ⊆ line := by
  rw [declaration?, Option.bind_eq_some_iff] at h
  obtain ⟨argument, hargument, h⟩ := h
  obtain ⟨⟨key, written⟩, hcut, heq⟩ := Option.map_eq_some_iff.1 h
  cases heq
  have hline := List.Subset.trans (trim_subset argument) (argument?_subset hargument)
  obtain ⟨hkey, hwritten⟩ := cutAt_subset hcut
  exact ⟨List.Subset.trans hkey hline,
    List.Subset.trans (unquote_subset written) (List.Subset.trans hwritten hline)⟩

theorem partOf_collect {lines : List (List Char)} {symbols : Symbols} (h : symbols.PartOf lines)
    {line : List Char} (hline : line ∈ lines) : (collect symbols line).PartOf lines := by
  rw [collect]
  split
  · next name value hdeclaration =>
    obtain ⟨hname, hvalue⟩ := declaration?_subset hdeclaration
    exact h.define hline hname hvalue
  · exact h

theorem partOf_symbols (file : List Char) : (symbols file).PartOf (terminated file) := by
  have hfold : ∀ (lines : List (List Char)), lines ⊆ terminated file →
      ∀ table : Symbols, table.PartOf (terminated file) →
        (lines.foldl collect table).PartOf (terminated file) := by
    intro lines hlines
    induction lines with
    | nil => exact fun _ h => h
    | cons line lines ih =>
      obtain ⟨hline, hrest⟩ := List.cons_subset.1 hlines
      exact fun table h => ih hrest _ (partOf_collect h hline)
  exact hfold _ (List.Subset.refl _) _ (Symbols.partOf_empty _)

end Dockerfile

namespace Gradle

open Text

theorem codeOf_subset (line : List Char) : codeOf line ⊆ line := by
  have hbefore : beforeLineComment line ⊆ line := by
    rw [beforeLineComment]
    split
    · next hcut => exact cutAtPiece_subset hcut
    · exact List.Subset.refl line
  have hreplaced : replaceFrom commentSize? [] 0 (beforeLineComment line) ⊆
      beforeLineComment line := by
    simpa using @replaceFrom_subset commentSize? [] 0 (beforeLineComment line)
  exact List.Subset.trans (trim_subset _) (List.Subset.trans hreplaced hbefore)

theorem quoted?_subset {text value : List Char} (h : quoted? text = some value) :
    value ⊆ text := by
  unfold quoted? at h
  split at h
  · cases h
  · next quote rest =>
    split at h
    · obtain ⟨⟨before, after⟩, hcut, rfl⟩ := Option.map_eq_some_iff.1 h
      exact List.Subset.trans (cutAt_subset hcut).1 (List.subset_cons_self quote rest)
    · cases h

theorem assignmentAt?_subset {text name value : List Char}
    (h : assignmentAt? text = some (name, value)) : name ⊆ text ∧ value ⊆ text := by
  rw [assignmentAt?] at h
  split at h
  · next rest hrest =>
    obtain ⟨found, hquoted, heq⟩ := Option.map_eq_some_iff.1 h
    cases heq
    refine ⟨(List.takeWhile_sublist _).subset, List.Subset.trans (quoted?_subset hquoted) ?_⟩
    have hsubset : '=' :: rest ⊆ text := by
      rw [← hrest]
      exact List.Subset.trans (trimStart_subset _) (List.dropWhile_sublist _).subset
    exact List.Subset.trans (trimStart_subset rest)
      (List.Subset.trans (List.subset_cons_self _ rest) hsubset)
  · cases h

theorem assignmentFrom?_subset {text name value : List Char} {inWord : Bool}
    (h : assignmentFrom? inWord text = some (name, value)) : name ⊆ text ∧ value ⊆ text := by
  induction text generalizing inWord with
  | nil => cases h
  | cons c rest ih =>
    rw [assignmentFrom?] at h
    have hlater : assignmentFrom? (isWord c) rest = some (name, value) →
        name ⊆ c :: rest ∧ value ⊆ c :: rest := by
      intro hrest
      obtain ⟨hname, hvalue⟩ := ih hrest
      exact ⟨List.subset_cons_of_subset c hname, List.subset_cons_of_subset c hvalue⟩
    split at h
    · cases hhere : assignmentAt? (c :: rest) with
      | some assignment =>
        rw [hhere] at h
        cases h
        exact assignmentAt?_subset hhere
      | none =>
        rw [hhere] at h
        exact hlater h
    · exact hlater h

theorem partOf_collect {lines : List (List Char)} {symbols : Symbols} (h : symbols.PartOf lines)
    {line code : List Char} (hline : line ∈ lines) (hcode : code ⊆ line) :
    (collect symbols code).PartOf lines := by
  rw [collect]
  split
  · next name value hassignment =>
    obtain ⟨⟨key, written⟩, hfrom, heq⟩ := Option.map_eq_some_iff.1 hassignment
    cases heq
    obtain ⟨hname, hvalue⟩ := assignmentFrom?_subset hfrom
    have hwritten : trim written ⊆ line :=
      List.Subset.trans (trim_subset written) (List.Subset.trans hvalue hcode)
    exact h.define hline (List.Subset.trans hname hcode) hwritten
  · exact h

theorem partOf_symbols (script : List Char) : (symbols script).PartOf (terminated script) := by
  have hfrom : ∀ (lines : List (List Char)), lines ⊆ terminated script →
      ∀ (region : Region) (table : Symbols), table.PartOf (terminated script) →
        (symbolsFrom region table (lines.map codeOf)).PartOf (terminated script) := by
    intro lines hlines
    induction lines with
    | nil => exact fun _ _ h => h
    | cons line lines ih =>
      obtain ⟨hline, hrest⟩ := List.cons_subset.1 hlines
      intro region table h
      show (symbolsFrom (region.step (codeOf line)).1
        (if (region.step (codeOf line)).2 then collect table (codeOf line) else table)
        (lines.map codeOf)).PartOf (terminated script)
      apply ih hrest
      by_cases hbelongs : (region.step (codeOf line)).2 = true
      · rw [if_pos hbelongs]
        exact partOf_collect h hline (codeOf_subset line)
      · rw [if_neg hbelongs]
        exact h
  exact hfrom _ (List.Subset.refl _) .outside .empty (Symbols.partOf_empty _)

end Gradle

/-! ## The lines of a manifest -/

namespace Manifest

/-- Variables are collected line by line, from no more than one line each. -/
theorem partOf_symbols (ecosystem : Ecosystem) (content : List Char) :
    (symbols ecosystem content).PartOf (Text.terminated content) := by
  unfold symbols
  split
  · exact Gradle.partOf_symbols content
  · exact Dockerfile.partOf_symbols content
  · exact Symbols.partOf_empty _

theorem inline_symbols (ecosystem : Ecosystem) (content : List Char) :
    (symbols ecosystem content).Inline :=
  (partOf_symbols ecosystem content).lacks fun _ => Text.not_mem_of_mem_terminated

/-- A manifest has one line more than line feeds, whatever variables are replaced in it. -/
theorem length_lines (ecosystem : Ecosystem) (content : String) :
    (lines ecosystem content).length = content.toList.count '\n' + 1 := by
  rw [lines, List.length_map, splitLines, List.length_map, Text.length_pieces,
    (inline_symbols ecosystem content.toList).count_substitute]

end Manifest

end ManifestSarif
