import ManifestSarif.Proofs.Entries
import ManifestSarif.Proofs.ManifestLines

/-!
# Line ends do not matter

A line of a manifest may end in a line feed, or in a carriage return and a line feed.  A manifest is
cut into lines twice, once to collect its variables and once for the search, and between the two the
variables are replaced in the text as a whole.

* `Text.withReturns` writes every line end of a text in the second way.
* `pieces_withReturns` says what this does to the pieces between line feeds, so that both ways of
  cutting lines undo it: `terminated_withReturns`, `splitLines_withReturns`.
* `replaceWhere_withReturns`: a replacement inside of lines does not see how lines end, and
  `substitute_withReturns` takes this to all variables.
* `line_endings_do_not_matter` is the result.
-/

namespace ManifestSarif

namespace Text

/-- The text with a carriage return before every line feed. -/
def withReturns : List Char → List Char
  | [] => []
  | c :: rest => if c = '\n' then '\r' :: '\n' :: withReturns rest else c :: withReturns rest

@[simp]
theorem withReturns_nil : withReturns [] = [] := rfl

@[simp]
theorem withReturns_cons_newline (rest : List Char) :
    withReturns ('\n' :: rest) = '\r' :: '\n' :: withReturns rest := rfl

theorem withReturns_cons_of_ne {c : Char} (h : c ≠ '\n') (rest : List Char) :
    withReturns (c :: rest) = c :: withReturns rest :=
  if_neg h

theorem withReturns_append {text : List Char} (h : '\n' ∉ text) (rest : List Char) :
    withReturns (text ++ rest) = text ++ withReturns rest := by
  induction text with
  | nil => rfl
  | cons c text ih =>
    rw [List.mem_cons, not_or] at h
    rw [List.cons_append, withReturns_cons_of_ne (Ne.symm h.1), ih h.2, List.cons_append]

/-! ## Lines -/

/-- The pieces with a carriage return at the end of each but the last. -/
def endWithReturns : List (List Char) → List (List Char)
  | [] => []
  | [last] => [last]
  | piece :: more => (piece ++ ['\r']) :: endWithReturns more

/-- The line feeds cut the text as before, and the carriage returns stay at the ends. -/
theorem pieces_withReturns (text : List Char) :
    pieces '\n' (withReturns text) = endWithReturns (pieces '\n' text) := by
  induction text with
  | nil => rfl
  | cons c rest ih =>
    obtain ⟨first, more, hrest⟩ := List.exists_cons_of_length_pos
      (show 0 < (pieces '\n' rest).length by rw [length_pieces]; omega)
    by_cases hc : c = '\n'
    · subst hc
      simp [pieces, ih, hrest, endWithReturns]
    · rw [withReturns_cons_of_ne hc, pieces, if_neg hc, pieces, if_neg hc, ih, hrest]
      cases more with
      | nil => rfl
      | cons second more => rfl

theorem chomp_eq_self {line : List Char} (h : '\r' ∉ line) : chomp line = line :=
  if_neg fun hlast => h (List.mem_of_getLast? hlast)

theorem chomp_concat (line : List Char) : chomp (line ++ ['\r']) = line := by
  simp [chomp]

theorem endLines_cons {more : List (List Char)} (h : more ≠ []) (piece : List Char) :
    endLines (piece :: more) = chomp piece :: endLines more := by
  cases more with
  | nil => exact absurd rfl h
  | cons second more => rfl

theorem endWithReturns_cons {more : List (List Char)} (h : more ≠ []) (piece : List Char) :
    endWithReturns (piece :: more) = (piece ++ ['\r']) :: endWithReturns more := by
  cases more with
  | nil => exact absurd rfl h
  | cons second more => rfl

theorem endWithReturns_ne_nil {parts : List (List Char)} (h : parts ≠ []) :
    endWithReturns parts ≠ [] := by
  match parts, h with
  | [_], _ => exact List.cons_ne_nil _ _
  | _ :: _ :: _, _ => exact List.cons_ne_nil _ _

theorem endLines_endWithReturns {parts : List (List Char)} (h : ∀ part ∈ parts, '\r' ∉ part) :
    endLines (endWithReturns parts) = endLines parts := by
  induction parts with
  | nil => rfl
  | cons piece more ih =>
    obtain ⟨hpiece, hmore⟩ := List.forall_mem_cons.1 h
    by_cases hne : more = []
    · subst hne
      rfl
    · rw [endWithReturns_cons hne, endLines_cons (endWithReturns_ne_nil hne), endLines_cons hne,
        chomp_concat, chomp_eq_self hpiece, ih hmore]

theorem map_chomp_endWithReturns {parts : List (List Char)} (h : ∀ part ∈ parts, '\r' ∉ part) :
    (endWithReturns parts).map chomp = parts.map chomp := by
  induction parts with
  | nil => rfl
  | cons piece more ih =>
    obtain ⟨hpiece, hmore⟩ := List.forall_mem_cons.1 h
    by_cases hne : more = []
    · subst hne
      rfl
    · rw [endWithReturns_cons hne, List.map_cons, List.map_cons, chomp_concat,
        chomp_eq_self hpiece, ih hmore]

theorem pieces_subset {mark : Char} {text piece : List Char} (h : piece ∈ pieces mark text) :
    piece ⊆ text := by
  induction text generalizing piece with
  | nil => simp_all [pieces]
  | cons c rest ih =>
    rw [pieces] at h
    by_cases hc : c = mark
    · rw [if_pos hc, List.mem_cons] at h
      rcases h with rfl | h
      · exact List.nil_subset _
      · exact List.subset_cons_of_subset c (ih h)
    · rw [if_neg hc] at h
      cases hrest : pieces mark rest with
      | nil =>
        rw [hrest, List.mem_singleton] at h
        subst h
        simp
      | cons first more =>
        rw [hrest] at h ih
        rcases List.mem_cons.1 h with rfl | h
        · exact List.cons_subset_cons c (ih List.mem_cons_self)
        · exact List.subset_cons_of_subset c (ih (List.mem_cons_of_mem first h))

theorem lacks_of_mem_pieces {mark c : Char} {text : List Char} (h : c ∉ text) :
    ∀ piece ∈ pieces mark text, c ∉ piece :=
  fun _ hpiece hmem => h (pieces_subset hpiece hmem)

/-- A text without carriage returns has the same lines, whichever way they end. -/
theorem terminated_withReturns {text : List Char} (h : '\r' ∉ text) :
    terminated (withReturns text) = terminated text := by
  rw [terminated, terminated, pieces_withReturns, endLines_endWithReturns (lacks_of_mem_pieces h)]

/-! ## Replacing inside of lines -/

theorem isPrefixOf?_withReturns {piece : List Char} (hfeed : '\n' ∉ piece)
    (hreturn : '\r' ∉ piece) (text : List Char) :
    piece.isPrefixOf? (withReturns text) = (piece.isPrefixOf? text).map withReturns := by
  induction piece generalizing text with
  | nil => rfl
  | cons p piece ih =>
    rw [List.mem_cons, not_or] at hfeed hreturn
    cases text with
    | nil => rfl
    | cons c text =>
      by_cases hc : c = '\n'
      · -- The piece starts with no part of a line end.
        have hpc : (p == c) = false := by simpa [hc] using Ne.symm hfeed.1
        have hpr : (p == '\r') = false := by simpa using Ne.symm hreturn.1
        subst hc
        simp [List.isPrefixOf?, hpc, hpr]
      · rw [withReturns_cons_of_ne hc]
        by_cases hp : p = c
        · simp [List.isPrefixOf?, hp, ih hfeed.2 hreturn.2]
        · simp [List.isPrefixOf?, hp]

/-- A word boundary does not see how the line ends that it may stand before. -/
theorem boundary_withReturns (before : Bool) (after : List Char) :
    boundary before (withReturns after) = boundary before after := by
  cases after with
  | nil => rfl
  | cons c after =>
    by_cases hc : c = '\n'
    · subst hc
      have hends : isWord '\r' = isWord '\n' := by decide
      simp [boundary, hends]
    · rw [withReturns_cons_of_ne hc]
      rfl

section Replacing

variable {size? : List Char → Option Nat} {new : List Char}

/-- Nothing is found where a mark stands that the pieces lack. -/
theorem size?_eq_none {mark : Char}
    (h : ∀ text size, size? text = some size → 0 < size ∧ mark ∉ text.take size)
    (rest : List Char) : size? (mark :: rest) = none := by
  cases hfound : size? (mark :: rest) with
  | none => rfl
  | some size =>
    obtain ⟨hpos, hmem⟩ := h _ _ hfound
    obtain ⟨size, rfl⟩ : ∃ n, size = n + 1 := ⟨size - 1, by omega⟩
    exact absurd List.mem_cons_self hmem

/-- Pieces that hold no part of a line end are found and replaced alike, whichever way lines end.
What is left of a piece that was replaced holds no line feed, so it is skipped in step. -/
theorem replaceFrom_withReturns (hnew : '\n' ∉ new)
    (hsize : ∀ text, size? (withReturns text) = size? text)
    (hfeed : ∀ text size, size? text = some size → 0 < size ∧ '\n' ∉ text.take size)
    (hreturn : ∀ text size, size? text = some size → 0 < size ∧ '\r' ∉ text.take size)
    {text : List Char} {skip : Nat} (hskip : '\n' ∉ text.take skip) :
    replaceFrom size? new skip (withReturns text) =
      withReturns (replaceFrom size? new skip text) := by
  induction text generalizing skip with
  | nil => rw [withReturns_nil, replaceFrom, withReturns_nil]
  | cons c rest ih =>
    cases skip with
    | succ skip =>
      rw [List.take_succ_cons, List.mem_cons, not_or] at hskip
      rw [withReturns_cons_of_ne (Ne.symm hskip.1), replaceFrom, replaceFrom, ih hskip.2]
    | zero =>
      have hrest : replaceFrom size? new 0 (withReturns rest) =
          withReturns (replaceFrom size? new 0 rest) := ih (by simp)
      by_cases hc : c = '\n'
      · -- Nothing is found at either part of a line end.
        subst hc
        rw [withReturns_cons_newline, replaceFrom, size?_eq_none hreturn, replaceFrom,
          size?_eq_none hfeed, replaceFrom, size?_eq_none hfeed]
        exact congrArg _ (congrArg _ hrest)
      · have hsame : size? (c :: withReturns rest) = size? (c :: rest) := by
          rw [← withReturns_cons_of_ne hc, hsize]
        rw [withReturns_cons_of_ne hc, replaceFrom, replaceFrom, hsame]
        cases hfound : size? (c :: rest) with
        | none =>
          show c :: replaceFrom size? new 0 (withReturns rest) = withReturns (c :: _)
          rw [hrest, withReturns_cons_of_ne hc]
        | some size =>
          obtain ⟨hpos, hmem⟩ := hfeed _ _ hfound
          obtain ⟨size, rfl⟩ : ∃ n, size = n + 1 := ⟨size - 1, by omega⟩
          rw [List.take_succ_cons, List.mem_cons, not_or] at hmem
          show new ++ replaceFrom size? new size (withReturns rest) = withReturns (new ++ _)
          rw [ih hmem.2, withReturns_append hnew]
          rfl

end Replacing

theorem replaceWhere_withReturns {piece new : List Char} {fits : List Char → Bool}
    (hne : piece ≠ []) (hfeed : '\n' ∉ piece) (hreturn : '\r' ∉ piece) (hnew : '\n' ∉ new)
    (hfits : ∀ after, fits (withReturns after) = fits after) (text : List Char) :
    replaceWhere piece fits new (withReturns text) =
      withReturns (replaceWhere piece fits new text) := by
  refine replaceFrom_withReturns hnew ?_ (lacks_of_sizeWhere? hne hfeed)
    (lacks_of_sizeWhere? hne hreturn) (by simp)
  intro text
  rw [sizeWhere?, isPrefixOf?_withReturns hfeed hreturn, sizeWhere?]
  cases piece.isPrefixOf? text with
  | none => rfl
  | some after => simp [hfits]

end Text

/-! ## Variables -/

namespace Symbols

open Text

theorem substituteOne_withReturns {entry : List Char × List Char}
    (hfeed : '\n' ∉ entry.1 ∧ '\n' ∉ entry.2) (hreturn : '\r' ∉ entry.1) (text : List Char) :
    substituteOne (withReturns text) entry = withReturns (substituteOne text entry) := by
  have hbraced : '\n' ∉ braced entry.1 ∧ '\r' ∉ braced entry.1 := by
    simp [braced, hfeed.1, hreturn]
  have hbare : '\n' ∉ bare entry.1 ∧ '\r' ∉ bare entry.1 := by
    simp [bare, hfeed.1, hreturn]
  have hends : ∀ after, bareEnds entry.1 (withReturns after) = bareEnds entry.1 after :=
    boundary_withReturns _
  rw [substituteOne, substituteOne,
    replaceWhere_withReturns (by simp [braced]) hbraced.1 hbraced.2 hfeed.2 fun _ => rfl,
    replaceWhere_withReturns (by simp [bare]) hbare.1 hbare.2 hfeed.2 hends]

/-- Variables are replaced in every line of a text alike, whichever way lines end. -/
theorem substitute_withReturns {symbols : Symbols} (hfeed : symbols.Inline)
    (hreturn : ∀ entry ∈ symbols.entries, '\r' ∉ entry.1) (text : List Char) :
    symbols.substitute (withReturns text) = withReturns (symbols.substitute text) := by
  obtain ⟨entries⟩ := symbols
  rw [Inline] at hfeed
  rw [substitute, substitute]
  induction entries generalizing text with
  | nil => rfl
  | cons entry entries ih =>
    obtain ⟨hfeedHere, hfeedRest⟩ := List.forall_mem_cons.1 hfeed
    obtain ⟨hreturnHere, hreturnRest⟩ := List.forall_mem_cons.1 hreturn
    rw [List.foldl_cons, List.foldl_cons, substituteOne_withReturns hfeedHere hreturnHere]
    exact ih _ hfeedRest hreturnRest

/-- A replacement brings in no other characters than those of the value. -/
theorem substituteOne_subset (text : List Char) (entry : List Char × List Char) :
    substituteOne text entry ⊆ entry.2 ++ text := by
  refine List.Subset.trans replaceFrom_subset (List.append_subset.2 ⟨?_, replaceFrom_subset⟩)
  exact List.subset_append_left _ _

theorem not_mem_substitute {mark : Char} {symbols : Symbols}
    (hvalues : ∀ entry ∈ symbols.entries, mark ∉ entry.2) {text : List Char} (h : mark ∉ text) :
    mark ∉ symbols.substitute text := by
  obtain ⟨entries⟩ := symbols
  rw [substitute]
  induction entries generalizing text with
  | nil => exact h
  | cons entry entries ih =>
    obtain ⟨hvalue, hrest⟩ := List.forall_mem_cons.1 hvalues
    refine ih (fun hmem => ?_) hrest
    exact (List.mem_append.1 (substituteOne_subset text entry hmem)).elim hvalue h

end Symbols

/-! ## Manifests -/

namespace Manifest

open Text

variable {content : List Char}

theorem splitLines_withReturns (h : '\r' ∉ content) :
    splitLines (withReturns content) = splitLines content := by
  rw [splitLines, splitLines, pieces_withReturns, map_chomp_endWithReturns (lacks_of_mem_pieces h)]

/-- Variables are collected from lines, so they are the same whichever way lines end. -/
theorem symbols_withReturns (h : '\r' ∉ content) (ecosystem : Ecosystem) :
    symbols ecosystem (withReturns content) = symbols ecosystem content := by
  cases ecosystem <;>
    simp only [symbols, Gradle.symbols, Dockerfile.symbols, terminated_withReturns h]

theorem lacks_return_of_mem_symbols (h : '\r' ∉ content) (ecosystem : Ecosystem) :
    ∀ entry ∈ (symbols ecosystem content).entries, '\r' ∉ entry.1 ∧ '\r' ∉ entry.2 := by
  apply (partOf_symbols ecosystem content).lacks
  intro line hline hmem
  obtain ⟨piece, hpiece, hsubset⟩ := exists_piece_of_mem_terminated hline
  exact lacks_of_mem_pieces h piece hpiece (hsubset hmem)

theorem lines_withReturns {content : String} (h : '\r' ∉ content.toList) (ecosystem : Ecosystem) :
    lines ecosystem (String.ofList (withReturns content.toList)) = lines ecosystem content := by
  have hlacks := lacks_return_of_mem_symbols h ecosystem
  rw [lines, lines, String.toList_ofList, symbols_withReturns h,
    Symbols.substitute_withReturns (inline_symbols ecosystem _) fun entry hentry =>
      (hlacks entry hentry).1,
    splitLines_withReturns
      (Symbols.not_mem_substitute (fun entry hentry => (hlacks entry hentry).2) h)]

end Manifest

/-! ## The result -/

/-- The same manifest without carriage returns and with one before every line feed: the variables
are the same, and so is what each of them replaces in a line; so the lines are the same, and so is
the conversion of every report, whichever of the two is read. -/
theorem line_endings_do_not_matter {content : String} (hreturn : '\r' ∉ content.toList)
    (ecosystem : Ecosystem) :
    Manifest.symbols ecosystem (Text.withReturns content.toList) =
      Manifest.symbols ecosystem content.toList ∧
    (∀ table : Symbols, table.entries <+: (Manifest.symbols ecosystem content.toList).entries →
      table.substitute (Text.withReturns content.toList) =
        Text.withReturns (table.substitute content.toList)) ∧
    Manifest.lines ecosystem (String.ofList (Text.withReturns content.toList)) =
      Manifest.lines ecosystem content ∧
    ∀ disk other manifest, disk.read manifest = .ok content →
      other.read manifest = .ok (String.ofList (Text.withReturns content.toList)) →
      ∀ cwd report, ∃ conversion,
        Run.convert disk cwd manifest ecosystem report = .ok conversion ∧
        Run.convert other cwd manifest ecosystem report = .ok conversion := by
  have hlines := Manifest.lines_withReturns hreturn ecosystem
  refine ⟨Manifest.symbols_withReturns hreturn ecosystem, ?_, hlines, ?_⟩
  · intro table hstart
    apply Symbols.substitute_withReturns
    · intro entry hentry
      exact Manifest.inline_symbols ecosystem _ entry (hstart.subset hentry)
    · intro entry hentry
      exact (Manifest.lacks_return_of_mem_symbols hreturn ecosystem entry
        (hstart.subset hentry)).1
  · intro disk other manifest hread hother cwd report
    refine ⟨_, Run.convert_of_read hread cwd ecosystem report, ?_⟩
    rw [Run.convert_of_read hother, hlines]

namespace Sample

/-- A container file with a variable at the end of a line. -/
def taggedFile : String := "ARG TAG=1\nFROM app:$TAG\n"

def taggedFileWithReturns : String := "ARG TAG=1\r\nFROM app:$TAG\r\n"

/-- A directory with a `Dockerfile` of this content. -/
def containerDisk (content : String) : Disk where
  cwd := ["work"]
  nodes := [(["work"], .directory), (["work", "Dockerfile"], .file (some content))]

end Sample

/-- The carriage return after the variable is no part of its value or its name, and the image is
found on the second line of both files. -/
theorem sample_converts_alike_with_returns :
    '\r' ∉ Sample.taggedFile.toList ∧
    ∃ conversion,
      Run.convert (Sample.containerDisk Sample.taggedFile) "/work" "Dockerfile" .docker
        (.images (KeyMap.ofList [("app:1", Sample.analysis)])) = .ok conversion ∧
      Run.convert (Sample.containerDisk Sample.taggedFileWithReturns) "/work" "Dockerfile" .docker
        (.images (KeyMap.ofList [("app:1", Sample.analysis)])) = .ok conversion ∧
      (conversion.document.results.map fun result => (result.ruleId, result.line)) =
        [("CVE-5", 2), ("CVE-1", 2), ("CVE-2", 2)] := by
  have hreturn : '\r' ∉ Sample.taggedFile.toList := by decide
  have hread : (Sample.containerDisk Sample.taggedFile).read "Dockerfile" =
      .ok Sample.taggedFile := by decide
  have hother : (Sample.containerDisk Sample.taggedFileWithReturns).read "Dockerfile" =
      .ok (String.ofList (Text.withReturns Sample.taggedFile.toList)) := by decide
  obtain ⟨-, -, -, hconvert⟩ := line_endings_do_not_matter hreturn .docker
  obtain ⟨conversion, hleft, hright⟩ := hconvert _ _ _ hread hother "/work"
    (.images (KeyMap.ofList [("app:1", Sample.analysis)]))
  refine ⟨hreturn, conversion, hleft, hright, ?_⟩
  rw [Run.convert_of_read hread] at hleft
  obtain rfl := Except.ok.inj hleft
  decide

end ManifestSarif
