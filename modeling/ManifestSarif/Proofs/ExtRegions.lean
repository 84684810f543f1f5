import ManifestSarif.Proofs.Assignments
import ManifestSarif.Proofs.VariableTables

/-!
# Extra properties of scripts

The lines of a script that belong to `ext` define its extra properties, and no other line does.

* `Block` are the lines of a block, whose braces are counted from the line that opens it on.
* `Divides` says how a script divides into plain lines, single statements and blocks;
  `exists_divides`: every script does.
* `Block.extLinesFrom_append` reads a block to its end, and `Divides.extLinesFrom_eq` a whole
  script: what is collected are the lines of the statements and the blocks.
* `ext_regions_give_properties` is the result for the table of the properties.
-/

namespace ManifestSarif.Gradle

open Text

/-! ## Scripts -/

/-- The lines of a block before whose first line `count` braces are open, and the lines after it:
the block ends with the first line after which no brace is open, or with the script. -/
inductive Block : Int → List (List Char) → List (List Char) → Prop where
  | closed {count : Int} {code : List Char} (rest : List (List Char))
      (hclosed : count + braceBalance code ≤ 0) : Block count [code] rest
  | ended {count : Int} {code : List Char} (hopen : 0 < count + braceBalance code) :
      Block count [code] []
  | more {count : Int} {code : List Char} {lines rest : List (List Char)}
      (hopen : 0 < count + braceBalance code)
      (hmore : Block (count + braceBalance code) lines rest) : Block count (code :: lines) rest

/-- How the lines of a script divide into plain lines, single statements and blocks, and which of
them are lines of statements and blocks. -/
inductive Divides : List (List Char) → List (List Char) → Prop where
  | nil : Divides [] []
  | plain {code : List Char} {rest ext : List (List Char)} (hplain : ¬NamesExt code)
      (hrest : Divides rest ext) : Divides (code :: rest) ext
  | statement {code : List Char} {rest ext : List (List Char)} (hnames : NamesExt code)
      (hbrace : '\x7b' ∉ code) (hnext : ∀ next ∈ rest.head?, next.head? ≠ some '\x7b')
      (hrest : Divides rest ext) : Divides (code :: rest) (code :: ext)
  | block {first : List Char} {lines rest ext : List (List Char)} (hnames : NamesExt first)
      (hbrace : '\x7b' ∈ first) (hblock : Block 0 (first :: lines) rest)
      (hrest : Divides rest ext) : Divides (first :: lines ++ rest) (first :: lines ++ ext)
  | announced {header first : List Char} {lines rest ext : List (List Char)}
      (hnames : NamesExt header) (hbrace : '\x7b' ∉ header) (hfirst : first.head? = some '\x7b')
      (hblock : Block 0 (first :: lines) rest) (hrest : Divides rest ext) :
      Divides (header :: first :: lines ++ rest) (header :: first :: lines ++ ext)

variable {region : Region} {codes ext rest block lines : List (List Char)} {code : List Char}
  {count : Int} {said : List (Option (List Char × List Char))}

theorem exists_block (count : Int) (code : List Char) (lines : List (List Char)) :
    ∃ block rest, code :: lines = code :: block ++ rest ∧ Block count (code :: block) rest := by
  induction lines generalizing count code with
  | nil =>
    by_cases hopen : 0 < count + braceBalance code
    · exact ⟨[], [], rfl, .ended hopen⟩
    · exact ⟨[], [], rfl, .closed [] (Int.not_lt.1 hopen)⟩
  | cons next lines ih =>
    by_cases hopen : 0 < count + braceBalance code
    · obtain ⟨block, rest, heq, hblock⟩ := ih (count + braceBalance code) next
      exact ⟨next :: block, rest, by rw [heq]; rfl, .more hopen hblock⟩
    · exact ⟨[], next :: lines, rfl, .closed _ (Int.not_lt.1 hopen)⟩

/-- Every script is divided into plain lines, statements and blocks. -/
theorem exists_divides (codes : List (List Char)) : ∃ ext, Divides codes ext := by
  induction hlength : codes.length using Nat.strongRecOn generalizing codes with
  | ind length ih =>
    cases codes with
    | nil => exact ⟨[], .nil⟩
    | cons code rest =>
      rw [List.length_cons] at hlength
      by_cases hnames : NamesExt code
      · by_cases hbrace : '\x7b' ∈ code
        · obtain ⟨block, after, heq, hblock⟩ := exists_block 0 code rest
          have hshorter := congrArg List.length heq
          rw [List.length_append, List.length_cons, List.length_cons] at hshorter
          obtain ⟨ext, hext⟩ := ih after.length (by omega) after rfl
          rw [heq]
          exact ⟨_, Divides.block hnames hbrace hblock hext⟩
        · by_cases hnext : ∀ next ∈ rest.head?, next.head? ≠ some '\x7b'
          · obtain ⟨ext, hext⟩ := ih rest.length (by omega) rest rfl
            exact ⟨_, .statement hnames hbrace hnext hext⟩
          · push Not at hnext
            obtain ⟨first, hmem, hfirst⟩ := hnext
            obtain ⟨lines, rfl⟩ := List.head?_eq_some_iff.1 (Option.mem_def.1 hmem)
            obtain ⟨block, after, heq, hblock⟩ := exists_block 0 first lines
            have hshorter := congrArg List.length heq
            rw [List.length_append, List.length_cons, List.length_cons] at hshorter
            rw [List.length_cons] at hlength
            obtain ⟨ext, hext⟩ := ih after.length (by omega) after rfl
            rw [heq]
            exact ⟨_, Divides.announced hnames hbrace hfirst hblock hext⟩
      · obtain ⟨ext, hext⟩ := ih rest.length (by omega) rest rfl
        exact ⟨ext, .plain hnames hext⟩

/-! ## The lines that are collected -/

/-- The lines that belong to `ext`, of a script that stands at `region`. -/
def extLinesFrom (region : Region) : List (List Char) → List (List Char)
  | [] => []
  | code :: rest =>
    let (next, belongs) := region.step code
    if belongs then code :: extLinesFrom next rest else extLinesFrom next rest

theorem symbolsFrom_eq_foldl (region : Region) (table : Symbols) (codes : List (List Char)) :
    symbolsFrom region table codes = (extLinesFrom region codes).foldl collect table := by
  induction codes generalizing region table with
  | nil => rfl
  | cons code rest ih =>
    rw [symbolsFrom, extLinesFrom]
    obtain ⟨next, belongs⟩ := region.step code
    cases belongs with
    | true => exact ih next (collect table code)
    | false => exact ih next table

/-- The table of a script is filled by the assignments of the lines that belong to `ext`. -/
theorem symbols_eq_ofDefinitions (script : List Char) :
    symbols script = .ofDefinitions
      ((extLinesFrom .outside ((terminated script).map codeOf)).filterMap assignment?) := by
  rw [symbols, symbolsFrom_eq_foldl, Symbols.ofDefinitions, List.foldl_filterMap]
  congr 1
  funext table code
  rw [collect]
  cases assignment? code <;> rfl

/-! ## One line -/

namespace Region

theorem depth_ofDepth (count : Nat) : (ofDepth count).depth = count := by
  cases count <;> rfl

theorem entersBlock_of_depth_pos (h : 0 < region.depth) (code : List Char) :
    region.entersBlock code = true := by
  cases region with
  | block extra => rfl
  | outside => cases h
  | announced => cases h

theorem entersBlock_of_namesExt (hnames : NamesExt code) (hbrace : '\x7b' ∈ code) :
    region.entersBlock code = true := by
  have hboth : (namesExt code && code.contains '\x7b') = true := by
    rw [Bool.and_eq_true, List.contains_iff_mem]
    exact ⟨namesExt_iff.2 hnames, hbrace⟩
  cases region with
  | outside => exact hboth
  | announced => rw [entersBlock, hboth, Bool.or_true]
  | block extra => rfl

theorem step_of_entersBlock (h : region.entersBlock code = true) :
    region.step code = (ofDepth (region.depth + braceBalance code).toNat, true) := by
  rw [step, if_pos h]

end Region

/-- No block is open, and the first of the lines is not the one that opens an announced block. -/
def Between (region : Region) (codes : List (List Char)) : Prop :=
  region = .outside ∨ region = .announced ∧ ∀ next ∈ codes.head?, next.head? ≠ some '\x7b'

theorem Between.entersBlock_iff (h : Between region (code :: rest)) :
    region.entersBlock code = true ↔ NamesExt code ∧ '\x7b' ∈ code := by
  rw [← namesExt_iff, ← List.contains_iff_mem, ← Bool.and_eq_true]
  rcases h with rfl | ⟨rfl, hnext⟩
  · rfl
  · rw [Region.entersBlock, Bool.or_eq_true, decide_eq_true_eq]
    exact or_iff_right (hnext code rfl)

theorem Between.step_plain (h : Between region (code :: rest)) (hplain : ¬NamesExt code) :
    region.step code = (.outside, false) := by
  rw [Region.step, if_neg fun henters => hplain (h.entersBlock_iff.1 henters).1,
    if_neg (mt namesExt_iff.1 hplain)]

theorem Between.step_statement (h : Between region (code :: rest)) (hnames : NamesExt code)
    (hbrace : '\x7b' ∉ code) : region.step code = (.announced, true) := by
  rw [Region.step, if_neg fun henters => hbrace (h.entersBlock_iff.1 henters).2,
    if_pos (namesExt_iff.2 hnames)]

/-! ## Blocks and scripts -/

/-- A block is read to its end, and the script stands outside then. -/
theorem Block.extLinesFrom_append (h : Block count block rest)
    (hdepth : (region.depth : Int) = count)
    (henters : ∀ code ∈ block.head?, region.entersBlock code = true) :
    extLinesFrom region (block ++ rest) = block ++ extLinesFrom .outside rest := by
  induction h generalizing region with
  | @closed count code rest hclosed =>
    have hout : Region.ofDepth (region.depth + braceBalance code).toNat = .outside := by
      rw [hdepth, Int.toNat_eq_zero.2 hclosed]
      rfl
    rw [List.singleton_append, extLinesFrom, Region.step_of_entersBlock (henters code rfl), hout]
    rfl
  | @ended count code hopen =>
    show extLinesFrom region [code] = [code]
    rw [extLinesFrom, Region.step_of_entersBlock (henters code rfl)]
    rfl
  | @more count code lines rest hopen hmore ih =>
    have hnext : ((Region.ofDepth (region.depth + braceBalance code).toNat).depth : Int) =
        count + braceBalance code := by
      rw [Region.depth_ofDepth, hdepth, Int.toNat_of_nonneg (Int.le_of_lt hopen)]
    have hinside : 0 < (Region.ofDepth (region.depth + braceBalance code).toNat).depth := by
      omega
    rw [List.cons_append, extLinesFrom, Region.step_of_entersBlock (henters code rfl)]
    exact congrArg (code :: ·) (ih hnext fun next _ => Region.entersBlock_of_depth_pos hinside next)

/-- The lines that are collected are those of the statements and the blocks. -/
theorem Divides.extLinesFrom_eq (h : Divides codes ext) (hregion : Between region codes) :
    extLinesFrom region codes = ext := by
  induction h generalizing region with
  | nil => rfl
  | plain hplain _ ih =>
    rw [extLinesFrom, hregion.step_plain hplain]
    exact ih (Or.inl rfl)
  | statement hnames hbrace hnext _ ih =>
    rw [extLinesFrom, hregion.step_statement hnames hbrace]
    exact congrArg _ (ih (Or.inr ⟨rfl, hnext⟩))
  | block hnames hbrace hblock _ ih =>
    have hdepth : (region.depth : Int) = 0 := by
      rcases hregion with rfl | ⟨rfl, -⟩ <;> rfl
    rw [hblock.extLinesFrom_append hdepth, ih (Or.inl rfl)]
    intro code hcode
    obtain rfl := Option.some.inj (Option.mem_def.1 hcode)
    exact Region.entersBlock_of_namesExt hnames hbrace
  | @announced header first lines rest ext hnames hbrace hfirst hblock _ ih =>
    have hopens : Region.announced.entersBlock first = true := by
      rw [Region.entersBlock, hfirst]
      rfl
    have hread : extLinesFrom .announced (first :: lines ++ rest) = first :: lines ++ ext := by
      rw [hblock.extLinesFrom_append rfl, ih (Or.inl rfl)]
      intro code hcode
      obtain rfl := Option.some.inj (Option.mem_def.1 hcode)
      exact hopens
    rw [List.cons_append, extLinesFrom, hregion.step_statement hnames hbrace]
    exact congrArg (header :: ·) hread

/-! ## The result -/

theorem filterMap_assignment? (h : List.Forall₂ Defines ext said) :
    ext.filterMap assignment? = said.filterMap id := by
  induction h with
  | nil => rfl
  | cons hfirst _ ih =>
    rw [List.filterMap_cons, List.filterMap_cons, defines_iff.1 hfirst, ih]
    rfl

/-- Every line defines what the first assignment on it says, or nothing. -/
theorem forall₂_defines_map (codes : List (List Char)) :
    List.Forall₂ Defines codes (codes.map assignment?) := by
  rw [List.forall₂_map_right_iff]
  exact List.forall₂_same.2 fun code _ => defines_iff.2 rfl

/-- Every script is put together from plain lines without the word `ext`, single statements with it
and blocks that such a line opens, itself or with the line that follows it; every line counts
without its comments and without white space at its ends.  However a script is put together, the
table of the extra properties is the one table that has each name that a line of a statement or a
block assigns first on that line, once, in the order in which the names first are, with the value
of the last such line, less the white space at the ends of the value. -/
theorem ext_regions_give_properties (script : List Char) :
    (∃ ext said, Divides ((terminated script).map codeOf) ext ∧ List.Forall₂ Defines ext said) ∧
    ∀ (ext : List (List Char)) (said : List (Option (List Char × List Char))) (table : Symbols),
      Divides ((terminated script).map codeOf) ext → List.Forall₂ Defines ext said →
      (Symbols.Tabulates (said.filterMap id) table ↔ table = symbols script) := by
  constructor
  · obtain ⟨ext, hdivides⟩ := exists_divides ((terminated script).map codeOf)
    exact ⟨ext, ext.map assignment?, hdivides, forall₂_defines_map ext⟩
  · intro ext said table hdivides hsaid
    rw [symbols_eq_ofDefinitions, hdivides.extLinesFrom_eq (Or.inl rfl),
      filterMap_assignment? hsaid]
    exact Symbols.tabulates_iff

/-- The white space at the ends of a value is no part of what the value defines. -/
theorem spaces_of_value_are_not_defined :
    Divides ((terminated "ext a = ' x '".toList).map codeOf) ["ext a = ' x '".toList] ∧
    FirstAssigns false "a".toList " x ".toList "ext a = ' x '".toList ∧
    ¬Symbols.Tabulates [("a".toList, " x ".toList)] (symbols "ext a = ' x '".toList) := by
  have hcodes : (terminated "ext a = ' x '".toList).map codeOf = ["ext a = ' x '".toList] := by
    decide +kernel
  have hother : Symbols.ofDefinitions [("a".toList, " x ".toList)] ≠
      symbols "ext a = ' x '".toList := by decide +kernel
  refine ⟨?_, assignmentFrom?_eq_some_iff.1 (by decide +kernel), fun htable => ?_⟩
  · rw [hcodes]
    exact .statement (by decide +kernel) (by decide) (by simp) .nil
  · exact hother (Symbols.tabulates_iff.1 htable).symm

/-! ## A sample -/

namespace Sample

/-- A script with a plain line, a statement, a block with braces in it that closes where a comment
opens another one, a line after the block, and a block whose brace is on a line of its own. -/
def extScript : List Char :=
  ("version = '0'\next a = 'one'\next \x7b\n  b = \"two\"\n" ++
    "  nested \x7b c = 'three' \x7d // \x7b\n\x7d\nb = 'no'\next\n\x7b b = ' four' \x7d\n").toList

/-- The lines of its statements and blocks, without comments and indentation. -/
def extCodes : List (List Char) := [
  "ext a = 'one'".toList, "ext \x7b".toList, "b = \"two\"".toList,
  "nested \x7b c = 'three' \x7d".toList, "\x7d".toList, "ext".toList,
  "\x7b b = ' four' \x7d".toList]

/-- What these lines define. -/
def extSaid : List (Option (List Char × List Char)) := [
  some ("a".toList, "one".toList), none, some ("b".toList, "two".toList),
  some ("c".toList, "three".toList), none, none, some ("b".toList, "four".toList)]

theorem divides_extScript : Divides ((terminated extScript).map codeOf) extCodes := by
  have hcodes : (terminated extScript).map codeOf =
      "version = '0'".toList :: "ext a = 'one'".toList ::
        ("ext \x7b".toList :: ["b = \"two\"".toList, "nested \x7b c = 'three' \x7d".toList,
          "\x7d".toList] ++
        ("b = 'no'".toList :: ("ext".toList :: "\x7b b = ' four' \x7d".toList :: [] ++ []))) := by
    decide +kernel
  rw [hcodes]
  refine .plain (by decide +kernel) (.statement (by decide +kernel) (by decide) (by decide) ?_)
  refine .block (by decide +kernel) (by decide) ?_ (.plain (by decide +kernel) ?_)
  · exact .more (by decide) (.more (by decide) (.more (by decide) (.closed _ (by decide))))
  · exact .announced (by decide +kernel) (by decide) rfl (.closed _ (by decide)) .nil

theorem defines_extCodes : List.Forall₂ Defines extCodes extSaid := by
  have hread : extCodes.map assignment? = extSaid := by decide +kernel
  rw [← hread]
  exact forall₂_defines_map extCodes

end Sample

/-- The plain lines define nothing, and the block that is announced gives `b` a new value in the
place of the old one. -/
theorem sample_table_of_ext :
    Divides ((terminated Sample.extScript).map codeOf) Sample.extCodes ∧
    List.Forall₂ Defines Sample.extCodes Sample.extSaid ∧
    Symbols.Tabulates (Sample.extSaid.filterMap id) ⟨[("a".toList, "one".toList),
      ("b".toList, "four".toList), ("c".toList, "three".toList)]⟩ := by
  refine ⟨Sample.divides_extScript, Sample.defines_extCodes, ?_⟩
  obtain ⟨-, htable⟩ := ext_regions_give_properties Sample.extScript
  rw [htable _ _ _ Sample.divides_extScript Sample.defines_extCodes]
  decide +kernel

end ManifestSarif.Gradle
