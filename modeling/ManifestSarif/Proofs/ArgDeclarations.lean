import ManifestSarif.Proofs.ChainedDefaults
import ManifestSarif.Proofs.Instructions
import ManifestSarif.Proofs.Occurrences

/-!
# Defaults of container files

A container file gives a variable a default with `ARG name=value`.  The value may stand between two
equal quotes, which are not part of it, and then it may be any text.

* `Dockerfile.Writes` are the ways to write a value, and `Dockerfile.Declares` what a line of a
  container file may look like and what it declares then.
* `Writes.unquote_eq` and `Declares.declaration?_eq` read values and lines back.
* `declarations_intercalate` takes this to files, whose lines may end with carriage returns.
* `arg_declarations_give_defaults` is the result for the table of variables.
-/

namespace ManifestSarif.Dockerfile

open Text

/-! ## Values -/

/-- The ways to write a value behind the `=`: between two quotes, or as it is.  Without quotes a
value neither starts nor ends with white space, and is not between two equal quotes itself. -/
inductive Writes (value : List Char) : List Char → Prop where
  | quoted {quote : Char} (hquote : quote = '"' ∨ quote = '\'') :
      Writes value (quote :: value ++ [quote])
  | bare (hfirst : ∀ c ∈ value.head?, isBlank c = false)
      (hlast : ∀ c ∈ value.getLast?, isBlank c = false)
      (hquotes : ∀ quote inner, quote = '"' ∨ quote = '\'' → value ≠ quote :: inner ++ [quote]) :
      Writes value value

variable {name value written line : List Char} {said : Option (List Char × List Char)}

theorem between?_eq_some_iff {quote : Char} {text inner : List Char} :
    between? quote text = some inner ↔ text = quote :: inner ++ [quote] := by
  cases text with
  | nil => simp [between?]
  | cons c rest =>
    show (if c = quote ∧ rest.getLast? = some quote then some rest.dropLast else none) =
      some inner ↔ _
    rw [List.cons_append, List.cons.injEq]
    constructor
    · intro h
      split at h
      · next hends =>
        obtain ⟨front, rfl⟩ := List.getLast?_eq_some_iff.1 hends.2
        rw [List.dropLast_concat] at h
        exact ⟨hends.1, by rw [Option.some.inj h]⟩
      · cases h
    · rintro ⟨rfl, rfl⟩
      rw [if_pos ⟨rfl, List.getLast?_concat⟩, List.dropLast_concat]

theorem between?_eq_none {quote : Char} {text : List Char}
    (h : ∀ inner, text ≠ quote :: inner ++ [quote]) : between? quote text = none :=
  Option.eq_none_iff_forall_ne_some.2 fun inner hinner => h inner (between?_eq_some_iff.1 hinner)

/-- A value is read back from however it is written. -/
theorem Writes.unquote_eq (h : Writes value written) : unquote written = value := by
  cases h with
  | quoted hquote =>
    rcases hquote with rfl | rfl
    · rw [unquote, between?_eq_some_iff.2 rfl]
      rfl
    · rw [unquote, between?_eq_none fun inner heq => ?_, between?_eq_some_iff.2 rfl]
      · rfl
      · exact absurd (List.cons.inj heq).1 (by decide)
  | bare hfirst hlast hquotes =>
    rw [unquote, between?_eq_none fun inner => hquotes '"' inner (Or.inl rfl),
      between?_eq_none fun inner => hquotes '\'' inner (Or.inr rfl)]
    rfl

/-- However a value is written, it ends where the white space behind it starts. -/
theorem Writes.isBlank_of_mem_getLast? (h : Writes value written) :
    ∀ c ∈ written.getLast?, isBlank c = false := by
  cases h with
  | quoted hquote =>
    intro c hc
    rw [List.cons_append, ← List.cons_append, List.getLast?_concat] at hc
    obtain rfl := Option.some.inj (Option.mem_def.1 hc)
    rcases hquote with rfl | rfl <;> decide
  | bare _ hlast _ => exact hlast

theorem Writes.isBlank_of_mem_getLast?_append (h : Writes value written) (name : List Char) :
    ∀ c ∈ (name ++ '=' :: written).getLast?, isBlank c = false := by
  intro c hc
  cases written with
  | nil =>
    rw [List.getLast?_concat] at hc
    obtain rfl := Option.some.inj (Option.mem_def.1 hc)
    decide
  | cons first written =>
    rw [List.getLast?_append_cons, List.getLast?_cons_cons] at hc
    exact h.isBlank_of_mem_getLast? c hc

/-! ## Lines -/

/-- A name of a variable: it is not empty and holds neither white space nor an `=`. -/
structure IsVariable (name : List Char) : Prop where
  ne_nil : name ≠ []
  isBlank_of_mem : ∀ c ∈ name, isBlank c = false
  equals_not_mem : '=' ∉ name

instance : DecidablePred IsVariable := fun name =>
  decidable_of_iff (name ≠ [] ∧ name.any isBlank = false ∧ '=' ∉ name)
    ⟨fun h => ⟨h.1, by simpa using h.2.1, h.2.2⟩, fun h => ⟨h.1, by simpa using h.2, h.3⟩⟩

/-- What a line may look like, and the variable and the default that it declares then: it gives a
variable a default, it names a variable without one, or it is no `ARG` instruction. -/
inductive Declares : List Char → Option (List Char × List Char) → Prop where
  | default {lead gap name value written trail : List Char} (hlead : Blanks lead)
      (hgap : Blanks gap) (hne : gap ≠ []) (hname : IsVariable name)
      (hwritten : Writes value written) (htrail : Blanks trail) :
      Declares (lead ++ ['A', 'R', 'G'] ++ gap ++ (name ++ '=' :: written) ++ trail)
        (some (name, value))
  | nameOnly {lead gap name trail : List Char} (hlead : Blanks lead) (hgap : Blanks gap)
      (hne : gap ≠ []) (hname : IsVariable name) (htrail : Blanks trail) :
      Declares (lead ++ ['A', 'R', 'G'] ++ gap ++ name ++ trail) none
  | other {line : List Char} (hother : ¬Opens ['A', 'R', 'G'] line) : Declares line none

theorem IsVariable.isBlank_of_mem_head? (h : IsVariable name) (rest : List Char) :
    ∀ c ∈ (name ++ rest).head?, isBlank c = false := by
  obtain ⟨first, name, rfl⟩ := List.exists_cons_of_ne_nil h.ne_nil
  intro c hc
  obtain rfl := Option.some.inj (Option.mem_def.1 hc)
  exact h.isBlank_of_mem first List.mem_cons_self

theorem isBlank_arg : ∃ c ∈ ['A', 'R', 'G'].head?, isBlank c = false :=
  ⟨'A', rfl, by decide⟩

/-- The argument of an `ARG` instruction and the white space behind it. -/
theorem argument?_arg {lead gap argument trail : List Char} (hlead : Blanks lead)
    (hgap : Blanks gap) (hne : gap ≠ [])
    (hfirst : ∀ c ∈ (argument ++ trail).head?, isBlank c = false)
    (hfeed : '\n' ∉ lead ++ ['A', 'R', 'G'] ++ gap ++ argument ++ trail) :
    argument? ['A', 'R', 'G'] (lead ++ ['A', 'R', 'G'] ++ gap ++ argument ++ trail) =
      some (argument ++ trail) := by
  rw [List.append_assoc _ argument, List.mem_append, not_or] at hfeed
  refine (argument?_eq_some_iff isBlank_arg).2 ⟨lead, gap, [], by simp, hlead, hgap, hne, ?_,
    hfeed.2, by simp⟩
  rwa [List.append_nil]

/-- What a line declares is read back from it. -/
theorem Declares.declaration?_eq (h : Declares line said)
    (hfeed : '\n' ∉ line) : declaration? line = said := by
  cases h with
  | @default lead gap name value written trail hlead hgap hne hname hwritten htrail =>
    have hfirst := hname.isBlank_of_mem_head? ('=' :: written ++ trail)
    rw [← List.append_assoc] at hfirst
    have htrim : trim (name ++ '=' :: written ++ trail) = name ++ '=' :: written := by
      rw [← List.nil_append (name ++ '=' :: written)]
      exact trim_of_blanks blanks_nil htrail (hname.isBlank_of_mem_head? _)
        (hwritten.isBlank_of_mem_getLast?_append name)
    rw [declaration?, argument?_arg hlead hgap hne hfirst hfeed, Option.bind_some, htrim,
      cutAt_append hname.equals_not_mem, Option.map_some]
    exact congrArg (fun value => some (name, value)) hwritten.unquote_eq
  | @nameOnly lead gap name trail hlead hgap hne hname htrail =>
    have hsolid := hname.isBlank_of_mem
    have htrim : trim (name ++ trail) = name := by
      rw [← List.nil_append name]
      exact trim_of_blanks blanks_nil htrail (fun c hc => hsolid c (List.mem_of_mem_head? hc))
        fun c hc => hsolid c (List.mem_of_mem_getLast? hc)
    rw [declaration?, argument?_arg hlead hgap hne (hname.isBlank_of_mem_head? _) hfeed,
      Option.bind_some, htrim, cutAt_eq_none hname.equals_not_mem]
    rfl
  | other hother =>
    rw [← isSome_argument?_iff isBlank_arg, Option.not_isSome_iff_eq_none] at hother
    rw [declaration?, hother]
    rfl

/-! ## Files -/

/-- A carriage return that ends a line is part of the white space at its end. -/
theorem exists_blanks_chomp {front text trail : List Char} (htrail : Blanks trail)
    (hne : text ≠ []) (hlast : ∀ c ∈ text.getLast?, isBlank c = false) :
    ∃ rest, Blanks rest ∧ chomp (front ++ text ++ trail) = front ++ text ++ rest := by
  rcases List.eq_nil_or_concat trail with rfl | ⟨trail, c, rfl⟩
  · refine ⟨[], blanks_nil, ?_⟩
    have hreturn : (front ++ text).getLast? ≠ some '\r' := by
      rw [List.getLast?_append_of_ne_nil front hne]
      exact fun heq => absurd (hlast _ heq) (by decide)
    rw [List.append_nil, chomp, if_neg hreturn]
  · rw [List.concat_eq_append] at htrail ⊢
    rw [chomp, ← List.append_assoc]
    split
    · rw [List.dropLast_concat]
      exact ⟨trail, (List.forall_mem_append.1 htrail).1, rfl⟩
    · exact ⟨trail ++ [c], htrail, List.append_assoc _ _ _⟩

/-- A carriage return at the end of a line does not change what the line declares. -/
theorem Declares.chomp (h : Declares line said) : Declares (chomp line) said := by
  cases h with
  | @default lead gap name value written trail hlead hgap hne hname hwritten htrail =>
    obtain ⟨rest, hrest, hchomp⟩ := exists_blanks_chomp htrail (by simp)
      (hwritten.isBlank_of_mem_getLast?_append name)
    rw [hchomp]
    exact .default hlead hgap hne hname hwritten hrest
  | nameOnly hlead hgap hne hname htrail =>
    obtain ⟨rest, hrest, hchomp⟩ := exists_blanks_chomp htrail hname.ne_nil
      fun c hc => hname.isBlank_of_mem c (List.mem_of_mem_getLast? hc)
    rw [hchomp]
    exact .nameOnly hlead hgap hne hname hrest
  | other hother =>
    refine .other fun hopens => hother ?_
    obtain ⟨more, hmore⟩ := chomp_prefix_self line
    rw [← hmore]
    exact hopens.append more

/-- The lines of a file declare what they do where the file ends them. -/
theorem filterMap_endLines {lines : List (List Char)}
    {said : List (Option (List Char × List Char))} (h : List.Forall₂ Declares lines said)
    (hfeed : ∀ line ∈ lines, '\n' ∉ line) :
    (endLines lines).filterMap declaration? = said.filterMap id := by
  induction h with
  | nil => rfl
  | @cons line first lines said hfirst hrest ih =>
    obtain ⟨hline, hlines⟩ := List.forall_mem_cons.1 hfeed
    cases hrest with
    | nil =>
      have hread := hfirst.declaration?_eq hline
      cases line with
      | nil =>
        obtain rfl : none = first := hread
        rfl
      | cons c line =>
        show List.filterMap declaration? [c :: line] = _
        simp [List.filterMap_cons, hread]
    | cons hnext hrest =>
      have hread := hfirst.chomp.declaration?_eq (mt (@chomp_subset line _) hline)
      rw [endLines_cons (List.cons_ne_nil _ _), List.filterMap_cons, List.filterMap_cons, hread,
        ih hlines]
      rfl

/-- The declarations of a file are those of its lines, in their order. -/
theorem declarations_intercalate {lines : List (List Char)}
    {said : List (Option (List Char × List Char))} (h : List.Forall₂ Declares lines said)
    (hfeed : ∀ line ∈ lines, '\n' ∉ line) :
    declarations (['\n'].intercalate lines) = said.filterMap id := by
  cases lines with
  | nil =>
    cases h
    rfl
  | cons line lines =>
    rw [declarations, terminated, pieces_intercalate (List.cons_ne_nil line lines) hfeed]
    exact filterMap_endLines h hfeed

/-! ## The result -/

/-- A container file is put together from lines of any kind, in any order: lines that give a
variable a default, in double quotes, in single quotes or without, lines that name a variable only,
and lines that are no `ARG` instruction.  Then the table of its variables is the one table that has
each name that is given a default, once, in the order in which the names first are, with the value
of the last line that gives it one. -/
theorem arg_declarations_give_defaults {lines : List (List Char)}
    {said : List (Option (List Char × List Char))} (h : List.Forall₂ Declares lines said)
    (hfeed : ∀ line ∈ lines, '\n' ∉ line) (table : Symbols) :
    Symbols.Tabulates (said.filterMap id) table ↔ table = symbols (['\n'].intercalate lines) := by
  rw [symbols_eq_ofDefinitions, declarations_intercalate h hfeed]
  exact Symbols.tabulates_iff

/-! ## A sample -/

namespace Sample

/-- A variable that is given a default twice, one whose default has quotes and an `=` in it, one
without a default, and two lines that are no `ARG` instruction. -/
def argLines : List (List Char) := [
  "FROM base".toList, "ARG TAG=\"3.9\"".toList, "  ARG\tIMAGE='my \"app\" = $TAG'".toList,
  "ARG NAME".toList, "ARGUMENT=1".toList, "ARG TAG=4=\"5\r".toList]

/-- What the lines declare. -/
def argDefaults : List (Option (List Char × List Char)) := [
  none, some ("TAG".toList, "3.9".toList), some ("IMAGE".toList, "my \"app\" = $TAG".toList),
  none, none, some ("TAG".toList, "4=\"5".toList)]

theorem not_opens {line : List Char} (h : argument? ['A', 'R', 'G'] line = none) :
    ¬Opens ['A', 'R', 'G'] line := by
  rw [← isSome_argument?_iff isBlank_arg, h]
  exact Bool.false_ne_true

theorem declares_argLines : List.Forall₂ Declares argLines argDefaults := by
  refine .cons (.other (not_opens (by decide))) (.cons ?_ (.cons ?_ (.cons ?_
    (.cons (.other (not_opens (by decide))) (.cons ?_ .nil)))))
  · exact @Declares.default [] [' '] "TAG".toList "3.9".toList _ [] (by decide) (by decide)
      (by decide) (by decide) (.quoted (Or.inl rfl)) (by decide)
  · exact @Declares.default [' ', ' '] ['\t'] "IMAGE".toList "my \"app\" = $TAG".toList _ []
      (by decide) (by decide) (by decide) (by decide) (.quoted (Or.inr rfl)) (by decide)
  · exact @Declares.nameOnly [] [' '] "NAME".toList [] (by decide) (by decide) (by decide)
      (by decide) (by decide)
  · refine @Declares.default [] [' '] "TAG".toList "4=\"5".toList _ ['\r'] (by decide) (by decide)
      (by decide) (by decide) (.bare (fun c hc => by cases hc; decide)
        (fun c hc => by cases hc; decide) ?_) (by decide)
    rintro quote inner (rfl | rfl) heq <;> exact absurd (List.cons.inj heq).1 (by decide)

end Sample

/-- The last default of `TAG` is in the place of the first, and no quote is lost that does not
enclose a default. -/
theorem sample_table_of_defaults :
    List.Forall₂ Declares Sample.argLines Sample.argDefaults ∧
    (∀ line ∈ Sample.argLines, '\n' ∉ line) ∧
    symbols (['\n'].intercalate Sample.argLines) =
      ⟨[("TAG".toList, "4=\"5".toList), ("IMAGE".toList, "my \"app\" = $TAG".toList)]⟩ ∧
    Symbols.Tabulates (Sample.argDefaults.filterMap id)
      ⟨[("TAG".toList, "4=\"5".toList), ("IMAGE".toList, "my \"app\" = $TAG".toList)]⟩ := by
  have hfeed : ∀ line ∈ Sample.argLines, '\n' ∉ line := by decide
  have htable : symbols (['\n'].intercalate Sample.argLines) =
      ⟨[("TAG".toList, "4=\"5".toList), ("IMAGE".toList, "my \"app\" = $TAG".toList)]⟩ := by decide
  exact ⟨Sample.declares_argLines, hfeed, htable,
    (arg_declarations_give_defaults Sample.declares_argLines hfeed _).2 htable.symm⟩

end ManifestSarif.Dockerfile
