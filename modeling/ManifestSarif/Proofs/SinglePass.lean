import ManifestSarif.Proofs.References

/-!
# All references in a single pass

The variables of a table are replaced one after the other, each in a text that the earlier ones have
changed.  This is one pass over the text as it was first, as long as no value is put where it goes
on with a `$` before it.

* `Apart` says that the values of references that stand right behind an opened `$` do not go on with
  it.
* `at?_replaceAll`: then a `$` that is kept makes the same reference before and after a pass.
* `replaceAll_replaceAll` joins two passes into one, and `Apart.replaceAll` carries the condition
  from one pass to the next.
* `substitute_eq_replaceOnce` takes this to all variables of a table.
* `references_are_replaced_once_where_apart` is the result, and
  `reference_before_inserted_word_is_lost` what happens without the condition.
-/

namespace ManifestSarif

open Text

namespace Reference

/-- Whether a value goes on with nothing that a `$` before it may have opened: it starts with a
character that is no word character and no brace. -/
def separates (value : List Char) : Bool :=
  value.head?.any fun c => !isWord c && c != '\x7b' && c != '\x7d'

/-- Wherever a `$` opens something, a reference right behind it has a value that separates, if it
has a value at all. -/
def Apart (value? : Reference → Option (List Char)) (text : List Char) : Prop :=
  ∀ rest, '$' :: rest <:+ text →
    ∀ value ∈ (at? (Opening.of rest).after).bind value?, separates value = true

variable {value? first second : Reference → Option (List Char)} {text : List Char}

instance : Decidable (Apart value? text) :=
  decidableBehindDollars text

theorem Apart.of_suffix {rest : List Char} (h : Apart value? text) (hrest : rest <:+ text) :
    Apart value? rest :=
  fun inner hinner => h inner (hinner.trans hrest)

/-- References of which fewer have values stand apart all the more. -/
theorem Apart.mono (h : Apart second text)
    (hle : ∀ r value, first r = some value → second r = some value) : Apart first text := by
  intro rest hrest value hvalue
  obtain ⟨r, hat, hfirst⟩ := Option.bind_eq_some_iff.1 hvalue
  exact h rest hrest value (Option.bind_eq_some_iff.2 ⟨r, hat, hle r value hfirst⟩)

/-! ## What is kept makes the same references -/

/-- A pass keeps the first character of a text, or puts that of a value for a `$`. -/
theorem head?_replaceAll (hsep : ∀ value ∈ (at? text).bind value?, separates value = true) :
    (replaceAll value? 0 text).head? = text.head? ∨
      text.head? = some '$' ∧ ∃ c, (replaceAll value? 0 text).head? = some c ∧
        isWord c = false ∧ c ≠ '\x7b' ∧ c ≠ '\x7d' := by
  cases hvalue : (at? text).bind value? with
  | none =>
    left
    cases text with
    | nil => rfl
    | cons c rest => rw [replaceAll_cons hvalue, List.head?_cons, List.head?_cons]
  | some value =>
    right
    have hstart := hsep value hvalue
    rw [separates, Option.any_eq_true] at hstart
    obtain ⟨c, hc, hseparates⟩ := hstart
    obtain ⟨r, hat, hr⟩ := Option.bind_eq_some_iff.1 hvalue
    obtain ⟨hname, after, rfl, -⟩ := at?_eq_some hat
    obtain ⟨tail, rfl⟩ := List.head?_eq_some_iff.1 hc
    obtain ⟨written, hwritten, -⟩ := exists_written_eq hname
    refine ⟨by rw [hwritten, List.cons_append, List.head?_cons], c, ?_, ?_⟩
    · rw [replaceAll_written hat hr, List.cons_append, List.head?_cons]
    · simpa [and_assoc] using hseparates

section Opening

variable {rest : List Char}
  (hsep : ∀ value ∈ (at? (Opening.of rest).after).bind value?, separates value = true)

include hsep

/-- What a `$` opens is not changed by a pass over what stands behind it. -/
theorem of_replaceAll :
    (Opening.of (replaceAll value? 0 rest)).inBraces = (Opening.of rest).inBraces ∧
      (Opening.of (replaceAll value? 0 rest)).word = (Opening.of rest).word ∧
      (Opening.of (replaceAll value? 0 rest)).after =
        replaceAll value? 0 (Opening.of rest).after := by
  have hhead := head?_replaceAll hsep
  -- The same opening, with what follows it after the pass.
  let opening : Opening := {
    inBraces := (Opening.of rest).inBraces
    word := (Opening.of rest).word
    after := replaceAll value? 0 (Opening.of rest).after
    isWord_word := (Opening.of rest).isWord_word
    isWord_after := by
      rcases hhead with hsame | ⟨-, c, hc, hword, -⟩
      · rw [hsame]
        exact (Opening.of rest).isWord_after
      · rw [hc]
        intro d hd
        rwa [← Option.some.inj hd]
    brace_after := by
      rcases hhead with hsame | ⟨-, c, hc, -, hbrace, -⟩
      · rw [hsame]
        exact (Opening.of rest).brace_after
      · rw [hc]
        exact fun _ _ h => hbrace (Option.some.inj h) }
  have hrest : replaceAll value? 0 rest = opening.written ++ opening.after := by
    conv_lhs => rw [← Opening.written_append_after rest]
    exact replaceAll_append (Opening.of rest).dollar_not_mem_written _
  rw [hrest, Opening.of_written_append]
  exact ⟨rfl, rfl, rfl⟩

theorem at?_replaceAll : at? ('$' :: replaceAll value? 0 rest) = at? ('$' :: rest) := by
  obtain ⟨hbraces, hword, hafter⟩ := of_replaceAll hsep
  have hclose : (replaceAll value? 0 (Opening.of rest).after).head? = some '\x7d' ↔
      (Opening.of rest).after.head? = some '\x7d' := by
    rcases head?_replaceAll hsep with hsame | ⟨hdollar, c, hc, -, -, hne⟩
    · rw [hsame]
    · rw [hdollar, hc]
      simp [hne]
  rw [at?_dollar, at?_dollar, Opening.reference?, Opening.reference?, hbraces, hword, hafter]
  simp only [hclose]

end Opening

/-- Where what a `$` opens ends at no other `$`, a pass over it changes neither this nor the
reference that it makes. -/
theorem of_replaceAll_of_ne {rest : List Char} (h : (Opening.of rest).after.head? ≠ some '$') :
    (Opening.of (replaceAll value? 0 rest)).after.head? ≠ some '$' ∧
      at? ('$' :: replaceAll value? 0 rest) = at? ('$' :: rest) := by
  have hsep : ∀ value ∈ (at? (Opening.of rest).after).bind value?, separates value = true := by
    rw [at?_eq_none_of_head? h]
    nofun
  refine ⟨?_, at?_replaceAll hsep⟩
  rw [(of_replaceAll hsep).2.2]
  rcases head?_replaceAll hsep with hsame | ⟨hdollar, -⟩
  · rwa [hsame]
  · exact absurd hdollar h

/-- Where a pass keeps the first character, the text starts with the same reference as before. -/
theorem at?_replaceAll_of_kept (hapart : Apart value? text)
    (hkept : (at? text).bind value? = none) : at? (replaceAll value? 0 text) = at? text := by
  cases text with
  | nil => rfl
  | cons c rest =>
    rw [replaceAll_cons hkept]
    by_cases hc : c = '$'
    · subst hc
      exact at?_replaceAll (hapart rest List.suffix_rfl)
    · rw [at?_cons_of_ne hc, at?_cons_of_ne hc]

/-- A reference that a text starts with after a pass was there before, and is one that the pass has
no value for. -/
theorem at?_of_at?_replaceAll (hdollar : ∀ r value, value? r = some value → '$' ∉ value)
    (hapart : Apart value? text)
    (hsep : ∀ value ∈ (at? text).bind value?, separates value = true) {r : Reference}
    (h : at? (replaceAll value? 0 text) = some r) : at? text = some r ∧ value? r = none := by
  cases hvalue : (at? text).bind value? with
  | none =>
    rw [at?_replaceAll_of_kept hapart hvalue] at h
    rw [h, Option.bind_some] at hvalue
    exact ⟨h, hvalue⟩
  | some value =>
    -- The text starts with a value now, and values have no `$`.
    obtain ⟨other, hat, hother⟩ := Option.bind_eq_some_iff.1 hvalue
    obtain ⟨-, after, rfl, -⟩ := at?_eq_some hat
    have hstart := hsep value hvalue
    rw [separates, Option.any_eq_true] at hstart
    obtain ⟨c, hc, -⟩ := hstart
    obtain ⟨tail, rfl⟩ := List.head?_eq_some_iff.1 hc
    have hne : c ≠ '$' := by
      rintro rfl
      exact hdollar other _ hother List.mem_cons_self
    rw [replaceAll_written hat hother, List.cons_append, at?_cons_of_ne hne] at h
    cases h

/-! ## Two passes -/

theorem bind_or_eq_none_iff {found : Option Reference} :
    (found.bind fun r => (first r).or (second r)) = none ↔
      found.bind first = none ∧ found.bind second = none := by
  cases found with
  | none => simp
  | some r => exact Option.or_eq_none_iff

/-- Two passes, the second of which is for references that the first has no value for, are one. -/
theorem replaceAll_replaceAll (hdollar : ∀ r value, first r = some value → '$' ∉ value)
    (hapart : Apart first text) :
    replaceAll second 0 (replaceAll first 0 text) =
      replaceAll (fun r => (first r).or (second r)) 0 text := by
  induction text using replaceAll_induction (fun r => (first r).or (second r)) with
  | nil => rfl
  | reference r value after hat hvalue ih =>
    have hrest := ih (hapart.of_suffix (List.suffix_append _ _))
    cases hfirst : first r with
    | some found =>
      have hfound : found = value := by rwa [hfirst, Option.some_or, Option.some_inj] at hvalue
      subst hfound
      rw [replaceAll_written hat hfirst, replaceAll_append (hdollar r found hfirst), hrest,
        replaceAll_written hat hvalue]
    | none =>
      have hsecond : second r = some value := by rwa [hfirst, Option.none_or] at hvalue
      have hkept : (at? (r.written ++ after)).bind first = none := by
        rw [hat, Option.bind_some, hfirst]
      have hstill := at?_replaceAll_of_kept hapart hkept
      rw [replaceAll_kept hat hfirst, hat] at hstill
      rw [replaceAll_kept hat hfirst, replaceAll_written hstill hsecond, hrest,
        replaceAll_written hat hvalue]
  | keep c rest hnone ih =>
    have hrest := ih (hapart.of_suffix (List.suffix_cons c rest))
    obtain ⟨hfirst, hlater⟩ := bind_or_eq_none_iff.1 hnone
    have hsecond : (at? (c :: replaceAll first 0 rest)).bind second = none := by
      have hstill := at?_replaceAll_of_kept hapart hfirst
      rw [replaceAll_cons hfirst] at hstill
      rw [hstill, hlater]
    rw [replaceAll_cons hfirst, replaceAll_cons hsecond, hrest, replaceAll_cons hnone]

/-- References stand apart after a pass if they did before. -/
theorem Apart.replaceAll (hdollar : ∀ r value, first r = some value → '$' ∉ value)
    (hapart : Apart (fun r => (first r).or (second r)) text) :
    Apart second (replaceAll first 0 text) := by
  have hfirst : Apart first text := hapart.mono fun r value h => by simp [h]
  intro inner hinner
  rcases of_suffix_replaceAll hinner with ⟨rest, hrest, -, rfl⟩ | ⟨r, head, tail, -, hvalue, -⟩
  · -- The `$` was there before, and so was the reference behind what it opens.
    have hsep := hfirst rest hrest
    have hafter : Apart first (Opening.of rest).after :=
      hfirst.of_suffix ((Opening.after_suffix rest).trans ((List.suffix_cons _ _).trans hrest))
    intro value hvalue
    rw [(of_replaceAll hsep).2.2, Option.mem_def, Option.bind_eq_some_iff] at hvalue
    obtain ⟨r, hat, hsecond⟩ := hvalue
    obtain ⟨hat, hnot⟩ := at?_of_at?_replaceAll hdollar hafter hsep hat
    refine hapart rest hrest value ?_
    rw [hat, Option.bind_some, hnot, Option.none_or, hsecond]
    rfl
  · exact absurd (List.mem_append_right head List.mem_cons_self) (hdollar r _ hvalue)

end Reference

/-! ## Tables of variables -/

namespace Symbols

/-- The value of the variable that a reference names. -/
def valueOf (symbols : Symbols) (r : Reference) : Option (List Char) :=
  symbols.get? r.name

/-- The text with the references to names of the table replaced in a single pass from left to right.
A reference is a name in braces, or a bare one that no word character follows. -/
def replaceOnce (symbols : Symbols) (text : List Char) : List Char :=
  Reference.replaceAll symbols.valueOf 0 text

theorem valueOf_cons (entry : List Char × List Char) (entries : List (List Char × List Char)) :
    valueOf ⟨entry :: entries⟩ = fun r =>
      (Reference.only ⟨true, entry.1⟩ entry.2 r).or
        ((Reference.only ⟨false, entry.1⟩ entry.2 r).or (valueOf ⟨entries⟩ r)) := by
  funext r
  obtain ⟨inBraces, name⟩ := r
  obtain ⟨key, value⟩ := entry
  by_cases hname : name = key
  · cases inBraces <;> simp [valueOf, get?, Reference.only, hname]
  · have hkey : (name == key) = false := beq_eq_false_iff_ne.2 hname
    simp [valueOf, get?, Reference.only, List.lookup_cons, hname, hkey]

theorem substitute_eq_replaceOnce {symbols : Symbols}
    (hnames : ∀ entry ∈ symbols.entries, Reference.IsName entry.1)
    (hvalues : ∀ entry ∈ symbols.entries, '$' ∉ entry.2) {text : List Char}
    (hapart : Reference.Apart symbols.valueOf text) :
    symbols.substitute text = symbols.replaceOnce text := by
  obtain ⟨entries⟩ := symbols
  rw [substitute, replaceOnce]
  induction entries generalizing text with
  | nil => exact (Reference.replaceAll_eq_self (fun _ => rfl) text).symm
  | cons entry entries ih =>
    obtain ⟨hname, hnames⟩ := List.forall_mem_cons.1 hnames
    obtain ⟨hvalue, hvalues⟩ := List.forall_mem_cons.1 hvalues
    have honly : ∀ r other value, Reference.only r entry.2 other = some value → '$' ∉ value := by
      intro r other value h
      rwa [Reference.eq_of_only_eq_some h]
    -- The three passes: references in braces, bare references, and those to later names.
    rw [valueOf_cons] at hapart
    have hbare := hapart.replaceAll (honly _)
    have hlater := hbare.replaceAll (honly _)
    have hfirst : Reference.Apart (Reference.only ⟨true, entry.1⟩ entry.2) text :=
      hapart.mono fun r value h => by rw [h, Option.some_or]
    have hsecond : Reference.Apart (Reference.only ⟨false, entry.1⟩ entry.2)
        (Reference.replaceAll (Reference.only ⟨true, entry.1⟩ entry.2) 0 text) :=
      hbare.mono fun r value h => by rw [h, Option.some_or]
    rw [List.foldl_cons, Reference.substituteOne_eq hname, ih hnames hvalues hlater,
      Reference.replaceAll_replaceAll (honly _) hsecond,
      Reference.replaceAll_replaceAll (honly _) hfirst, valueOf_cons]

theorem get?_eq_some_iff {symbols : Symbols} (hdistinct : (symbols.entries.map (·.1)).Nodup)
    {name value : List Char} :
    symbols.get? name = some value ↔ (name, value) ∈ symbols.entries := by
  obtain ⟨entries⟩ := symbols
  rw [get?]
  induction entries with
  | nil => simp
  | cons entry entries ih =>
    obtain ⟨key, first⟩ := entry
    obtain ⟨hkey, hrest⟩ := List.nodup_cons.1 hdistinct
    by_cases hname : name = key
    · subst hname
      have hother : (name, value) ∉ entries := fun hmem => hkey (List.mem_map.2 ⟨_, hmem, rfl⟩)
      simp [hother, eq_comm]
    · rw [List.lookup_cons, beq_eq_false_iff_ne.2 hname, List.mem_cons]
      simp [hname, ih hrest]

/-- Names that differ have the same values in whatever order the table has them. -/
theorem valueOf_eq_of_perm {left right : Symbols} (h : left.entries.Perm right.entries)
    (hdistinct : (right.entries.map (·.1)).Nodup) : left.valueOf = right.valueOf := by
  have hleft : (left.entries.map (·.1)).Nodup := ((h.map (·.1)).nodup_iff).2 hdistinct
  funext r
  refine Option.ext fun value => ?_
  rw [valueOf, valueOf, get?_eq_some_iff hleft, get?_eq_some_iff hdistinct, h.mem_iff]

end Symbols

/-! ## The result -/

/-- A table whose names are different words, and whose values are without `$`.  In a text in which
no value goes on with a `$` before its reference, the variables are replaced in a single pass from
left to right over the text as it is: each reference in braces, and each bare one that no word
character follows, by the value of its name.  So it does not matter in which order they were
defined. -/
theorem references_are_replaced_once_where_apart {symbols : Symbols} {text : List Char}
    (hdistinct : (symbols.entries.map (·.1)).Nodup)
    (hnames : ∀ entry ∈ symbols.entries, Reference.IsName entry.1)
    (hvalues : ∀ entry ∈ symbols.entries, '$' ∉ entry.2)
    (hapart : Reference.Apart symbols.valueOf text) :
    symbols.substitute text = symbols.replaceOnce text ∧
      ∀ other : Symbols, other.entries.Perm symbols.entries →
        other.substitute text = symbols.substitute text := by
  have hself := Symbols.substitute_eq_replaceOnce hnames hvalues hapart
  refine ⟨hself, fun other hperm => ?_⟩
  have hvalue := Symbols.valueOf_eq_of_perm hperm hdistinct
  rw [hself, Symbols.replaceOnce, ← hvalue]
  rw [← hvalue] at hapart
  exact Symbols.substitute_eq_replaceOnce (fun entry h => hnames entry (hperm.subset h))
    (fun entry h => hvalues entry (hperm.subset h)) hapart

namespace Sample

/-- The tag of an image and its name. -/
def imageVariables : Symbols := ⟨[("TAG".toList, ":14".toList), ("NAME".toList, "node".toList)]⟩

/-- Two variables, the first of which has a word character for its value. -/
def adjacentVariables : Symbols := ⟨[("b".toList, "1".toList), ("a".toList, "x".toList)]⟩

end Sample

/-- A value that starts with a colon may follow a bare reference, whichever of the two comes
first. -/
theorem sample_replaced_in_one_pass :
    Sample.imageVariables.substitute "FROM $NAME$TAG # $NAMES ${TAG}".toList =
      "FROM node:14 # $NAMES :14".toList ∧
    Sample.imageVariables.replaceOnce "FROM $NAME$TAG # $NAMES ${TAG}".toList =
      "FROM node:14 # $NAMES :14".toList ∧
    ∀ other : Symbols, other.entries.Perm Sample.imageVariables.entries →
      other.substitute "FROM $NAME$TAG # $NAMES ${TAG}".toList =
        "FROM node:14 # $NAMES :14".toList := by
  have honce : Sample.imageVariables.replaceOnce "FROM $NAME$TAG # $NAMES ${TAG}".toList =
      "FROM node:14 # $NAMES :14".toList := by decide
  obtain ⟨hsubstitute, hother⟩ := references_are_replaced_once_where_apart (by decide)
    (by decide) (by decide) (by decide : Reference.Apart Sample.imageVariables.valueOf
      "FROM $NAME$TAG # $NAMES ${TAG}".toList)
  rw [honce] at hsubstitute
  rw [hsubstitute] at hother
  exact ⟨hsubstitute, honce, hother⟩

/-- A value that starts with a word character takes the reference before it out of the text: `$a` is
no longer one when `${b}` has become a word character.  The names are different words, and the
values are without `$`; but the text is not the one that a single pass gives, and the same variables
in the other order give another. -/
theorem reference_before_inserted_word_is_lost :
    (Sample.adjacentVariables.entries.map (·.1)).Nodup ∧
    (∀ entry ∈ Sample.adjacentVariables.entries, Reference.IsName entry.1 ∧ '$' ∉ entry.2) ∧
    Sample.adjacentVariables.replaceOnce "$a${b}".toList = "x1".toList ∧
    Sample.adjacentVariables.substitute "$a${b}".toList = "$a1".toList ∧
    (⟨Sample.adjacentVariables.entries.reverse⟩ : Symbols).substitute "$a${b}".toList =
      "x1".toList ∧
    Manifest.lines .docker "ARG b=1\nARG a=x\nFROM $a${b}\n" =
      ["ARG b=1", "ARG a=x", "FROM $a1", ""] := by
  decide

end ManifestSarif
