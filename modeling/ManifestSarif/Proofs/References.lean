import ManifestSarif.Proofs.ManifestLines
import ManifestSarif.Proofs.Words
import Mathlib.Data.List.Infix

/-!
# References in a text

A `$` and a name behind it refer to a variable, in braces as `${name}` or bare as `$name`.  A text
is read from left to right: what stands behind a `$` is an opening brace perhaps, and then word
characters as far as they go; this and the character that follows decide whether there is a
reference, and to which name.

* `Opening.of` reads what stands behind a `$`, and `Reference.at?` the reference that a text starts
  with; `at?_eq_some` and `at?_braced`, `at?_bare` tie it to the way references are written.
* `Opening.of_append` and `at?_append` say when this does not depend on what is behind the text.
* `Reference.within` are all references of a text.
* `Reference.replaceAll` replaces references in a single pass, those that have a value.
* `replaceAll_written` and `replaceAll_cons` are its two steps, and `replaceAll_induction` the
  induction over a pass; `replaceAll_suffix` and `of_suffix_replaceAll` follow a `$` through it.
* `substituteOne_eq`: the two passes for a name of a table of variables are such passes.
-/

namespace ManifestSarif

open Text

/-! ## Reading a reference -/

/-- A text behind a `$`, cut where no reference can go on: an opening brace if there is one, the
word characters from there on, and the rest. -/
structure Opening where
  inBraces : Bool
  word : List Char
  after : List Char
  isWord_word : ∀ c ∈ word, isWord c = true
  isWord_after : ∀ c ∈ after.head?, isWord c = false
  brace_after : inBraces = false → word = [] → after.head? ≠ some '\x7b'

namespace Opening

/-- What of the text belongs to the opening. -/
def written (opening : Opening) : List Char :=
  if opening.inBraces then '\x7b' :: opening.word else opening.word

/-- The opening of a text. -/
def of (text : List Char) : Opening :=
  if h : text.head? = some '\x7b' then {
    inBraces := true
    word := text.tail.takeWhile isWord
    after := text.tail.dropWhile isWord
    isWord_word := isWord_of_mem_takeWhile
    isWord_after := isWord_of_mem_head?_dropWhile
    brace_after := nofun }
  else {
    inBraces := false
    word := text.takeWhile isWord
    after := text.dropWhile isWord
    isWord_word := isWord_of_mem_takeWhile
    isWord_after := isWord_of_mem_head?_dropWhile
    brace_after := by
      intro _ hword
      rwa [← List.takeWhile_append_dropWhile (p := isWord) (l := text), hword,
        List.nil_append] at h }

theorem written_append_after (text : List Char) : (of text).written ++ (of text).after = text := by
  rw [of]
  split
  · next h =>
    obtain ⟨inner, rfl⟩ := List.head?_eq_some_iff.1 h
    simp [written, List.takeWhile_append_dropWhile]
  · simp [written, List.takeWhile_append_dropWhile]

theorem after_suffix (text : List Char) : (of text).after <:+ text :=
  ⟨(of text).written, written_append_after text⟩

/-- An opening is read back from what it stands for. -/
theorem of_written_append (opening : Opening) :
    of (opening.written ++ opening.after) = opening := by
  obtain ⟨inBraces, word, after, hword, hafter, hbrace⟩ := opening
  obtain ⟨htake, hdrop⟩ := takeWhile_append_of_head? hword hafter
  cases inBraces with
  | true => simp [of, written, htake, hdrop]
  | false =>
    have hhead : (word ++ after).head? ≠ some '\x7b' := by
      cases word with
      | nil => exact hbrace rfl rfl
      | cons c word =>
        have hnot : isWord '\x7b' = false := by decide
        intro h
        obtain rfl := Option.some.inj h
        simp [hnot] at hword
    simp only [written, Bool.false_eq_true, if_false]
    rw [of, dif_neg hhead]
    simp [htake, hdrop]

/-- What is put behind a text is left over if it cannot go on with what the text opens. -/
theorem of_append_of_head? {text more : List Char}
    (hword : ∀ c ∈ ((of text).after ++ more).head?, isWord c = false)
    (hbrace : (of text).inBraces = false → (of text).word = [] →
      ((of text).after ++ more).head? ≠ some '\x7b') :
    (of (text ++ more)).inBraces = (of text).inBraces ∧ (of (text ++ more)).word = (of text).word ∧
      (of (text ++ more)).after = (of text).after ++ more := by
  let opening : Opening := {
    inBraces := (of text).inBraces
    word := (of text).word
    after := (of text).after ++ more
    isWord_word := (of text).isWord_word
    isWord_after := hword
    brace_after := hbrace }
  have htext : text ++ more = opening.written ++ opening.after := by
    conv_lhs => rw [← written_append_after text]
    exact List.append_assoc _ _ _
  rw [htext, of_written_append]
  exact ⟨rfl, rfl, rfl⟩

/-- What a text opens and ends is not changed by what is put behind it. -/
theorem of_append {text : List Char} (h : (of text).after ≠ []) (more : List Char) :
    (of (text ++ more)).inBraces = (of text).inBraces ∧ (of (text ++ more)).word = (of text).word ∧
      (of (text ++ more)).after = (of text).after ++ more := by
  have hhead : ((of text).after ++ more).head? = (of text).after.head? :=
    List.head?_append_of_ne_nil _ h
  apply of_append_of_head?
  · rw [hhead]
    exact (of text).isWord_after
  · rw [hhead]
    exact (of text).brace_after

/-- A text that does not end what it opens leaves this to a `$` behind it. -/
theorem after_ne_nil {text : List Char} (h : (of (text ++ ['$'])).after.head? ≠ some '$') :
    (of text).after ≠ [] := by
  intro hnil
  have hof : (of (text ++ ['$'])).after = (of text).after ++ ['$'] := by
    apply (of_append_of_head? _ _).2.2
    · rw [hnil]
      intro c hc
      obtain rfl := Option.some.inj hc
      decide
    · rw [hnil]
      exact fun _ _ => by decide
  rw [hof, hnil] at h
  exact h rfl

/-- What a text opens that ends at another character than a `$` does so whatever is behind the
text. -/
theorem head?_after_append {text : List Char}
    (h : (of (text ++ ['$'])).after.head? ≠ some '$') (more : List Char) :
    (of (text ++ more)).after.head? ≠ some '$' := by
  have hne := after_ne_nil h
  rw [(of_append hne _).2.2, List.head?_append_of_ne_nil _ hne] at h ⊢
  exact h

theorem dollar_not_mem_written (opening : Opening) : '$' ∉ opening.written := by
  have hword : '$' ∉ opening.word := fun hmem =>
    Bool.false_ne_true (opening.isWord_word '$' hmem)
  rw [written]
  split
  · simp [hword]
  · exact hword

end Opening

/-- A reference to a variable, in braces or bare. -/
structure Reference where
  inBraces : Bool
  name : List Char
deriving DecidableEq, Repr

/-- The reference that a `$` before the opening makes. -/
def Opening.reference? (opening : Opening) : Option Reference :=
  if opening.inBraces then
    if opening.after.head? = some '\x7d' then some ⟨true, opening.word⟩ else none
  else if opening.word = [] then none
  else some ⟨false, opening.word⟩

namespace Reference

/-- The text of the reference. -/
def written (r : Reference) : List Char :=
  if r.inBraces then Symbols.braced r.name else Symbols.bare r.name

/-- The reference that the text starts with. -/
def at? : List Char → Option Reference
  | [] => none
  | c :: rest => if c = '$' then (Opening.of rest).reference? else none

theorem at?_cons_of_ne {c : Char} (h : c ≠ '$') (rest : List Char) : at? (c :: rest) = none :=
  if_neg h

theorem at?_dollar (rest : List Char) : at? ('$' :: rest) = (Opening.of rest).reference? := rfl

/-- A reference to a name in word characters starts with its only `$`. -/
theorem exists_written_eq {r : Reference} (hname : ∀ c ∈ r.name, isWord c = true) :
    ∃ tail, r.written = '$' :: tail ∧ '$' ∉ tail := by
  have hdollar : '$' ∉ r.name := fun hmem => Bool.false_ne_true (hname '$' hmem)
  obtain ⟨inBraces, name⟩ := r
  cases inBraces with
  | true => exact ⟨'\x7b' :: name ++ ['\x7d'], rfl, by simpa using hdollar⟩
  | false => exact ⟨name, rfl, hdollar⟩

/-- A reference that is read has its name in word characters, and if it is bare, a name that is not
empty and that no word character follows. -/
theorem written_of_reference? {opening : Opening} {r : Reference}
    (h : opening.reference? = some r) :
    (∀ c ∈ r.name, isWord c = true) ∧ ∃ after,
      '$' :: (opening.written ++ opening.after) = r.written ++ after ∧
        (r.inBraces = false → r.name ≠ [] ∧ ∀ c ∈ after.head?, isWord c = false) := by
  unfold Opening.reference? at h
  obtain ⟨inBraces, word, after, hword, hafter, _⟩ := opening
  cases inBraces with
  | true =>
    rw [if_pos rfl] at h
    split at h
    · next hclose =>
      obtain rfl := Option.some.inj h
      obtain ⟨rest, rfl⟩ := List.head?_eq_some_iff.1 hclose
      exact ⟨hword, rest, by simp [Opening.written, written, Symbols.braced], nofun⟩
    · cases h
  | false =>
    rw [if_neg Bool.false_ne_true] at h
    split at h
    · cases h
    · next hne =>
      obtain rfl := Option.some.inj h
      exact ⟨hword, after, by simp [Opening.written, written, Symbols.bare],
        fun _ => ⟨hne, hafter⟩⟩

theorem at?_eq_some {text : List Char} {r : Reference} (h : at? text = some r) :
    (∀ c ∈ r.name, isWord c = true) ∧ ∃ after, text = r.written ++ after ∧
      (r.inBraces = false → r.name ≠ [] ∧ ∀ c ∈ after.head?, isWord c = false) := by
  cases text with
  | nil => cases h
  | cons c rest =>
    rw [at?] at h
    split at h
    · next hc =>
      have hread := written_of_reference? h
      rwa [Opening.written_append_after, ← hc] at hread
    · cases h

theorem at?_braced {name : List Char} (hname : ∀ c ∈ name, isWord c = true) (after : List Char) :
    at? (Symbols.braced name ++ after) = some ⟨true, name⟩ := by
  have hclose : ∀ c ∈ ('\x7d' :: after).head?, isWord c = false := by
    intro c hc
    obtain rfl := Option.some.inj hc
    decide
  have hopening := Opening.of_written_append
    ⟨true, name, '\x7d' :: after, hname, hclose, nofun⟩
  have htext : Symbols.braced name ++ after = '$' :: ('\x7b' :: name ++ '\x7d' :: after) := by
    simp [Symbols.braced]
  rw [htext, at?_dollar]
  exact (congrArg Opening.reference? hopening).trans (by simp [Opening.reference?])

theorem at?_bare {name after : List Char} (hname : ∀ c ∈ name, isWord c = true)
    (hne : name ≠ []) (hafter : ∀ c ∈ after.head?, isWord c = false) :
    at? (Symbols.bare name ++ after) = some ⟨false, name⟩ := by
  have hopening := Opening.of_written_append
    ⟨false, name, after, hname, hafter, fun _ h => absurd h hne⟩
  exact (congrArg Opening.reference? hopening).trans (by simp [Opening.reference?, hne])

/-- Where a text starts with a given reference: its text stands there, and if it is bare, no word
character follows. -/
theorem at?_eq_some_iff {r : Reference} (hname : ∀ c ∈ r.name, isWord c = true)
    (hne : r.inBraces = false → r.name ≠ []) {text : List Char} :
    at? text = some r ↔ ∃ after, r.written ++ after = text ∧
      (r.inBraces = false → ∀ c ∈ after.head?, isWord c = false) := by
  constructor
  · intro h
    obtain ⟨-, after, rfl, hafter⟩ := at?_eq_some h
    exact ⟨after, rfl, fun hbare => (hafter hbare).2⟩
  · rintro ⟨after, rfl, hafter⟩
    obtain ⟨inBraces, name⟩ := r
    cases inBraces with
    | true => exact at?_braced hname after
    | false => exact at?_bare hname (hne rfl) (hafter rfl)

theorem at?_eq_none_of_head? {text : List Char} (h : text.head? ≠ some '$') : at? text = none := by
  cases text with
  | nil => rfl
  | cons c rest => exact at?_cons_of_ne (by simpa using h) rest

/-- A `$` that a text ends makes the same reference whatever is put behind the text. -/
theorem at?_append {c : Char} {rest : List Char} (h : c = '$' → (Opening.of rest).after ≠ [])
    (more : List Char) : at? (c :: rest ++ more) = at? (c :: rest) := by
  by_cases hc : c = '$'
  · obtain ⟨hbraces, hword, hafter⟩ := Opening.of_append (h hc) more
    have hhead : ((Opening.of rest).after ++ more).head? = (Opening.of rest).after.head? :=
      List.head?_append_of_ne_nil _ (h hc)
    rw [hc, List.cons_append, at?_dollar, at?_dollar, Opening.reference?, Opening.reference?,
      hbraces, hword, hafter, hhead]
  · rw [List.cons_append, at?_cons_of_ne hc, at?_cons_of_ne hc]

/-- The references in a text, from left to right. -/
def within (text : List Char) : List Reference :=
  text.tails.filterMap at?

theorem mem_within_iff {r : Reference} {text : List Char} :
    r ∈ within text ↔ ∃ rest, rest <:+ text ∧ at? rest = some r := by
  simp [within, List.mem_filterMap, List.mem_tails]

/-- What is to hold behind each `$` of a text is checked for the parts of the text that start with
one. -/
instance decidableBehindDollars {P : List Char → Prop} [DecidablePred P] (text : List Char) :
    Decidable (∀ rest, '$' :: rest <:+ text → P rest) :=
  decidable_of_iff (∀ suffix ∈ text.tails, suffix.head? = some '$' → P suffix.tail) <| by
    constructor
    · intro h rest hrest
      exact h ('$' :: rest) ((List.mem_tails _ _).2 hrest) rfl
    · intro h suffix hsuffix hhead
      obtain ⟨rest, rfl⟩ := List.head?_eq_some_iff.1 hhead
      exact h rest ((List.mem_tails _ _).1 hsuffix)

/-- A reference in braces is in every text that has its own text as a part. -/
theorem mem_within_of_part {r : Reference} {part text : List Char} (hbraces : r.inBraces = true)
    (h : r ∈ within part) (hpart : part <:+: text) : r ∈ within text := by
  obtain ⟨inBraces, name⟩ := r
  obtain rfl : inBraces = true := hbraces
  obtain ⟨rest, ⟨before, rfl⟩, hat⟩ := mem_within_iff.1 h
  obtain ⟨hname, after, rfl, -⟩ := at?_eq_some hat
  obtain ⟨front, back, rfl⟩ := hpart
  refine mem_within_iff.2 ⟨_, ⟨front ++ before, ?_⟩, at?_braced hname (after ++ back)⟩
  simp [written]

/-- A text refers to a name in braces where the text of this reference is a part of it. -/
theorem mem_within_braced_iff {name text : List Char} (hname : ∀ c ∈ name, isWord c = true) :
    ⟨true, name⟩ ∈ within text ↔ Symbols.braced name <:+: text := by
  constructor
  · intro h
    obtain ⟨rest, hrest, hat⟩ := mem_within_iff.1 h
    obtain ⟨-, after, rfl, -⟩ := at?_eq_some hat
    exact (List.prefix_append _ _).isInfix.trans hrest.isInfix
  · intro h
    have hat := at?_braced hname []
    rw [List.append_nil] at hat
    exact mem_within_of_part rfl (mem_within_iff.2 ⟨_, List.suffix_rfl, hat⟩) h

/-! ## Replacing in a single pass -/

/-- The text with its references replaced, from left to right, by the values that they have.  `skip`
characters still belong to the reference replaced last. -/
def replaceAll (value? : Reference → Option (List Char)) : Nat → List Char → List Char
  | _, [] => []
  | skip + 1, _ :: rest => replaceAll value? skip rest
  | 0, c :: rest =>
    match (at? (c :: rest)).bind fun r => (value? r).map (r, ·) with
    | some (r, value) => value ++ replaceAll value? (r.written.length - 1) rest
    | none => c :: replaceAll value? 0 rest

variable {value? : Reference → Option (List Char)}

theorem replaceAll_skip (front rest : List Char) :
    replaceAll value? front.length (front ++ rest) = replaceAll value? 0 rest := by
  induction front with
  | nil => rfl
  | cons c front ih => exact ih

/-- A reference that has a value is replaced by it. -/
theorem replaceAll_written {r : Reference} {value after : List Char}
    (hat : at? (r.written ++ after) = some r) (hvalue : value? r = some value) :
    replaceAll value? 0 (r.written ++ after) = value ++ replaceAll value? 0 after := by
  obtain ⟨tail, htail⟩ : ∃ tail, r.written = '$' :: tail := by
    rw [written]
    split <;> exact ⟨_, rfl⟩
  rw [htail, List.cons_append] at hat ⊢
  rw [replaceAll, hat, Option.bind_some, hvalue, Option.map_some]
  simp only [htail, List.length_cons, Nat.add_sub_cancel, replaceAll_skip]

/-- A character that starts no reference with a value is kept. -/
theorem replaceAll_cons {c : Char} {rest : List Char} (h : (at? (c :: rest)).bind value? = none) :
    replaceAll value? 0 (c :: rest) = c :: replaceAll value? 0 rest := by
  have hnone : ((at? (c :: rest)).bind fun r => (value? r).map (r, ·)) = none := by
    cases hat : at? (c :: rest) with
    | none => rfl
    | some r =>
      rw [hat, Option.bind_some] at h
      rw [Option.bind_some, h, Option.map_none]
  rw [replaceAll, hnone]

theorem replaceAll_eq_self (h : ∀ r, value? r = none) (text : List Char) :
    replaceAll value? 0 text = text := by
  induction text with
  | nil => rfl
  | cons c rest ih =>
    rw [replaceAll_cons (Option.bind_eq_none_iff.2 fun r _ => h r), ih]

/-- A pass over a text goes on behind a reference that has a value, and behind any other
character. -/
theorem replaceAll_induction (value? : Reference → Option (List Char))
    {motive : List Char → Prop} (nil : motive [])
    (reference : ∀ r value after, at? (r.written ++ after) = some r → value? r = some value →
      motive after → motive (r.written ++ after))
    (keep : ∀ c rest, (at? (c :: rest)).bind value? = none → motive rest → motive (c :: rest))
    (text : List Char) : motive text := by
  induction hlength : text.length using Nat.strongRecOn generalizing text with
  | ind n ih =>
    cases text with
    | nil => exact nil
    | cons c rest =>
      subst hlength
      cases hvalue : (at? (c :: rest)).bind value? with
      | none => exact keep c rest hvalue (ih rest.length (by simp) rest rfl)
      | some value =>
        obtain ⟨r, hat, hvalue⟩ := Option.bind_eq_some_iff.1 hvalue
        obtain ⟨-, after, htext, -⟩ := at?_eq_some hat
        have hshort : after.length < (c :: rest).length := by
          have hpos : 0 < r.written.length := by
            rw [written]
            split <;> exact Nat.succ_pos _
          rw [htext, List.length_append]
          omega
        have hafter := ih after.length hshort after rfl
        rw [htext] at hat ⊢
        exact reference r value after hat hvalue hafter

/-- References start with a `$`, so nothing is replaced before the first one. -/
theorem replaceAll_append {front : List Char} (h : '$' ∉ front) (rest : List Char) :
    replaceAll value? 0 (front ++ rest) = front ++ replaceAll value? 0 rest := by
  induction front with
  | nil => rfl
  | cons c front ih =>
    rw [List.mem_cons, not_or] at h
    have hnone : (at? (c :: (front ++ rest))).bind value? = none := by
      rw [at?_cons_of_ne (Ne.symm h.1), Option.bind_none]
    rw [List.cons_append, replaceAll_cons hnone, ih h.2, List.cons_append]

/-- A reference that has no value is kept. -/
theorem replaceAll_kept {r : Reference} {after : List Char}
    (hat : at? (r.written ++ after) = some r) (hvalue : value? r = none) :
    replaceAll value? 0 (r.written ++ after) = r.written ++ replaceAll value? 0 after := by
  obtain ⟨tail, htail, hdollar⟩ := exists_written_eq (at?_eq_some hat).1
  have hnone : (at? (r.written ++ after)).bind value? = none := by
    rw [hat, Option.bind_some, hvalue]
  rw [htail, List.cons_append] at hnone ⊢
  rw [replaceAll_cons hnone, replaceAll_append hdollar, List.cons_append]

/-! ## Where a `$` goes and where it comes from -/

/-- A part of two texts from a mark on starts in the second one, or in the first. -/
theorem suffix_append_cases {mark : Char} {front rest inner : List Char}
    (h : mark :: inner <:+ front ++ rest) :
    mark :: inner <:+ rest ∨ ∃ head tail, front = head ++ mark :: tail ∧ inner = tail ++ rest := by
  induction front with
  | nil => exact Or.inl h
  | cons c front ih =>
    rcases List.suffix_cons_iff.1 h with heq | h
    · obtain ⟨rfl, rfl⟩ := List.cons.inj heq
      exact Or.inr ⟨[], front, rfl, rfl⟩
    · rcases ih h with hrest | ⟨head, tail, rfl, rfl⟩
      · exact Or.inl hrest
      · exact Or.inr ⟨c :: head, tail, rfl, rfl⟩

/-- References have no `$` but their first character, so a pass comes by every `$` of the text. -/
theorem replaceAll_suffix {rest text : List Char} (h : '$' :: rest <:+ text) :
    replaceAll value? 0 ('$' :: rest) <:+ replaceAll value? 0 text := by
  induction text using replaceAll_induction value? with
  | nil => exact absurd (List.suffix_nil.1 h) (List.cons_ne_nil _ _)
  | reference r value after hat hvalue ih =>
    obtain ⟨tail, htail, hdollar⟩ := exists_written_eq (at?_eq_some hat).1
    rcases suffix_append_cases h with hrest | ⟨head, inner, hwritten, rfl⟩
    · rw [replaceAll_written hat hvalue]
      exact (ih hrest).trans (List.suffix_append _ _)
    · -- The only `$` of the reference is its first character.
      cases head with
      | nil =>
        rw [← List.cons_append, ← List.nil_append ('$' :: inner), ← hwritten]
      | cons c head =>
        rw [htail, List.cons_append] at hwritten
        rw [(List.cons.inj hwritten).2] at hdollar
        simp at hdollar
  | keep c text hnone ih =>
    rcases List.suffix_cons_iff.1 h with heq | h
    · rw [heq]
    · rw [replaceAll_cons hnone]
      exact (ih h).trans (List.suffix_cons _ _)

theorem replaceAll_suffix_of_at? (value? : Reference → Option (List Char)) {r : Reference}
    {rest text : List Char} (hat : at? rest = some r) (h : rest <:+ text) :
    replaceAll value? 0 rest <:+ replaceAll value? 0 text := by
  obtain ⟨hname, after, rfl, -⟩ := at?_eq_some hat
  obtain ⟨tail, htail, -⟩ := exists_written_eq hname
  rw [htail, List.cons_append] at h ⊢
  exact replaceAll_suffix h

/-- A `$` after a pass was there before and was kept, or came with a value. -/
theorem of_suffix_replaceAll {inner text : List Char}
    (h : '$' :: inner <:+ replaceAll value? 0 text) :
    (∃ rest, '$' :: rest <:+ text ∧ (at? ('$' :: rest)).bind value? = none ∧
      inner = replaceAll value? 0 rest) ∨
    ∃ r head tail after, value? r = some (head ++ '$' :: tail) ∧
      inner = tail ++ replaceAll value? 0 after := by
  induction text using replaceAll_induction value? with
  | nil => exact absurd (List.suffix_nil.1 h) (List.cons_ne_nil _ _)
  | reference r value after hat hvalue ih =>
    rw [replaceAll_written hat hvalue] at h
    rcases suffix_append_cases h with h | ⟨head, tail, rfl, rfl⟩
    · rcases ih h with ⟨rest, hrest, hkept⟩ | hvalue
      · exact Or.inl ⟨rest, hrest.trans (List.suffix_append _ _), hkept⟩
      · exact Or.inr hvalue
    · exact Or.inr ⟨r, head, tail, after, hvalue, rfl⟩
  | keep c text hnone ih =>
    rw [replaceAll_cons hnone] at h
    rcases List.suffix_cons_iff.1 h with heq | h
    · obtain ⟨rfl, rfl⟩ := List.cons.inj heq
      exact Or.inl ⟨text, List.suffix_rfl, hnone, rfl⟩
    · rcases ih h with ⟨rest, hrest, hkept⟩ | hvalue
      · exact Or.inl ⟨rest, hrest.trans (List.suffix_cons _ _), hkept⟩
      · exact Or.inr hvalue

/-! ## The passes of a table of variables -/

theorem sizeWhere?_eq_some_iff {piece text : List Char} {fits : List Char → Bool} {size : Nat} :
    sizeWhere? piece fits text = some size ↔
      size = piece.length ∧ ∃ after, piece ++ after = text ∧ fits after = true := by
  rw [sizeWhere?, Option.bind_eq_some_iff]
  constructor
  · rintro ⟨after, hstart, hsize⟩
    split at hsize
    · next hfits =>
      exact ⟨(Option.some.inj hsize).symm, after,
        List.isPrefixOf?_eq_some_iff_append_eq.1 hstart, hfits⟩
    · cases hsize
  · rintro ⟨rfl, after, htext, hfits⟩
    exact ⟨after, List.isPrefixOf?_eq_some_iff_append_eq.2 htext, if_pos hfits⟩

/-- The value of one reference, and of no other. -/
def only (r : Reference) (value : List Char) (other : Reference) : Option (List Char) :=
  if other = r then some value else none

theorem eq_of_only_eq_some {r other : Reference} {value new : List Char}
    (h : only r value other = some new) : new = value := by
  rw [only] at h
  split at h
  · exact (Option.some.inj h).symm
  · cases h

/-- Replacing the pieces that are found where the text starts with a reference is a pass that
replaces this reference. -/
theorem replaceFrom_eq_replaceAll {r : Reference} {size? : List Char → Option Nat}
    (h : ∀ text, size? text =
      (at? text).bind fun other => if other = r then some r.written.length else none)
    (value text : List Char) (skip : Nat) :
    replaceFrom size? value skip text = replaceAll (only r value) skip text := by
  induction text generalizing skip with
  | nil => rw [replaceFrom, replaceAll]
  | cons c rest ih =>
    cases skip with
    | succ skip =>
      rw [replaceFrom, replaceAll]
      exact ih skip
    | zero =>
      rw [replaceFrom, replaceAll, h]
      cases at? (c :: rest) with
      | none => exact congrArg (c :: ·) (ih 0)
      | some other =>
        by_cases hother : other = r
        · simp [only, hother, ih]
        · simp [only, hother, ih]

theorem replaceWhere_written (r : Reference) (fits : List Char → Bool)
    (hname : ∀ c ∈ r.name, isWord c = true) (hne : r.inBraces = false → r.name ≠ [])
    (hfits : ∀ after, fits after = true ↔
      (r.inBraces = false → ∀ c ∈ after.head?, isWord c = false))
    (value text : List Char) :
    replaceWhere r.written fits value text = replaceAll (only r value) 0 text := by
  refine replaceFrom_eq_replaceAll (fun text => Option.ext fun size => ?_) value text 0
  rw [sizeWhere?_eq_some_iff, Option.bind_eq_some_iff]
  constructor
  · rintro ⟨rfl, after, htext, hafter⟩
    have hat := (at?_eq_some_iff hname hne).2 ⟨after, htext, (hfits after).1 hafter⟩
    exact ⟨r, hat, if_pos rfl⟩
  · rintro ⟨other, hat, hsize⟩
    split at hsize
    · next hother =>
      obtain rfl := hother
      obtain ⟨after, htext, hafter⟩ := (at?_eq_some_iff hname hne).1 hat
      exact ⟨(Option.some.inj hsize).symm, after, htext, (hfits after).2 hafter⟩
    · cases hsize

theorem bareEnds_eq_true_iff {name : List Char} (hname : ∀ c ∈ name, isWord c = true)
    (hne : name ≠ []) (after : List Char) :
    Symbols.bareEnds name after = true ↔ ∀ c ∈ after.head?, isWord c = false := by
  have hlast : ((Symbols.bare name).getLast?).any isWord = true := by
    rw [Symbols.bare, List.getLast?_cons_of_ne_nil hne, List.getLast?_eq_some_getLast hne,
      Option.any_some]
    exact hname _ (List.getLast_mem hne)
  rw [Symbols.bareEnds, hlast, boundary]
  cases after.head? <;> simp

/-- A name that can be referred to bare and in braces. -/
structure IsName (name : List Char) : Prop where
  ne_nil : name ≠ []
  isWord_of_mem : ∀ c ∈ name, isWord c = true

instance : DecidablePred IsName := fun name =>
  decidable_of_iff (name ≠ [] ∧ name.all isWord = true)
    ⟨fun h => ⟨h.1, List.all_eq_true.1 h.2⟩, fun h => ⟨h.1, List.all_eq_true.2 h.2⟩⟩

/-- The two passes for a name replace its references in braces, and then its bare ones. -/
theorem substituteOne_eq {entry : List Char × List Char} (h : IsName entry.1) (text : List Char) :
    Symbols.substituteOne text entry =
      replaceAll (only ⟨false, entry.1⟩ entry.2) 0
        (replaceAll (only ⟨true, entry.1⟩ entry.2) 0 text) := by
  obtain ⟨hne, hname⟩ := h
  have hbraced := replaceWhere_written ⟨true, entry.1⟩ (fun _ => true) hname nofun (by simp) entry.2
  have hbare := replaceWhere_written ⟨false, entry.1⟩ (Symbols.bareEnds entry.1) hname
    (fun _ => hne) (by simpa using bareEnds_eq_true_iff hname hne) entry.2
  rw [← hbraced, ← hbare]
  rfl

end Reference

end ManifestSarif
