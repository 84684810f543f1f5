import ManifestSarif.Proofs.LineNumbers
import ManifestSarif.Proofs.Occurrences
import ManifestSarif.Proofs.WhiteSpace

/-!
# Comments on a line

A line of a Gradle script is read without its comments: what a `//` starts goes first, then every
`/* ... */` that is left.

* `Strips` says what is left of a text in which every comment that is opened is closed;
  `Strips.stripped_append`: that is also what is left of it in front of other text.
* `stripped_eq_self`: a text in which no comment is closed is left as it is.
* `beforeLineComment_append` finds the `//` of a text behind another one without it.
* `codeOf_chomp`: the carriage return of a line end is not part of what is read.
-/

namespace ManifestSarif.Gradle

open Text

/-- The text `body` as a comment. -/
def comment (body : List Char) : List Char :=
  '/' :: '*' :: body ++ ['*', '/']

/-- The text without the comments that are closed in it. -/
def stripped (text : List Char) : List Char :=
  replaceFrom commentSize? [] 0 text

/-- The line without comments. -/
def uncommented (line : List Char) : List Char :=
  stripped (beforeLineComment line)

theorem codeOf_eq_trim (line : List Char) : codeOf line = trim (uncommented line) := rfl

variable {text body rest lead more code : List Char} {c : Char}

theorem getLast?_ne_of_cons {d : Char} (h : (c :: lead).getLast? ≠ some d) :
    lead.getLast? ≠ some d := by
  cases lead with
  | nil => exact nofun
  | cons e lead => rwa [List.getLast?_cons_cons] at h

/-- Two characters stand at the start of two texts only if they stand at the start of the first, or
where the texts meet. -/
theorem not_pair_prefix_append {p q : Char} (h : ¬[p, q] <+: c :: lead)
    (hmeet : lead = [] → c ≠ p ∨ more.head? ≠ some q) : ¬[p, q] <+: c :: (lead ++ more) := by
  rintro ⟨after, hafter⟩
  obtain ⟨rfl, hrest⟩ := List.cons.inj hafter
  cases lead with
  | nil =>
    rw [List.nil_append] at hrest
    rcases hmeet rfl with hfirst | hsecond
    · exact hfirst rfl
    · exact hsecond (by rw [← hrest]; rfl)
  | cons d lead =>
    obtain ⟨rfl, -⟩ := List.cons.inj hrest
    exact h ⟨lead, rfl⟩

/-! ## Comments that are closed -/

theorem commentSize?_comment (hbody : ¬['*', '/'] <:+: body) (rest : List Char) :
    commentSize? (comment body ++ rest) = some (body.length + 4) := by
  have hcut : cutAtPiece ['*', '/'] (body ++ ['*', '/'] ++ rest) = some (body, rest) :=
    (cutAtPiece_eq_some_iff (by decide)).2 ⟨rfl, hbody⟩
  have hopens : ['/', '*'].isPrefixOf? (comment body ++ rest) = some (body ++ ['*', '/'] ++ rest) :=
    List.isPrefixOf?_eq_some_iff_append_eq.2 rfl
  rw [commentSize?, hopens, Option.bind_some, hcut]
  rfl

theorem commentSize?_eq_none (h : ¬['/', '*'] <+: text ∨ ¬['*', '/'] <:+: text.drop 2) :
    commentSize? text = none := by
  rw [commentSize?, Option.bind_eq_none_iff]
  intro inner hinner
  obtain rfl := (List.isPrefixOf?_eq_some_iff_append_eq.1 hinner).symm
  rw [Option.map_eq_none_iff, cutAtPiece_eq_none_iff]
  exact h.resolve_left fun hopens => hopens ⟨inner, rfl⟩

/-- What is left of a piece that was replaced is skipped. -/
theorem replaceFrom_append_of_length (size? : List Char → Option Nat) (new left rest : List Char) :
    replaceFrom size? new left.length (left ++ rest) = replaceFrom size? new 0 rest := by
  induction left with
  | nil => rfl
  | cons c left ih => exact ih

theorem stripped_comment_append (hbody : ¬['*', '/'] <:+: body) (rest : List Char) :
    stripped (comment body ++ rest) = stripped rest := by
  show replaceFrom commentSize? [] 0 ('/' :: ('*' :: body ++ ['*', '/'] ++ rest)) = _
  have hsize : commentSize? ('/' :: ('*' :: body ++ ['*', '/'] ++ rest)) = some (body.length + 4) :=
    commentSize?_comment hbody rest
  have hlength : body.length + 4 - 1 = ('*' :: body ++ ['*', '/']).length := by simp
  rw [replaceFrom, hsize]
  show replaceFrom commentSize? [] (body.length + 4 - 1) _ = _
  rw [hlength, replaceFrom_append_of_length, stripped]

theorem stripped_cons (h : commentSize? (c :: rest) = none) :
    stripped (c :: rest) = c :: stripped rest := by
  rw [stripped, replaceFrom, h, stripped]

/-- Every comment that is opened in the text is closed in it, and `code` is what is left. -/
inductive Strips : List Char → List Char → Prop where
  | nil : Strips [] []
  | keep {c : Char} {rest code : List Char} (hopens : ¬['/', '*'] <+: c :: rest)
      (hrest : Strips rest code) : Strips (c :: rest) (c :: code)
  | cut {body rest code : List Char} (hbody : ¬['*', '/'] <:+: body) (hrest : Strips rest code) :
      Strips (comment body ++ rest) code

/-- A text in which no comment is opened is left as it is. -/
theorem strips_self (h : ¬['/', '*'] <:+: text) : Strips text text := by
  induction text with
  | nil => exact .nil
  | cons c rest ih =>
    rw [List.infix_cons_iff, not_or] at h
    exact .keep h.1 (ih h.2)

/-- The comments of a text are found in front of other text, unless a comment is opened where they
meet. -/
theorem Strips.stripped_append (h : Strips lead code)
    (hmeet : lead.getLast? ≠ some '/' ∨ more.head? ≠ some '*') :
    stripped (lead ++ more) = code ++ stripped more := by
  induction h with
  | nil => rfl
  | @keep c rest code hopens hrest ih =>
    have hkept : ¬['/', '*'] <+: c :: (rest ++ more) :=
      not_pair_prefix_append hopens (by rintro rfl; simpa using hmeet)
    rw [List.cons_append, stripped_cons (commentSize?_eq_none (Or.inl hkept)),
      ih (hmeet.imp_left getLast?_ne_of_cons), List.cons_append]
  | @cut body rest code hbody hrest ih =>
    rw [List.append_assoc, stripped_comment_append hbody]
    refine ih (hmeet.imp_left fun hlast hrest => hlast ?_)
    have hne : rest ≠ [] := by
      rintro rfl
      cases hrest
    rwa [List.getLast?_append_of_ne_nil _ hne]

/-- A text in which no comment is closed is left as it is. -/
theorem stripped_eq_self (h : ¬['*', '/'] <:+: text.drop 2) : stripped text = text := by
  induction text with
  | nil => rfl
  | cons c rest ih =>
    rw [stripped_cons (commentSize?_eq_none (Or.inr h)), ih]
    refine fun hcloses => h (hcloses.trans ?_)
    rw [List.drop_succ_cons]
    exact (List.drop_suffix_drop_left rest (by decide)).isInfix

/-! ## Line comments -/

theorem beforeLineComment_eq_self (h : ¬['/', '/'] <:+: text) : beforeLineComment text = text := by
  rw [beforeLineComment, cutAtPiece_eq_none_iff.2 h]

theorem beforeLineComment_cons (h : ¬['/', '/'] <+: c :: rest) :
    beforeLineComment (c :: rest) = c :: beforeLineComment rest := by
  rw [beforeLineComment, cutAtPiece_cons h, beforeLineComment]
  cases cutAtPiece ['/', '/'] rest <;> rfl

theorem beforeLineComment_append (h : ¬['/', '/'] <:+: lead)
    (hmeet : lead.getLast? ≠ some '/' ∨ more.head? ≠ some '/') :
    beforeLineComment (lead ++ more) = lead ++ beforeLineComment more := by
  induction lead with
  | nil => rfl
  | cons c lead ih =>
    rw [List.infix_cons_iff, not_or] at h
    have hkept : ¬['/', '/'] <+: c :: (lead ++ more) :=
      not_pair_prefix_append h.1 (by rintro rfl; simpa using hmeet)
    rw [List.cons_append, beforeLineComment_cons hkept, ih h.2 (hmeet.imp_left getLast?_ne_of_cons),
      List.cons_append]

/-- What stands behind a `//` is not read. -/
theorem beforeLineComment_append_of_slashes (h : ['/', '/'] <:+: lead) (more : List Char) :
    beforeLineComment (lead ++ more) = beforeLineComment lead := by
  induction lead with
  | nil => cases List.infix_nil.1 h
  | cons c lead ih =>
    by_cases hstarts : ['/', '/'] <+: c :: lead
    · obtain ⟨after, hafter⟩ := hstarts
      rw [← hafter, List.append_assoc, beforeLineComment, cutAtPiece_of_prefix, beforeLineComment,
        cutAtPiece_of_prefix]
    · have hlater := (List.infix_cons_iff.1 h).resolve_left hstarts
      have hkept : ¬['/', '/'] <+: c :: (lead ++ more) :=
        not_pair_prefix_append hstarts (by rintro rfl; cases List.infix_nil.1 hlater)
      rw [List.cons_append, beforeLineComment_cons hkept, ih hlater,
        beforeLineComment_cons hstarts]

/-- The line goes on with a `//` behind what is read of it, or ends there. -/
theorem exists_beforeLineComment (text : List Char) :
    ∃ rest, text = beforeLineComment text ++ rest ∧ (rest = [] ∨ ['/', '/'] <+: rest) := by
  cases hcut : cutAtPiece ['/', '/'] text with
  | none => exact ⟨[], by rw [beforeLineComment, hcut, List.append_nil], Or.inl rfl⟩
  | some found =>
    obtain ⟨before, after⟩ := found
    have htext := (of_cutAtPiece (List.cons_ne_nil _ _) hcut).1
    refine ⟨['/', '/'] ++ after, ?_, Or.inr (List.prefix_append _ _)⟩
    rw [beforeLineComment, hcut, htext, List.append_assoc]

/-! ## Carriage returns -/

theorem isPrefixOf?_concat {piece : List Char} (hc : c ∉ piece) (text : List Char) :
    piece.isPrefixOf? (text ++ [c]) = (piece.isPrefixOf? text).map (· ++ [c]) :=
  isPrefixOf?_append_mark hc text []

theorem cutAtPiece_concat {piece : List Char} (hc : c ∉ piece) (hne : piece ≠ [])
    (text : List Char) :
    cutAtPiece piece (text ++ [c]) =
      (cutAtPiece piece text).map fun (before, after) => (before, after ++ [c]) := by
  have hempty : piece.isEmpty = false := by simpa using hne
  induction text with
  | nil =>
    have hstart : piece.isPrefixOf? [c] = none := by
      rw [← List.nil_append [c], isPrefixOf?_concat hc]
      cases piece with
      | nil => exact absurd rfl hne
      | cons d piece => rfl
    have hnone : cutAtPiece piece [] = none := by
      rw [cutAtPiece, hempty]
      rfl
    rw [hnone, List.nil_append, cutAtPiece, hstart]
    show (cutAtPiece piece []).map _ = none
    rw [hnone]
    rfl
  | cons d text ih =>
    rw [List.cons_append, cutAtPiece, ← List.cons_append, isPrefixOf?_concat hc, cutAtPiece]
    cases piece.isPrefixOf? (d :: text) with
    | some after => rfl
    | none =>
      show (cutAtPiece piece (text ++ [c])).map _ = ((cutAtPiece piece text).map _).map _
      rw [ih, Option.map_map, Option.map_map]
      rfl

theorem commentSize?_concat (hslash : c ≠ '/') (hstar : c ≠ '*') (text : List Char) :
    commentSize? (text ++ [c]) = commentSize? text := by
  rw [commentSize?, isPrefixOf?_concat (by simp [hslash, hstar]), commentSize?]
  cases ['/', '*'].isPrefixOf? text with
  | none => rfl
  | some inner =>
    rw [Option.map_some, Option.bind_some, cutAtPiece_concat (by simp [hslash, hstar])
      (List.cons_ne_nil _ _), Option.map_map]
    rfl

theorem length_of_commentSize? {size : Nat} (h : commentSize? text = some size) :
    size ≤ text.length := by
  obtain ⟨inner, hinner, hcut⟩ := Option.bind_eq_some_iff.1 h
  obtain ⟨⟨before, after⟩, hfound, rfl⟩ := Option.map_eq_some_iff.1 hcut
  rw [← List.isPrefixOf?_eq_some_iff_append_eq.1 hinner,
    (of_cutAtPiece (List.cons_ne_nil _ _) hfound).1]
  simp only [List.length_append, List.length_cons, List.length_nil]
  omega

theorem stripped_concat (hslash : c ≠ '/') (hstar : c ≠ '*') (text : List Char) :
    stripped (text ++ [c]) = stripped text ++ [c] := by
  rw [stripped, replaceFrom_append (fun _ _ => length_of_commentSize?)
    (fun tail _ _ => commentSize?_concat hslash hstar tail) (Nat.zero_le _)]
  have hlast : stripped [c] = [c] := stripped_eq_self (by simp)
  exact congrArg _ hlast

/-- A carriage return at the end of a line is not read. -/
theorem codeOf_chomp (line : List Char) : codeOf (chomp line) = codeOf line := by
  rw [chomp]
  split
  · next hreturn =>
    obtain ⟨text, rfl⟩ := List.getLast?_eq_some_iff.1 hreturn
    rw [List.dropLast_concat, codeOf_eq_trim, codeOf_eq_trim, uncommented, uncommented]
    by_cases hslashes : ['/', '/'] <:+: text
    · rw [beforeLineComment_append_of_slashes hslashes]
    · rw [beforeLineComment_append hslashes (Or.inr (by decide)),
        beforeLineComment_eq_self hslashes, beforeLineComment_eq_self (by decide),
        stripped_concat (by decide) (by decide), trim_append (by decide)]
  · rfl

end ManifestSarif.Gradle
