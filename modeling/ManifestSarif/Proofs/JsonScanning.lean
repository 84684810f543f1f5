import ManifestSarif.Proofs.JsonGrammar
import Mathlib.Data.List.Basic

/-!
# Reading the tokens of grammatical texts

The scanner reads back the tokens that a text was written from, whatever white space and whichever
spellings it has, and goes on with what follows.

* `readQuotation_written`, `readNumeral_written` and `readToken_written` are the three levels of one
  token.
* `scan_spaced` is the whole text.  Numerals have no end of their own, so it asks that each of them
  stands before a mark (`Separated`).
* `scan_eq_nil_iff`: nothing is read, without a flaw, only from white space.
-/

namespace ManifestSarif.Json

/-! ## Strings -/

theorem hexValue?_of_isHexDigit {n : Nat} {c : Char} (h : IsHexDigit n c) :
    Text.hexValue? c = some n := by
  have hvalues : ∀ digits ∈ ["0123456789abcdef".toList, "0123456789ABCDEF".toList],
      ∀ i (hi : i < digits.length), Text.hexValue? digits[i] = some i := by
    decide
  obtain ⟨digits, hdigits, hget⟩ : ∃ digits ∈ ["0123456789abcdef".toList,
      "0123456789ABCDEF".toList], digits[n]? = some c := by
    simpa [IsHexDigit] using h
  obtain ⟨hn, rfl⟩ := List.getElem?_eq_some_iff.1 hget
  exact hvalues digits hdigits n hn

theorem shortEscape?_of_mem {letter c : Char} (h : (letter, c) ∈ shortEscapes) :
    shortEscape? letter = some c ∧ letter ≠ 'u' := by
  have hall : ∀ entry ∈ shortEscapes, shortEscape? entry.1 = some entry.2 ∧ entry.1 ≠ 'u' := by
    decide
  exact hall _ h

/-- A piece is read from each of its spellings. -/
theorem readQuotation_piece {piece : Piece} {text : List Char} (h : piece.Written text)
    (rest : List Char) :
    readQuotation (text ++ rest) = (piece :: (readQuotation rest).1, (readQuotation rest).2) := by
  cases h with
  | @plain c hquote hslash hcontrol =>
    have hnot : ¬ c.toNat < 0x20 := by omega
    simp [readQuotation, hslash, hnot]
  | short hmem =>
    obtain ⟨hescape, hletter⟩ := shortEscape?_of_mem hmem
    simp [readQuotation, hescape, hletter]
  | unit ha hb hc hd =>
    simp [readQuotation, hexUnit?, hexValue?_of_isHexDigit ha, hexValue?_of_isHexDigit hb,
      hexValue?_of_isHexDigit hc, hexValue?_of_isHexDigit hd]

/-- The pieces of a string are read back up to the closing quote. -/
theorem readQuotation_written {pieces : Quotation} {text : List Char} (h : pieces.Written text)
    (rest : List Char) : readQuotation (text ++ '"' :: rest) = (pieces, .ok rest) := by
  induction h with
  | nil => simp [readQuotation]
  | cons hfirst hrest ih => rw [List.append_assoc, readQuotation_piece hfirst, ih]

/-! ## Numerals -/

/-- What may follow digits: no digit. -/
def EndsDigits (rest : List Char) : Prop :=
  ∀ c, rest.head? = some c → ¬ c.isDigit

/-- What may follow a numeral: nothing that would continue it. -/
def EndsNumeral (rest : List Char) : Prop :=
  ∀ c, rest.head? = some c → ¬ c.isDigit ∧ c ≠ '.' ∧ c ≠ 'e' ∧ c ≠ 'E'

variable {rest : List Char}

theorem readDigits_append {digits : List Char} (h : IsDigits digits) (hrest : EndsDigits rest) :
    readDigits (digits ++ rest) = .ok (digits, rest) := by
  obtain ⟨hne, hall⟩ := h
  have hstop : rest.takeWhile Char.isDigit = [] ∧ rest.dropWhile Char.isDigit = rest := by
    cases rest with
    | nil => simp
    | cons c rest => simp [hrest c rfl]
  simp [readDigits, List.takeWhile_append_of_pos hall, List.dropWhile_append_of_pos hall, hstop, hne]

theorem readPlaces_written {places : Option (List Char)} {text : List Char}
    (h : PlacesWritten places text) (hrest : EndsDigits rest) (hpoint : rest.head? ≠ some '.') :
    readPlaces (text ++ rest) = .ok (places, rest) := by
  cases h with
  | absent =>
    rw [List.nil_append, readPlaces]
    rintro rest rfl
    exact hpoint rfl
  | present hdigits =>
    simp [readPlaces, readDigits_append hdigits hrest, bind, Except.bind, pure, Except.pure]

theorem readSign_append {sign digits : List Char} {negative : Bool}
    (hsign : (sign, negative) ∈ [([], false), (['+'], false), (['-'], true)])
    (h : IsDigits digits) (rest : List Char) :
    readSign (sign ++ (digits ++ rest)) = (negative, digits ++ rest) := by
  obtain ⟨hne, hall⟩ := h
  obtain ⟨c, digits, rfl⟩ := List.exists_cons_of_ne_nil hne
  have hc : c.isDigit := hall c List.mem_cons_self
  simp only [List.mem_cons, Prod.mk.injEq, List.not_mem_nil, or_false] at hsign
  obtain ⟨rfl, rfl⟩ | ⟨rfl, rfl⟩ | ⟨rfl, rfl⟩ := hsign
  · have hplus : c ≠ '+' := by rintro rfl; exact absurd hc (by decide)
    have hminus : c ≠ '-' := by rintro rfl; exact absurd hc (by decide)
    simp [readSign, hplus, hminus]
  · rfl
  · rfl

theorem readExponent_written {exponent : Option Exponent} {text : List Char}
    (h : ExponentWritten exponent text) (hrest : EndsNumeral rest) :
    readExponent (text ++ rest) = .ok (exponent, rest) := by
  have hdigits : EndsDigits rest := fun c hc => (hrest c hc).1
  cases h with
  | absent =>
    cases rest with
    | nil => rfl
    | cons c rest => simp [readExponent, hrest c rfl]
  | @present mark sign digits negative hmark hsign h =>
    have hmark : mark = 'e' ∨ mark = 'E' := by simpa using hmark
    simp [readExponent, hmark, readSign_append hsign h, readDigits_append h hdigits, bind,
      Except.bind, pure, Except.pure]

/-- The numeral after its sign is read back. -/
theorem readNumeral_written {negative : Bool} {whole placesText exponentText : List Char}
    {places : Option (List Char)} {exponent : Option Exponent} (hwhole : IsDigits whole)
    (hzero : whole.head? = some '0' → whole = ['0']) (hplaces : PlacesWritten places placesText)
    (hexponent : ExponentWritten exponent exponentText) (hrest : EndsNumeral rest) :
    readNumeral negative (whole ++ (placesText ++ (exponentText ++ rest))) =
      .ok (⟨negative, whole, places, exponent⟩, rest) := by
  have hdigits : EndsDigits rest := fun c hc => (hrest c hc).1
  -- each part ends where the next one begins
  have hafterPlaces : EndsDigits (exponentText ++ rest) ∧
      (exponentText ++ rest).head? ≠ some '.' := by
    cases hexponent with
    | absent =>
      exact ⟨hdigits, fun hpoint => (hrest _ hpoint).2.1 rfl⟩
    | present hmark _ _ =>
      simp only [List.mem_cons, List.not_mem_nil, or_false] at hmark
      rcases hmark with rfl | rfl <;> simp [EndsDigits]
  have hafterWhole : EndsDigits (placesText ++ (exponentText ++ rest)) := by
    cases hplaces with
    | absent => exact hafterPlaces.1
    | present _ => simp [EndsDigits]
  have hlength : ¬ (whole.head? = some '0' ∧ whole.length ≠ 1) := by
    rintro ⟨hhead, hlength⟩
    exact hlength (by rw [hzero hhead]; rfl)
  simp only [readNumeral, readWhole, readDigits_append hwhole hafterWhole, bind, Except.bind,
    if_neg hlength, readPlaces_written hplaces hafterPlaces.1 hafterPlaces.2,
    readExponent_written hexponent hrest, pure, Except.pure]

/-! ## Tokens -/

/-- A digit starts no other token than a numeral. -/
theorem starts_numeral_of_isDigit {c : Char} (h : c.isDigit) :
    mark? c = none ∧ wordOf? c = none ∧ c ≠ '"' ∧ c ≠ '-' ∧ isSpace c = false := by
  have hne : ∀ d : Char, ¬ d.isDigit → c ≠ d := by
    rintro d hd rfl
    exact hd h
  refine ⟨?_, ?_, hne _ (by decide), hne _ (by decide), ?_⟩
  · unfold mark?
    split <;> first | rfl | exact absurd h (by decide)
  · unfold wordOf?
    split <;> first | rfl | exact absurd h (by decide)
  · simp [isSpace, hne ' ' (by decide), hne '\n' (by decide), hne '\t' (by decide),
      hne '\r' (by decide)]

/-- A token is read from each of its spellings; a numeral must end there. -/
theorem readToken_written {token : Token} {text : List Char} (h : token.Written text)
    (hends : ∀ numeral, token = .number numeral → EndsNumeral rest) :
    ∃ c more, text = c :: more ∧ isSpace c = false ∧
      readToken c (more ++ rest) = .ok (token, rest) := by
  cases h with
  | openArray | closeArray | openObject | closeObject | comma | colon =>
    exact ⟨_, _, rfl, rfl, rfl⟩
  | null | true | false => exact ⟨_, _, rfl, rfl, by simp [readToken, mark?, wordOf?, readWord]⟩
  | quotation h =>
    refine ⟨_, _, rfl, rfl, ?_⟩
    simp [readToken, mark?, wordOf?, readQuotation_written h]
  | number h =>
    have hrest := hends _ rfl
    obtain @⟨negative, whole, places, exponent, placesText, exponentText, hwhole, hzero, hplaces,
      hexponent⟩ := h
    have hread := @readNumeral_written rest negative _ _ _ _ _ hwhole hzero hplaces hexponent hrest
    cases negative with
    | true =>
      refine ⟨_, _, rfl, rfl, ?_⟩
      simp [readToken, mark?, wordOf?, hread]
    | false =>
      obtain ⟨c, whole, rfl⟩ := List.exists_cons_of_ne_nil hwhole.1
      have hdigit : c.isDigit := hwhole.2 c List.mem_cons_self
      obtain ⟨hmark, hword, hquote, hminus, hspace⟩ := starts_numeral_of_isDigit hdigit
      refine ⟨_, _, rfl, hspace, ?_⟩
      simp only [List.cons_append] at hread
      simp [readToken, hmark, hword, hquote, hminus, hdigit, hread]

/-! ## Texts -/

theorem isSpace_iff_mem {c : Char} : isSpace c = true ↔ c ∈ [' ', '\n', '\t', '\r'] := by
  simp [isSpace, or_assoc]

theorem scan_blank {blank : List Char} (h : IsBlank blank) (rest : List Char) :
    scan (blank ++ rest) = scan rest := by
  induction blank with
  | nil => rfl
  | cons c blank ih =>
    have hc : isSpace c = true := isSpace_iff_mem.2 (h c List.mem_cons_self)
    rw [List.cons_append, scan, if_pos hc]
    exact ih fun d hd => h d (List.mem_cons_of_mem _ hd)

theorem scan_token {token : Token} {text : List Char} (h : token.Written text)
    (hends : ∀ numeral, token = .number numeral → EndsNumeral rest) :
    scan (text ++ rest) = ⟨token :: (scan rest).tokens, (scan rest).flaw⟩ := by
  obtain ⟨c, more, rfl, hspace, hread⟩ := readToken_written h hends
  rw [List.cons_append, scan, if_neg (by simp [hspace])]
  split
  · next hread' =>
    rw [hread] at hread'
    cases hread'
    rfl
  · next hread' =>
    rw [hread] at hread'
    cases hread'

/-- Nothing but white space has no tokens and no flaw. -/
theorem scan_eq_nil_iff {text : List Char} :
    ((scan text).tokens = [] ∧ (scan text).flaw = none) ↔ IsBlank text := by
  constructor
  · intro h
    induction text with
    | nil => simp [IsBlank]
    | cons c text ih =>
      rw [scan] at h
      by_cases hc : isSpace c = true
      · rw [if_pos hc] at h
        have htext := ih h
        simp only [IsBlank, List.forall_mem_cons]
        exact ⟨isSpace_iff_mem.1 hc, htext⟩
      · rw [if_neg hc] at h
        split at h <;> simp at h
  · intro h
    have hscan := scan_blank h []
    rw [List.append_nil] at hscan
    simp [hscan, scan]

/-! ## Sequences of tokens -/

/-- The tokens that stand between values: each is one character. -/
def marks : List Token :=
  [.openArray, .closeArray, .openObject, .closeObject, .comma, .colon]

/-- Each numeral stands before a mark. -/
def Separated : List Token → Prop
  | [] => True
  | .number _ :: rest => (∃ mark ∈ marks, rest.head? = some mark) ∧ Separated rest
  | _ :: rest => Separated rest

theorem Separated.tail {token : Token} {tokens : List Token} (h : Separated (token :: tokens)) :
    Separated tokens := by
  cases token with
  | number => exact h.2
  | _ => exact h

/-- White space ends a numeral before it. -/
theorem endsNumeral_space {c : Char} (hc : c ∈ [' ', '\n', '\t', '\r']) (rest : List Char) :
    EndsNumeral (c :: rest) := by
  have hall : ∀ c ∈ [' ', '\n', '\t', '\r'],
      ¬ c.isDigit ∧ c ≠ '.' ∧ c ≠ 'e' ∧ c ≠ 'E' := by simp
  intro d hd
  cases hd
  exact hall c hc

/-- A mark ends a numeral before it, with or without white space between them. -/
theorem endsNumeral_of_head_mem_marks {tokens : List Token} {text : List Char} {mark : Token}
    (h : Spaced tokens text) (hhead : tokens.head? = some mark) (hmark : mark ∈ marks)
    (rest : List Char) : EndsNumeral (text ++ rest) := by
  cases h with
  | nil => cases hhead
  | @cons token tokens blank text after hblank htoken =>
    cases hhead
    cases blank with
    | cons c blank => exact endsNumeral_space (hblank c List.mem_cons_self) _
    | nil =>
      intro d hd
      cases htoken <;> simp [marks] at hmark <;> cases hd <;> decide

/-- **The tokens of a text are read back**, and then what follows is read. -/
theorem scan_spaced {tokens : List Token} {text : List Char} (h : Spaced tokens text)
    (hseparated : Separated tokens) (rest : List Char) :
    scan (text ++ rest) = ⟨tokens ++ (scan rest).tokens, (scan rest).flaw⟩ := by
  induction h with
  | nil hblank => simp [scan_blank hblank]
  | @cons token tokens blank text after hblank htoken hafter ih =>
    have hends : ∀ numeral, token = .number numeral → EndsNumeral (after ++ rest) := by
      rintro numeral rfl
      obtain ⟨mark, hmark, hhead⟩ := hseparated.1
      exact endsNumeral_of_head_mem_marks hafter hhead hmark rest
    rw [List.append_assoc, List.append_assoc, scan_blank hblank, scan_token htoken hends,
      ih hseparated.tail]
    rfl

end ManifestSarif.Json
