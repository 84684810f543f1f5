import ManifestSarif.Json.Number
import ManifestSarif.Text.Hexadecimal

/-!
# Tokens of JSON

The words that a JSON text is made of, read from left to right up to the end or to the first place
where no token can be read.

* `Quotation` is a string as it is written: its characters and `\u` escapes, not yet paired up,
* `Token.scan` reads the tokens of a text,
* `Flaw` says what stands where reading stopped.
-/

namespace ManifestSarif.Json

/-- One character of a string: written directly or by a short escape, or as a `\u` escape. -/
inductive Piece where
  | char (c : Char)
  | unit (n : Nat)
deriving DecidableEq, Repr

/-- A string as it is written, without its quotes. -/
abbrev Quotation := List Piece

/-- What ends a string before its closing quote. -/
inductive QuotationFlaw where
  /-- The text ends. -/
  | endOfText
  /-- A control character stands in the string. -/
  | control
  /-- A backslash starts no escape. -/
  | escape
  /-- The four characters after `\u` are not all hexadecimal digits. -/
  | hex
deriving DecidableEq, Repr

/-- A place where no token can be read. -/
inductive Flaw where
  /-- A character that starts no token. -/
  | character
  /-- A word other than `null`, `true` and `false`, or one that the text ends in. -/
  | word (endOfText : Bool)
  /-- A numeral that breaks the rules, or that the text ends in. -/
  | numeral (endOfText : Bool)
  /-- A string that is broken after some pieces. -/
  | quotation (pieces : Quotation) (flaw : QuotationFlaw)
deriving DecidableEq, Repr

/-- A token. -/
inductive Token where
  | openArray
  | closeArray
  | openObject
  | closeObject
  | comma
  | colon
  | null
  | bool (b : Bool)
  | number (numeral : Numeral)
  | quotation (pieces : Quotation)
deriving DecidableEq, Repr

/-! ## Strings -/

/-- The character that a backslash and `c` stand for. -/
def shortEscape? (c : Char) : Option Char :=
  [('"', '"'), ('\\', '\\'), ('/', '/'), ('b', '\x08'), ('f', '\x0c'), ('n', '\n'), ('r', '\r'),
    ('t', '\t')].lookup c

/-- The number that four hexadecimal digits denote. -/
def hexUnit? (a b c d : Char) : Option Nat := do
  let a ← Text.hexValue? a
  let b ← Text.hexValue? b
  let c ← Text.hexValue? c
  let d ← Text.hexValue? d
  return ((a * 16 + b) * 16 + c) * 16 + d

/-- Why no `\u` escape can be read from the text: it has no four bytes, or not four digits. -/
def hexFlaw (text : List Char) : QuotationFlaw :=
  if (String.ofList (text.take 4)).utf8ByteSize < 4 then .endOfText else .hex

/-- The pieces of a string whose opening quote was read, up to the closing quote or the first flaw,
and what follows the closing quote. -/
def readQuotation : List Char → Quotation × Except QuotationFlaw (List Char)
  | [] => ([], .error .endOfText)
  | '"' :: rest => ([], .ok rest)
  | ['\\'] => ([], .error .endOfText)
  | '\\' :: 'u' :: a :: b :: c :: d :: rest =>
    match hexUnit? a b c d with
    | some n =>
      let more := readQuotation rest
      (.unit n :: more.1, more.2)
    | none => ([], .error .hex)
  | '\\' :: c :: rest =>
    if c = 'u' then ([], .error (hexFlaw rest))
    else
      match shortEscape? c with
      | some c =>
        let more := readQuotation rest
        (.char c :: more.1, more.2)
      | none => ([], .error .escape)
  | c :: rest =>
    if c.toNat < 0x20 then ([], .error .control)
    else
      let more := readQuotation rest
      (.char c :: more.1, more.2)

/-! ## Numerals -/

/-- At least one digit and what follows; or whether the text ends where a digit is missing. -/
def readDigits (text : List Char) : Except Bool (List Char × List Char) :=
  let digits := text.takeWhile Char.isDigit
  let rest := text.dropWhile Char.isDigit
  if digits.isEmpty then .error rest.isEmpty else .ok (digits, rest)

/-- The digits before the point, which start with a zero only if that is all. -/
def readWhole (text : List Char) : Except Bool (List Char × List Char) := do
  let (digits, rest) ← readDigits text
  if digits.head? = some '0' ∧ digits.length ≠ 1 then .error false else .ok (digits, rest)

/-- The digits after a point, if there is one. -/
def readPlaces (text : List Char) : Except Bool (Option (List Char) × List Char) :=
  match text with
  | '.' :: rest => do
    let (digits, rest) ← readDigits rest
    return (some digits, rest)
  | _ => .ok (none, text)

/-- The sign of an exponent, if it is written, and what follows. -/
def readSign (text : List Char) : Bool × List Char :=
  match text with
  | '+' :: rest => (false, rest)
  | '-' :: rest => (true, rest)
  | _ => (false, text)

/-- The exponent, if there is one. -/
def readExponent (text : List Char) : Except Bool (Option Exponent × List Char) :=
  match text with
  | [] => .ok (none, text)
  | c :: rest =>
    if c = 'e' ∨ c = 'E' then do
      let (negative, rest) := readSign rest
      let (digits, rest) ← readDigits rest
      return (some ⟨negative, digits⟩, rest)
    else .ok (none, text)

/-- The numeral after its minus sign, and what follows; or whether the text ends in it. -/
def readNumeral (negative : Bool) (text : List Char) : Except Bool (Numeral × List Char) := do
  let (whole, rest) ← readWhole text
  let (places, rest) ← readPlaces rest
  let (exponent, rest) ← readExponent rest
  return (⟨negative, whole, places, exponent⟩, rest)

/-! ## Words -/

/-- What follows the rest of a word; or whether the text ends in the word. -/
def readWord : List Char → List Char → Except Bool (List Char)
  | [], text => .ok text
  | _ :: _, [] => .error true
  | letter :: letters, c :: rest => if c = letter then readWord letters rest else .error false

/-- The token that a letter and the rest of its word make. -/
def wordOf? (c : Char) : Option (List Char × Token) :=
  match c with
  | 'n' => some ("ull".toList, .null)
  | 't' => some ("rue".toList, .bool true)
  | 'f' => some ("alse".toList, .bool false)
  | _ => none

/-! ## Texts -/

/-- The white space between tokens. -/
def isSpace (c : Char) : Bool :=
  c == ' ' || c == '\n' || c == '\t' || c == '\r'

/-- The token that consists of one character. -/
def mark? (c : Char) : Option Token :=
  match c with
  | '[' => some .openArray
  | ']' => some .closeArray
  | '\x7b' => some .openObject
  | '\x7d' => some .closeObject
  | ',' => some .comma
  | ':' => some .colon
  | _ => none

/-- The token that starts with `c`, which is no white space, and what follows it. -/
def readToken (c : Char) (rest : List Char) : Except Flaw (Token × List Char) :=
  match mark? c with
  | some token => .ok (token, rest)
  | none =>
    match wordOf? c with
    | some (letters, token) =>
      match readWord letters rest with
      | .ok after => .ok (token, after)
      | .error ends => .error (.word ends)
    | none =>
      if c = '"' then
        match readQuotation rest with
        | (pieces, .ok after) => .ok (.quotation pieces, after)
        | (pieces, .error flaw) => .error (.quotation pieces flaw)
      else if c = '-' ∨ c.isDigit then
        match if c = '-' then readNumeral true rest else readNumeral false (c :: rest) with
        | .ok (numeral, after) => .ok (.number numeral, after)
        | .error ends => .error (.numeral ends)
      else .error .character

/-! ### What a token leaves is no longer than what it was read from -/

theorem length_readQuotation_le {text after : List Char}
    (h : (readQuotation text).2 = .ok after) : after.length ≤ text.length := by
  fun_induction readQuotation text generalizing after <;> grind

theorem length_readDigits_lt {text digits after : List Char}
    (h : readDigits text = .ok (digits, after)) : after.length < text.length := by
  simp only [readDigits] at h
  split at h
  · cases h
  · next hne =>
    cases h
    have hlen := congrArg List.length
      (List.takeWhile_append_dropWhile (p := Char.isDigit) (l := text))
    have hpos : 0 < (text.takeWhile Char.isDigit).length := by
      simpa [List.length_pos_iff] using hne
    simp only [List.length_append] at hlen
    omega

theorem length_readWhole_lt {text digits after : List Char}
    (h : readWhole text = .ok (digits, after)) : after.length < text.length := by
  cases hd : readDigits text with
  | error ends => simp [readWhole, hd, bind, Except.bind] at h
  | ok result =>
    obtain ⟨ds, rest⟩ := result
    simp only [readWhole, hd, bind, Except.bind] at h
    split at h <;> cases h
    exact length_readDigits_lt hd

theorem length_readPlaces_le {text after : List Char} {places : Option (List Char)}
    (h : readPlaces text = .ok (places, after)) : after.length ≤ text.length := by
  unfold readPlaces at h
  split at h
  · next rest =>
    cases hd : readDigits rest with
    | error ends => simp [hd, bind, Except.bind] at h
    | ok result =>
      obtain ⟨ds, rest'⟩ := result
      simp only [hd, bind, Except.bind, pure, Except.pure] at h
      cases h
      exact Nat.le_succ_of_le (Nat.le_of_lt (length_readDigits_lt hd))
  · cases h
    exact Nat.le_refl _

theorem length_readSign_le (text : List Char) : (readSign text).2.length ≤ text.length := by
  unfold readSign
  split <;> simp

theorem length_readExponent_le {text after : List Char} {exponent : Option Exponent}
    (h : readExponent text = .ok (exponent, after)) : after.length ≤ text.length := by
  unfold readExponent at h
  split at h
  · cases h
    exact Nat.le_refl _
  · next c rest =>
    split at h
    · cases hd : readDigits (readSign rest).2 with
      | error ends => simp [hd, bind, Except.bind] at h
      | ok result =>
        obtain ⟨ds, rest'⟩ := result
        simp only [hd, bind, Except.bind, pure, Except.pure] at h
        cases h
        have := length_readDigits_lt hd
        have := length_readSign_le rest
        simp only [List.length_cons]
        omega
    · cases h
      exact Nat.le_refl _

theorem length_readNumeral_lt {negative : Bool} {text after : List Char} {numeral : Numeral}
    (h : readNumeral negative text = .ok (numeral, after)) : after.length < text.length := by
  simp only [readNumeral, bind, Except.bind, pure, Except.pure] at h
  split at h
  · cases h
  · next whole hwhole =>
    split at h
    · cases h
    · next places hplaces =>
      split at h
      · cases h
      · next exponent hexponent =>
        cases h
        exact Nat.lt_of_le_of_lt
          (Nat.le_trans (length_readExponent_le hexponent) (length_readPlaces_le hplaces))
          (length_readWhole_lt hwhole)

theorem length_readWord_le {letters text after : List Char}
    (h : readWord letters text = .ok after) : after.length ≤ text.length := by
  fun_induction readWord letters text <;> grind

theorem length_readToken_le {c : Char} {rest after : List Char} {token : Token}
    (h : readToken c rest = .ok (token, after)) : after.length ≤ rest.length := by
  unfold readToken at h
  split at h
  · cases h
    exact Nat.le_refl _
  · split at h
    · split at h
      · next hword =>
        cases h
        exact length_readWord_le hword
      · cases h
    · split at h
      · split at h
        · next hquotation =>
          cases h
          exact length_readQuotation_le (congrArg Prod.snd hquotation)
        · cases h
      · split at h
        · split at h
          · next hnumeral =>
            cases h
            split at hnumeral
            · exact Nat.le_of_lt (length_readNumeral_lt hnumeral)
            · exact Nat.le_of_lt_succ (length_readNumeral_lt hnumeral)
          · cases h
        · cases h

/-- The tokens of a text up to its end or to the first flaw. -/
structure Scan where
  tokens : List Token
  flaw : Option Flaw

/-- Reads the tokens of a text. -/
def scan : List Char → Scan
  | [] => ⟨[], none⟩
  | c :: rest =>
    if isSpace c then scan rest
    else
      match _h : readToken c rest with
      | .ok (token, after) =>
        let more := scan after
        ⟨token :: more.tokens, more.flaw⟩
      | .error flaw => ⟨[], some flaw⟩
termination_by text => text.length
decreasing_by
  · simp
  · have := length_readToken_le (by assumption)
    simp; omega

end ManifestSarif.Json
