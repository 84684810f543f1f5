import ManifestSarif.Json.Value

/-!
# The grammar of JSON

Which texts stand for which values, said without regard to how texts are read: a text is a sequence
of tokens with white space before, between and after them, and a token may have more than one
spelling.

* `Quotation.Spells` relates the pieces of a string to its characters, `Quotation.Written` to the
  text between its quotes.
* `Token.Written` and `Spaced` relate tokens to texts.
* `Value.tokens` are the tokens of a value, `Value.Written` relates a value to its texts.
* `Value.depth` is how deep arrays and objects nest in a value.
-/

namespace ManifestSarif.Json

/-! ## Strings -/

/-- `c` is the hexadecimal digit of value `n`, in either case. -/
def IsHexDigit (n : Nat) (c : Char) : Prop :=
  "0123456789abcdef".toList[n]? = some c ∨ "0123456789ABCDEF".toList[n]? = some c

/-- The letters of the short escapes, each with what it stands for. -/
def shortEscapes : List (Char × Char) :=
  [('"', '"'), ('\\', '\\'), ('/', '/'), ('b', '\x08'), ('f', '\x0c'), ('n', '\n'), ('r', '\r'),
    ('t', '\t')]

/-- How one piece of a string is written. -/
inductive Piece.Written : Piece → List Char → Prop where
  | plain {c : Char} (hquote : c ≠ '"') (hslash : c ≠ '\\') (hcontrol : 0x20 ≤ c.toNat) :
      Piece.Written (.char c) [c]
  | short {letter c : Char} (h : (letter, c) ∈ shortEscapes) :
      Piece.Written (.char c) ['\\', letter]
  | unit {a b c d : Nat} {ca cb cc cd : Char} (ha : IsHexDigit a ca) (hb : IsHexDigit b cb)
      (hc : IsHexDigit c cc) (hd : IsHexDigit d cd) :
      Piece.Written (.unit (((a * 16 + b) * 16 + c) * 16 + d)) ['\\', 'u', ca, cb, cc, cd]

/-- How the pieces of a string are written between its quotes. -/
inductive Quotation.Written : Quotation → List Char → Prop where
  | nil : Quotation.Written [] []
  | cons {piece : Piece} {pieces : Quotation} {first rest : List Char}
      (hfirst : piece.Written first) (hrest : Quotation.Written pieces rest) :
      Quotation.Written (piece :: pieces) (first ++ rest)

/-- The characters that the pieces of a string stand for.  A character outside the basic plane may
be escaped as two surrogates. -/
inductive Quotation.Spells : Quotation → List Char → Prop where
  | nil : Quotation.Spells [] []
  | char {c : Char} {pieces : Quotation} {chars : List Char} (h : Quotation.Spells pieces chars) :
      Quotation.Spells (.char c :: pieces) (c :: chars)
  | unit {c : Char} {pieces : Quotation} {chars : List Char} (hc : c.toNat < 0x10000)
      (h : Quotation.Spells pieces chars) :
      Quotation.Spells (.unit c.toNat :: pieces) (c :: chars)
  | surrogates {c : Char} {pieces : Quotation} {chars : List Char} (hc : 0x10000 ≤ c.toNat)
      (h : Quotation.Spells pieces chars) :
      Quotation.Spells
        (.unit (0xd800 + (c.toNat - 0x10000) / 0x400) ::
          .unit (0xdc00 + (c.toNat - 0x10000) % 0x400) :: pieces)
        (c :: chars)

/-- Characters that are not escaped stand for themselves. -/
theorem Quotation.spells_map_char (chars : List Char) :
    Quotation.Spells (chars.map Piece.char) chars := by
  induction chars with
  | nil => exact .nil
  | cons c rest ih => exact .char ih

theorem Quotation.written_map_char {chars : List Char}
    (h : ∀ c ∈ chars, c ≠ '"' ∧ c ≠ '\\' ∧ 0x20 ≤ c.toNat) :
    Quotation.Written (chars.map Piece.char) chars := by
  induction chars with
  | nil => exact .nil
  | cons c rest ih =>
    obtain ⟨hquote, hslash, hcontrol⟩ := h c List.mem_cons_self
    exact .cons (.plain hquote hslash hcontrol) (ih fun d hd => h d (List.mem_cons_of_mem _ hd))

/-! ## Numerals -/

/-- At least one decimal digit and nothing else. -/
def IsDigits (text : List Char) : Prop :=
  text ≠ [] ∧ ∀ c ∈ text, c.isDigit

/-- How the digits after the point are written, if there are any. -/
inductive PlacesWritten : Option (List Char) → List Char → Prop where
  | absent : PlacesWritten none []
  | present {digits : List Char} (h : IsDigits digits) :
      PlacesWritten (some digits) ('.' :: digits)

/-- How an exponent is written, if there is one. -/
inductive ExponentWritten : Option Exponent → List Char → Prop where
  | absent : ExponentWritten none []
  | present {mark : Char} {sign digits : List Char} {negative : Bool} (hmark : mark ∈ ['e', 'E'])
      (hsign : (sign, negative) ∈ [([], false), (['+'], false), (['-'], true)])
      (h : IsDigits digits) :
      ExponentWritten (some ⟨negative, digits⟩) (mark :: (sign ++ digits))

/-- How a numeral is written: without needless zeros at its front. -/
inductive Numeral.Written : Numeral → List Char → Prop where
  | mk {negative : Bool} {whole : List Char} {places : Option (List Char)}
      {exponent : Option Exponent} {placesText exponentText : List Char} (hwhole : IsDigits whole)
      (hzero : whole.head? = some '0' → whole = ['0'])
      (hplaces : PlacesWritten places placesText)
      (hexponent : ExponentWritten exponent exponentText) :
      Numeral.Written ⟨negative, whole, places, exponent⟩
        ((if negative then ['-'] else []) ++ (whole ++ (placesText ++ exponentText)))

/-! ## Tokens -/

/-- How a token is written. -/
inductive Token.Written : Token → List Char → Prop where
  | openArray : Token.Written .openArray ['[']
  | closeArray : Token.Written .closeArray [']']
  | openObject : Token.Written .openObject ['\x7b']
  | closeObject : Token.Written .closeObject ['\x7d']
  | comma : Token.Written .comma [',']
  | colon : Token.Written .colon [':']
  | null : Token.Written .null ['n', 'u', 'l', 'l']
  | true : Token.Written (.bool true) ['t', 'r', 'u', 'e']
  | false : Token.Written (.bool false) ['f', 'a', 'l', 's', 'e']
  | number {numeral : Numeral} {text : List Char} (h : numeral.Written text) :
      Token.Written (.number numeral) text
  | quotation {pieces : Quotation} {text : List Char} (h : pieces.Written text) :
      Token.Written (.quotation pieces) ('"' :: (text ++ ['"']))

/-- Nothing but white space. -/
def IsBlank (text : List Char) : Prop :=
  ∀ c ∈ text, c ∈ [' ', '\n', '\t', '\r']

instance (text : List Char) : Decidable (IsBlank text) :=
  inferInstanceAs (Decidable (∀ c ∈ text, _))

/-- How tokens are written one after the other, with any white space around each. -/
inductive Spaced : List Token → List Char → Prop where
  | nil {blank : List Char} (h : IsBlank blank) : Spaced [] blank
  | cons {token : Token} {tokens : List Token} {blank text rest : List Char} (hblank : IsBlank blank)
      (htoken : token.Written text) (hrest : Spaced tokens rest) :
      Spaced (token :: tokens) (blank ++ (text ++ rest))

/-- Tokens, each with the white space before it and its spelling. -/
theorem Spaced.of_parts {parts : List (List Char × Token × List Char)} {blank : List Char}
    (h : ∀ part ∈ parts, IsBlank part.1 ∧ part.2.1.Written part.2.2) (hblank : IsBlank blank) :
    Spaced (parts.map (·.2.1)) (parts.flatMap (fun part => part.1 ++ part.2.2) ++ blank) := by
  induction parts with
  | nil => exact .nil hblank
  | cons part parts ih =>
    obtain ⟨hbefore, htoken⟩ := h part List.mem_cons_self
    have hrest := ih fun part hpart => h part (List.mem_cons_of_mem _ hpart)
    simpa using Spaced.cons hbefore htoken hrest

/-! ## Values -/

/-- What holds of each value if it holds of each container whose parts it holds of. -/
@[elab_as_elim]
theorem Value.inductionOn {P : Value → Prop} (value : Value) (null : P .null)
    (bool : ∀ b, P (.bool b)) (number : ∀ numeral, P (.number numeral))
    (text : ∀ pieces, P (.text pieces))
    (array : ∀ items, (∀ item ∈ items, P item) → P (.array items))
    (object : ∀ members, (∀ member ∈ members, P member.2) → P (.object members)) : P value :=
  match value with
  | .null => null
  | .bool b => bool b
  | .number numeral => number numeral
  | .text pieces => text pieces
  | .array items =>
    array items fun item _ => Value.inductionOn item null bool number text array object
  | .object members =>
    object members fun member _ => Value.inductionOn member.2 null bool number text array object
termination_by sizeOf value
decreasing_by
  · have := List.sizeOf_lt_of_mem ‹item ∈ items›
    simp; omega
  · have := List.sizeOf_lt_of_mem ‹member ∈ members›
    have : sizeOf member = 1 + sizeOf member.1 + sizeOf member.2 := rfl
    simp; omega

namespace Value

mutual

/-- The tokens of a value. -/
def tokens : Value → List Token
  | null => [.null]
  | bool b => [.bool b]
  | number numeral => [.number numeral]
  | text pieces => [.quotation pieces]
  | array items => .openArray :: ([.comma].intercalate (itemTokens items) ++ [.closeArray])
  | object members => .openObject :: ([.comma].intercalate (memberTokens members) ++ [.closeObject])

/-- The tokens of each item. -/
def itemTokens : List Value → List (List Token)
  | [] => []
  | item :: rest => item.tokens :: itemTokens rest

/-- The tokens of each member. -/
def memberTokens : List (Quotation × Value) → List (List Token)
  | [] => []
  | (key, value) :: rest => (.quotation key :: .colon :: value.tokens) :: memberTokens rest

end

theorem itemTokens_eq (items : List Value) : itemTokens items = items.map tokens := by
  induction items with
  | nil => rfl
  | cons item rest ih => rw [itemTokens, ih, List.map_cons]

theorem memberTokens_eq (members : List (Quotation × Value)) :
    memberTokens members =
      members.map fun member => .quotation member.1 :: .colon :: member.2.tokens := by
  induction members with
  | nil => rfl
  | cons member rest ih => rw [memberTokens, ih, List.map_cons]

/-- The texts of a value. -/
def Written (value : Value) (text : List Char) : Prop :=
  Spaced value.tokens text

mutual

/-- How many arrays and objects stand around the innermost part of the value, itself included. -/
def depth : Value → Nat
  | array items => itemsDepth items + 1
  | object members => membersDepth members + 1
  | _ => 0

/-- The depth of the deepest item. -/
def itemsDepth : List Value → Nat
  | [] => 0
  | item :: rest => max item.depth (itemsDepth rest)

/-- The depth of the deepest member. -/
def membersDepth : List (Quotation × Value) → Nat
  | [] => 0
  | (_, value) :: rest => max value.depth (membersDepth rest)

end

variable {items : List Value} {members : List (Quotation × Value)}

/-- An item has less depth than its array. -/
theorem depth_lt_of_mem_items {item : Value} (h : item ∈ items) :
    item.depth < (array items).depth := by
  rw [depth, Nat.lt_succ_iff]
  induction items with
  | nil => cases h
  | cons first rest ih =>
    rw [itemsDepth]
    rcases List.mem_cons.1 h with rfl | h
    · exact Nat.le_max_left ..
    · exact Nat.le_trans (ih h) (Nat.le_max_right ..)

/-- The value of a member has less depth than its object. -/
theorem depth_lt_of_mem_members {member : Quotation × Value} (h : member ∈ members) :
    member.2.depth < (object members).depth := by
  rw [depth, Nat.lt_succ_iff]
  induction members with
  | nil => cases h
  | cons first rest ih =>
    obtain ⟨key, value⟩ := first
    rw [membersDepth]
    rcases List.mem_cons.1 h with rfl | h
    · exact Nat.le_max_left ..
    · exact Nat.le_trans (ih h) (Nat.le_max_right ..)

end Value

end ManifestSarif.Json
