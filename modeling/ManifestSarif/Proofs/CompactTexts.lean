import ManifestSarif.Proofs.JsonParsing
import ManifestSarif.Proofs.ReadScalars
import ManifestSarif.Sarif.Document

/-!
# Data is written in the shortest way

Data can be written as JSON in many ways: with white space between the tokens, and with characters
that are escaped although they need not be.  This file says which of these texts is written.

* `Value.StandsFor` relates the values of the grammar to data, whatever their spelling;
  `StandsFor.unique`: a value stands for one piece of data only.
* `Joined` are tokens that are written one right after the other.
* `exists_joined_write`: what is written is the tokens of such a value, without white space.
* `length_write_le`: no text of the data is shorter, so nothing is escaped without need.
* `compact_write` puts these together, and says that the text is read back as the value.

All this is for data whose numbers are natural (`Data.Natural`), as those of documents are
(`Document.natural_data`).
-/

namespace ManifestSarif.Json

/-! ## Values that stand for data -/

mutual

/-- The value stands for the data: strings have the characters, however they are spelled, and
numerals have the number. -/
inductive Value.StandsFor : Value → Data → Prop where
  | null : Value.StandsFor .null .null
  | bool (b : Bool) : Value.StandsFor (.bool b) (.bool b)
  | number {numeral : Numeral} {n : Number} (h : numeral.number? = some n) :
      Value.StandsFor (.number numeral) (.number n)
  | text {pieces : Quotation} {s : String} (h : pieces.Spells s.toList) :
      Value.StandsFor (.text pieces) (.text s)
  | array {values : List Value} {items : List Data}
      (h : List.Forall₂ Value.StandsFor values items) :
      Value.StandsFor (.array values) (.list items)
  | object {members : List (Quotation × Value)} {entries : List (String × Data)}
      (h : List.Forall₂ MemberStandsFor members entries) :
      Value.StandsFor (.object members) (.object entries)

/-- The member has the name and a value that stands for the data. -/
inductive MemberStandsFor : Quotation × Value → String × Data → Prop where
  | mk {key : Quotation} {name : String} {value : Value} {data : Data}
      (hkey : key.Spells name.toList) (hvalue : Value.StandsFor value data) :
      MemberStandsFor (key, value) (name, data)

end

/-- A string spells one text. -/
theorem Quotation.Spells.unique {pieces : Quotation} {s t : String} (hs : pieces.Spells s.toList)
    (ht : pieces.Spells t.toList) : t = s := by
  have hsame : t.toList = s.toList :=
    Except.ok.inj ((Reader.read_of_spells ht).symm.trans (Reader.read_of_spells hs))
  exact String.toList_inj.1 hsame

private theorem eq_of_forall₂ {α β : Type} {R : α → β → Prop} {xs : List α} {ys zs : List β}
    (hys : List.Forall₂ R xs ys) (hzs : List.Forall₂ R xs zs)
    (h : ∀ x ∈ xs, ∀ y z, R x y → R x z → z = y) : zs = ys := by
  induction hys generalizing zs with
  | nil =>
    cases hzs
    rfl
  | @cons x y xs ys hy _ ih =>
    cases hzs with
    | @cons _ z _ zs hz hrest =>
      rw [h x List.mem_cons_self y z hy hz,
        ih hrest fun x hx => h x (List.mem_cons_of_mem _ hx)]

/-- A value stands for one piece of data. -/
theorem Value.StandsFor.unique {value : Value} {data other : Data} (hdata : value.StandsFor data)
    (hother : value.StandsFor other) : other = data := by
  induction value using Value.inductionOn generalizing data other with
  | null | bool =>
    cases hdata
    cases hother
    rfl
  | number numeral =>
    cases hdata with
    | number hn =>
      cases hother with
      | number hm => rw [Option.some.inj (hm.symm.trans hn)]
  | text pieces =>
    cases hdata with
    | text hs =>
      cases hother with
      | text ht => rw [hs.unique ht]
  | array values ih =>
    cases hdata with
    | array hitems =>
      cases hother with
      | array hothers =>
        rw [eq_of_forall₂ hitems hothers fun value hvalue _ _ hy hz => ih value hvalue hy hz]
  | object members ih =>
    cases hdata with
    | object hentries =>
      cases hother with
      | object hothers =>
        rw [eq_of_forall₂ hentries hothers fun member hmember _ _ hy hz => ?_]
        cases hy with
        | mk hkey hvalue =>
          cases hz with
          | mk hkey' hvalue' => rw [hkey.unique hkey', ih _ hmember hvalue hvalue']

/-! ## Tokens without white space -/

/-- The tokens are written one right after the other. -/
inductive Joined : List Token → List Char → Prop where
  | nil : Joined [] []
  | cons {token : Token} {tokens : List Token} {text rest : List Char}
      (htoken : token.Written text) (hrest : Joined tokens rest) :
      Joined (token :: tokens) (text ++ rest)

theorem Joined.single {token : Token} {text : List Char} (h : token.Written text) :
    Joined [token] text := by
  simpa using Joined.cons h .nil

theorem Joined.written {token : Token} {text : List Char} (h : Joined [token] text) :
    token.Written text := by
  cases h with
  | cons htoken hnil =>
    cases hnil
    rwa [List.append_nil]

theorem Joined.append {first second : List Token} {text more : List Char} (h : Joined first text)
    (hmore : Joined second more) : Joined (first ++ second) (text ++ more) := by
  induction h with
  | nil => exact hmore
  | cons htoken _ ih =>
    rw [List.append_assoc]
    exact .cons htoken ih

theorem Joined.exists_append {first second : List Token} {text : List Char}
    (h : Joined (first ++ second) text) :
    ∃ left right, text = left ++ right ∧ Joined first left ∧ Joined second right := by
  induction first generalizing text with
  | nil => exact ⟨[], text, rfl, .nil, h⟩
  | cons token first ih =>
    cases h with
    | @cons _ _ written _ htoken hrest =>
      obtain ⟨left, right, rfl, hleft, hright⟩ := ih hrest
      exact ⟨written ++ left, right, (List.append_assoc ..).symm, .cons htoken hleft, hright⟩

/-- Tokens without white space are tokens with some. -/
theorem Joined.spaced {tokens : List Token} {text : List Char} (h : Joined tokens text) :
    Spaced tokens text := by
  induction h with
  | nil => exact .nil (by simp [IsBlank])
  | cons htoken _ ih => exact @Spaced.cons _ _ [] _ _ (by simp [IsBlank]) htoken ih

/-- White space makes a text longer. -/
theorem Spaced.exists_joined {tokens : List Token} {text : List Char} (h : Spaced tokens text) :
    ∃ joined, Joined tokens joined ∧ joined.length ≤ text.length := by
  induction h with
  | nil _ => exact ⟨[], .nil, Nat.zero_le _⟩
  | @cons _ _ blank written _ _ htoken _ ih =>
    obtain ⟨joined, hjoined, hlength⟩ := ih
    refine ⟨written ++ joined, .cons htoken hjoined, ?_⟩
    simp only [List.length_append]
    omega

/-- Parts with commas between them. -/
theorem joined_intercalate {parts : List (List Token)} {texts : List (List Char)}
    (h : List.Forall₂ Joined parts texts) :
    Joined ([.comma].intercalate parts) ([','].intercalate texts) := by
  induction h with
  | nil => exact .nil
  | @cons part text parts texts hpart hrest ih =>
    cases hrest with
    | nil => simpa using hpart
    | cons hsecond hmore =>
      rw [List.intercalate_cons_cons, List.intercalate_cons_cons]
      exact (hpart.append (.single .comma)).append ih

theorem exists_of_joined_intercalate {parts : List (List Token)} {text : List Char}
    (h : Joined ([.comma].intercalate parts) text) :
    ∃ texts, text = [','].intercalate texts ∧ List.Forall₂ Joined parts texts := by
  induction parts generalizing text with
  | nil =>
    cases h
    exact ⟨[], rfl, .nil⟩
  | cons part parts ih =>
    cases parts with
    | nil => exact ⟨[text], by simp, .cons (by simpa using h) .nil⟩
    | cons second parts =>
      rw [List.intercalate_cons_cons, List.append_assoc] at h
      obtain ⟨first, _, rfl, hfirst, h⟩ := h.exists_append
      obtain ⟨comma, rest, rfl, hcomma, hrest⟩ := h.exists_append
      obtain ⟨texts, rfl, htexts⟩ := ih hrest
      cases hcomma.written
      cases htexts with
      | cons hsecond htexts =>
        refine ⟨first :: _ :: _, ?_, .cons hfirst (.cons hsecond htexts)⟩
        rw [List.intercalate_cons_cons, List.append_assoc]

/-- The texts between the marks of a container. -/
theorem exists_of_joined_container {first last : Token} {parts : List (List Token)}
    {text : List Char} (h : Joined (first :: ([.comma].intercalate parts ++ [last])) text) :
    ∃ opening texts closing, text = opening ++ ([','].intercalate texts ++ closing) ∧
      first.Written opening ∧ List.Forall₂ Joined parts texts ∧ last.Written closing := by
  cases h with
  | cons hopening hrest =>
    obtain ⟨_, _, rfl, hparts, hlast⟩ := hrest.exists_append
    obtain ⟨texts, rfl, htexts⟩ := exists_of_joined_intercalate hparts
    exact ⟨_, texts, _, rfl, hopening, htexts, hlast.written⟩

theorem length_intercalate_le {texts others : List (List Char)}
    (h : List.Forall₂ (fun text other => text.length ≤ other.length) texts others) :
    ([','].intercalate texts).length ≤ ([','].intercalate others).length := by
  induction h with
  | nil => exact Nat.le_refl _
  | cons hfirst hrest ih =>
    cases hrest with
    | nil => simpa using hfirst
    | cons hsecond hmore =>
      rw [List.intercalate_cons_cons, List.intercalate_cons_cons]
      simp only [List.length_append]
      omega

/-! ## Strings -/

namespace Data

theorem escape_of_plain {c : Char} (hquote : c ≠ '"') (hslash : c ≠ '\\')
    (hcontrol : 0x20 ≤ c.toNat) : escape c = [c] := by
  unfold escape
  split
  · exact absurd rfl hquote
  · exact absurd rfl hslash
  all_goals first | exact absurd hcontrol (by decide) | exact if_neg (by omega)

theorem isHexDigit_digitChar {n : Nat} (h : n < 16) : IsHexDigit n (Nat.digitChar n) := by
  have hall : ∀ n < 16, "0123456789abcdef".toList[n]? = some (Nat.digitChar n) := by decide
  exact .inl (hall n h)

/-- A character is written as itself or by a short escape if it has one of these, and a control
character without a short escape by its number. -/
theorem written_escape (c : Char) :
    Piece.Written (.char c) (escape c) ∨
      c.toNat < 0x20 ∧ Piece.Written (.unit c.toNat) (escape c) := by
  unfold escape
  split
  case h_8 hquote hslash _ _ _ _ _ =>
    by_cases hcontrol : c.toNat < 0x20
    · rw [if_pos hcontrol]
      have hzero := @isHexDigit_digitChar 0 (by omega)
      have hhigh := @isHexDigit_digitChar (c.toNat / 16) (by omega)
      have hlow := @isHexDigit_digitChar (c.toNat % 16) (by omega)
      have hunit := Piece.Written.unit hzero hzero hhigh hlow
      have hnumber : ((0 * 16 + 0) * 16 + c.toNat / 16) * 16 + c.toNat % 16 = c.toNat := by omega
      rw [hnumber] at hunit
      exact .inr ⟨hcontrol, hunit⟩
    · rw [if_neg hcontrol]
      exact .inl (.plain hquote hslash (Nat.le_of_not_lt hcontrol))
  all_goals exact .inl (.short (by decide))

theorem exists_written_escape (chars : List Char) :
    ∃ pieces : Quotation, pieces.Spells chars ∧ pieces.Written (chars.flatMap escape) := by
  induction chars with
  | nil => exact ⟨[], .nil, .nil⟩
  | cons c rest ih =>
    obtain ⟨pieces, hspells, hwritten⟩ := ih
    rw [List.flatMap_cons]
    rcases written_escape c with hchar | ⟨hcontrol, hunit⟩
    · exact ⟨.char c :: pieces, .char hspells, .cons hchar hwritten⟩
    · exact ⟨.unit c.toNat :: pieces, .unit (by omega) hspells, .cons hunit hwritten⟩

theorem length_escape_le (c : Char) : (escape c).length ≤ 6 := by
  unfold escape
  split
  case h_8 =>
    split
    · exact Nat.le_refl 6
    · exact Nat.le_add_left 1 5
  all_goals decide

/-- A character written in any way but by its number is no shorter than it is written here. -/
theorem length_escape_le_of_written {c : Char} {text : List Char}
    (h : Piece.Written (.char c) text) : (escape c).length ≤ text.length := by
  cases h with
  | plain hquote hslash hcontrol =>
    exact Nat.le_of_eq (congrArg List.length (escape_of_plain hquote hslash hcontrol))
  | short hmem =>
    have hall : ∀ entry ∈ shortEscapes, (escape entry.2).length ≤ 2 := by decide
    exact hall _ hmem

theorem length_of_written_unit {piece : Piece} {text : List Char} (h : piece.Written text) {n : Nat}
    (hpiece : piece = .unit n) : text.length = 6 := by
  cases h with
  | unit => rfl
  | _ => cases hpiece

theorem length_flatMap_escape_le {pieces : Quotation} {chars text : List Char}
    (hspells : pieces.Spells chars) (hwritten : pieces.Written text) :
    (chars.flatMap escape).length ≤ text.length := by
  induction hspells generalizing text with
  | nil => exact Nat.zero_le _
  | char _ ih =>
    cases hwritten with
    | cons hfirst hrest =>
      rw [List.flatMap_cons, List.length_append, List.length_append]
      exact Nat.add_le_add (length_escape_le_of_written hfirst) (ih hrest)
  | @unit c _ _ _ _ ih =>
    cases hwritten with
    | cons hfirst hrest =>
      have hlength := length_of_written_unit hfirst rfl
      have hescape := length_escape_le c
      have hmore := ih hrest
      simp only [List.flatMap_cons, List.length_append]
      omega
  | @surrogates c _ _ _ _ ih =>
    cases hwritten with
    | cons hfirst hrest =>
      cases hrest with
      | cons hsecond hrest =>
        have hlength := length_of_written_unit hfirst rfl
        have hescape := length_escape_le c
        have hmore := ih hrest
        simp only [List.flatMap_cons, List.length_append]
        omega

theorem toList_quote (s : String) :
    (quote s).toList = '"' :: (s.toList.flatMap escape ++ ['"']) := by
  simp [quote]

/-! ## Numerals -/

theorem number?_toDigits (n : UInt64) :
    Numeral.number? ⟨false, Nat.toDigits 10 n.toNat, none, none⟩ = some (.natural n) := by
  have hvalue : Decimal.digitsValue (Nat.toDigits 10 n.toNat) = n.toNat :=
    Nat.ofDigitChars_toDigits (by omega) (by omega)
  have hbound : n.toNat < wordCount := n.toNat_lt
  simp [Numeral.number?, hvalue, hbound]

theorem toList_write_natural (n : UInt64) :
    (number (.natural n)).write.toList = Nat.toDigits 10 n.toNat := by
  simp [write, Number.write, toString, Nat.repr]

/-- A natural number has one text. -/
theorem eq_toDigits_of_written {numeral : Numeral} {n : UInt64} {text : List Char}
    (hwritten : numeral.Written text) (h : numeral.number? = some (.natural n)) :
    text = Nat.toDigits 10 n.toNat := by
  have hwritable : Rendering.Writable (.number numeral) := by
    simpa [Rendering.Writable, Value.tokens] using ⟨text, Token.Written.number hwritten⟩
  have hcount := Reader.rendering_of_natural hwritable h
  obtain rfl := Value.number.inj hcount
  cases hwritten with
  | mk _ _ hplaces hexponent =>
    cases hplaces
    cases hexponent
    simp

/-! ## Containers -/

theorem toList_write_list (items : List Data) :
    (list items).write.toList =
      '[' :: ([','].intercalate (items.map fun item => item.write.toList) ++ [']']) := by
  have hitems : writeItems items = items.map write := by
    induction items with
    | nil => rfl
    | cons item rest ih => rw [writeItems, ih, List.map_cons]
  simp [write, hitems, String.toList_intercalate]
  rfl

/-- The text of a member. -/
def memberText (entry : String × Data) : List Char :=
  (quote entry.1).toList ++ (':' :: entry.2.write.toList)

theorem toList_write_object (entries : List (String × Data)) :
    (object entries).write.toList =
      '\x7b' :: ([','].intercalate (entries.map memberText) ++ ['\x7d']) := by
  have hmembers : (writeMembers entries).map String.toList = entries.map memberText := by
    induction entries with
    | nil => rfl
    | cons entry rest ih =>
      rw [writeMembers, List.map_cons, ih, List.map_cons]
      simp [memberText]
  simp [write, hmembers, String.toList_intercalate]

/-! ## Data -/

/-- All numbers in the data are natural. -/
inductive Natural : Data → Prop where
  | null : Natural .null
  | bool (b : Bool) : Natural (.bool b)
  | number (n : UInt64) : Natural (.number (.natural n))
  | text (s : String) : Natural (.text s)
  | list {items : List Data} (h : ∀ item ∈ items, Natural item) : Natural (.list items)
  | object {entries : List (String × Data)} (h : ∀ entry ∈ entries, Natural entry.2) :
      Natural (.object entries)

/-- Parts that can be joined for each of some items can be joined for all of them. -/
private theorem exists_parts {σ τ : Type} {stands : σ → τ → Prop} {tokens : σ → List Token}
    {written : τ → List Char} {items : List τ}
    (h : ∀ item ∈ items, ∃ part, stands part item ∧ Joined (tokens part) (written item)) :
    ∃ parts, List.Forall₂ stands parts items ∧
      Joined ([.comma].intercalate (parts.map tokens)) ([','].intercalate (items.map written)) := by
  have hparts : ∃ parts, List.Forall₂ stands parts items ∧
      List.Forall₂ Joined (parts.map tokens) (items.map written) := by
    induction items with
    | nil => exact ⟨[], .nil, .nil⟩
    | cons item items ih =>
      obtain ⟨part, hstands, hjoined⟩ := h item List.mem_cons_self
      obtain ⟨parts, hrest, hmore⟩ := ih fun item hitem => h item (List.mem_cons_of_mem _ hitem)
      exact ⟨part :: parts, .cons hstands hrest, .cons hjoined hmore⟩
  obtain ⟨parts, hstands, hjoined⟩ := hparts
  exact ⟨parts, hstands, joined_intercalate hjoined⟩

/-- If no text of any item is shorter than it is written, neither are all of them together. -/
private theorem length_parts_le {σ τ : Type} {stands : σ → τ → Prop} {tokens : σ → List Token}
    {written : τ → List Char} {parts : List σ} {items : List τ} {texts : List (List Char)}
    (hstands : List.Forall₂ stands parts items)
    (htexts : List.Forall₂ Joined (parts.map tokens) texts)
    (h : ∀ item ∈ items, ∀ part text, stands part item → Joined (tokens part) text →
      (written item).length ≤ text.length) :
    ([','].intercalate (items.map written)).length ≤ ([','].intercalate texts).length := by
  apply length_intercalate_le
  induction hstands generalizing texts with
  | nil =>
    cases htexts
    exact .nil
  | @cons part item parts items hpart _ ih =>
    cases htexts with
    | cons htext hrest =>
      exact .cons (h item List.mem_cons_self part _ hpart htext)
        (ih hrest fun item hitem => h item (List.mem_cons_of_mem _ hitem))

/-- What is written are the tokens of a value that stands for the data, and nothing else. -/
theorem exists_joined_write {data : Data} (h : data.Natural) :
    ∃ value : Value, value.StandsFor data ∧ Joined value.tokens data.write.toList := by
  induction h with
  | null => exact ⟨.null, .null, .single .null⟩
  | bool b =>
    refine ⟨.bool b, .bool b, .single ?_⟩
    cases b with
    | true => exact .true
    | false => exact .false
  | number n =>
    refine ⟨.number _, .number (number?_toDigits n), ?_⟩
    rw [toList_write_natural]
    exact .single (.number (written_toDigits n.toNat))
  | text s =>
    obtain ⟨pieces, hspells, hwritten⟩ := exists_written_escape s.toList
    refine ⟨.text pieces, .text hspells, ?_⟩
    rw [write, toList_quote]
    exact .single (.quotation hwritten)
  | @list items _ ih =>
    obtain ⟨values, hvalues, hjoined⟩ := exists_parts ih
    refine ⟨.array values, .array hvalues, ?_⟩
    rw [toList_write_list, Value.tokens, Value.itemTokens_eq]
    exact .cons .openArray (hjoined.append (.single .closeArray))
  | @object entries _ ih =>
    have hmembers : ∀ entry ∈ entries, ∃ member : Quotation × Value, MemberStandsFor member entry ∧
        Joined (.quotation member.1 :: .colon :: member.2.tokens) (memberText entry) := by
      intro entry hentry
      obtain ⟨value, hvalue, hjoined⟩ := ih entry hentry
      obtain ⟨key, hspells, hwritten⟩ := exists_written_escape entry.1.toList
      refine ⟨(key, value), .mk hspells hvalue, ?_⟩
      rw [memberText, toList_quote]
      exact .cons (.quotation hwritten) (.cons .colon hjoined)
    obtain ⟨members, hmembers, hjoined⟩ := exists_parts hmembers
    refine ⟨.object members, .object hmembers, ?_⟩
    rw [toList_write_object, Value.tokens, Value.memberTokens_eq]
    exact .cons .openObject (hjoined.append (.single .closeObject))

theorem length_memberText_le {entry : String × Data} {member : Quotation × Value}
    {text : List Char}
    (h : ∀ {value : Value} {text}, value.StandsFor entry.2 → Joined value.tokens text →
      entry.2.write.toList.length ≤ text.length)
    (hmember : MemberStandsFor member entry)
    (htext : Joined (.quotation member.1 :: .colon :: member.2.tokens) text) :
    (memberText entry).length ≤ text.length := by
  cases hmember with
  | mk hkey hvalue =>
    cases htext with
    | cons hquotation hrest =>
      cases hquotation with
      | quotation hwritten =>
        cases hrest with
        | cons hcolon hrest =>
          cases hcolon
          have hname := length_flatMap_escape_le hkey hwritten
          have hlength := h hvalue hrest
          rw [memberText, toList_quote]
          simp only [List.length_cons, List.length_append] at hlength ⊢
          omega

/-- No value that stands for the data has shorter tokens. -/
theorem length_write_le {data : Data} (h : data.Natural) {value : Value} {text : List Char}
    (hvalue : value.StandsFor data) (htext : Joined value.tokens text) :
    data.write.toList.length ≤ text.length := by
  induction h generalizing value text with
  | null =>
    cases hvalue
    cases htext.written
    exact Nat.le_refl _
  | bool b =>
    cases hvalue
    cases htext.written with
    | true => exact Nat.le_refl _
    | false => exact Nat.le_refl _
  | number n =>
    cases hvalue with
    | number hnumber =>
      cases htext.written with
      | number hwritten =>
        have hdigits := eq_toDigits_of_written hwritten hnumber
        exact Nat.le_of_eq (congrArg List.length ((toList_write_natural n).trans hdigits.symm))
  | text s =>
    cases hvalue with
    | text hspells =>
      cases htext.written with
      | quotation hwritten =>
        have hlength := length_flatMap_escape_le hspells hwritten
        rw [write, toList_quote]
        simp only [List.length_cons, List.length_append]
        omega
  | list _ ih =>
    cases hvalue with
    | array hvalues =>
      rw [Value.tokens, Value.itemTokens_eq] at htext
      obtain ⟨_, texts, _, rfl, hopening, htexts, hclosing⟩ := exists_of_joined_container htext
      cases hopening
      cases hclosing
      have hlength := length_parts_le hvalues htexts fun item hitem _ _ => ih item hitem
      rw [toList_write_list]
      simp only [List.length_cons, List.length_append]
      omega
  | @object entries _ ih =>
    cases hvalue with
    | object hmembers =>
      rw [Value.tokens, Value.memberTokens_eq] at htext
      obtain ⟨_, texts, _, rfl, hopening, htexts, hclosing⟩ := exists_of_joined_container htext
      cases hopening
      cases hclosing
      have hmember : ∀ entry ∈ entries, ∀ (member : Quotation × Value) text,
          MemberStandsFor member entry →
          Joined (.quotation member.1 :: .colon :: member.2.tokens) text →
          (memberText entry).length ≤ text.length := by
        intro entry hentry member text hstands hjoined
        refine length_memberText_le (fun hvalue htext => ?_) hstands hjoined
        exact ih entry hentry hvalue htext
      have hlength := length_parts_le hmembers htexts hmember
      rw [toList_write_object]
      simp only [List.length_cons, List.length_append]
      omega

/-- The text is read as a value that stands for the data and for nothing else.  There is no white
space between its tokens, and no text of the data is shorter. -/
structure Compact (data : Data) (text : String) : Prop where
  read_back : ∃ value, Document.ofText text.toList = .complete value false ∧
    Joined value.tokens text.toList ∧ ∀ other, value.StandsFor other ↔ other = data
  shortest : ∀ (value : Value) (other : List Char), value.StandsFor data → value.Written other →
    text.toList.length ≤ other.length

/-- Data with natural numbers is written compactly. -/
theorem compact_write {data : Data} (h : data.Natural) : data.Compact data.write where
  read_back := by
    obtain ⟨value, hvalue, hjoined⟩ := exists_joined_write h
    refine ⟨value, Document.ofText_of_written hjoined.spaced, hjoined, fun other => ?_⟩
    constructor
    · intro hother
      exact hvalue.unique hother
    · intro hother
      rw [hother]
      exact hvalue
  shortest := by
    intro value other hvalue hwritten
    obtain ⟨joined, hjoined, hlength⟩ := Spaced.exists_joined hwritten
    exact Nat.le_trans (length_write_le h hvalue hjoined) hlength

/-! ## Documents -/

@[simp]
theorem natural_text (s : String) : (Data.text s).Natural := .text s

@[simp]
theorem natural_list_iff {items : List Data} :
    (Data.list items).Natural ↔ ∀ item ∈ items, item.Natural := by
  constructor
  · intro h
    cases h
    assumption
  · exact .list

@[simp]
theorem natural_object_iff {entries : List (String × Data)} :
    (Data.object entries).Natural ↔ ∀ entry ∈ entries, entry.2.Natural := by
  constructor
  · intro h
    cases h
    assumption
  · exact .object

@[simp]
theorem natural_ofNat (n : Nat) : (Data.ofNat n).Natural := by
  rw [ofNat, Number.ofInt, if_neg (by omega)]
  exact .number _

end Data

end ManifestSarif.Json

namespace ManifestSarif.Sarif

open Json

@[simp]
theorem natural_messageData (text : String) : (messageData text).Natural := by
  simp [messageData]

theorem natural_of_mem_optionalMember {name : String} {value : Option Data}
    (h : ∀ data, value = some data → data.Natural) :
    ∀ entry ∈ optionalMember name value, entry.2.Natural := by
  cases value with
  | none => simp [optionalMember]
  | some data => simpa [optionalMember] using h data rfl

theorem Rule.natural_data (rule : Rule) : rule.data.Natural := by
  have hmessage : ∀ (text : Option String) data, text.map messageData = some data →
      data.Natural := by
    intro text data h
    obtain ⟨text, -, rfl⟩ := Option.map_eq_some_iff.1 h
    exact natural_messageData text
  have htags : ∀ data, tagsData rule.tags = some data → data.Natural := by
    intro data h
    unfold tagsData at h
    split at h
    · cases h
    · obtain rfl := Option.some.inj h
      simp
  rw [Rule.data, Data.natural_object_iff]
  simp only [List.forall_mem_append, List.forall_mem_singleton]
  refine ⟨⟨⟨⟨⟨by simp, ?_⟩, ?_⟩, by simp⟩, ?_⟩, by simp⟩
  · exact natural_of_mem_optionalMember (hmessage rule.fullDescription)
  · exact natural_of_mem_optionalMember (hmessage rule.help)
  · exact natural_of_mem_optionalMember htags

theorem Result.natural_data (result : Result) : result.data.Natural := by
  simp [Result.data, Result.locationData]

/-- The only numbers in a document are those of lines. -/
theorem Document.natural_data (document : Document) : document.data.Natural := by
  simp [Document.data, Result.natural_data, Rule.natural_data]

end ManifestSarif.Sarif
