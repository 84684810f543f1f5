import ManifestSarif.Proofs.RecordReading
import ManifestSarif.Proofs.ReportWriting
import Mathlib.Data.List.Induction

/-!
# Scalars are read only from what they are written as

A reader of scalars makes data of the values that stand for the data, and of no others that have a
text: digits without needless zeros are those of their number, and paired surrogates those of a
character.

* `toDigits_digitsValue` and `spells_of_read` turn the reading of numerals and strings around.
* `text_refuses`, `bool_refuses` and `count_refuses` say what the readers do with any other scalar:
  they refuse it where it stands.
-/

namespace ManifestSarif

namespace Json

open Decimal

/-! ## Numerals -/

theorem digitsValue_concat (digits : List Char) (c : Char) :
    digitsValue (digits ++ [c]) = 10 * digitsValue digits + digitValue c := by
  rw [digitsValue, List.foldl_append, List.foldl_cons, List.foldl_nil, ← digitsValue]

theorem digitChar_digitValue {c : Char} (h : c.isDigit) :
    digitValue c < 10 ∧ Nat.digitChar (digitValue c) = c := by
  have hbounds : 48 ≤ c.toNat ∧ c.toNat ≤ 57 := by
    simpa [Char.isDigit, Char.le_def, UInt32.le_iff_toNat_le] using h
  have hall : ∀ n ≤ 57, 48 ≤ n → Nat.digitChar (n - 48) = Char.ofNat n := by decide
  have hvalue : digitValue c = c.toNat - 48 := rfl
  rw [hvalue, hall c.toNat hbounds.2 hbounds.1, Char.ofNat_toNat]
  exact ⟨by omega, rfl⟩

/-- Digits without needless zeros are the digits of their number. -/
theorem toDigits_digitsValue {digits : List Char} (h : IsDigits digits)
    (hzero : digits.head? = some '0' → digits = ['0']) :
    Nat.toDigits 10 (digitsValue digits) = digits := by
  obtain ⟨hne, hdigits⟩ := h
  induction digits using List.reverseRecOn with
  | nil => exact absurd rfl hne
  | append_singleton digits c ih =>
    obtain ⟨hlast, hchar⟩ := digitChar_digitValue (hdigits c (by simp))
    have hdigit : Nat.toDigits 10 (digitValue c) = [c] := by
      rw [Nat.toDigits_of_lt_base hlast, hchar]
    rw [digitsValue_concat]
    by_cases hfirst : digits = []
    · subst hfirst
      have hnothing : digitsValue [] = 0 := rfl
      rw [hnothing, Nat.mul_zero, Nat.zero_add, hdigit, List.nil_append]
    · have hhead : digits.head? ≠ some '0' := by
        intro hhead
        have hall := hzero (by rw [List.head?_append, hhead, Option.some_or])
        exact hfirst (by simpa using congrArg List.length hall)
      have hrest := ih (fun h => absurd h hhead) hfirst fun d hd => hdigits d (by simp [hd])
      have hpos : 0 < digitsValue digits := by
        rw [Nat.pos_iff_ne_zero]
        intro hnothing
        rw [hnothing] at hrest
        exact hhead (hrest ▸ rfl)
      rw [← Nat.toDigits_append_toDigits (by omega) hpos hlast, hrest, hdigit]

/-! ## Strings -/

theorem lt_of_isHexDigit {n : Nat} {c : Char} (h : IsHexDigit n c) : n < 16 := by
  rcases h with h | h <;> exact (List.getElem?_eq_some_iff.1 h).1

/-- A `\u` escape has four digits. -/
theorem lt_of_unit_mem {pieces : Quotation} {text : List Char} (h : pieces.Written text) {n : Nat}
    (hmem : .unit n ∈ pieces) : n < 0x10000 := by
  induction h with
  | nil => cases hmem
  | cons hfirst _ ih =>
    rcases List.mem_cons.1 hmem with rfl | hmem
    · cases hfirst with
      | unit ha hb hc hd =>
        have := lt_of_isHexDigit ha
        have := lt_of_isHexDigit hb
        have := lt_of_isHexDigit hc
        have := lt_of_isHexDigit hd
        omega
    · exact ih hmem

/-- A code point is that of its character. -/
theorem toNat_ofNat {n : Nat} (h : n.isValidChar) : (Char.ofNat n).toNat = n := by
  rw [Char.ofNat, dif_pos h]
  rfl

/-- A string that is read spells what is read from it. -/
theorem spells_of_read {pieces : Quotation} (hunits : ∀ n, .unit n ∈ pieces → n < 0x10000)
    {chars : List Char} (h : Quotation.read none pieces = .ok chars) : pieces.Spells chars := by
  have hmap {c : Char} {rest : Quotation} {chars : List Char}
      (h : (Quotation.read none rest).map (c :: ·) = .ok chars) :
      ∃ more, Quotation.read none rest = .ok more ∧ chars = c :: more := by
    cases hrest : Quotation.read none rest with
    | error cause => rw [hrest] at h; cases h
    | ok more => rw [hrest] at h; cases h; exact ⟨more, rfl, rfl⟩
  fun_induction Quotation.read none pieces generalizing chars with
  | case1 =>
    cases h
    exact .nil
  | case2 => cases h
  | case3 c rest ih =>
    obtain ⟨more, hrest, rfl⟩ := hmap h
    exact .char (ih (fun n hn => hunits n (List.mem_cons_of_mem _ hn)) hrest)
  | case4 n rest hplain ih =>
    obtain ⟨more, hmore, rfl⟩ := hmap h
    have hbound := hunits n List.mem_cons_self
    have hn : (Char.ofNat n).toNat = n := toNat_ofNat (hplain.imp id fun hn => ⟨hn, by omega⟩)
    have hrest := ih (fun m hm => hunits m (List.mem_cons_of_mem _ hm)) hmore
    have hspells := Quotation.Spells.unit (hn.symm ▸ hbound) hrest
    rwa [hn] at hspells
  | case5 | case6 | case7 | case9 => cases h
  | case8 n hn hleading m rest htrailing ih =>
    obtain ⟨more, hmore, rfl⟩ := hmap h
    have hc := @toNat_ofNat (0x10000 + (n - 0xd800) * 0x400 + (m - 0xdc00)) (.inr (by omega))
    have hrest := ih (fun k hk => hunits k (by simp [hk])) hmore
    have hspells := Quotation.Spells.surrogates (hc.symm ▸ Nat.le_add_right_of_le (by omega)) hrest
    have hfirst :
        0xd800 + (0x10000 + (n - 0xd800) * 0x400 + (m - 0xdc00) - 0x10000) / 0x400 = n := by
      omega
    have hsecond :
        0xdc00 + (0x10000 + (n - 0xd800) * 0x400 + (m - 0xdc00) - 0x10000) % 0x400 = m := by
      omega
    rwa [hc, hfirst, hsecond] at hspells

end Json

/-! ## Values with a text -/

namespace Json

/-- Tokens that are written one after the other are written one by one. -/
theorem exists_written_of_spaced {tokens : List Token} {text : List Char} (h : Spaced tokens text) :
    ∀ token ∈ tokens, ∃ text, token.Written text := by
  induction h with
  | nil => simp
  | cons _ hfirst _ ih => exact List.forall_mem_cons.2 ⟨⟨_, hfirst⟩, ih⟩

theorem mem_intercalate_of_mem {token : Token} {part : List Token} {parts : List (List Token)}
    (hpart : part ∈ parts) (h : token ∈ part) : token ∈ [.comma].intercalate parts := by
  induction parts with
  | nil => cases hpart
  | cons first parts ih =>
    cases parts with
    | nil =>
      rw [List.mem_singleton] at hpart
      simpa [← hpart] using h
    | cons second parts =>
      rw [List.intercalate_cons_cons, List.mem_append]
      rcases List.mem_cons.1 hpart with rfl | hmore
      · exact .inl (List.mem_append_left _ h)
      · exact .inr (ih hmore)

end Json

namespace Rendering

open Json

theorem writable_of_written {value : Value} {text : List Char} (h : value.Written text) :
    Writable value :=
  exists_written_of_spaced h

theorem Writable.item {items : List Value} (h : Writable (.array items)) {item : Value}
    (hitem : item ∈ items) : Writable item := by
  intro token htoken
  refine h token ?_
  simp only [Value.tokens, Value.itemTokens_eq, List.mem_cons, List.mem_append]
  exact .inr (.inl (mem_intercalate_of_mem (List.mem_map_of_mem hitem) htoken))

theorem Writable.member {members : List (Quotation × Value)} (h : Writable (.object members))
    {member : Quotation × Value} (hmember : member ∈ members) : Writable member.2 := by
  intro token htoken
  refine h token ?_
  simp only [Value.tokens, Value.memberTokens_eq, List.mem_cons, List.mem_append]
  refine .inr (.inl (mem_intercalate_of_mem (List.mem_map_of_mem hmember) ?_))
  exact List.mem_cons_of_mem _ (List.mem_cons_of_mem _ htoken)

theorem exists_written_of_quotation {pieces : Quotation} (h : Writable (.text pieces)) :
    ∃ text, pieces.Written text := by
  obtain ⟨_, hwritten⟩ := h (.quotation pieces) (by simp [Value.tokens])
  cases hwritten with
  | quotation hpieces => exact ⟨_, hpieces⟩

theorem exists_written_of_numeral {numeral : Numeral} (h : Writable (.number numeral)) :
    ∃ text, numeral.Written text := by
  obtain ⟨_, hwritten⟩ := h (.number numeral) (by simp [Value.tokens])
  cases hwritten with
  | number hnumeral => exact ⟨_, hnumeral⟩

end Rendering

namespace Json.Reader

open Decimal Rendering

/-! ## Readers -/

/-- A string that is read as a text is one of its spellings. -/
theorem rendering_of_text {pieces : Quotation} {s : String} (hwritten : Writable (.text pieces))
    (h : pieces.text = .ok s) : Rendering.text s (.text pieces) := by
  obtain ⟨written, hpieces⟩ := exists_written_of_quotation hwritten
  cases hread : Quotation.read none pieces with
  | error cause =>
    rw [Quotation.text, hread] at h
    cases h
  | ok chars =>
    rw [Quotation.text, hread] at h
    cases h
    refine ⟨pieces, rfl, ?_⟩
    rw [String.toList_ofList]
    exact spells_of_read (fun _ => lt_of_unit_mem hpieces) hread

/-- A numeral that is read as a count consists of its digits. -/
theorem rendering_of_natural {numeral : Numeral} {n : UInt64}
    (hwritten : Writable (.number numeral)) (h : numeral.number? = some (.natural n)) :
    Rendering.count n (.number numeral) := by
  obtain ⟨_, hnumeral⟩ := exists_written_of_numeral hwritten
  obtain @⟨negative, whole, places, exponent, _, _, hwhole, hzero, _, _⟩ := hnumeral
  have hfloat : ∀ numeral : Numeral, numeral.float? ≠ some (.natural n) := by
    intro numeral h
    obtain ⟨_, _, hnumber⟩ := Option.map_eq_some_iff.1 h
    cases hnumber
  -- only a numeral without sign, places and exponent is a natural number
  cases places with
  | some places => exact absurd h (hfloat _)
  | none =>
    cases exponent with
    | some exponent => exact absurd h (hfloat _)
    | none =>
      cases negative with
      | true =>
        simp only [Numeral.number?, if_true] at h
        split at h
        · cases h
        · exact absurd h (hfloat _)
      | false =>
        simp only [Numeral.number?, Bool.false_eq_true, if_false] at h
        split at h
        · next hbound =>
          cases h
          have hvalue : (UInt64.ofNat (digitsValue whole)).toNat = digitsValue whole :=
            UInt64.toNat_ofNat_of_lt' hbound
          rw [Rendering.count, hvalue, toDigits_digitsValue hwhole hzero]
        · exact absurd h (hfloat _)

theorem text_refuses {scalar : Value} (hwritten : Writable scalar)
    (h : ¬ ∃ s, Rendering.text s scalar) :
    ∃ cause, text.complete scalar = .error (.here cause) := by
  cases scalar with
  | text pieces =>
    cases hread : pieces.text with
    | error cause => exact ⟨cause, by simp only [text, hread]; rfl⟩
    | ok s => exact absurd ⟨s, rendering_of_text hwritten hread⟩ h
  | _ => exact ⟨_, rfl⟩

theorem bool_refuses {scalar : Value} (h : ¬ ∃ b, Rendering.bool b scalar) :
    ∃ cause, bool.complete scalar = .error (.here cause) := by
  cases scalar with
  | bool b => exact absurd ⟨b, rfl⟩ h
  | _ => exact ⟨_, rfl⟩

theorem count_refuses {scalar : Value} (hwritten : Writable scalar)
    (h : ¬ ∃ n, Rendering.count n scalar) :
    ∃ cause, count.complete scalar = .error (.here cause) := by
  cases scalar with
  | number numeral =>
    cases hread : numeral.number? with
    | none => exact ⟨.numberTooLarge, by simp only [count, hread]⟩
    | some n =>
      cases n with
      | natural n => exact absurd ⟨n, rendering_of_natural hwritten hread⟩ h
      | negative magnitude => exact ⟨_, by simp only [count, hread]; rfl⟩
      | float minus magnitude => exact ⟨_, by simp only [count, hread]; rfl⟩
  | _ => exact ⟨_, rfl⟩

end Json.Reader

end ManifestSarif
