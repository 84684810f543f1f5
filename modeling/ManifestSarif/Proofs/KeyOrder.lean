import ManifestSarif.KeyMap
import Mathlib.Data.List.Basic

/-!
# The order of keys is the order of their bytes

The keys of a map ascend by code point.  In UTF-8 a greater character has greater bytes, whatever
follows, so the keys ascend by their bytes as well.

* `utf8EncodeChar_append_lt` is about one character, by the number of bytes of the two.
* `lt_iff_utf8_lt` is about texts, and `ascending_utf8` about the keys of a map.
-/

namespace ManifestSarif

/-- The UTF-8 bytes of a text. -/
def utf8 (s : String) : List UInt8 :=
  s.toUTF8.data.toList

theorem utf8_eq_flatMap (s : String) : utf8 s = s.toList.flatMap String.utf8EncodeChar := by
  conv => lhs; rw [← String.ofList_toList (s := s)]
  rw [utf8, String.toUTF8_eq_toByteArray, String.toByteArray_ofList, List.utf8Encode]
  simp

/-! ## Characters -/

private theorem cons_ofNat_lt {x y : Nat} (h : x < y) (hy : y < 256) (s t : List UInt8) :
    UInt8.ofNat x :: s < UInt8.ofNat y :: t := by
  rw [List.cons_lt_cons_iff, UInt8.lt_iff_toNat_lt, UInt8.toNat_ofNat', UInt8.toNat_ofNat']
  omega

private theorem cons_ofNat_lt_of_eq {x y : Nat} (h : x = y) {s t : List UInt8} (hlt : s < t) :
    UInt8.ofNat x :: s < UInt8.ofNat y :: t := by
  rw [h]
  exact List.cons_lt_cons_iff.2 (Or.inr ⟨rfl, hlt⟩)

/-- A greater character has greater bytes, whatever comes after the two. -/
theorem utf8EncodeChar_append_lt {a b : Char} (h : a < b) (s t : List UInt8) :
    String.utf8EncodeChar a ++ s < String.utf8EncodeChar b ++ t := by
  have hval : a.val.toNat < b.val.toNat := h
  have hb : b.val.toNat < 0x110000 := by
    rcases b.valid with hlow | ⟨-, hhigh⟩
    · exact Nat.lt_trans hlow (by decide)
    · exact hhigh
  unfold String.utf8EncodeChar
  generalize a.val.toNat = m at *
  generalize b.val.toNat = n at *
  dsimp only
  -- The first byte tells how many follow.  Of equally many, the first that differs decides.
  split_ifs
  · exact cons_ofNat_lt hval (by omega) _ _
  · exact cons_ofNat_lt (by omega) (by omega) _ _
  · exact cons_ofNat_lt (by omega) (by omega) _ _
  · exact cons_ofNat_lt (by omega) (by omega) _ _
  · omega
  · rcases Nat.lt_or_ge (m / 64) (n / 64) with hlt | hge
    · exact cons_ofNat_lt (by omega) (by omega) _ _
    · exact cons_ofNat_lt_of_eq (by omega) (cons_ofNat_lt (by omega) (by omega) _ _)
  · exact cons_ofNat_lt (by omega) (by omega) _ _
  · exact cons_ofNat_lt (by omega) (by omega) _ _
  · omega
  · omega
  · rcases Nat.lt_or_ge (m / 4096) (n / 4096) with hlt | hge
    · exact cons_ofNat_lt (by omega) (by omega) _ _
    · refine cons_ofNat_lt_of_eq (by omega) ?_
      rcases Nat.lt_or_ge (m / 64) (n / 64) with hlt | hge
      · exact cons_ofNat_lt (by omega) (by omega) _ _
      · exact cons_ofNat_lt_of_eq (by omega) (cons_ofNat_lt (by omega) (by omega) _ _)
  · exact cons_ofNat_lt (by omega) (by omega) _ _
  · omega
  · omega
  · omega
  · rcases Nat.lt_or_ge (m / 262144) (n / 262144) with hlt | hge
    · exact cons_ofNat_lt (by omega) (by omega) _ _
    · refine cons_ofNat_lt_of_eq (by omega) ?_
      rcases Nat.lt_or_ge (m / 4096) (n / 4096) with hlt | hge
      · exact cons_ofNat_lt (by omega) (by omega) _ _
      · refine cons_ofNat_lt_of_eq (by omega) ?_
        rcases Nat.lt_or_ge (m / 64) (n / 64) with hlt | hge
        · exact cons_ofNat_lt (by omega) (by omega) _ _
        · exact cons_ofNat_lt_of_eq (by omega) (cons_ofNat_lt (by omega) (by omega) _ _)

/-! ## Texts -/

private theorem flatMap_utf8EncodeChar_lt {a b : List Char} (h : a < b) :
    a.flatMap String.utf8EncodeChar < b.flatMap String.utf8EncodeChar := by
  induction a generalizing b with
  | nil =>
    cases b with
    | nil => exact absurd h (List.lt_irrefl _)
    | cons c b =>
      have hne : String.utf8EncodeChar c ≠ [] := String.utf8EncodeChar_ne_nil
      obtain ⟨byte, bytes, hbytes⟩ := List.exists_cons_of_ne_nil hne
      rw [List.flatMap_cons, hbytes]
      exact List.nil_lt_cons _ _
  | cons c a ih =>
    cases b with
    | nil => exact absurd h (List.not_lt_nil _)
    | cons d b =>
      rw [List.flatMap_cons, List.flatMap_cons]
      rcases List.cons_lt_cons_iff.1 h with hlt | ⟨rfl, hrest⟩
      · exact utf8EncodeChar_append_lt hlt _ _
      · exact List.append_left_lt (ih hrest)

/-- The order of texts by code point is the order of their bytes. -/
theorem lt_iff_utf8_lt {a b : String} : a < b ↔ utf8 a < utf8 b := by
  have hlt : ∀ {a b : String}, a < b → utf8 a < utf8 b := by
    intro a b h
    rw [utf8_eq_flatMap, utf8_eq_flatMap]
    exact flatMap_utf8EncodeChar_lt h
  refine ⟨hlt, fun h => ?_⟩
  by_contra hnot
  by_cases heq : b = a
  · rw [heq] at h
    exact List.lt_irrefl _ h
  · exact List.lt_asymm h (hlt (Std.lt_of_le_of_ne (String.not_lt.1 hnot) heq))

/-- The keys of a map ascend by their bytes. -/
theorem KeyMap.ascending_utf8 {α : Type} (m : KeyMap α) :
    m.toList.Pairwise fun a b => utf8 a.1 < utf8 b.1 :=
  m.ascending.imp lt_iff_utf8_lt.1

end ManifestSarif
