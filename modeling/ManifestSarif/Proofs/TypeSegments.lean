import ManifestSarif.PackageRef
import ManifestSarif.Proofs.Occurrences

/-!
# The type segment of a reference

A reference may hold several `pkg:`, and a slash may follow each of them or none.  The segment is
the one at the leftmost `pkg:` that a slash follows on the same line, and it goes to the nearest
slash.

* `PackageRef.IsSegment` is a segment at any place, and `IsLeftmost` the one that counts;
  `typeSegment?_eq_some_iff`: this is the one that is found.
* `Strips` says what is left of a text without its segment, if this has a type, and
  `strips_withoutType` that this is what is worked on.
* `Strips.eq_replaceFirst`: what is taken out is the first occurrence of the text of the segment, so
  taking out that text leaves the same.
-/

namespace ManifestSarif

namespace PackageRef

open Text

/-! ## Segments -/

/-- The text is `before`, then `pkg:`, a type without slash and line feed, a slash and `after`. -/
structure IsSegment (text : List Char) (s : TypeSegment) : Prop where
  text_eq : text = s.before ++ scheme ++ s.type ++ '/' :: s.after
  slash_not_mem : '/' ∉ s.type
  feed_not_mem : '\n' ∉ s.type

/-- No segment of the text starts before this one. -/
structure IsLeftmost (text : List Char) (s : TypeSegment) : Prop extends IsSegment text s where
  length_le : ∀ other, IsSegment text other → s.before.length ≤ other.before.length

variable {text type after rest : List Char} {c : Char} {s : TypeSegment}

/-- A type goes to the nearest slash. -/
theorem typeAt?_eq_some_iff : typeAt? text = some (type, after) ↔
    text = type ++ '/' :: after ∧ '/' ∉ type ∧ '\n' ∉ type := by
  induction text generalizing type with
  | nil => simp [typeAt?]
  | cons c rest ih =>
    rw [typeAt?]
    split
    · next hslash =>
      subst hslash
      cases type with
      | nil => simp
      | cons d type =>
        refine iff_of_false (by simp) ?_
        rintro ⟨heq, hslash, -⟩
        exact hslash ((List.cons.inj heq).1 ▸ List.mem_cons_self)
    · next hslash =>
      cases type with
      | nil =>
        refine iff_of_false ?_ fun h => hslash (List.cons.inj h.1).1
        split <;> simp
      | cons d type =>
        split
        · next hfeed =>
          refine iff_of_false (by simp) ?_
          rintro ⟨heq, -, hmem⟩
          exact hmem (hfeed ▸ (List.cons.inj heq).1 ▸ List.mem_cons_self)
        · next hfeed =>
          rw [Option.map_eq_some_iff]
          constructor
          · rintro ⟨⟨front, back⟩, htype, heq⟩
            cases heq
            obtain ⟨rfl, hfront, hinline⟩ := ih.1 htype
            exact ⟨rfl, by simp [Ne.symm hslash, hfront], by simp [Ne.symm hfeed, hinline]⟩
          · rintro ⟨heq, hmem, hinline⟩
            obtain ⟨rfl, rfl⟩ := List.cons.inj heq
            rw [List.mem_cons, not_or] at hmem hinline
            exact ⟨(type, after), ih.2 ⟨rfl, hmem.2, hinline.2⟩, rfl⟩

/-- A segment at the start of a text. -/
theorem bind_typeAt?_eq_some_iff : (scheme.isPrefixOf? text).bind typeAt? = some (type, after) ↔
    IsSegment text ⟨[], type, after⟩ := by
  rw [Option.bind_eq_some_iff]
  simp only [List.isPrefixOf?_eq_some_iff_append_eq, typeAt?_eq_some_iff]
  constructor
  · rintro ⟨rest, rfl, rfl, hslash, hfeed⟩
    exact ⟨by simp, hslash, hfeed⟩
  · rintro ⟨rfl, hslash, hfeed⟩
    exact ⟨type ++ '/' :: after, by simp, rfl, hslash, hfeed⟩

theorem segment_cons_iff {before : List Char} :
    IsSegment (c :: rest) ⟨c :: before, type, after⟩ ↔ IsSegment rest ⟨before, type, after⟩ :=
  ⟨fun ⟨heq, hslash, hfeed⟩ => ⟨(List.cons.inj heq).2, hslash, hfeed⟩,
    fun ⟨heq, hslash, hfeed⟩ => ⟨congrArg (c :: ·) heq, hslash, hfeed⟩⟩

theorem not_segment_nil : ¬IsSegment [] s := by
  rintro ⟨heq, -, -⟩
  simp [scheme] at heq

/-- If no segment starts with the text, the segments are those of the rest. -/
theorem IsSegment.cases_cons (hnone : ∀ type after, ¬IsSegment (c :: rest) ⟨[], type, after⟩)
    (h : IsSegment (c :: rest) s) :
    ∃ before, s.before = c :: before ∧ IsSegment rest ⟨before, s.type, s.after⟩ := by
  obtain ⟨before, type, after⟩ := s
  cases before with
  | nil => exact absurd h (hnone type after)
  | cons d before =>
    obtain rfl : c = d := (List.cons.inj h.text_eq).1
    exact ⟨before, rfl, segment_cons_iff.1 h⟩

theorem typeSegment?_eq_some_iff : typeSegment? text = some s ↔ IsLeftmost text s := by
  induction text generalizing s with
  | nil => exact iff_of_false (by simp [typeSegment?]) fun h => not_segment_nil h.toIsSegment
  | cons c rest ih =>
    rw [typeSegment?]
    split
    · next type after hhere =>
      -- A segment starts with the text, and nothing is further left.
      have hsegment := bind_typeAt?_eq_some_iff.1 hhere
      constructor
      · intro h
        cases h
        exact ⟨hsegment, fun _ _ => Nat.zero_le _⟩
      · rintro ⟨hfound, hleft⟩
        obtain ⟨before, type', after'⟩ := s
        obtain rfl : before = [] := List.eq_nil_of_length_eq_zero (Nat.le_zero.1 (hleft _ hsegment))
        rw [bind_typeAt?_eq_some_iff.2 hfound] at hhere
        cases hhere
        rfl
    · next hhere =>
      -- None does, so the leftmost one of the rest is the leftmost one.
      have hnone : ∀ type after, ¬IsSegment (c :: rest) ⟨[], type, after⟩ := by
        intro type after hsegment
        rw [bind_typeAt?_eq_some_iff.2 hsegment] at hhere
        cases hhere
      rw [Option.map_eq_some_iff]
      constructor
      · rintro ⟨later, hlater, rfl⟩
        obtain ⟨hsegment, hleft⟩ := ih.1 hlater
        refine ⟨segment_cons_iff.2 hsegment, fun other hother => ?_⟩
        obtain ⟨before, hbefore, hrest⟩ := hother.cases_cons hnone
        rw [hbefore]
        exact Nat.succ_le_succ (hleft _ hrest)
      · rintro ⟨hfound, hleft⟩
        obtain ⟨before, hbefore, hrest⟩ := hfound.cases_cons hnone
        refine ⟨⟨before, s.type, s.after⟩, ih.2 ⟨hrest, fun other hother => ?_⟩, ?_⟩
        · have hlength := hleft _ (segment_cons_iff.2 hother)
          rw [hbefore] at hlength
          exact Nat.le_of_succ_le_succ hlength
        · rw [← hbefore]

/-! ## What is left without the segment -/

/-- `Strips text type? rest`: without its leftmost segment the text is `rest`, if that segment has a
type that is not empty, and `type?` is this type; otherwise nothing is taken out. -/
inductive Strips (text : List Char) : Option (List Char) → List Char → Prop where
  | segment (s : TypeSegment) (hleft : IsLeftmost text s) (htype : s.type ≠ []) :
      Strips text (some s.type) (s.before ++ s.after)
  | unnamed (hnone : ∀ s, IsLeftmost text s → s.type = []) : Strips text none text

theorem namedSegment?_eq_some_iff :
    namedSegment? text = some s ↔ IsLeftmost text s ∧ s.type ≠ [] := by
  rw [namedSegment?, Option.filter_eq_some_iff, typeSegment?_eq_some_iff]
  simp

theorem strips_withoutType (text : List Char) :
    Strips text ((namedSegment? text).map (·.type)) (withoutType text) := by
  rw [withoutType]
  cases hnamed : namedSegment? text with
  | some s =>
    obtain ⟨hleft, htype⟩ := namedSegment?_eq_some_iff.1 hnamed
    exact .segment s hleft htype
  | none =>
    refine .unnamed fun s hleft => ?_
    by_contra htype
    rw [namedSegment?_eq_some_iff.2 ⟨hleft, htype⟩] at hnamed
    cases hnamed

/-- Taking out the first occurrence of the text of the segment takes out the segment: a text like it
further left would be a segment further left. -/
theorem Strips.eq_replaceFirst (h : Strips text (some type) rest) :
    replaceFirst (scheme ++ type ++ ['/']) [] text = rest := by
  obtain ⟨s, ⟨⟨heq, hslash, hfeed⟩, hleft⟩, -⟩ := h
  have hcut : cutAtPiece (scheme ++ s.type ++ ['/']) text = some (s.before, s.after) := by
    have htext : text = s.before ++ (scheme ++ s.type ++ ['/']) ++ s.after := by
      simpa using heq
    rw [htext]
    refine cutAtPiece_of_leftmost fun front back hother => ?_
    exact hleft ⟨front, s.type, back⟩ ⟨by rw [htext, hother]; simp, hslash, hfeed⟩
  rw [replaceFirst, hcut]
  exact congrArg (· ++ s.after) (List.append_nil s.before)

end PackageRef

end ManifestSarif
