import ManifestSarif.Proofs.SinglePass

/-!
# What a text with references stands for

The value of a variable may refer to other variables, so a reference stands for what its value
stands for.  `Expands` says this without an order in which variables are replaced.

* `Expands.unique`: a text stands for one text at most.
* `Sealed` texts have no `$` right behind what another one opens; `Sealed.replaceAll` carries this
  through a pass, and `Expands.append_inv` takes a text apart behind a sealed value.
* `Expands.of_replaceAll`: a text stands for what it stands for after a pass, if no value refers to
  what the pass replaces.
* `Symbols.expands_substitute` takes this to the variables of a table.
-/

namespace ManifestSarif

open Text

namespace Reference

/-- The text stands for the other one: each reference that has a value stands for what this value
stands for, and each other character for itself. -/
inductive Expands (value? : Reference → Option (List Char)) : List Char → List Char → Prop
  | nil : Expands value? [] []
  | keep {c : Char} {rest out : List Char} (hnone : (at? (c :: rest)).bind value? = none)
      (hrest : Expands value? rest out) : Expands value? (c :: rest) (c :: out)
  | reference {text value after resolved out : List Char} {r : Reference}
      (htext : r.written ++ after = text) (hat : at? text = some r)
      (hvalue : value? r = some value) (hresolved : Expands value? value resolved)
      (hafter : Expands value? after out) : Expands value? text (resolved ++ out)

/-- No `$` stands right behind what another `$` opens. -/
def Sealed (text : List Char) : Prop :=
  ∀ rest, '$' :: rest <:+ text → (Opening.of rest).after.head? ≠ some '$'

variable {value? first second : Reference → Option (List Char)} {text value rest out : List Char}

instance : Decidable (Sealed text) :=
  decidableBehindDollars text

/-! ## Sealed texts -/

theorem Sealed.of_part {part : List Char} (h : Sealed text) (hpart : part <:+: text) :
    Sealed part := by
  obtain ⟨front, back, rfl⟩ := hpart
  intro rest hrest hdollar
  have hne : (Opening.of rest).after ≠ [] := by
    intro hnil
    rw [hnil] at hdollar
    cases hdollar
  have hsuffix : '$' :: (rest ++ back) <:+ front ++ part ++ back := by
    obtain ⟨before, rfl⟩ := hrest
    exact ⟨front ++ before, by simp⟩
  refine h (rest ++ back) hsuffix ?_
  rw [(Opening.of_append hne back).2.2, List.head?_append_of_ne_nil _ hne, hdollar]

/-- Nothing is put behind an opened `$` of a sealed text. -/
theorem Sealed.apart (h : Sealed text) : Apart value? text := by
  intro rest hrest
  rw [at?_eq_none_of_head? (h rest hrest)]
  nofun

/-- A sealed value keeps the text sealed around it. -/
theorem Sealed.replaceAll (h : Sealed text)
    (hvalues : ∀ r value, value? r = some value → Sealed (value ++ ['$'])) :
    Sealed (replaceAll value? 0 text) := by
  intro inner hinner
  rcases of_suffix_replaceAll hinner with
    ⟨rest, hrest, -, rfl⟩ | ⟨r, head, tail, after, hvalue, rfl⟩
  · exact (of_replaceAll_of_ne (h rest hrest)).1
  · have hends := hvalues r _ hvalue (tail ++ ['$']) ⟨head, by simp⟩
    exact Opening.head?_after_append hends (Reference.replaceAll value? 0 after)

/-- A value that is sealed up to its end refers to the same whatever stands behind it. -/
theorem Sealed.at?_append {c : Char} (h : Sealed (c :: rest ++ ['$'])) (more : List Char) :
    at? (c :: rest ++ more) = at? (c :: rest) := by
  refine Reference.at?_append ?_ more
  rintro rfl
  exact Opening.after_ne_nil (h (rest ++ ['$']) List.suffix_rfl)

/-! ## Expansions -/

namespace Expands

/-- A character that starts no reference with a value stands for itself. -/
theorem cons_inv {c : Char} (hnone : (at? (c :: rest)).bind value? = none)
    (h : Expands value? (c :: rest) out) : ∃ tail, out = c :: tail ∧ Expands value? rest tail := by
  cases h with
  | keep _ hrest => exact ⟨_, rfl, hrest⟩
  | reference _ hat hvalue =>
    rw [hat, Option.bind_some, hvalue] at hnone
    cases hnone

/-- A reference with a value stands for what the value stands for. -/
theorem written_inv {r : Reference} {after : List Char} (hat : at? (r.written ++ after) = some r)
    (hvalue : value? r = some value) (h : Expands value? (r.written ++ after) out) :
    ∃ resolved tail, out = resolved ++ tail ∧ Expands value? value resolved ∧
      Expands value? after tail := by
  generalize htext : r.written ++ after = text at hat h
  cases h with
  | nil => cases hat
  | keep hnone =>
    rw [hat, Option.bind_some, hvalue] at hnone
    cases hnone
  | reference hsame hother hfound hresolved hafter =>
    obtain rfl := Option.some.inj (hat.symm.trans hother)
    obtain rfl := Option.some.inj (hvalue.symm.trans hfound)
    obtain rfl := List.append_cancel_left (htext.trans hsame.symm)
    exact ⟨_, _, rfl, hresolved, hafter⟩

/-- Without values a text stands for itself. -/
theorem of_eq_none (h : ∀ r, value? r = none) (text : List Char) : Expands value? text text := by
  induction text with
  | nil => exact .nil
  | cons c rest ih => exact .keep (Option.bind_eq_none_iff.2 fun r _ => h r) ih

theorem unique {other : List Char} (h : Expands value? text out) (h' : Expands value? text other) :
    out = other := by
  induction h generalizing other with
  | nil =>
    cases h' with
    | nil => rfl
    | reference _ hat => cases hat
  | keep hnone _ ih =>
    obtain ⟨tail, rfl, htail⟩ := cons_inv hnone h'
    rw [ih htail]
  | reference htext hat hvalue _ _ ihvalue ihafter =>
    subst htext
    obtain ⟨resolved, tail, rfl, hresolved, htail⟩ := written_inv hat hvalue h'
    rw [ihvalue hresolved, ihafter htail]

/-- A text in which a sealed value stands first is the value and what is behind it. -/
theorem append_inv (hvalue : Sealed (value ++ ['$'])) (h : Expands value? (value ++ rest) out) :
    ∃ front back, out = front ++ back ∧ Expands value? value front ∧ Expands value? rest back := by
  induction value using replaceAll_induction value? generalizing out with
  | nil => exact ⟨[], out, rfl, .nil, h⟩
  | reference r value after hat hfound ih =>
    obtain ⟨tail, htail, -⟩ := exists_written_eq (at?_eq_some hat).1
    have hsame : at? (r.written ++ after ++ rest) = some r := by
      rw [htail, List.cons_append] at hvalue hat ⊢
      rw [hvalue.at?_append, hat]
    rw [List.append_assoc] at hsame h
    obtain ⟨resolved, back, rfl, hresolved, hback⟩ := written_inv hsame hfound h
    have hafter : Sealed (after ++ ['$']) :=
      hvalue.of_part (by rw [List.append_assoc]; exact (List.suffix_append _ _).isInfix)
    obtain ⟨middle, back, rfl, hmiddle, hback⟩ := ih hafter hback
    exact ⟨resolved ++ middle, back, (List.append_assoc _ _ _).symm,
      .reference rfl hat hfound hresolved hmiddle, hback⟩
  | keep c tail hnone ih =>
    have hsame : (at? (c :: (tail ++ rest))).bind value? = none := by
      rw [← List.cons_append, hvalue.at?_append, hnone]
    obtain ⟨out, rfl, hout⟩ := cons_inv hsame h
    have htail : Sealed (tail ++ ['$']) := hvalue.of_part (List.suffix_cons c _).isInfix
    obtain ⟨front, back, rfl, hfront, hback⟩ := ih htail hout
    exact ⟨c :: front, back, rfl, .keep hnone hfront, hback⟩

/-- Values for references that neither the text nor a value has do not matter. -/
theorem extend (htext : ∀ r ∈ within text, first r = none)
    (hvalues : ∀ r value, second r = some value → ∀ s ∈ within value, first s = none)
    (h : Expands second text out) : Expands (fun r => (first r).or (second r)) text out := by
  induction h with
  | nil => exact .nil
  | @keep c rest out hnone _ ih =>
    have hrest : ∀ r ∈ within rest, first r = none := by
      intro r hr
      obtain ⟨tail, htail, hat⟩ := mem_within_iff.1 hr
      exact htext r (mem_within_iff.2 ⟨tail, htail.trans (List.suffix_cons c rest), hat⟩)
    refine .keep (bind_or_eq_none_iff.2 ⟨?_, hnone⟩) (ih hrest)
    exact Option.bind_eq_none_iff.2 fun r hat =>
      htext r (mem_within_iff.2 ⟨c :: rest, List.suffix_rfl, hat⟩)
  | @reference text value after resolved out r hwritten hat hvalue _ _ ihvalue ihafter =>
    subst hwritten
    have hafter : ∀ s ∈ within after, first s = none := by
      intro s hs
      obtain ⟨tail, htail, hat⟩ := mem_within_iff.1 hs
      exact htext s (mem_within_iff.2 ⟨tail, htail.trans (List.suffix_append _ _), hat⟩)
    have hfirst := htext r (mem_within_iff.2 ⟨_, List.suffix_rfl, hat⟩)
    refine .reference rfl hat ?_ (ihvalue (hvalues r value hvalue)) (ihafter hafter)
    rw [hfirst, Option.none_or, hvalue]

/-- What a text stands for after a pass, it stood for before, if no value refers to what the pass
replaces. -/
theorem of_replaceAll (hsealed : Sealed text)
    (hvalues : ∀ r value, first r = some value → Sealed (value ++ ['$']))
    (hfirst : ∀ r value, first r = some value → ∀ s ∈ within value, first s = none)
    (hsecond : ∀ r value, second r = some value → ∀ s ∈ within value, first s = none)
    (h : Expands second (replaceAll first 0 text) out) :
    Expands (fun r => (first r).or (second r)) text out := by
  induction text using replaceAll_induction (fun r => (first r).or (second r)) generalizing out with
  | nil =>
    cases h with
    | nil => exact .nil
    | reference _ hat => cases hat
  | reference r value after hat hvalue ih =>
    have hafter := hsealed.of_part (List.suffix_append r.written after).isInfix
    cases hfound : first r with
    | some found =>
      have hsame : found = value := by rwa [hfound, Option.some_or, Option.some_inj] at hvalue
      subst hsame
      rw [replaceAll_written hat hfound] at h
      obtain ⟨front, back, rfl, hfront, hback⟩ := append_inv (hvalues r found hfound) h
      exact .reference rfl hat hvalue (hfront.extend (hfirst r found hfound) hsecond)
        (ih hafter hback)
    | none =>
      have hlater : second r = some value := by rwa [hfound, Option.none_or] at hvalue
      have hkept : (at? (r.written ++ after)).bind first = none := by
        rw [hat, Option.bind_some, hfound]
      have hstill := at?_replaceAll_of_kept hsealed.apart hkept
      rw [replaceAll_kept hat hfound, hat] at hstill
      rw [replaceAll_kept hat hfound] at h
      obtain ⟨front, back, rfl, hfront, hback⟩ := written_inv hstill hlater h
      exact .reference rfl hat hvalue (hfront.extend (hsecond r value hlater) hsecond)
        (ih hafter hback)
  | keep c rest hnone ih =>
    have hrest := hsealed.of_part (List.suffix_cons c rest).isInfix
    obtain ⟨hkept, hlater⟩ := bind_or_eq_none_iff.1 hnone
    have hstill := at?_replaceAll_of_kept hsealed.apart hkept
    rw [replaceAll_cons hkept] at hstill h
    rw [← hstill] at hlater
    obtain ⟨tail, rfl, htail⟩ := cons_inv hlater h
    exact .keep hnone (ih hrest htail)

end Expands

end Reference

/-! ## Tables of variables -/

namespace Symbols

open Reference

/-- The references in the default of a variable to those that are replaced no later than itself. -/
def backReferences (symbols : Symbols) (i : Fin symbols.entries.length) : List Reference :=
  (within (symbols.entries.get i).2).filter fun r =>
    r.name ∈ (symbols.entries.take (i + 1)).map (·.1)

theorem forall_backReferences {symbols : Symbols} {P : Reference → Prop}
    (h : ∀ i, ∀ r ∈ symbols.backReferences i, P r) :
    (symbols.entries.Pairwise fun earlier entry =>
      ∀ r ∈ within entry.2, r.name = earlier.1 → P r) ∧
    ∀ entry ∈ symbols.entries, ∀ r ∈ within entry.2, r.name = entry.1 → P r := by
  obtain ⟨entries⟩ := symbols
  have hback : ∀ i j (hi : i < entries.length) (hji : j ≤ i), ∀ r ∈ within entries[i].2,
      r.name = entries[j].1 → P r := by
    intro i j hi hji r hr hname
    refine h ⟨i, hi⟩ r (List.mem_filter.2 ⟨hr, decide_eq_true ?_⟩)
    refine List.mem_map.2 ⟨entries[j], ?_, hname.symm⟩
    exact List.mem_take_iff_getElem.2 ⟨j, by simp; omega, rfl⟩
  constructor
  · rw [List.pairwise_iff_getElem]
    exact fun j i _ hi hji => hback i j hi (Nat.le_of_lt hji)
  · intro entry hentry
    obtain ⟨i, hi, rfl⟩ := List.getElem_of_mem hentry
    exact hback i i hi (Nat.le_refl i)

theorem exists_entry_of_valueOf {entries : List (List Char × List Char)} {r : Reference}
    {value : List Char} (h : valueOf ⟨entries⟩ r = some value) :
    ∃ entry ∈ entries, entry.2 = value := by
  obtain ⟨front, back, rfl, -⟩ := List.lookup_eq_some_iff.1 h
  exact ⟨(r.name, value), by simp, rfl⟩

/-- Where no default refers back, the text with the variables replaced one after the other is what
the text stands for. -/
theorem expands_substitute {symbols : Symbols}
    (hnames : ∀ entry ∈ symbols.entries, IsName entry.1)
    (hvalues : ∀ entry ∈ symbols.entries, Sealed (entry.2 ++ ['$'])) {text : List Char}
    (hsealed : Sealed text) (hback : ∀ i, symbols.backReferences i = []) :
    Expands symbols.valueOf text (symbols.substitute text) := by
  have hnone : ∀ i, ∀ r ∈ symbols.backReferences i, False := by
    intro i r hr
    rw [hback i] at hr
    cases hr
  obtain ⟨hlater, hself⟩ := forall_backReferences hnone
  clear hback hnone
  obtain ⟨entries⟩ := symbols
  rw [substitute]
  induction entries generalizing text with
  | nil => exact Expands.of_eq_none (fun _ => rfl) text
  | cons entry entries ih =>
    obtain ⟨hname, hnames⟩ := List.forall_mem_cons.1 hnames
    obtain ⟨hvalue, hvalues⟩ := List.forall_mem_cons.1 hvalues
    obtain ⟨hown, hself⟩ := List.forall_mem_cons.1 hself
    obtain ⟨hahead, hlater⟩ := List.pairwise_cons.1 hlater
    have honly : ∀ r other value, only r entry.2 other = some value → Sealed (value ++ ['$']) := by
      intro r other value h
      rwa [eq_of_only_eq_some h]
    -- Neither the value nor a later one refers to the variable.
    have hfree : ∀ b value, (value = entry.2 ∨ ∃ later ∈ entries, later.2 = value) →
        ∀ s ∈ within value, only ⟨b, entry.1⟩ entry.2 s = none := by
      intro b value hvalue s hs
      have hother : s.name ≠ entry.1 := by
        rcases hvalue with rfl | ⟨later, hmem, rfl⟩
        · exact hown s hs
        · exact hahead later hmem s hs
      exact if_neg fun heq => hother (congrArg Reference.name heq)
    have hfirst := hsealed.replaceAll (honly ⟨true, entry.1⟩)
    have hsecond := hfirst.replaceAll (honly ⟨false, entry.1⟩)
    rw [List.foldl_cons, substituteOne_eq hname, valueOf_cons]
    refine Expands.of_replaceAll hsealed (honly _) ?_ ?_
      (Expands.of_replaceAll hfirst (honly _) ?_ ?_ (ih hsecond hnames hvalues hlater hself))
    · exact fun r value h => hfree true value (Or.inl (eq_of_only_eq_some h))
    · intro r value h
      rcases Option.or_eq_some_iff.1 h with h | ⟨-, h⟩
      · exact hfree true value (Or.inl (eq_of_only_eq_some h))
      · exact hfree true value (Or.inr (exists_entry_of_valueOf h))
    · exact fun r value h => hfree false value (Or.inl (eq_of_only_eq_some h))
    · exact fun r value h => hfree false value (Or.inr (exists_entry_of_valueOf h))

end Symbols

end ManifestSarif
