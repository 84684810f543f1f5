import ManifestSarif.Proofs.JsonGrammar
import ManifestSarif.Proofs.OverlookingReaders
import ManifestSarif.Proofs.RecordReading

/-!
# What readers make of what they accept

* `Yields` says what holds of everything that a reader makes.  `yields_list`, `yields_keyed` and
  `yields_record` hand it on from the parts of a container; the fields of a record keep an invariant
  of the record.
* `accepted_item`, `accepted_entry` and `accepted_field` go the other way: a container is accepted
  only if its parts are, and where nesting may go one container deeper.

A record may be written as an object or as an array, and members with unknown names are no parts.
-/

namespace ManifestSarif.Json.Reader

variable {α β σ : Type}

/-- What is read one by one are parts that are accepted. -/
theorem mapM_mem {f : α → Option β} {items : List α} {results : List β}
    (h : items.mapM f = some results) :
    (∀ b ∈ results, ∃ a ∈ items, f a = some b) ∧ ∀ a ∈ items, ∃ b, f a = some b := by
  rw [mapM_eq_some_iff] at h
  induction h with
  | nil => simp
  | @cons a b items results hfirst _ ih =>
    refine ⟨List.forall_mem_cons.2 ⟨⟨a, List.mem_cons_self, hfirst⟩, fun b hb => ?_⟩,
      List.forall_mem_cons.2 ⟨⟨b, hfirst⟩, ih.2⟩⟩
    obtain ⟨a, ha, hread⟩ := ih.1 b hb
    exact ⟨a, List.mem_cons_of_mem _ ha, hread⟩

/-! ## What is made -/

/-- Everything that the reader makes has the property. -/
def Yields (P : α → Prop) (reader : Reader α) : Prop :=
  ∀ value a, reader.accepted value = some a → P a

theorem accepted_map (f : α → β) (reader : Reader α) (value : Value) :
    (reader.map f).accepted value = (reader.accepted value).map f :=
  toOption_map f (reader.complete value)

theorem Yields.map {P : α → Prop} {Q : β → Prop} {reader : Reader α} (h : Yields P reader)
    {f : α → β} (hf : ∀ a, P a → Q (f a)) : Yields Q (reader.map f) := by
  intro value b hread
  rw [accepted_map, Option.map_eq_some_iff] at hread
  obtain ⟨a, hread, rfl⟩ := hread
  exact hf a (h value a hread)

/-- Only null is read in another way where it may stand for nothing. -/
theorem complete_optional {reader : Reader α} {value : Value} (h : value ≠ .null) :
    (Reader.optional reader).complete value = (reader.map some).complete value := by
  cases value with
  | null => exact absurd rfl h
  | _ => rfl

theorem accepted_optional {reader : Reader α} {value : Value} (h : value ≠ .null) :
    (Reader.optional reader).accepted value = (reader.accepted value).map some := by
  rw [← accepted_map, accepted, complete_optional h]
  rfl

theorem Yields.optional {P : α → Prop} {reader : Reader α} (h : Yields P reader) :
    Yields (fun a? => ∀ a, a? = some a → P a) (Reader.optional reader) := by
  intro value a? hread a ha
  by_cases hnull : value = .null
  · subst hnull
    cases hread
    cases ha
  · rw [accepted_optional hnull, Option.map_eq_some_iff] at hread
    obtain ⟨made, hmade, rfl⟩ := hread
    cases ha
    exact h value a hmade

/-- The items of a list are made by the reader of the items. -/
theorem yields_list {P : α → Prop} {reader : Nat → Reader α} {depth : Nat}
    (h : ∀ below, depth = below + 1 → Yields P (reader below)) :
    Yields (fun as => ∀ a ∈ as, P a) (list (Report.within reader depth)) := by
  intro value as hread
  cases depth with
  | zero => cases value <;> cases hread
  | succ below =>
    cases value with
    | array items =>
      rw [Report.within, accepted_list] at hread
      intro a ha
      obtain ⟨item, _, hitem⟩ := (mapM_mem hread).1 a ha
      exact h below rfl item a hitem
    | _ => cases hread

/-- The values of a map are made by the reader of the values. -/
theorem yields_keyed {P : α → Prop} {reader : Nat → Reader α} {depth : Nat}
    (h : ∀ below, depth = below + 1 → Yields P (reader below)) :
    Yields (fun m => ∀ entry ∈ m.toList, P entry.2) (keyed (Report.within reader depth)) := by
  intro value m hread
  cases depth with
  | zero => cases value <;> cases hread
  | succ below =>
    cases value with
    | object members =>
      rw [Report.within, accepted_keyed, Option.map_eq_some_iff] at hread
      obtain ⟨entries, hread, rfl⟩ := hread
      intro entry hentry
      obtain ⟨member, _, hmember⟩ := (mapM_mem hread).1 entry (KeyMap.mem_of_mem_ofList hentry)
      obtain ⟨key, _, hmember⟩ := Option.bind_eq_some_iff.1 hmember
      obtain ⟨a, hvalue, hmember⟩ := Option.bind_eq_some_iff.1 hmember
      cases hmember
      exact h below rfl member.2 a hvalue
    | _ => cases hread

/-! ### Records -/

/-- The changes that a field makes keep the invariant of the record. -/
def Keeps (Inv : σ → Prop) (f : RecordField σ) : Prop :=
  Yields (fun set => ∀ s, Inv s → Inv (set s)) f.reader

theorem keeps_field {Inv : σ → Prop} {P : α → Prop} {name : String} {presence : Presence}
    {reader : Reader α} {set : α → σ → σ} (h : Yields P reader)
    (hset : ∀ a s, P a → Inv s → Inv (set a s)) : Keeps Inv (field name presence reader set) :=
  h.map fun a hP s hs => hset a s hP hs

/-- A member is a change of a field or none. -/
theorem readInto_invariant {Inv : σ → Prop} {fields : List (RecordField σ)}
    (h : ∀ f ∈ fields, Keeps Inv f) {reached next : σ × Finset String}
    {member : Quotation × Value} (hread : readInto fields (some reached) member = some next)
    (hreached : Inv reached.1) : Inv next.1 := by
  rw [readInto, Option.bind_some] at hread
  obtain ⟨change, hchange, hmake⟩ := Option.bind_eq_some_iff.1 hread
  cases change with
  | none =>
    cases hmake
    exact hreached
  | some change =>
    obtain ⟨name, set⟩ := change
    obtain ⟨f, hf, _, hset⟩ := exists_field_of_change? hchange
    rw [make] at hmake
    split at hmake
    · cases hmake
    · cases hmake
      exact h f hf _ set hset reached.1 hreached

theorem foldl_readInto_invariant {Inv : σ → Prop} {fields : List (RecordField σ)}
    (h : ∀ f ∈ fields, Keeps Inv f) {members : List (Quotation × Value)}
    {reached last : σ × Finset String}
    (hread : members.foldl (readInto fields) (some reached) = some last)
    (hreached : Inv reached.1) : Inv last.1 := by
  induction members generalizing reached with
  | nil =>
    cases hread
    exact hreached
  | cons member members ih =>
    rw [List.foldl_cons] at hread
    cases hnext : readInto fields (some reached) member with
    | none =>
      rw [hnext, foldl_readInto_none] at hread
      cases hread
    | some next =>
      rw [hnext] at hread
      exact ih hread (readInto_invariant h hnext hreached)

theorem readFields_invariant {Inv : σ → Prop} {description : String}
    {fields : List (RecordField σ)} (h : ∀ f ∈ fields, Keeps Inv f) {items : List Value}
    {index : Nat} {state s : σ}
    (hread : readFields description index state fields items = .ok s) (hstate : Inv state) :
    Inv s := by
  fun_induction readFields description index state fields items with
  | case1 =>
    cases hread
    exact hstate
  | case2 | case4 => cases hread
  | case3 index state f rest hdefaulted ih =>
    exact ih (fun f hf => h f (List.mem_cons_of_mem _ hf)) hread hstate
  | case5 index state f rest item items ih =>
    obtain ⟨set, hset, hread⟩ := bind_eq_ok.1 hread
    have hset := toOption_eq_some_iff.2 (mapError_eq_ok.1 hset)
    exact ih set (fun f hf => h f (List.mem_cons_of_mem _ hf)) hread
      (h f List.mem_cons_self item set hset state hstate)

/-- The fields of a record keep what holds of the record, in whichever way it is written. -/
theorem yields_record {Inv : σ → Prop} {name : String} {fields : Nat → List (RecordField σ)}
    {start : σ} {depth : Nat} (hstart : Inv start)
    (h : ∀ below, depth = below + 1 → ∀ f ∈ fields below, Keeps Inv f) :
    Yields Inv (record name (Report.within fields depth) start) := by
  intro value s hread
  cases depth with
  | zero => cases value <;> cases hread
  | succ below =>
    cases value with
    | object members =>
      rw [Report.within, accepted_record] at hread
      obtain ⟨last, hfold, hlast⟩ := Option.bind_eq_some_iff.1 hread
      rw [finished?, Option.ite_none_right_eq_some] at hlast
      obtain ⟨_, hlast⟩ := hlast
      cases hlast
      exact foldl_readInto_invariant (h below rfl) hfold hstart
    | array items =>
      exact readFields_invariant (h below rfl) (toOption_eq_some_iff.1 hread) hstart
    | _ => cases hread

/-! ## What is accepted -/

theorem accepted_item {reader : Nat → Reader α} {depth : Nat} {items : List Value} {as : List α}
    (h : (list (Report.within reader depth)).accepted (.array items) = some as) {item : Value}
    (hitem : item ∈ items) :
    ∃ below a, depth = below + 1 ∧ (reader below).accepted item = some a := by
  cases depth with
  | zero => cases h
  | succ below =>
    rw [Report.within, accepted_list] at h
    obtain ⟨a, ha⟩ := (mapM_mem h).2 item hitem
    exact ⟨below, a, rfl, ha⟩

theorem accepted_entry {reader : Nat → Reader α} {depth : Nat}
    {members : List (Quotation × Value)} {m : KeyMap α}
    (h : (keyed (Report.within reader depth)).accepted (.object members) = some m)
    {member : Quotation × Value} (hmember : member ∈ members) :
    ∃ below a, depth = below + 1 ∧ (reader below).accepted member.2 = some a := by
  cases depth with
  | zero => cases h
  | succ below =>
    rw [Report.within, accepted_keyed, Option.map_eq_some_iff] at h
    obtain ⟨entries, h, _⟩ := h
    obtain ⟨entry, hentry⟩ := (mapM_mem h).2 member hmember
    obtain ⟨key, _, hentry⟩ := Option.bind_eq_some_iff.1 hentry
    obtain ⟨a, ha, _⟩ := Option.bind_eq_some_iff.1 hentry
    exact ⟨below, a, rfl, ha⟩

/-- The value is a record that has the part as its field with the name, or in the place of the
field where the record is written as an array. -/
inductive HoldsField (name : String) (index : Nat) : Value → Value → Prop where
  | member {members : List (Quotation × Value)} {key : Quotation} {part : Value}
      (hmember : (key, part) ∈ members) (hkey : key.Spells name.toList) :
      HoldsField name index (.object members) part
  | item {items : List Value} {part : Value} (hitem : items[index]? = some part) :
      HoldsField name index (.array items) part

/-- All members of an object are accepted. -/
theorem exists_change_of_foldl {fields : List (RecordField σ)} {members : List (Quotation × Value)}
    {reached last : σ × Finset String}
    (hread : members.foldl (readInto fields) (some reached) = some last) :
    ∀ member ∈ members, ∃ change, change? fields member = some change := by
  induction members generalizing reached with
  | nil => simp
  | cons member members ih =>
    rw [List.foldl_cons] at hread
    cases hnext : readInto fields (some reached) member with
    | none =>
      rw [hnext, foldl_readInto_none] at hread
      cases hread
    | some next =>
      rw [hnext] at hread
      rw [readInto, Option.bind_some] at hnext
      obtain ⟨change, hchange, _⟩ := Option.bind_eq_some_iff.1 hnext
      exact List.forall_mem_cons.2 ⟨⟨change, hchange⟩, ih hread⟩

/-- All items of an array that stands for a record are accepted. -/
theorem exists_set_of_readFields {description : String} {fields : List (RecordField σ)}
    {items : List Value} {index : Nat} {state s : σ}
    (hread : readFields description index state fields items = .ok s) {i : Nat} {item : Value}
    (hitem : items[i]? = some item) {f : RecordField σ} (hf : fields[i]? = some f) :
    ∃ set, f.reader.accepted item = some set := by
  fun_induction readFields description index state fields items generalizing i with
  | case1 | case3 => cases hitem
  | case2 | case4 => cases hread
  | case5 index state first rest item' items ih =>
    obtain ⟨set, hset, hread⟩ := bind_eq_ok.1 hread
    cases i with
    | zero =>
      cases hitem
      cases hf
      exact ⟨set, toOption_eq_some_iff.2 (mapError_eq_ok.1 hset)⟩
    | succ i => exact ih set hread hitem hf

theorem accepted_field {name : String} {fields : Nat → List (RecordField σ)} {start s : σ}
    {depth : Nat} {value : Value}
    (h : (record name (Report.within fields depth) start).accepted value = some s)
    {field : String} {index : Nat} {part : Value} (hpart : HoldsField field index value part)
    {f : Nat → RecordField σ}
    (hname : ∀ below, (fields below).find? (·.name = field) = some (f below))
    (hindex : ∀ below, (fields below)[index]? = some (f below)) :
    ∃ below set, depth = below + 1 ∧ (f below).reader.accepted part = some set := by
  cases depth with
  | zero => cases hpart <;> cases h
  | succ below =>
    cases hpart with
    | @member members key part hmember hkey =>
      rw [Report.within, accepted_record] at h
      obtain ⟨last, hread, _⟩ := Option.bind_eq_some_iff.1 h
      obtain ⟨change, hchange⟩ := exists_change_of_foldl hread _ hmember
      simp only [change?, text_of_spells hkey, Except.toOption, Option.bind_some, hname below,
        Option.map_eq_some_iff] at hchange
      obtain ⟨set, hset, _⟩ := hchange
      exact ⟨below, set, rfl, hset⟩
    | item hitem =>
      obtain ⟨set, hset⟩ := exists_set_of_readFields (toOption_eq_some_iff.1 h) hitem (hindex below)
      exact ⟨below, set, rfl, hset⟩

/-- A value in the place of a field that may be null is read as what the field is. -/
theorem accepted_of_optional_field {name : String} {presence : Presence} {reader : Reader α}
    {set : Option α → σ → σ} {value : Value} {change : σ → σ}
    (h : (field name presence (Reader.optional reader) set).reader.accepted value = some change)
    (hvalue : value ≠ .null) : ∃ a, reader.accepted value = some a := by
  have h : ((Reader.optional reader).map set).accepted value = some change := h
  rw [accepted_map, accepted_optional hvalue, Option.map_map, Option.map_eq_some_iff] at h
  obtain ⟨a, ha, _⟩ := h
  exact ⟨a, ha⟩

end ManifestSarif.Json.Reader
