import ManifestSarif.Proofs.KeyMapEntries
import ManifestSarif.Proofs.ReportFormat
import ManifestSarif.Report.Reader
import Mathlib.Data.Finset.Basic
import Mathlib.Data.List.Pairwise
import Mathlib.Data.List.Perm.Basic
import Mathlib.Logic.Relation

/-!
# Readers that overlook what the format leaves open

* `Reader.Overlooks`: a reader makes the same of any two values that differ in what the format
  leaves open in its place.  `overlooks_list`, `overlooks_keyed` and `overlooks_record` hand it on
  from the parts of a container.
* Behind records is `readInto_comm`: the changes of different fields commute, and none of them is
  made twice.
-/

namespace ManifestSarif.Json

open ReportFormat

variable {α β ε σ : Type}

@[simp]
theorem toOption_map (f : α → β) (result : Except ε α) :
    (result.map f).toOption = result.toOption.map f := by
  cases result <;> rfl

@[simp]
theorem toOption_bind (result : Except ε α) (f : α → Except ε β) :
    (result >>= f).toOption = result.toOption.bind fun a => (f a).toOption := by
  cases result <;> rfl

theorem toOption_eq_some_iff {result : Except ε α} {a : α} :
    result.toOption = some a ↔ result = .ok a := by
  cases result <;> simp [Except.toOption]

theorem bind_eq_ok {result : Except ε α} {f : α → Except ε β} {b : β} :
    result >>= f = .ok b ↔ ∃ a, result = .ok a ∧ f a = .ok b := by
  cases result <;> simp [bind, Except.bind]

theorem map_eq_ok {result : Except ε α} {f : α → β} {b : β} :
    result.map f = .ok b ↔ ∃ a, result = .ok a ∧ f a = b := by
  cases result <;> simp [Except.map]

theorem mapError_eq_ok {δ : Type} {result : Except ε α} {f : ε → δ} {a : α} :
    result.mapError f = .ok a ↔ result = .ok a := by
  cases result <;> simp [Except.mapError]

namespace Reader

/-- What is made of a value, if it is accepted. -/
def accepted (reader : Reader α) (value : Value) : Option α :=
  (reader.complete value).toOption

/-- Values that differ only in what the format leaves open in the place are read alike. -/
def Overlooks (shape : Shape) (reader : Reader α) : Prop :=
  ∀ value other, shape.Varies value other → reader.accepted value = reader.accepted other

/-- So are values that differ in any number of such things. -/
theorem Overlooks.accepted_eq {shape : Shape} {reader : Reader α} (h : Overlooks shape reader)
    {value other : Value} (hvaries : Relation.EqvGen shape.Varies value other) :
    reader.accepted value = reader.accepted other := by
  induction hvaries with
  | rel value other hvaries => exact h value other hvaries
  | refl value => rfl
  | symm value other _ ih => exact ih.symm
  | trans value middle other _ _ ih ih' => exact ih.trans ih'

/-! ## Scalars -/

/-- A reader that accepts no arrays and no objects has nothing to overlook. -/
theorem overlooks_of_refuses {shape : Shape} {reader : Reader α}
    (harray : ∀ items, reader.accepted (.array items) = none)
    (hobject : ∀ members, reader.accepted (.object members) = none) : Overlooks shape reader := by
  intro value other h
  cases h with
  | order | extra | member => rw [hobject, hobject]
  | item => rw [harray, harray]

theorem overlooks_text (shape : Shape) : Overlooks shape text :=
  overlooks_of_refuses (fun _ => rfl) fun _ => rfl

theorem overlooks_bool (shape : Shape) : Overlooks shape bool :=
  overlooks_of_refuses (fun _ => rfl) fun _ => rfl

theorem overlooks_count (shape : Shape) : Overlooks shape count :=
  overlooks_of_refuses (fun _ => rfl) fun _ => rfl

theorem Overlooks.map {shape : Shape} {reader : Reader α} (h : Overlooks shape reader)
    (f : α → β) : Overlooks shape (reader.map f) := by
  intro value other hvaries
  have hread : (reader.complete value).toOption = (reader.complete other).toOption :=
    h value other hvaries
  show ((reader.complete value).map f).toOption = ((reader.complete other).map f).toOption
  rw [toOption_map, toOption_map, hread]

theorem Overlooks.optional {shape : Shape} {reader : Reader α} (h : Overlooks shape reader) :
    Overlooks shape (Reader.optional reader) := by
  intro value other hvaries
  have hread := (h.map some) value other hvaries
  -- only null is read in another way, and nothing varies with it
  cases hvaries <;> exact hread

/-! ## Lists -/

theorem toOption_readItems (reader : Reader α) (items : List Value) (index : Nat) :
    (readItems reader index items).toOption = items.mapM reader.accepted := by
  induction items generalizing index with
  | nil => rfl
  | cons item items ih =>
    rw [readItems, List.mapM_cons, ← ih (index + 1), accepted]
    cases reader.complete item with
    | error failure => rfl
    | ok a => cases readItems reader (index + 1) items <;> rfl

theorem accepted_list (reader : Reader α) (items : List Value) :
    (list (some reader)).accepted (.array items) = items.mapM reader.accepted :=
  toOption_readItems reader items 0

theorem overlooks_list {reader : Nat → Reader α} {shape : Shape} {depth : Nat}
    (h : ∀ below < depth, Overlooks shape (reader below)) :
    Overlooks (.list shape) (list (Report.within reader depth)) := by
  intro value other hvaries
  cases depth with
  | zero => cases hvaries <;> rfl
  | succ below =>
    cases hvaries with
    | order | member => rfl
    | @item _ before after item other _ hitem =>
      have hread := h below (by omega) item other hitem
      unfold Report.within
      rw [accepted_list, accepted_list, List.mapM_append, List.mapM_append, List.mapM_cons,
        List.mapM_cons, hread]

/-! ## Maps -/

/-- The entry that is made of a member, if it is accepted. -/
def entry (reader : Reader α) (member : Quotation × Value) : Option (String × α) := do
  let key ← member.1.text.toOption
  let a ← reader.accepted member.2
  return (key, a)

theorem toOption_readEntries (reader : Reader α) (members : List (Quotation × Value)) :
    (readEntries reader members).toOption = members.mapM reader.entry := by
  induction members with
  | nil => rfl
  | cons member members ih =>
    obtain ⟨key, value⟩ := member
    rw [readEntries, List.mapM_cons, ← ih, entry, accepted, readKey]
    cases key.text with
    | error cause => rfl
    | ok key =>
      cases reader.complete value with
      | error failure => rfl
      | ok a => cases readEntries reader members <;> rfl

theorem accepted_keyed (reader : Reader α) (members : List (Quotation × Value)) :
    (keyed (some reader)).accepted (.object members) =
      (members.mapM reader.entry).map KeyMap.ofList := by
  show ((readEntries reader members).map KeyMap.ofList).toOption = _
  rw [toOption_map, toOption_readEntries]

theorem mapM_eq_some_iff {f : α → Option β} {items : List α} {results : List β} :
    items.mapM f = some results ↔
      List.Forall₂ (fun item result => f item = some result) items results := by
  induction items generalizing results with
  | nil => simp [eq_comm]
  | cons item items ih =>
    simp only [List.mapM_cons, List.forall₂_cons_left_iff, ← ih, Option.bind_eq_bind,
      Option.bind_eq_some_iff, Option.pure_def, Option.some.injEq]
    simp only [exists_and_left, eq_comm]

/-- The keys of the entries are the keys of the members. -/
theorem filterMap_key_eq {reader : Reader α} {members : List (Quotation × Value)}
    {entries : List (String × α)}
    (h : List.Forall₂ (fun member entry => reader.entry member = some entry) members entries) :
    (members.filterMap fun member => member.1.text.toOption) = entries.map Prod.fst := by
  induction h with
  | nil => rfl
  | @cons member entry members entries hentry _ ih =>
    obtain ⟨key, hkey, hentry⟩ := Option.bind_eq_some_iff.1 hentry
    obtain ⟨a, _, ha⟩ := Option.bind_eq_some_iff.1 hentry
    cases ha
    rw [List.filterMap_cons, hkey, ih, List.map_cons]

/-- Members with distinct keys make up the same map in any order. -/
theorem accepted_keyed_of_perm {reader : Reader α} {members others : List (Quotation × Value)}
    (hperm : members.Perm others) (hkeys : DistinctKeys members) {m : KeyMap α}
    (h : (keyed (some reader)).accepted (.object others) = some m) :
    (keyed (some reader)).accepted (.object members) = some m := by
  rw [accepted_keyed] at h ⊢
  obtain ⟨entries, hread, rfl⟩ := Option.map_eq_some_iff.1 h
  have hentries := mapM_eq_some_iff.1 hread
  obtain ⟨reordered, hreordered, hentriesPerm⟩ := List.perm_comp_forall₂ hperm hentries
  have hnodup : (entries.map Prod.fst).Nodup := by
    rw [← filterMap_key_eq hentries]
    exact (hperm.filterMap _).nodup_iff.1 hkeys
  have hsame : KeyMap.ofList reordered = KeyMap.ofList entries :=
    KeyMap.ofList_of_perm (hentriesPerm.trans (KeyMap.toList_ofList_perm hnodup).symm)
  rw [mapM_eq_some_iff.2 hreordered, Option.map_some, hsame]

theorem overlooks_keyed {reader : Nat → Reader α} {shape : Shape} {depth : Nat}
    (h : ∀ below < depth, Overlooks shape (reader below)) :
    Overlooks (.map shape) (keyed (Report.within reader depth)) := by
  intro value other hvaries
  cases depth with
  | zero => cases hvaries <;> rfl
  | succ below =>
    cases hvaries with
    | item => rfl
    | @order _ members others hperm hkeys =>
      have hdistinct : DistinctKeys members := hkeys shape rfl
      have hothers : DistinctKeys others := (hperm.filterMap _).nodup_iff.1 hdistinct
      exact Option.ext fun m => ⟨accepted_keyed_of_perm hperm.symm hothers,
        accepted_keyed_of_perm hperm hdistinct⟩
    | @member _ before after key value other hmember =>
      have hread := h below (by omega) value other hmember
      have hentry : (reader below).entry (key, value) = (reader below).entry (key, other) := by
        unfold entry
        rw [hread]
      unfold Report.within
      rw [accepted_keyed, accepted_keyed, List.mapM_append, List.mapM_append, List.mapM_cons,
        List.mapM_cons, hentry]

/-! ## Records -/

/-- What a member does to a record: nothing if its name is unknown, or else a change that is made in
the name of a field.  There is neither if the member is refused. -/
def change? (fields : List (RecordField σ)) (member : Quotation × Value) :
    Option (Option (String × (σ → σ))) :=
  member.1.text.toOption.bind fun name =>
    match fields.find? fun f => f.name = name with
    | none => some none
    | some f => (f.reader.accepted member.2).map fun set => some (name, set)

/-- The record and the names of the fields that were read, after a change.  No field is changed
twice. -/
def make (reached : σ × Finset String) : Option (String × (σ → σ)) → Option (σ × Finset String)
  | none => some reached
  | some (name, set) =>
    if name ∈ reached.2 then none else some (set reached.1, insert name reached.2)

/-- What is reached with one member more. -/
def readInto (fields : List (RecordField σ)) (reached? : Option (σ × Finset String))
    (member : Quotation × Value) : Option (σ × Finset String) :=
  reached?.bind fun reached => (change? fields member).bind (make reached)

/-- What is reached, without the order in which the fields were read. -/
def Progress.reached (progress : Progress σ) : σ × Finset String :=
  (progress.state, progress.seen.toFinset)

theorem make_reached_of_mem {progress : Progress σ} {name : String} (h : name ∈ progress.seen)
    (set : σ → σ) : make progress.reached (some (name, set)) = none := by
  exact if_pos (List.mem_toFinset.2 h)

theorem make_reached_of_not_mem {progress : Progress σ} {name : String}
    (h : name ∉ progress.seen) (set : σ → σ) :
    make progress.reached (some (name, set)) =
      some (Progress.reached ⟨set progress.state, name :: progress.seen⟩) := by
  have hnew : name ∉ progress.reached.2 := fun hmem => h (List.mem_toFinset.1 hmem)
  show (if name ∈ progress.reached.2 then _ else _) = _
  rw [if_neg hnew, Progress.reached, Progress.reached, List.toFinset_cons]

theorem toOption_readMember (fields : List (RecordField σ)) (progress : Progress σ)
    (member : Quotation × Value) :
    (readMember fields progress member).toOption.map Progress.reached =
      readInto fields (some progress.reached) member := by
  rw [readMember, readInto, Option.bind_some, change?, readKey]
  cases member.1.text with
  | error cause => rfl
  | ok name =>
    simp only [Except.mapError, bind, Except.bind, Progress.fieldFor, Except.toOption,
      Option.bind_some]
    cases fields.find? fun f => f.name = name with
    | none => rfl
    | some f =>
      unfold accepted
      by_cases hseen : name ∈ progress.seen
      · simp only [if_pos hseen]
        cases f.reader.complete member.2 with
        | error failure => rfl
        | ok set => exact (make_reached_of_mem hseen set).symm
      · simp only [if_neg hseen]
        cases f.reader.complete member.2 with
        | error failure => rfl
        | ok set => exact (make_reached_of_not_mem hseen set).symm

theorem foldl_readInto_none (fields : List (RecordField σ)) (members : List (Quotation × Value)) :
    members.foldl (readInto fields) none = none := by
  induction members with
  | nil => rfl
  | cons member members ih => exact ih

theorem toOption_readMembers (fields : List (RecordField σ)) (members : List (Quotation × Value))
    (progress : Progress σ) :
    (members.foldlM (readMember fields) progress).toOption.map Progress.reached =
      members.foldl (readInto fields) (some progress.reached) := by
  induction members generalizing progress with
  | nil => rfl
  | cons member members ih =>
    rw [List.foldlM_cons, List.foldl_cons, ← toOption_readMember]
    cases readMember fields progress member with
    | error failure => exact (foldl_readInto_none fields members).symm
    | ok progress => exact ih progress

/-- The record, unless a field was not read that must be there. -/
def finished? (fields : List (RecordField σ)) (reached : σ × Finset String) : Option σ :=
  if ∀ f ∈ fields, f.presence = .required → f.name ∈ reached.2 then some reached.1 else none

theorem toOption_finish (fields : List (RecordField σ)) (progress : Progress σ) :
    (progress.finish fields).toOption = finished? fields progress.reached := by
  rw [Progress.finish, finished?]
  cases hfind : fields.find? fun f => f.presence = .required ∧ f.name ∉ progress.seen with
  | none =>
    have hall : ∀ f ∈ fields, f.presence = .required → f.name ∈ progress.reached.2 := by
      simpa [Progress.reached] using hfind
    rw [if_pos hall]
    rfl
  | some f =>
    have hmissing : f.presence = .required ∧ f.name ∉ progress.seen := by
      simpa using List.find?_some hfind
    have hnot : ¬ ∀ f ∈ fields, f.presence = .required → f.name ∈ progress.reached.2 := by
      intro hall
      have hread := hall f (List.mem_of_find?_eq_some hfind) hmissing.1
      exact hmissing.2 (List.mem_toFinset.1 hread)
    rw [if_neg hnot]
    rfl

/-- A record is what its members make of it, one after the other. -/
theorem accepted_record (name : String) (fields : List (RecordField σ)) (start : σ)
    (members : List (Quotation × Value)) :
    (record name (some fields) start).accepted (.object members) =
      (members.foldl (readInto fields) (some (start, ∅))).bind (finished? fields) := by
  have hmembers := toOption_readMembers fields members ⟨start, []⟩
  have hstart : Progress.reached ⟨start, []⟩ = (start, ∅) := rfl
  rw [hstart] at hmembers
  rw [← hmembers]
  show (readMembers fields start members >>= Progress.finish fields).toOption = _
  rw [readMembers, toOption_bind, Option.bind_map]
  exact congrArg _ (funext (toOption_finish fields))

/-! ### Changes in another order -/

/-- Changes that the fields make can be made in either order. -/
def Independent (f g : RecordField σ) : Prop :=
  ∀ value other set set', f.reader.accepted value = some set →
    g.reader.accepted other = some set' → ∀ s, set (set' s) = set' (set s)

instance : Std.Symm (Independent (σ := σ)) where
  symm _ _ h value other set set' hset hset' s := (h other value set' set hset' hset s).symm

theorem independent_field {name name' : String} {presence presence' : Presence} {reader : Reader α}
    {reader' : Reader β} {set : α → σ → σ} {set' : β → σ → σ}
    (h : ∀ a b s, set a (set' b s) = set' b (set a s)) :
    Independent (field name presence reader set) (field name' presence' reader' set') := by
  intro value other change change' hchange hchange' s
  simp only [accepted, field, Reader.map, toOption_map, Option.map_eq_some_iff] at hchange hchange'
  obtain ⟨a, _, rfl⟩ := hchange
  obtain ⟨b, _, rfl⟩ := hchange'
  exact h a b s

theorem make_comm {change change' : Option (String × (σ → σ))}
    (h : ∀ name set name' set', change = some (name, set) → change' = some (name', set') →
      name ≠ name' → ∀ s, set (set' s) = set' (set s)) (reached : σ × Finset String) :
    (make reached change).bind (make · change') = (make reached change').bind (make · change) := by
  cases change with
  | none => exact (Option.bind_fun_some _).symm
  | some change =>
    cases change' with
    | none => exact Option.bind_fun_some _
    | some change' =>
      obtain ⟨s, seen⟩ := reached
      obtain ⟨name, set⟩ := change
      obtain ⟨name', set'⟩ := change'
      by_cases heq : name = name'
      · subst heq
        by_cases hname : name ∈ seen <;> simp [make, hname]
      · have hset := h name set name' set' rfl rfl heq s
        by_cases hname : name ∈ seen <;> by_cases hname' : name' ∈ seen <;>
          simp [make, hname, hname', heq, Ne.symm heq, hset, Finset.insert_comm]

/-- A change is made by a field of its name. -/
theorem exists_field_of_change? {fields : List (RecordField σ)} {member : Quotation × Value}
    {name : String} {set : σ → σ} (h : change? fields member = some (some (name, set))) :
    ∃ f ∈ fields, f.name = name ∧ f.reader.accepted member.2 = some set := by
  obtain ⟨key, _, hchange⟩ := Option.bind_eq_some_iff.1 h
  cases hfind : fields.find? fun f => f.name = key with
  | none => simp [hfind] at hchange
  | some f =>
    have hname : f.name = key := by simpa using List.find?_some hfind
    simp only [hfind, Option.map_eq_some_iff, Option.some.injEq, Prod.mk.injEq] at hchange
    obtain ⟨_, hread, hkey, rfl⟩ := hchange
    exact ⟨f, List.mem_of_find?_eq_some hfind, hname.trans hkey, hread⟩

theorem readInto_comm {fields : List (RecordField σ)} (h : fields.Pairwise Independent)
    (first second : Quotation × Value) (reached? : Option (σ × Finset String)) :
    readInto fields (readInto fields reached? first) second =
      readInto fields (readInto fields reached? second) first := by
  cases reached? with
  | none => rfl
  | some reached =>
    simp only [readInto, Option.bind_some]
    cases hfirst : change? fields first with
    | none => simp
    | some change =>
      cases hsecond : change? fields second with
      | none => simp
      | some change' =>
        simp only [Option.bind_some]
        refine make_comm ?_ reached
        rintro name set name' set' rfl rfl hne
        obtain ⟨f, hf, rfl, hset⟩ := exists_field_of_change? hfirst
        obtain ⟨g, hg, rfl, hset'⟩ := exists_field_of_change? hsecond
        have hfg : f ≠ g := fun heq => hne (congrArg RecordField.name heq)
        exact h.forall hf hg hfg _ _ _ _ hset hset'

/-! ### Records of the format -/

/-- The field stands for a member that the format names. -/
structure StandsFor (member : String × Shape) (f : RecordField σ) : Prop where
  name_eq : f.name = member.1
  overlooks : Overlooks member.2 f.reader

theorem standsFor_field {name : String} {shape : Shape} {presence : Presence} {reader : Reader α}
    {set : α → σ → σ} (h : Overlooks shape reader) :
    StandsFor (name, shape) (field name presence reader set) :=
  ⟨rfl, h.map set⟩

/-- Of fields that go with named things one by one, the field with a name goes with the thing of
this name. -/
theorem find?_rel_lookup {r : β → RecordField σ → Prop} {named : List (String × β)}
    {fields : List (RecordField σ)}
    (h : List.Forall₂ (fun member f => f.name = member.1 ∧ r member.2 f) named fields)
    (name : String) :
    Option.Rel r (named.lookup name) (fields.find? fun f => f.name = name) := by
  induction h with
  | nil => exact .none
  | @cons member f named fields hfirst _ ih =>
    obtain ⟨known, b⟩ := member
    obtain ⟨hname, hrel⟩ := hfirst
    by_cases heq : name = known
    · subst heq
      simp only [List.lookup_cons_self, List.find?_cons, hname, decide_true]
      exact .some hrel
    · have hlookup : (name == known) = false := by simpa using heq
      have hfind : ¬ f.name = name := fun h => heq (h.symm.trans hname)
      simpa [List.lookup_cons, List.find?_cons, hlookup, hfind] using ih

/-- The field with a name stands for the member with this name. -/
theorem find?_of_standsFor {part : Part} {fields : List (RecordField σ)}
    (h : List.Forall₂ StandsFor part.members fields) (name : String) :
    Option.Rel (fun shape f => Overlooks shape f.reader) (part.member? name)
      (fields.find? fun f => f.name = name) :=
  find?_rel_lookup (h.imp fun _ _ hstands => ⟨hstands.name_eq, hstands.overlooks⟩) name

theorem change?_of_unknown {part : Part} {fields : List (RecordField σ)}
    (h : List.Forall₂ StandsFor part.members fields) {key : Quotation} {name : String}
    (hkey : key.text = .ok name) (hname : part.member? name = none) (value : Value) :
    change? fields (key, value) = some none := by
  have hfield := find?_of_standsFor h name
  rw [hname] at hfield
  simp only [change?, hkey, Except.toOption, Option.bind_some]
  cases hfind : fields.find? fun f => f.name = name with
  | none => rfl
  | some f => rw [hfind] at hfield; cases hfield

theorem change?_eq_of_varies {part : Part} {fields : List (RecordField σ)}
    (h : List.Forall₂ StandsFor part.members fields) {key : Quotation} {value other : Value}
    (hvaries : (Shape.member (.record part) key).Varies value other) :
    change? fields (key, value) = change? fields (key, other) := by
  cases hkey : key.text with
  | error cause => simp only [change?, hkey, Except.toOption, Option.bind_none]
  | ok name =>
    have hfield := find?_of_standsFor h name
    simp only [change?, Shape.member, hkey, Except.toOption, Option.bind_some] at hvaries ⊢
    cases hmember : part.member? name with
    | none =>
      cases hfind : fields.find? fun f => f.name = name with
      | none => rfl
      | some f => rw [hmember, hfind] at hfield; cases hfield
    | some shape =>
      cases hfind : fields.find? fun f => f.name = name with
      | none => rfl
      | some f =>
        rw [hmember, hfind] at hfield
        rw [hmember, Option.getD_some] at hvaries
        cases hfield with
        | some hread => simp only [hread value other hvaries]

/-- **A record is decided by its fields.**  If these overlook what the format leaves open, and can
be read in any order, so does the record. -/
theorem overlooks_record {part : Part} {name : String} {fields : Nat → List (RecordField σ)}
    {start : σ} {depth : Nat}
    (h : ∀ below < depth, List.Forall₂ StandsFor part.members (fields below))
    (hindependent : ∀ below, (fields below).Pairwise Independent) :
    Overlooks (.record part) (record name (Report.within fields depth) start) := by
  intro value other hvaries
  cases depth with
  | zero => cases hvaries <;> rfl
  | succ below =>
    have hfields := h below (by omega)
    cases hvaries with
    | item _ _ hshape => exact absurd rfl (hshape part)
    | order hperm =>
      rw [Report.within, accepted_record, accepted_record, hperm.foldl_eq'
        fun first _ second _ reached? => readInto_comm (hindependent below) first second reached?]
    | @extra _ before after key name value hkey hname =>
      have hunknown : ∀ reached?, readInto (fields below) reached? (key, value) = reached? := by
        intro reached?
        rw [readInto, change?_of_unknown hfields hkey hname]
        cases reached? <;> rfl
      rw [Report.within, accepted_record, accepted_record, List.foldl_append, List.foldl_append,
        List.foldl_cons, hunknown]
    | @member _ before after key value other hmember =>
      have hchange := change?_eq_of_varies hfields hmember
      have hread : ∀ reached?, readInto (fields below) reached? (key, value) =
          readInto (fields below) reached? (key, other) := by
        intro reached?
        rw [readInto, readInto, hchange]
      rw [Report.within, accepted_record, accepted_record, List.foldl_append, List.foldl_append,
        List.foldl_cons, List.foldl_cons, hread]

end Reader

end ManifestSarif.Json
