import ManifestSarif.Proofs.KeyMapEntries
import ManifestSarif.Proofs.ReportRendering
import ManifestSarif.Report.Reader
import Mathlib.Data.List.Pairwise
import Mathlib.Data.List.Perm.Basic

/-!
# Reading back what was written

A reader accepts a rendering when it makes data of each value that stands for the data.  Lists, maps
and records are accepted if their parts are.

* `Accepts` is the relation of readers and renderings, bounded by the nesting that is left.
* `accepts_list`, `accepts_keyed` and `accepts_record` are the containers, `accepts_text` to
  `accepts_count` the scalars.
* A record is read by folding one change for each member.  The changes of different fields commute,
  so the order of the members does not matter (`complete_record`).
-/

namespace ManifestSarif.Json.Reader

variable {α σ : Type}

/-- The reader makes `a` of each value that stands for `a` and nests no deeper than `depth`. -/
def Accepts (reader : Reader α) (rendering : α → Value → Prop) (depth : Nat) : Prop :=
  ∀ a value, rendering a value → value.depth ≤ depth →
    value ≠ .null ∧ reader.complete value = .ok a

/-! ## Scalars -/

theorem read_of_spells {pieces : Quotation} {chars : List Char} (h : pieces.Spells chars) :
    Quotation.read none pieces = .ok chars := by
  induction h with
  | nil => rfl
  | char h ih => simp [Quotation.read, ih, Except.map]
  | @unit c pieces chars hc h ih =>
    have hvalid : c.toNat < 0xd800 ∨ 0xdfff < c.toNat := c.valid.imp_right And.left
    rw [Quotation.read.eq_def]
    simp [hvalid, ih, Except.map, Char.ofNat_toNat]
  | @surrogates c pieces chars hc h ih =>
    have hbound : c.toNat < 0x110000 := by
      have hvalid : c.toNat < 0xd800 ∨ 0xdfff < c.toNat ∧ c.toNat < 0x110000 := c.valid
      omega
    have hleading : ¬ (0xd800 + (c.toNat - 0x10000) / 0x400 < 0xd800 ∨
        0xdfff < 0xd800 + (c.toNat - 0x10000) / 0x400) := by omega
    have hnotTrailing : ¬ 0xdc00 ≤ 0xd800 + (c.toNat - 0x10000) / 0x400 := by omega
    have htrailing : 0xdc00 ≤ 0xdc00 + (c.toNat - 0x10000) % 0x400 ∧
        0xdc00 + (c.toNat - 0x10000) % 0x400 ≤ 0xdfff := by omega
    have hpair : 0x10000 + (0xd800 + (c.toNat - 0x10000) / 0x400 - 0xd800) * 0x400 +
        (0xdc00 + (c.toNat - 0x10000) % 0x400 - 0xdc00) = c.toNat := by omega
    rw [Quotation.read, if_neg hleading, if_neg hnotTrailing]
    simp only [if_pos htrailing, hpair, ih, Except.map, Char.ofNat_toNat]

theorem text_of_spells {pieces : Quotation} {s : String} (h : pieces.Spells s.toList) :
    pieces.text = .ok s := by
  simp [Quotation.text, read_of_spells h, Except.map]

theorem readKey_of_spells {key : Quotation} {name : String} (h : key.Spells name.toList) :
    readKey key = .ok name := by
  rw [readKey, text_of_spells h]
  rfl

theorem accepts_text (depth : Nat) : Accepts text Rendering.text depth := by
  rintro s _ ⟨pieces, rfl, h⟩ -
  exact ⟨by simp, by simp only [text, text_of_spells h]; rfl⟩

theorem accepts_bool (depth : Nat) : Accepts bool Rendering.bool depth := by
  rintro b _ rfl -
  exact ⟨by simp, rfl⟩

theorem accepts_count (depth : Nat) : Accepts count Rendering.count depth := by
  rintro n _ rfl -
  have hvalue : Decimal.digitsValue (Nat.toDigits 10 n.toNat) = n.toNat :=
    Nat.ofDigitChars_toDigits (by omega) (by omega)
  have hbound : n.toNat < wordCount := n.toNat_lt
  refine ⟨by simp, ?_⟩
  simp [count, Numeral.number?, hvalue, hbound, countOf, Except.mapError]

/-! ## Lists and maps -/

/-- The parts of a container are accepted where less may nest. -/
def AcceptsBelow (reader : Nat → Reader α) (rendering : α → Value → Prop) (depth : Nat) : Prop :=
  ∀ below < depth, Accepts (reader below) rendering below

theorem readItems_eq_ok {reader : Reader α} {rendering : α → Value → Prop} {depth : Nat}
    (hreader : Accepts reader rendering depth) {items : List α} {values : List Value}
    (h : List.Forall₂ rendering items values) (hdepth : ∀ value ∈ values, value.depth ≤ depth)
    (index : Nat) : readItems reader index values = .ok items := by
  induction h generalizing index with
  | nil => rfl
  | @cons item value items values hitem _ ih =>
    have hvalue := (hreader item value hitem (hdepth value List.mem_cons_self)).2
    have hrest := ih (fun value hvalue => hdepth value (List.mem_cons_of_mem _ hvalue)) (index + 1)
    simp [readItems, hvalue, hrest, Except.mapError, bind, Except.bind, pure, Except.pure]

theorem accepts_list {reader : Nat → Reader α} {rendering : α → Value → Prop} {depth : Nat}
    (hreader : AcceptsBelow reader rendering depth) :
    Accepts (list (Report.within reader depth)) (Rendering.list rendering) depth := by
  rintro items _ ⟨values, rfl, h⟩ hdepth
  refine ⟨by simp, ?_⟩
  cases depth with
  | zero => exact absurd hdepth (by simp [Value.depth])
  | succ below =>
    have hvalues : ∀ value ∈ values, value.depth ≤ below := by
      intro value hvalue
      have := Value.depth_lt_of_mem_items hvalue
      omega
    exact readItems_eq_ok (hreader below (by omega)) h hvalues 0

theorem readEntries_eq_ok {reader : Reader α} {rendering : α → Value → Prop} {depth : Nat}
    (hreader : Accepts reader rendering depth) {entries : List (String × α)}
    {members : List (Quotation × Value)}
    (h : List.Forall₂
      (fun entry member => member.1.Spells entry.1.toList ∧ rendering entry.2 member.2)
      entries members)
    (hdepth : ∀ member ∈ members, member.2.depth ≤ depth) :
    readEntries reader members = .ok entries := by
  induction h with
  | nil => rfl
  | @cons entry member entries members hentry _ ih =>
    obtain ⟨key, value⟩ := member
    have hvalue := (hreader entry.2 value hentry.2 (hdepth _ List.mem_cons_self)).2
    have hrest := ih fun member hmember => hdepth member (List.mem_cons_of_mem _ hmember)
    simp [readEntries, readKey_of_spells hentry.1, hvalue, hrest, Except.mapError, bind,
      Except.bind, pure, Except.pure]

theorem accepts_keyed {reader : Nat → Reader α} {rendering : α → Value → Prop} {depth : Nat}
    (hreader : AcceptsBelow reader rendering depth) :
    Accepts (keyed (Report.within reader depth)) (Rendering.keyed rendering) depth := by
  rintro m _ ⟨entries, members, rfl, hperm, h⟩ hdepth
  refine ⟨by simp, ?_⟩
  cases depth with
  | zero => exact absurd hdepth (by simp [Value.depth])
  | succ below =>
    have hvalues : ∀ member ∈ members, member.2.depth ≤ below := by
      intro member hmember
      have := Value.depth_lt_of_mem_members hmember
      omega
    have hread := readEntries_eq_ok (hreader below (by omega)) h hvalues
    simp [keyed, Report.within, hread, Except.map, KeyMap.ofList_of_perm hperm]

/-! ## Records -/

/-- Reading the member by the field makes the change `set`, and leaving the member out, if that is
possible, changes nothing. -/
structure Reads (depth : Nat) (start : σ) (field : RecordField σ) (member : Rendering.Member)
    (set : σ → σ) : Prop where
  name_eq : field.name = member.name
  complete : ∀ value, member.value value → value.depth ≤ depth →
    field.reader.complete value = .ok set
  absent : member.absent = true → field.presence ≠ .required ∧ set start = start

theorem reads_member {reader : Reader α} {rendering : α → Value → Prop} {depth : Nat} {start : σ}
    {name : String} {presence : Presence} {set : α → σ → σ} {a : α}
    (hreader : Accepts reader rendering depth) :
    Reads depth start (field name presence reader set) (Rendering.member name (rendering a))
      (set a) where
  name_eq := rfl
  complete value hvalue hdepth := by
    simp [field, map, (hreader a value hvalue hdepth).2, Except.map]
  absent h := by cases h

theorem reads_member? {reader : Reader α} {rendering : α → Value → Prop} {depth : Nat} {start : σ}
    {name : String} {set : Option α → σ → σ} {a? : Option α}
    (hreader : Accepts reader rendering depth) (hstart : set none start = start) :
    Reads depth start (field name .optional (Reader.optional reader) set)
      (Rendering.member? name (a?.map rendering)) (set a?) := by
  cases a? with
  | none =>
    refine ⟨rfl, ?_, fun _ => ⟨by simp [field], hstart⟩⟩
    rintro _ rfl -
    rfl
  | some a =>
    refine ⟨rfl, fun value hvalue hdepth => ?_, by simp [Rendering.member?]⟩
    obtain ⟨hnull, hread⟩ := hreader a value hvalue hdepth
    cases value <;> simp_all [field, map, Reader.optional, Except.map]

/-- Some field reads the member. -/
def ReadBy (depth : Nat) (start : σ) (fields : List (RecordField σ)) (member : Rendering.Member)
    (set : σ → σ) : Prop :=
  ∃ field ∈ fields, Reads depth start field member set

/-- The members stand for the fields, one for each. -/
inductive ReadsAll (depth : Nat) (start : σ) :
    List (RecordField σ) → List Rendering.Member → List (σ → σ) → Prop where
  | nil : ReadsAll depth start [] [] []
  | cons {field : RecordField σ} {fields : List (RecordField σ)} {member : Rendering.Member}
      {members : List Rendering.Member} {set : σ → σ} {sets : List (σ → σ)}
      (h : Reads depth start field member set) (hrest : ReadsAll depth start fields members sets) :
      ReadsAll depth start (field :: fields) (member :: members) (set :: sets)

variable {depth : Nat} {start : σ} {fields : List (RecordField σ)} {members : List Rendering.Member}
  {sets : List (σ → σ)}

/-- Every member is read by some field. -/
theorem ReadsAll.forall₂ (h : ReadsAll depth start fields members sets) :
    List.Forall₂ (ReadBy depth start fields) members sets := by
  induction h with
  | nil => exact .nil
  | cons hfirst _ ih =>
    refine .cons ⟨_, List.mem_cons_self, hfirst⟩ (ih.imp ?_)
    rintro member set ⟨field, hmem, hreads⟩
    exact ⟨field, List.mem_cons_of_mem _ hmem, hreads⟩

/-- The members have the names of the fields. -/
theorem ReadsAll.map_name (h : ReadsAll depth start fields members sets) :
    members.map (·.name) = fields.map (·.name) := by
  induction h with
  | nil => rfl
  | cons hfirst _ ih => rw [List.map_cons, List.map_cons, ih, hfirst.name_eq]

/-- A field that must be there has a member that is not left out. -/
theorem ReadsAll.exists_of_required (h : ReadsAll depth start fields members sets)
    {field : RecordField σ} (hfield : field ∈ fields) (hrequired : field.presence = .required) :
    ∃ member ∈ members, member.name = field.name ∧ ¬ member.absent = true := by
  induction h with
  | nil => cases hfield
  | cons hfirst _ ih =>
    rcases List.mem_cons.1 hfield with rfl | hfield
    · exact ⟨_, List.mem_cons_self, hfirst.name_eq.symm, fun habsent =>
        (hfirst.absent habsent).1 hrequired⟩
    · obtain ⟨member, hmember, h⟩ := ih hfield
      exact ⟨member, List.mem_cons_of_mem _ hmember, h⟩

theorem fieldFor_eq_some {progress : Progress σ} {field : RecordField σ}
    (hnames : (fields.map (·.name)).Nodup) (hfield : field ∈ fields)
    (hnew : field.name ∉ progress.seen) :
    progress.fieldFor fields field.name = .ok (some field) := by
  have hfind : fields.find? (fun f => f.name = field.name) = some field := by
    induction fields with
    | nil => cases hfield
    | cons first fields ih =>
      simp only [List.map_cons, List.nodup_cons] at hnames
      rcases List.mem_cons.1 hfield with rfl | hfield
      · simp
      · have hne : first.name ≠ field.name := by
          intro heq
          exact hnames.1 (heq ▸ List.mem_map_of_mem hfield)
        simp [hne, ih hnames.2 hfield]
  simp [Progress.fieldFor, hfind, hnew]

/-- Reading a member makes its change. -/
theorem readMember_eq_ok (hnames : (fields.map (·.name)).Nodup) {member : Rendering.Member}
    {set : σ → σ} (hset : ReadBy depth start fields member set) {value : Quotation × Value}
    (hkey : value.1.Spells member.name.toList) (hvalue : member.value value.2)
    (hdepth : value.2.depth ≤ depth) {progress : Progress σ} (hnew : member.name ∉ progress.seen) :
    readMember fields progress value =
      .ok ⟨set progress.state, member.name :: progress.seen⟩ := by
  obtain ⟨field, hfield, hreads⟩ := hset
  have hfieldFor : progress.fieldFor fields member.name = .ok (some field) := by
    rw [← hreads.name_eq] at hnew ⊢
    exact fieldFor_eq_some hnames hfield hnew
  have hcomplete := hreads.complete value.2 hvalue hdepth
  simp [readMember, readKey_of_spells hkey, hfieldFor, hcomplete, Except.mapError, bind,
    Except.bind, pure, Except.pure]

/-- Reading members makes their changes one after the other. -/
theorem readMembers_eq_ok (hnames : (fields.map (·.name)).Nodup)
    {values : List (Quotation × Value)}
    (hsets : List.Forall₂ (ReadBy depth start fields) members sets)
    (hvalues : List.Forall₂
      (fun member value => value.1.Spells member.name.toList ∧ member.value value.2)
      members values)
    (hdepth : ∀ value ∈ values, value.2.depth ≤ depth) (progress : Progress σ)
    (hnew : (members.map (·.name) ++ progress.seen).Nodup) :
    values.foldlM (readMember fields) progress =
      .ok ⟨sets.foldl (fun s set => set s) progress.state,
        (members.map (·.name)).reverse ++ progress.seen⟩ := by
  induction hsets generalizing values progress with
  | nil =>
    cases hvalues
    rfl
  | @cons member set members sets hset _ ih =>
    cases hvalues with
    | @cons _ value _ values hvalue hvalues =>
      simp only [List.map_cons, List.cons_append, List.nodup_cons, List.mem_append, not_or] at hnew
      have hstep := readMember_eq_ok hnames hset hvalue.1 hvalue.2
        (hdepth value List.mem_cons_self) hnew.1.2
      have hrest := ih hvalues (fun value hvalue => hdepth value (List.mem_cons_of_mem _ hvalue))
        ⟨set progress.state, member.name :: progress.seen⟩
        (List.nodup_middle.2 (List.nodup_cons.2 ⟨by simpa using hnew.1, hnew.2⟩))
      rw [List.foldlM_cons, hstep]
      simpa [bind, Except.bind] using hrest

/-- The changes can be made in any order. -/
def AllCommute (sets : List (σ → σ)) : Prop :=
  sets.Pairwise fun f g => ∀ s, f (g s) = g (f s)

theorem foldl_eq_of_perm {sets' : List (σ → σ)} (hperm : sets.Perm sets')
    (hcommute : AllCommute sets) (s : σ) :
    sets.foldl (fun s set => set s) s = sets'.foldl (fun s set => set s) s := by
  have hsymm : Std.Symm fun f g : σ → σ => ∀ s, f (g s) = g (f s) :=
    ⟨fun f g h s => (h s).symm⟩
  refine hperm.foldl_eq' (fun f hf g hg s => ?_) s
  exact (hcommute.forall_of_forall (fun f _ s => rfl) hf hg s).symm

/-- Members that are left out would change nothing. -/
theorem foldl_omitted (h : List.Forall₂ (ReadBy depth start fields) members sets)
    (habsent : ∀ member ∈ members, member.absent = true) :
    sets.foldl (fun s set => set s) start = start := by
  induction h with
  | nil => rfl
  | @cons member set members sets hset _ ih =>
    obtain ⟨field, _, hreads⟩ := hset
    have hstart := (hreads.absent (habsent member List.mem_cons_self)).2
    rw [List.foldl_cons, hstart]
    exact ih fun member hmember => habsent member (List.mem_cons_of_mem _ hmember)

variable {written omitted : List Rendering.Member}

/-- The members that are written make all the changes, in whatever order they are written. -/
theorem exists_sets_of_written (hreads : ReadsAll depth start fields members sets)
    (hcommute : AllCommute sets) (hperm : (written ++ omitted).Perm members)
    (homitted : ∀ member ∈ omitted, member.absent = true) :
    ∃ writtenSets, List.Forall₂ (ReadBy depth start fields) written writtenSets ∧
      writtenSets.foldl (fun s set => set s) start = sets.foldl (fun s set => set s) start := by
  obtain ⟨all, hall, hallPerm⟩ := List.perm_comp_forall₂ hperm hreads.forall₂
  have hwritten := (List.forall₂_take_append all written omitted hall.flip).flip
  have hleft := (List.forall₂_drop_append all written omitted hall.flip).flip
  refine ⟨all.take written.length, hwritten, ?_⟩
  have hreordered : (all.drop written.length ++ all.take written.length).Perm sets := by
    refine List.perm_append_comm.trans ?_
    rwa [List.take_append_drop]
  rw [foldl_eq_of_perm hreordered.symm hcommute, List.foldl_append, foldl_omitted hleft homitted]

/-- No member is left out that must be there. -/
theorem mem_written_of_required (hreads : ReadsAll depth start fields members sets)
    (hperm : (written ++ omitted).Perm members)
    (homitted : ∀ member ∈ omitted, member.absent = true) {field : RecordField σ}
    (hfield : field ∈ fields) (hrequired : field.presence = .required) :
    field.name ∈ written.map (·.name) := by
  obtain ⟨member, hmember, hname, hkept⟩ := hreads.exists_of_required hfield hrequired
  rcases List.mem_append.1 (hperm.mem_iff.2 hmember) with hwritten | hleft
  · exact hname ▸ List.mem_map_of_mem hwritten
  · exact absurd (homitted member hleft) hkept

/-- **A record is read back from an object of its members**, in whatever order they are written. -/
theorem complete_record {name : String} {target : σ} (hnames : (fields.map (·.name)).Nodup)
    (hreads : ReadsAll depth start fields members sets) (hcommute : AllCommute sets)
    (htarget : sets.foldl (fun s set => set s) start = target) {value : Value}
    (h : Rendering.object members value) (hdepth : value.depth ≤ depth + 1) :
    (record name (some fields) start).complete value = .ok target := by
  obtain ⟨written, omitted, values, rfl, hperm, homitted, hvalues⟩ := h
  obtain ⟨writtenSets, hsets, hstate⟩ := exists_sets_of_written hreads hcommute hperm homitted
  have hbelow : ∀ value ∈ values, value.2.depth ≤ depth := by
    intro value hvalue
    have := Value.depth_lt_of_mem_members hvalue
    omega
  have hwrittenNames : (written.map (·.name)).Nodup := by
    rw [← hreads.map_name, ← (hperm.map _).nodup_iff, List.map_append] at hnames
    exact hnames.of_append_left
  have hmembers := readMembers_eq_ok hnames hsets hvalues hbelow ⟨start, []⟩
    (by simpa using hwrittenNames)
  have hfinish : fields.find? (fun f => f.presence = .required ∧
      f.name ∉ (written.map (·.name)).reverse ++ []) = none := by
    rw [List.find?_eq_none]
    intro field hfield
    simpa using mem_written_of_required hreads hperm homitted hfield
  simp only [record, readMembers, hmembers, bind, Except.bind, Progress.finish, hfinish, hstate,
    htarget]

/-- A record is accepted if its fields read its members. -/
theorem accepts_record {name : String} {fields : Nat → List (RecordField σ)} {start : σ}
    {members : σ → List Rendering.Member} {depth : Nat}
    (hnames : ∀ below, ((fields below).map (·.name)).Nodup)
    (h : ∀ below < depth, ∀ target, ∃ sets,
      ReadsAll below start (fields below) (members target) sets ∧ AllCommute sets ∧
        sets.foldl (fun s set => set s) start = target) :
    Accepts (record name (Report.within fields depth) start)
      (fun target => Rendering.object (members target)) depth := by
  intro target value hvalue hdepth
  have hnull : value ≠ .null := by
    obtain ⟨_, _, _, rfl, _⟩ := hvalue
    simp
  refine ⟨hnull, ?_⟩
  cases depth with
  | zero =>
    obtain ⟨_, _, _, rfl, _⟩ := hvalue
    exact absurd hdepth (by simp [Value.depth])
  | succ below =>
    obtain ⟨sets, hreads, hcommute, htarget⟩ := h below (by omega) target
    exact complete_record (hnames below) hreads hcommute htarget hvalue hdepth

end ManifestSarif.Json.Reader
