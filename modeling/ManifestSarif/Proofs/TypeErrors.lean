import ManifestSarif.Proofs.AcceptedData
import ManifestSarif.Proofs.KnownMembers
import ManifestSarif.Proofs.ReadScalars
import ManifestSarif.Proofs.TypedPlaces

/-!
# A scalar out of place is reported at its place

When a place of a report holds a scalar that it does not take, the report is refused with the path
of exactly this place.

* `Reader.Blames` says that of the reader of one type: what it accepts before the place, it still
  accepts.  `blames_list`, `blames_keyed` and `blames_record` hand it on from the parts of a
  container.
* `blames_issue`, `blames_dependency`, `blames_provider` and their kin: each reader of the format
  does so.  Dependencies nest, so theirs is by induction on the nesting that is left.
* `spoiled_place_is_named` is the result.
-/

namespace ManifestSarif

namespace ReportFormat.Form

open Json

/-- Scalars have no places inside. -/
theorem Spoiled.not_isScalar {form : Form} {path : List Step} {value other : Value}
    (h : form.Spoiled path value other) (hpath : path ≠ []) :
    ¬ IsScalar value ∧ ¬ IsScalar other := by
  induction h with
  | here => exact absurd rfl hpath
  | optional _ ih => exact ih hpath
  | item | entry | member => exact ⟨id, id⟩

/-- Each step to a place is known. -/
theorem Spoiled.unknown_not_mem {form : Form} {path : List Step} {value other : Value}
    (h : form.Spoiled path value other) : .unknown ∉ path := by
  induction h with
  | here => simp
  | optional _ ih => exact ih
  | item _ _ _ ih | entry _ _ _ _ ih | member _ _ _ _ _ ih => simp [ih]

end ReportFormat.Form

namespace Json

variable {α β σ : Type}

namespace Reader

open ReportFormat Rendering

/-! ## Places -/

/-- A scalar that a place does not take is refused there, in the value itself and at each place
inside a value that is accepted without it. -/
structure Blames (form : Form) (reader : Reader α) : Prop where
  refuses : ∀ scalar, IsScalar scalar → Writable scalar → ¬ form.Takes scalar →
    ∃ cause, reader.complete scalar = .error (.here cause)
  inside : ∀ step path value other a, reader.complete value = .ok a →
    form.Spoiled (step :: path) value other → Writable other →
    ∃ cause, reader.complete other = .error ⟨step :: path, cause⟩

/-- At whatever place of an accepted value the scalar stands. -/
theorem Blames.refused {form : Form} {reader : Reader α} (h : Blames form reader)
    {path : List Step} {value other : Value} {a : α} (hread : reader.complete value = .ok a)
    (hspoiled : form.Spoiled path value other) (hwritten : Writable other) :
    ∃ cause, reader.complete other = .error ⟨path, cause⟩ := by
  cases path with
  | nil =>
    cases hspoiled with
    | here hscalar hrefused => exact h.refuses _ hscalar hwritten hrefused
  | cons step path => exact h.inside step path value other a hread hspoiled hwritten

theorem Blames.map {form : Form} {reader : Reader α} (h : Blames form reader) (f : α → β) :
    Blames form (reader.map f) where
  refuses scalar hscalar hwritten hrefused := by
    obtain ⟨cause, hcause⟩ := h.refuses scalar hscalar hwritten hrefused
    exact ⟨cause, by simp only [Reader.map, hcause, Except.map]⟩
  inside step path value other b hread hspoiled hwritten := by
    obtain ⟨a, hread, _⟩ := map_eq_ok.1 hread
    obtain ⟨cause, hcause⟩ := h.inside step path value other a hread hspoiled hwritten
    exact ⟨cause, by simp only [Reader.map, hcause, Except.map]⟩

theorem Blames.optional {form : Form} {reader : Reader α} (h : Blames form reader) :
    Blames (.optional form) (Reader.optional reader) where
  refuses scalar hscalar hwritten hrefused := by
    obtain ⟨hnull, hrefused⟩ := not_or.1 hrefused
    rw [complete_optional hnull]
    exact (h.map some).refuses scalar hscalar hwritten hrefused
  inside step path value other a hread hspoiled hwritten := by
    cases hspoiled with
    | optional hspoiled =>
      obtain ⟨hvalue, hother⟩ := hspoiled.not_isScalar (List.cons_ne_nil step path)
      have hnull : ∀ {value : Value}, ¬ IsScalar value → value ≠ .null := by
        rintro value hvalue rfl
        exact hvalue trivial
      rw [complete_optional (hnull hvalue)] at hread
      rw [complete_optional (hnull hother)]
      exact (h.map some).inside step path value other a hread hspoiled hwritten

/-! ## Scalars -/

theorem blames_text : Blames .text text where
  refuses _ _ hwritten hrefused := text_refuses hwritten hrefused
  inside _ _ _ _ _ _ hspoiled := by cases hspoiled

theorem blames_bool : Blames .truth bool where
  refuses _ _ _ hrefused := bool_refuses hrefused
  inside _ _ _ _ _ _ hspoiled := by cases hspoiled

theorem blames_count : Blames .count count where
  refuses _ _ hwritten hrefused := count_refuses hwritten hrefused
  inside _ _ _ _ _ _ hspoiled := by cases hspoiled

/-! ## Lists -/

/-- A problem of an item is a problem of the list, once the items before it are accepted. -/
theorem readItems_refuses {reader : Reader α} (before : List Value) {item : Value}
    {after : List Value} {index : Nat} {as : List α}
    (hread : readItems reader index (before ++ item :: after) = .ok as) :
    (∃ a, reader.complete item = .ok a) ∧
    ∀ other failure, reader.complete other = .error failure →
      readItems reader index (before ++ other :: after) =
        .error (failure.under (.index (index + before.length))) := by
  induction before generalizing index as with
  | nil =>
    obtain ⟨a, hitem, _⟩ := bind_eq_ok.1 hread
    refine ⟨⟨a, mapError_eq_ok.1 hitem⟩, fun other failure hother => ?_⟩
    rw [List.nil_append, readItems, hother]
    rfl
  | cons first before ih =>
    obtain ⟨a, hfirst, hread⟩ := bind_eq_ok.1 hread
    obtain ⟨more, hmore, _⟩ := bind_eq_ok.1 hread
    obtain ⟨hitem, hrefuses⟩ := ih hmore
    refine ⟨hitem, fun other failure hother => ?_⟩
    rw [List.cons_append, readItems, hfirst, hrefuses other failure hother, List.length_cons,
      Nat.add_right_comm, Nat.add_assoc]
    rfl

theorem blames_list {reader : Nat → Reader α} {form : Form} {depth : Nat}
    (h : ∀ below < depth, Blames form (reader below)) :
    Blames (.list form) (list (Report.within reader depth)) where
  refuses scalar hscalar _ _ := by
    cases scalar with
    | array | object => exact absurd hscalar id
    | _ => exact ⟨_, rfl⟩
  inside step path value other as hread hspoiled hwritten := by
    cases depth with
    | zero => cases hspoiled; cases hread
    | succ below =>
      cases hspoiled with
      | @item _ _ item other before after hspoiled =>
        obtain ⟨⟨a, hitem⟩, hrefuses⟩ := readItems_refuses before hread
        obtain ⟨cause, hcause⟩ :=
          (h below (by omega)).refused hitem hspoiled (hwritten.item (by simp))
        have hlist := hrefuses other _ hcause
        rw [Nat.zero_add] at hlist
        exact ⟨cause, hlist⟩

/-! ## Maps -/

/-- A problem of an entry is a problem of the map, once the entries before it are accepted. -/
theorem readEntries_refuses {reader : Reader α} (before : List (Quotation × Value))
    {key : Quotation} {name : String} (hkey : key.Spells name.toList) {value : Value}
    {after : List (Quotation × Value)} {as : List (String × α)}
    (hread : readEntries reader (before ++ (key, value) :: after) = .ok as) :
    (∃ a, reader.complete value = .ok a) ∧
    ∀ other failure, reader.complete other = .error failure →
      readEntries reader (before ++ (key, other) :: after) =
        .error (failure.under (.key name)) := by
  induction before generalizing as with
  | nil =>
    obtain ⟨_, _, hread⟩ := bind_eq_ok.1 hread
    obtain ⟨a, hvalue, _⟩ := bind_eq_ok.1 hread
    refine ⟨⟨a, mapError_eq_ok.1 hvalue⟩, fun other failure hother => ?_⟩
    rw [List.nil_append, readEntries, readKey_of_spells hkey, hother]
    rfl
  | cons first before ih =>
    obtain ⟨firstName, hname, hread⟩ := bind_eq_ok.1 hread
    obtain ⟨a, hfirst, hread⟩ := bind_eq_ok.1 hread
    obtain ⟨more, hmore, _⟩ := bind_eq_ok.1 hread
    obtain ⟨hvalue, hrefuses⟩ := ih hmore
    refine ⟨hvalue, fun other failure hother => ?_⟩
    simp only [List.cons_append, readEntries, hname, hfirst, hrefuses other failure hother, bind,
      Except.bind]

theorem blames_keyed {reader : Nat → Reader α} {form : Form} {depth : Nat}
    (h : ∀ below < depth, Blames form (reader below)) :
    Blames (.map form) (keyed (Report.within reader depth)) where
  refuses scalar hscalar _ _ := by
    cases scalar with
    | array | object => exact absurd hscalar id
    | _ => exact ⟨_, rfl⟩
  inside step path value other m hread hspoiled hwritten := by
    cases depth with
    | zero => cases hspoiled; cases hread
    | succ below =>
      cases hspoiled with
      | @entry _ _ value other before after key name hkey hspoiled =>
        obtain ⟨entries, hentries, _⟩ := map_eq_ok.1 hread
        obtain ⟨⟨a, hvalue⟩, hrefuses⟩ := readEntries_refuses before hkey hentries
        have hother : Writable other :=
          hwritten.member (List.mem_append_right before List.mem_cons_self)
        obtain ⟨cause, hcause⟩ := (h below (by omega)).refused hvalue hspoiled hother
        refine ⟨cause, ?_⟩
        simp only [Report.within, keyed, hrefuses other _ hcause]
        rfl

/-! ## Records -/

/-- A field of the format blames the places inside its member. -/
theorem blames_field {name : String} {form : Form} {presence : Presence} {reader : Reader α}
    {set : α → σ → σ} (h : Blames form reader) :
    (field name presence reader set).name = name ∧
      Blames form (field name presence reader set).reader :=
  ⟨rfl, h.map set⟩

/-- A member with the name of a field is read by this field, if it is accepted. -/
theorem readMember_refuses {fields : List (RecordField σ)} {f : RecordField σ} {key : Quotation}
    {name : String} (hkey : key.Spells name.toList)
    (hfind : fields.find? (fun f => f.name = name) = some f) {progress next : Progress σ}
    {value : Value} (hread : readMember fields progress (key, value) = .ok next) :
    (∃ set, f.reader.complete value = .ok set) ∧
    ∀ other failure, f.reader.complete other = .error failure →
      readMember fields progress (key, other) = .error (failure.under (.key name)) := by
  have hkey := readKey_of_spells hkey
  by_cases hseen : name ∈ progress.seen
  · simp [readMember, hkey, Progress.fieldFor, hfind, hseen, bind, Except.bind] at hread
  · constructor
    · cases hvalue : f.reader.complete value with
      | ok set => exact ⟨set, rfl⟩
      | error failure =>
        simp [readMember, hkey, Progress.fieldFor, hfind, hseen, hvalue, bind, Except.bind,
          Except.mapError] at hread
    · intro other failure hother
      simp [readMember, hkey, Progress.fieldFor, hfind, hseen, hother, bind, Except.bind,
        Except.mapError]

/-- A record is accepted only if each of its members was. -/
theorem exists_progress {name : String} {fields : List (RecordField σ)} {start s : σ}
    {before : List (Quotation × Value)} {member : Quotation × Value}
    {after : List (Quotation × Value)}
    (h : (record name (some fields) start).complete (.object (before ++ member :: after)) =
      .ok s) :
    ∃ progress next, before.foldlM (readMember fields) ⟨start, []⟩ = .ok progress ∧
      readMember fields progress member = .ok next := by
  obtain ⟨last, hmembers, _⟩ := bind_eq_ok.1 h
  rw [readMembers, List.foldlM_append] at hmembers
  obtain ⟨progress, hbefore, hmembers⟩ := bind_eq_ok.1 hmembers
  obtain ⟨next, hmember, _⟩ := bind_eq_ok.1 hmembers
  exact ⟨progress, next, hbefore, hmember⟩

theorem blames_record {part : Part} {name : String} {fields : Nat → List (RecordField σ)}
    {start : σ} {depth : Nat}
    (h : ∀ below < depth, List.Forall₂
      (fun member f => f.name = member.1 ∧ Blames member.2 f.reader) part.forms (fields below)) :
    Blames (.record part) (record name (Report.within fields depth) start) where
  refuses scalar hscalar _ _ := by
    cases scalar with
    | array | object => exact absurd hscalar id
    | _ => exact ⟨_, rfl⟩
  inside step path value other s hread hspoiled hwritten := by
    cases depth with
    | zero => cases hspoiled; cases hread
    | succ below =>
      cases hspoiled with
      | @member _ form _ value other before after key name hkey hform hspoiled =>
        obtain ⟨progress, next, hbefore, hmember⟩ := exists_progress hread
        have hfield := @find?_rel_lookup Form σ (fun form f => Blames form f.reader) _ _
          (h below (by omega)) name
        rw [← Part.form?, hform] at hfield
        cases hfind : (fields below).find? (fun f => f.name = name) with
        | none =>
          rw [hfind] at hfield
          cases hfield
        | some f =>
          rw [hfind] at hfield
          cases hfield with
          | some hblames =>
            obtain ⟨⟨set, hvalue⟩, hrefuses⟩ := readMember_refuses hkey hfind hmember
            have hother : Writable other :=
              hwritten.member (List.mem_append_right before List.mem_cons_self)
            obtain ⟨cause, hcause⟩ := hblames.refused hvalue hspoiled hother
            refine ⟨cause, ?_⟩
            simp only [Report.within, record, readMembers, List.foldlM_append, List.foldlM_cons,
              hbefore, bind, Except.bind, hrefuses other _ hcause]
            rfl

end Reader

end Json

namespace Report

open Json Json.Reader ReportFormat

/-! ## Issues -/

theorem blames_trustedContent (depth : Nat) :
    Blames (.record .trustedContent) (trustedContent depth) :=
  blames_record fun _ _ => .cons (blames_field blames_text) .nil

theorem blames_remediation (depth : Nat) : Blames (.record .remediation) (remediation depth) :=
  blames_record fun below _ => .cons (blames_field (blames_trustedContent below).optional) .nil

theorem blames_cvss (depth : Nat) : Blames (.record .cvss) (cvss depth) :=
  blames_record fun _ _ => .cons (blames_field blames_text.optional) .nil

theorem blames_issue (depth : Nat) : Blames (.record .issue) (issue depth) :=
  blames_record fun below _ =>
    .cons (blames_field blames_text) <|
    .cons (blames_field blames_text) <|
    .cons (blames_field blames_text) <|
    .cons (blames_field (blames_list fun _ _ => blames_text).optional) <|
    .cons (blames_field (blames_cvss below).optional) <|
    .cons (blames_field (blames_remediation below).optional) .nil

/-! ## Dependencies -/

theorem blames_dependency (depth : Nat) : Blames (.record .dependency) (dependency depth) := by
  induction depth using Nat.strongRecOn with
  | ind depth ih =>
    rw [dependency_eq]
    refine blames_record fun below hbelow => ?_
    have htransitive := blames_list fun deeper hdeeper => ih deeper (Nat.lt_trans hdeeper hbelow)
    exact
      .cons (blames_field blames_text.optional) <|
      .cons (blames_field (blames_list fun _ _ => blames_issue _).optional) <|
      .cons (blames_field htransitive.optional) <|
      .cons (blames_field blames_text.optional) .nil

/-! ## Providers -/

theorem blames_summary (depth : Nat) : Blames (.record .summary) (summary depth) :=
  blames_record fun _ _ =>
    .cons (blames_field blames_count) <|
    .cons (blames_field blames_count) <|
    .cons (blames_field blames_count) <|
    .cons (blames_field blames_count) .nil

theorem blames_source (depth : Nat) : Blames (.record .source) (source depth) :=
  blames_record fun below _ =>
    .cons (blames_field (blames_summary below).optional) <|
    .cons (blames_field (blames_list fun _ _ => blames_dependency _).optional) .nil

theorem blames_status (depth : Nat) : Blames (.record .status) (status depth) :=
  blames_record fun _ _ => .cons (blames_field blames_bool.optional) .nil

theorem blames_provider (depth : Nat) : Blames (.record .provider) (provider depth) :=
  blames_record fun below _ =>
    .cons (blames_field (blames_status below).optional) <|
    .cons (blames_field (blames_keyed fun _ _ => blames_source _).optional) .nil

/-! ## Reports -/

theorem blames_analysis (depth : Nat) : Blames (.record .analysis) (analysis depth) :=
  blames_record fun _ _ =>
    .cons (blames_field (blames_keyed fun _ _ => blames_provider _).optional) .nil

theorem blames_reader (ecosystem : Ecosystem) :
    Blames (Form.ofReport ecosystem) (reader ecosystem) := by
  have himages : Blames (.map (.record .analysis)) (imageAnalyses maxDepth) :=
    blames_keyed fun _ _ => blames_analysis _
  cases ecosystem <;> first | exact himages.map _ | exact (blames_analysis maxDepth).map _

/-- A text that is refused where it holds a value of another type. -/
theorem ofText_of_refused {ecosystem : Ecosystem} {value : Value} {text : String}
    (h : value.Written text.toList) {failure : Failure}
    (hfailure : (reader ecosystem).complete value = .error failure) :
    ofText ecosystem text = .error (.malformed (ecosystem = .docker) failure) := by
  simp only [ofText, Document.ofText_of_written h, hfailure]

end Report

open Json ReportFormat

/-- **A scalar out of place is reported at its place.**  Take any rendering of a report that nests
at most 127 arrays and objects, and put a scalar at one of the places inside it that does not take
this scalar.  The text is refused, and the cause starts with the path of the place. -/
theorem spoiled_place_is_named {ecosystem : Ecosystem} {report : Report}
    (hsuits : report.Suits ecosystem) {value : Value} (hvalue : Rendering.report report value)
    (hdepth : value.depth ≤ 127) {step : Step} {path : List Step} {other : Value}
    (hspoiled : (Form.ofReport ecosystem).Spoiled (step :: path) value other) {text : String}
    (htext : other.Written text.toList) :
    ∃ refusal cause, Report.ofText ecosystem text = .error refusal ∧
      refusal.messages =
        [if ecosystem = .docker then "failed to parse image analysis report"
          else "failed to parse analysis report",
        writePath (step :: path) ++ ": " ++ Cause.message cause] := by
  have hread := Report.complete_reader hsuits hvalue hdepth
  obtain ⟨cause, hcause⟩ := (Report.blames_reader ecosystem).inside step path value other report
    hread hspoiled (Rendering.writable_of_written htext)
  have hknown : ¬ (step :: path).all (· = .unknown) := by
    intro hall
    have hstep : step = .unknown := by simpa using List.all_eq_true.1 hall step List.mem_cons_self
    exact hspoiled.unknown_not_mem (hstep ▸ List.mem_cons_self)
  refine ⟨_, cause, Report.ofText_of_refused htext hcause, ?_⟩
  simp only [Report.Refusal.messages, Failure.message, decide_eq_true_eq, if_neg hknown]

namespace Sample

def truthForRef : Value := .object [(escapedRef, .bool true)]

/-- The value of the sample with a truth value in place of the reference. -/
def truthValue : Value :=
  listingValue (.object [(plain "transitive", .array [truthForRef])])

/-- Where the truth value stands. -/
def refPath : List Step :=
  [.key "p", .key "sources", .key "s", .key "dependencies", .index 0, .key "transitive", .index 0,
    .key "ref"]

theorem spoiled_nested :
    (Form.ofReport .npm).Spoiled (.key "providers" :: refPath) nestedValue truthValue := by
  have hkey : escapedRef.Spells "ref".toList :=
    @Quotation.Spells.unit 'r' _ _ (by decide) (.char (.char .nil))
  have htruth : ¬ (Form.optional .text).Takes (.bool true) := by
    rintro (hnull | ⟨_, _, htext, _⟩)
    · cases hnull
    · cases htext
  have hinnermost : (Form.record .dependency).Spoiled [.key "ref"] innermostValue truthForRef :=
    .member [] [] hkey rfl (.here trivial htruth)
  have hdependency : (Form.record .dependency).Spoiled [.key "transitive", .index 0, .key "ref"]
      (.object [(plain "transitive", .array [innermostValue])])
      (.object [(plain "transitive", .array [truthForRef])]) :=
    .member [] [] (spells_plain _) rfl (.optional (.item [] [] hinnermost))
  have hsource := @Form.Spoiled.member .source _ _ _ _ [] [] _ _ (spells_plain "dependencies") rfl
    (.optional (.item [] [] hdependency))
  have hprovider := @Form.Spoiled.member .provider _ _ _ _ [] [] _ _ (spells_plain "sources") rfl
    (.optional (.entry [] [] (spells_plain "s") hsource))
  exact .member [] [] (spells_plain "providers") rfl
    (.optional (.entry [] [] (spells_plain "p") hprovider))

def truthText : String :=
  "\x7b\"providers\":\x7b\"p\":\x7b\"sources\":\x7b\"s\":" ++
    "\x7b\"dependencies\":[\x7b\"transitive\":[\x7b\"\\u0072ef\":true\x7d]\x7d]\x7d\x7d\x7d\x7d\x7d"

theorem written_truthText : truthValue.Written truthText.toList :=
  @spaced_parts
    [opening, quoted "providers" (by simp), colon, opening, quoted "p" (by simp), colon, opening,
      quoted "sources" (by simp), colon, opening, quoted "s" (by simp), colon, opening,
      quoted "dependencies" (by simp), colon, ⟨_, _, .openArray⟩, opening,
      quoted "transitive" (by simp), colon, ⟨_, _, .openArray⟩, opening,
      ⟨.quotation escapedRef, _, .quotation (.cons (@Piece.Written.unit 0 0 7 2 '0' '0' '7' '2'
        (.inl rfl) (.inl rfl) (.inl rfl) (.inl rfl))
        (@Quotation.written_map_char ['e', 'f'] (by simp)))⟩,
      colon, ⟨_, _, .true⟩, closing, ⟨_, _, .closeArray⟩, closing, ⟨_, _, .closeArray⟩, closing,
      closing, closing, closing, closing]
    [] (by simp [IsBlank])

end Sample

/-- In the sample, a truth value for the reference of a dependency below another one. -/
theorem sample_place_is_named :
    ∃ refusal cause, Report.ofText .npm Sample.truthText = .error refusal ∧
      refusal.messages =
        ["failed to parse analysis report",
        "providers.p.sources.s.dependencies[0].transitive[0].ref: " ++ Cause.message cause] :=
  spoiled_place_is_named (show (Report.single Sample.nested).Suits .npm by simp [Report.Suits])
    Sample.rendering_nested (by decide) Sample.spoiled_nested Sample.written_truthText

end ManifestSarif
