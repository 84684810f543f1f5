import ManifestSarif.Program
import ManifestSarif.Proofs.CompactTexts
import ManifestSarif.Proofs.DiskWrites

/-!
# A run delivers everything or nothing

A run can fail at many places, and only its last step writes.  This file says what a run leaves
behind.

* `Converts` is the first half of a run, up to the conversion; `perform_cases` splits a run there.
* `Destination` is where the document goes; `Destination.Holds` says that it is there, that it
  replaces what was there, and that nothing else has changed.
* `Outcome.Untouched` and `Outcome.Delivered` are the two ways in which a run ends;
  `deliver_cases` gives one of them for the second half of a run.  What is delivered is the compact
  text of the document (`Data.Compact`).
* `run_delivers_all_or_nothing` is the result, with the exact condition for each way.
-/

namespace ManifestSarif.Run

/-- The options of a run lead to this conversion: there is a manifest of a known kind, and report
and manifest can be read. -/
def Converts (world : World) (options : Options) (conversion : Conversion) : Prop :=
  ∃ manifest ecosystem report,
    chooseManifest world.disk options.manifest = .ok manifest ∧
      chooseEcosystem options.ecosystem manifest = .ok ecosystem ∧
      loadReport world.disk options.report ecosystem = .ok report ∧
      convert world.disk (Disk.pathText world.disk.cwd) manifest ecosystem report = .ok conversion

section Converts

variable {world : World} {options : Options} {manifest : String} {ecosystem : Ecosystem}
  {report : Report} {conversion : Conversion}

/-- Each choice of a run is one at most, so its steps can be taken one after the other. -/
theorem converts_iff_of_manifest
    (hmanifest : chooseManifest world.disk options.manifest = .ok manifest) :
    Converts world options conversion ↔ ∃ ecosystem report,
      chooseEcosystem options.ecosystem manifest = .ok ecosystem ∧
        loadReport world.disk options.report ecosystem = .ok report ∧
        convert world.disk (Disk.pathText world.disk.cwd) manifest ecosystem report =
          .ok conversion := by
  constructor
  · intro h
    obtain ⟨other, ecosystem, report, hother, hecosystem, hreport, hconvert⟩ := h
    obtain rfl : manifest = other := Except.ok.inj (hmanifest.symm.trans hother)
    exact ⟨ecosystem, report, hecosystem, hreport, hconvert⟩
  · intro h
    obtain ⟨ecosystem, report, hecosystem, hreport, hconvert⟩ := h
    exact ⟨manifest, ecosystem, report, hmanifest, hecosystem, hreport, hconvert⟩

theorem converts_iff_of_ecosystem
    (hmanifest : chooseManifest world.disk options.manifest = .ok manifest)
    (hecosystem : chooseEcosystem options.ecosystem manifest = .ok ecosystem) :
    Converts world options conversion ↔ ∃ report,
      loadReport world.disk options.report ecosystem = .ok report ∧
        convert world.disk (Disk.pathText world.disk.cwd) manifest ecosystem report =
          .ok conversion := by
  rw [converts_iff_of_manifest hmanifest]
  constructor
  · intro h
    obtain ⟨other, report, hother, hreport, hconvert⟩ := h
    obtain rfl : ecosystem = other := Except.ok.inj (hecosystem.symm.trans hother)
    exact ⟨report, hreport, hconvert⟩
  · intro h
    obtain ⟨report, hreport, hconvert⟩ := h
    exact ⟨ecosystem, report, hecosystem, hreport, hconvert⟩

theorem converts_iff_of_report
    (hmanifest : chooseManifest world.disk options.manifest = .ok manifest)
    (hecosystem : chooseEcosystem options.ecosystem manifest = .ok ecosystem)
    (hreport : loadReport world.disk options.report ecosystem = .ok report) :
    Converts world options conversion ↔
      convert world.disk (Disk.pathText world.disk.cwd) manifest ecosystem report =
        .ok conversion := by
  rw [converts_iff_of_ecosystem hmanifest hecosystem]
  constructor
  · intro h
    obtain ⟨other, hother, hconvert⟩ := h
    obtain rfl : report = other := Except.ok.inj (hreport.symm.trans hother)
    exact hconvert
  · intro hconvert
    exact ⟨report, hreport, hconvert⟩

/-- Options lead to one conversion at most. -/
theorem Converts.unique {other : Conversion} (h : Converts world options conversion)
    (hother : Converts world options other) : conversion = other := by
  obtain ⟨manifest, ecosystem, report, hmanifest, hecosystem, hreport, hconvert⟩ := h
  rw [converts_iff_of_report hmanifest hecosystem hreport] at hother
  exact Except.ok.inj (hconvert.symm.trans hother)

end Converts

/-! ## What is printed -/

/-- The severity that a notice tells, if it tells one. -/
def Notice.severity? : Notice → Option Severity
  | .severity level => some level
  | .event _ => none

/-- The severities that are printed. -/
def severities (notices : List Notice) : List Severity :=
  notices.filterMap Notice.severity?

@[simp]
theorem severities_events (events : List Log.Event) : severities (events.map .event) = [] := by
  simp [severities, Notice.severity?]

theorem severities_append (first second : List Notice) :
    severities (first ++ second) = severities first ++ severities second :=
  List.filterMap_append

@[simp]
theorem severities_finalNotices (failOn : FailOn) (severity : Severity) :
    severities (finalNotices failOn severity) = [severity] := by
  rw [finalNotices]
  split <;> rfl

theorem severity_mem_finalNotices (failOn : FailOn) (severity : Severity) :
    Notice.severity severity ∈ finalNotices failOn severity :=
  List.mem_cons_self

theorem not_mem_of_severities_eq_nil {notices : List Notice} (h : severities notices = [])
    (severity : Severity) : Notice.severity severity ∉ notices := by
  intro hmem
  have : severity ∈ severities notices := List.mem_filterMap.2 ⟨_, hmem, rfl⟩
  rw [h] at this
  cases this

/-! ## Where the document goes -/

/-- Where the document of a run goes. -/
inductive Destination where
  | standardOutput
  | file (path : String)

/-- The destination that an option names.  A path that is the same path as `-` is none of a file. -/
def destination (output : Option String) : Destination :=
  match output with
  | none => .standardOutput
  | some path =>
    if Path.components path = Path.components "-" then .standardOutput else .file path

namespace Destination

/-- The destination can be opened and takes what is written to it. -/
def Takes (disk : Disk) : Destination → Prop
  | standardOutput => True
  | file path =>
    ∃ location, disk.openForWriting path = .ok location ∧ disk.node? location ≠ some .full

/-- The destination holds exactly the text, and nothing else has changed. -/
def Holds (before : Disk) (outcome : Outcome) (text : String) : Destination → Prop
  | standardOutput => outcome.output = text ∧ outcome.disk = before
  | file path =>
    outcome.output = "" ∧ ∃ location, Disk.Written before outcome.disk path text location

end Destination

theorem outputFile?_eq (output : Option String) :
    outputFile? output =
      match destination output with
      | .standardOutput => none
      | .file path => some path := by
  cases output with
  | none => rfl
  | some path =>
    have hdash : Path.components "-" = [.name "-"] := by decide
    rw [outputFile?, destination, hdash]
    by_cases hpath : Path.components path = [.name "-"]
    · rw [Option.filter_some_neg (by simp [hpath]), if_pos hpath]
    · rw [Option.filter_some_pos (by simp [hpath]), if_neg hpath]

/-- A write either leaves the text at its destination, or the destination does not take it. -/
theorem write_cases (disk : Disk) (output : Option String) (text : String) :
    (∃ after printed, write disk output text = .ok (after, printed) ∧
        (destination output).Takes disk ∧
        ∀ result notices, (destination output).Holds disk ⟨result, after, printed, notices⟩ text) ∨
      ∃ failure, write disk output text = .error failure ∧ ¬(destination output).Takes disk := by
  rw [write, outputFile?_eq]
  cases destination output with
  | standardOutput => exact Or.inl ⟨disk, text, rfl, trivial, fun _ _ => ⟨rfl, rfl⟩⟩
  | file path =>
    cases hopen : disk.openForWriting path with
    | error error =>
      refine Or.inr ⟨.unopenedOutput path error, by simp only [hopen], ?_⟩
      intro htakes
      obtain ⟨location, hlocation, _⟩ := htakes
      rw [hopen] at hlocation
      cases hlocation
    | ok location =>
      cases hreplace : disk.replace location text with
      | error error =>
        refine Or.inr ⟨.unwrittenOutput error, by simp only [hopen, hreplace], ?_⟩
        intro htakes
        obtain ⟨place, hplace, hfull⟩ := htakes
        obtain rfl : location = place := Except.ok.inj (hopen.symm.trans hplace)
        have hwritten : ∃ after, disk.replace location text = .ok after :=
          ⟨_, Disk.replace_eq_ok_iff.2 ⟨hfull, rfl⟩⟩
        rw [hreplace] at hwritten
        obtain ⟨_, hafter⟩ := hwritten
        cases hafter
      | ok after =>
        refine Or.inl ⟨after, "", by simp only [hopen, hreplace], ?_, ?_⟩
        · exact ⟨location, hopen, (Disk.replace_eq_ok_iff.1 hreplace).1⟩
        · exact fun _ _ => ⟨rfl, location, Disk.written_of_replace hopen hreplace⟩

/-! ## How a run ends -/

/-- A run has left everything as it was and has told no severity. -/
structure Outcome.Untouched (outcome : Outcome) (before : Disk) : Prop where
  disk : outcome.disk = before
  output : outcome.output = ""
  silent : ∀ level, Notice.severity level ∉ outcome.notices

/-- A run has delivered the document of a conversion as compact JSON, and nothing else, and has told
its severity. -/
structure Outcome.Delivered (outcome : Outcome) (before : Disk) (output : Option String)
    (conversion : Conversion) : Prop where
  document :
    (destination output).Holds before outcome (conversion.document.write ++ "\n")
  compact : conversion.document.data.Compact conversion.document.write
  severity : severities outcome.notices = [conversion.severity]
  /-- The line is printed whatever the log filter shows. -/
  line : ∀ filter,
    "severity=" ++ conversion.severity.name ∈ Program.noticeLines filter outcome.notices

/-- What stands between a conversion and its delivery: the document must have its shape, if that is
asked for, and the destination must take it. -/
def Deliverable (world : World) (options : Options) (conversion : Conversion) : Prop :=
  (isEnabled world.validate = true → conversion.document.schemaErrors = []) ∧
    (destination options.output).Takes world.disk

theorem untouched_failed (disk : Disk) {notices : List Notice} (failure : Failure)
    (h : severities notices = []) : (failed disk notices failure).Untouched disk :=
  ⟨rfl, rfl, not_mem_of_severities_eq_nil h⟩

/-- The second half of a run delivers the document, or fails and touches nothing. -/
theorem deliver_cases (world : World) (options : Options) {notices : List Notice}
    (conversion : Conversion) (h : severities notices = []) :
    (Deliverable world options conversion ∧
        (deliver world options notices conversion).result =
          .ok (exitCode options.failOn conversion.severity) ∧
        (deliver world options notices conversion).Delivered world.disk options.output
          conversion) ∨
      (¬Deliverable world options conversion ∧
        (∃ failure, (deliver world options notices conversion).result = .error failure) ∧
        (deliver world options notices conversion).Untouched world.disk) := by
  -- The check comes before the write, and the write opens its file last.
  rw [deliver]
  cases hcheck : check (isEnabled world.validate) conversion.document with
  | error failure =>
    refine Or.inr ⟨?_, ⟨failure, rfl⟩, untouched_failed _ _ h⟩
    intro hdeliverable
    rw [check_eq_ok_iff.2 hdeliverable.1] at hcheck
    cases hcheck
  | ok =>
    have hvalid := check_eq_ok_iff.1 hcheck
    rcases write_cases world.disk options.output (conversion.document.write ++ "\n") with
      ⟨after, printed, hwrite, htakes, hholds⟩ | ⟨failure, hwrite, htakes⟩
    · simp only [hwrite]
      have hcompact := Json.Data.compact_write conversion.document.natural_data
      refine Or.inl ⟨⟨hvalid, htakes⟩, trivial, hholds _ _, hcompact, ?_, ?_⟩
      · rw [severities_append, h, severities_finalNotices, List.nil_append]
      · intro filter
        refine List.mem_filterMap.2 ⟨.severity conversion.severity, ?_, rfl⟩
        exact List.mem_append_right _ (severity_mem_finalNotices _ _)
    · simp only [hwrite]
      exact Or.inr ⟨fun hdeliverable => htakes hdeliverable.2, ⟨failure, rfl⟩,
        untouched_failed _ _ h⟩

/-- The first half of a run comes to a conversion and goes on with it, or fails and touches
nothing. -/
theorem perform_cases (world : World) (options : Options) :
    (∃ conversion notices, Converts world options conversion ∧ severities notices = [] ∧
        perform world options = deliver world options notices conversion) ∨
      ((∀ conversion, ¬Converts world options conversion) ∧
        (∃ failure, (perform world options).result = .error failure) ∧
        (perform world options).Untouched world.disk) := by
  rw [perform]
  cases hmanifest : chooseManifest world.disk options.manifest with
  | error failure =>
    refine Or.inr ⟨?_, ⟨failure, rfl⟩, untouched_failed _ _ rfl⟩
    intro conversion hconverts
    obtain ⟨manifest, _, _, hok, _⟩ := hconverts
    rw [hmanifest] at hok
    cases hok
  | ok manifest =>
    cases hecosystem : chooseEcosystem options.ecosystem manifest with
    | error failure =>
      simp only [hecosystem]
      refine Or.inr ⟨?_, ⟨failure, rfl⟩, untouched_failed _ _ rfl⟩
      intro conversion hconverts
      obtain ⟨ecosystem, _, hok, _⟩ := (converts_iff_of_manifest hmanifest).1 hconverts
      rw [hecosystem] at hok
      cases hok
    | ok ecosystem =>
      cases hreport : loadReport world.disk options.report ecosystem with
      | error failure =>
        simp only [hecosystem, hreport]
        refine Or.inr ⟨?_, ⟨failure, rfl⟩, untouched_failed _ _ rfl⟩
        intro conversion hconverts
        obtain ⟨report, hok, _⟩ :=
          (converts_iff_of_ecosystem hmanifest hecosystem).1 hconverts
        rw [hreport] at hok
        cases hok
      | ok report =>
        have hconverts_iff : ∀ conversion, Converts world options conversion ↔
            convert world.disk (Disk.pathText world.disk.cwd) manifest ecosystem report =
              .ok conversion :=
          fun _ => converts_iff_of_report hmanifest hecosystem hreport
        cases hconvert : convert world.disk (Disk.pathText world.disk.cwd) manifest ecosystem
            report with
        | error failure =>
          simp only [hecosystem, hreport, hconvert]
          refine Or.inr ⟨?_, ⟨failure, rfl⟩, untouched_failed _ _ rfl⟩
          intro conversion hconverts
          rw [hconverts_iff, hconvert] at hconverts
          cases hconverts
        | ok conversion =>
          simp only [hecosystem, hreport, hconvert]
          refine Or.inl ⟨conversion, _, (hconverts_iff conversion).2 hconvert, ?_, rfl⟩
          rw [severities_append, severities_events]
          rfl

/-- A run that returns a code has delivered the document of its conversion. -/
theorem delivered_of_result {world : World} {options : Options} {code : Nat}
    (h : (perform world options).result = .ok code) :
    ∃ conversion, Converts world options conversion ∧
      (perform world options).Delivered world.disk options.output conversion ∧
      code = exitCode options.failOn conversion.severity := by
  rcases perform_cases world options with
    ⟨conversion, notices, hconverts, hsilent, hperform⟩ | ⟨-, ⟨failure, hresult⟩, -⟩
  · rw [hperform] at h ⊢
    rcases deliver_cases world options conversion hsilent with
      ⟨-, hresult, hdelivered⟩ | ⟨-, ⟨failure, hresult⟩, -⟩
    · rw [hresult] at h
      exact ⟨conversion, hconverts, hdelivered, (Except.ok.inj h).symm⟩
    · rw [hresult] at h
      cases h
  · rw [hresult] at h
    cases h

/-- A run whose conversion can be delivered returns the code for its severity. -/
theorem result_of_converts {world : World} {options : Options} {conversion : Conversion}
    (h : Converts world options conversion) (hdeliverable : Deliverable world options conversion) :
    (perform world options).result = .ok (exitCode options.failOn conversion.severity) := by
  rcases perform_cases world options with
    ⟨other, notices, hconverts, hsilent, hperform⟩ | ⟨hnone, -⟩
  · obtain rfl := hconverts.unique h
    rw [hperform]
    rcases deliver_cases world options other hsilent with ⟨-, hresult, -⟩ | ⟨hnot, -⟩
    · exact hresult
    · exact absurd hdeliverable hnot
  · exact absurd h (hnone conversion)

end ManifestSarif.Run
