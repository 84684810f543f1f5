import ManifestSarif.Proofs.Bystanders
import ManifestSarif.Proofs.Delivery
import ManifestSarif.Proofs.Entries
import ManifestSarif.Proofs.KnownMembers
import Mathlib.Data.List.Find

/-!
# A manifest that is found is as good as one that is named

Without a name for the manifest, a run takes the first known name that the working directory has a
regular file with, and then does what it does when this name is given.  Nothing else in the
directory matters.

* `detect_eq_ok` and `detect_eq_error` say what is found, `locate_here` that the path of what is
  found leads to the same place as the name.
* `converts_named_iff` brings both runs to the same conversion, `deliver_eq` delivers it alike.
* `perform_agree` compares the runs on two disks that hold the same apart from bystanders: names in
  the working directory with anything but a known manifest.
* `found_manifest_equals_named_manifest` puts these together.
-/

namespace ManifestSarif

namespace Disk

/-- The working directory has a regular file with the name. -/
def HoldsFile (disk : Disk) (name : String) : Prop :=
  disk.node? disk.cwd = some .directory ∧
    ∃ text, disk.node? (disk.cwd ++ [name]) = some (.file text)

/-- The location is that of one of the names in a directory, or further inside. -/
def Beneath (directory : Location) (names : List String) (location : Location) : Prop :=
  ∃ name ∈ names, directory ++ [name] <+: location

instance (directory : Location) (names : List String) : DecidablePred (Beneath directory names) :=
  fun _ => inferInstanceAs (Decidable (∃ name ∈ names, _))

end Disk

namespace Run

open Disk

/-! ## Known names -/

theorem isAbsolute_known : ∀ entry ∈ Ecosystem.manifests,
    Path.isAbsolute entry.1 = false ∧ Path.isAbsolute (Path.join "." entry.1) = false := by
  decide +kernel

theorem segments_known : ∀ entry ∈ Ecosystem.manifests,
    Path.segments (Path.join "." entry.1) = [".", entry.1] := by
  decide +kernel

theorem route_known : ∀ entry ∈ Ecosystem.manifests,
    route entry.1 = .ok [entry.1] ∧ route (Path.join "." entry.1) = .ok [".", entry.1] := by
  decide +kernel

theorem endsInSlash_known : ∀ entry ∈ Ecosystem.manifests,
    endsInSlash entry.1 = false ∧ endsInSlash (Path.join "." entry.1) = false := by
  decide +kernel

theorem isName_known : ∀ entry ∈ Ecosystem.manifests,
    (entry.1 ≠ "" ∧ entry.1 ≠ "." ∧ entry.1 ≠ "..") ∧ ¬ entry.1.utf8ByteSize > 255 := by
  decide +kernel

theorem ecosystem?_known : ∀ entry ∈ Ecosystem.manifests,
    Path.ecosystem? entry.1 = some entry.2 ∧
      Path.ecosystem? (Path.join "." entry.1) = some entry.2 := by
  decide +kernel

theorem uriSegments_known : ∀ entry ∈ Ecosystem.manifests,
    (Path.components (Path.join "." entry.1)).filterMap Path.uriSegment? =
      (Path.components entry.1).filterMap Path.uriSegment? := by
  decide +kernel

/-! ## Where a known name leads -/

section Known

variable {disk other : Disk} {entry : String × Ecosystem}

/-- A known name is one step from the working directory. -/
theorem locate_known (h : entry ∈ Ecosystem.manifests) :
    disk.locate entry.1 =
      match disk.stepError disk.cwd with
      | some error => .error error
      | none => .ok (disk.cwd ++ [entry.1]) := by
  obtain ⟨hname, hshort⟩ := isName_known entry h
  rw [locate, origin, (isAbsolute_known entry h).1, (route_known entry h).1]
  show disk.follow disk.cwd [entry.1] = _
  rw [follow_cons hname.1, if_neg hshort, Path.step_of_isName hname]
  rfl

/-- A known name leads to the same place from the working directory. -/
theorem locate_here (h : entry ∈ Ecosystem.manifests) :
    disk.locate (Path.join "." entry.1) = disk.locate entry.1 := by
  rw [locate, locate, origin, origin, (isAbsolute_known entry h).1, (isAbsolute_known entry h).2,
    (route_known entry h).1, (route_known entry h).2]
  show disk.follow disk.cwd [".", entry.1] = disk.follow disk.cwd [entry.1]
  rw [follow_cons (by decide), if_neg (by decide), Path.step_of_blank (.inr rfl),
    follow_cons (isName_known entry h).1.1]
  cases disk.stepError disk.cwd <;> rfl

theorem read_here (h : entry ∈ Ecosystem.manifests) :
    disk.read (Path.join "." entry.1) = disk.read entry.1 := by
  obtain ⟨hname, hhere⟩ := endsInSlash_known entry h
  rw [Disk.read, Disk.read, locate_here h, hname, hhere]

theorem uri_here (h : entry ∈ Ecosystem.manifests) (cwd : String) :
    Path.uri cwd (Path.join "." entry.1) = Path.uri cwd entry.1 := by
  simp only [Path.uri, (isAbsolute_known entry h).1, (isAbsolute_known entry h).2,
    Bool.false_eq_true, if_false, uriSegments_known entry h]

theorem isFile_here_iff (h : entry ∈ Ecosystem.manifests) :
    disk.isFile (Path.join "." entry.1) = true ↔ disk.HoldsFile entry.1 := by
  rw [isFile, locate_here h, locate_known h, (endsInSlash_known entry h).2, HoldsFile]
  cases hstep : disk.stepError disk.cwd with
  | some error =>
    have hcwd : disk.node? disk.cwd ≠ some .directory := by
      intro hcwd
      rw [stepError, hcwd] at hstep
      cases hstep
    simp [hcwd]
  | none =>
    simp only [node?_of_stepError_eq_none hstep, true_and, Bool.not_false]
    split
    · next text hnode => simp [hnode]
    · next hnode => simpa using hnode

/-- The way to a known name leads through no other name. -/
theorem avoids_known (h : entry ∈ Ecosystem.manifests) {names : List String}
    (hname : entry.1 ∉ names) :
    AvoidsOnPath (Beneath disk.cwd names) disk (Path.join "." entry.1) := by
  have hcwd : ¬ Beneath disk.cwd names disk.cwd := by
    rintro ⟨name, _, hbeneath⟩
    have hlength := hbeneath.length_le
    rw [List.length_append, List.length_singleton] at hlength
    omega
  have hfile : ¬ Beneath disk.cwd names (disk.cwd ++ [entry.1]) := by
    rintro ⟨name, hmem, hbeneath⟩
    have hsame : [name] = [entry.1] :=
      ((List.prefix_append_right_inj disk.cwd).1 hbeneath).eq_of_length rfl
    cases hsame
    exact hname hmem
  rw [AvoidsOnPath, origin, (isAbsolute_known entry h).2, segments_known entry h]
  refine ⟨hcwd, ?_⟩
  rw [Path.step_of_blank (.inr rfl)]
  refine ⟨hcwd, ?_⟩
  rwa [Path.step_of_isName (isName_known entry h).1]

/-! ## What is found -/

theorem detect_eq_ok {before after : List (String × Ecosystem)}
    (hmanifests : Ecosystem.manifests = before ++ entry :: after) (hfile : disk.HoldsFile entry.1)
    (hbefore : ∀ entry ∈ before, ¬ disk.HoldsFile entry.1) :
    detect disk "." = .ok (Path.join "." entry.1) := by
  have hfind : Ecosystem.manifests.find? (disk.isFile ∘ fun entry => Path.join "." entry.1) =
      some entry := by
    refine List.find?_eq_some_iff_append.2 ⟨?_, before, after, hmanifests, fun earlier hmem => ?_⟩
    · exact (isFile_here_iff (hmanifests ▸ by simp)).2 hfile
    · have hknown : earlier ∈ Ecosystem.manifests := hmanifests ▸ List.mem_append_left _ hmem
      have hnone := mt (isFile_here_iff hknown).1 (hbefore earlier hmem)
      simpa using hnone
  simp only [detect, List.find?_map, hfind, Option.map_some]

theorem detect_eq_error (hnone : ∀ entry ∈ Ecosystem.manifests, ¬ disk.HoldsFile entry.1) :
    detect disk "." = .error (.noManifest ".") := by
  have hfind : Ecosystem.manifests.find? (disk.isFile ∘ fun entry => Path.join "." entry.1) =
      none :=
    List.find?_eq_none.2 fun entry hmem => mt (isFile_here_iff hmem).1 (hnone entry hmem)
  simp only [detect, List.find?_map, hfind, Option.map_none]

/-- What is found is the path of a known name that the working directory has a regular file with. -/
theorem exists_of_detect {path : String} (h : detect disk "." = .ok path) :
    ∃ entry ∈ Ecosystem.manifests, path = Path.join "." entry.1 ∧ disk.HoldsFile entry.1 := by
  simp only [detect, List.find?_map] at h
  cases hfind : Ecosystem.manifests.find? (disk.isFile ∘ fun entry => Path.join "." entry.1) with
  | none =>
    rw [hfind] at h
    cases h
  | some entry =>
    rw [hfind] at h
    have hmem := List.mem_of_find?_eq_some hfind
    have hfile := List.find?_some hfind
    exact ⟨entry, hmem, (Except.ok.inj h).symm, (isFile_here_iff hmem).1 hfile⟩

/-- What is found does not depend on names that have anything but a known manifest. -/
theorem detect_eq_of_agree {names : List String}
    (h : AgreeOutside (Beneath disk.cwd names) disk other)
    (hnames : ∀ entry ∈ Ecosystem.manifests, entry.1 ∈ names →
      ¬ disk.HoldsFile entry.1 ∧ ¬ other.HoldsFile entry.1) :
    detect other "." = detect disk "." := by
  have hfile : ∀ entry ∈ Ecosystem.manifests,
      other.isFile (Path.join "." entry.1) = disk.isFile (Path.join "." entry.1) := by
    intro entry hmem
    by_cases hname : entry.1 ∈ names
    · obtain ⟨hdisk, hother⟩ := hnames entry hmem hname
      rw [Bool.eq_false_iff.2 (mt (isFile_here_iff hmem).1 hdisk),
        Bool.eq_false_iff.2 (mt (isFile_here_iff hmem).1 hother)]
    · exact h.isFile_eq (avoids_known hmem hname)
  simp only [detect, List.find?_map, Function.comp_def]
  rw [List.find?_congr hfile]

end Known

/-! ## The same conversion -/

section Named

variable {world : World} {options : Options} {entry : String × Ecosystem}

theorem chooseEcosystem_known (h : entry ∈ Ecosystem.manifests) (explicit : Option Ecosystem) :
    chooseEcosystem explicit entry.1 = .ok (explicit.getD entry.2) ∧
      chooseEcosystem explicit (Path.join "." entry.1) = .ok (explicit.getD entry.2) := by
  obtain ⟨hname, hhere⟩ := ecosystem?_known entry h
  cases explicit <;> simp [chooseEcosystem, hname, hhere]

/-- A manifest is converted alike by its name and by its path from the working directory. -/
theorem convert_here_eq_ok_iff (h : entry ∈ Ecosystem.manifests) {disk : Disk} {cwd : String}
    {ecosystem : Ecosystem} {report : Report} {conversion : Conversion} :
    convert disk cwd (Path.join "." entry.1) ecosystem report = .ok conversion ↔
      convert disk cwd entry.1 ecosystem report = .ok conversion := by
  rw [convert, convert, manifestLines, manifestLines, read_here h, uri_here h]
  cases disk.read entry.1 with
  | error error => simp [bind, Except.bind]
  | ok content => exact Iff.rfl

theorem converts_iff_of_known {manifest : String} (h : entry ∈ Ecosystem.manifests)
    (hmanifest : manifest = entry.1 ∨ manifest = Path.join "." entry.1)
    (hchosen : chooseManifest world.disk options.manifest = .ok manifest)
    {conversion : Conversion} :
    Converts world options conversion ↔ ∃ report,
      loadReport world.disk options.report (options.ecosystem.getD entry.2) = .ok report ∧
        convert world.disk (pathText world.disk.cwd) entry.1 (options.ecosystem.getD entry.2)
          report = .ok conversion := by
  obtain ⟨hname, hhere⟩ := chooseEcosystem_known h options.ecosystem
  rcases hmanifest with rfl | rfl
  · exact converts_iff_of_ecosystem hchosen hname
  · simp only [converts_iff_of_ecosystem hchosen hhere, convert_here_eq_ok_iff h]

/-- A conversion is delivered alike, whatever was printed before. -/
theorem deliver_eq (world : World) {options other : Options}
    (houtput : other.output = options.output) (hfailOn : other.failOn = options.failOn)
    {notices earlier : List Notice} (hnotices : severities notices = severities earlier)
    (conversion : Conversion) :
    (deliver world options notices conversion).result =
        (deliver world other earlier conversion).result ∧
      (deliver world options notices conversion).disk =
        (deliver world other earlier conversion).disk ∧
      (deliver world options notices conversion).output =
        (deliver world other earlier conversion).output ∧
      severities (deliver world options notices conversion).notices =
        severities (deliver world other earlier conversion).notices := by
  rw [deliver, deliver, houtput, hfailOn]
  cases check (isEnabled world.validate) conversion.document with
  | error failure => exact ⟨rfl, rfl, rfl, hnotices⟩
  | ok =>
    cases write world.disk options.output (conversion.document.write ++ "\n") with
    | error failure => exact ⟨rfl, rfl, rfl, hnotices⟩
    | ok written => simp only [severities_append, hnotices, and_self]

end Named

/-! ## Bystanders -/

section Bystanders

variable {region : Location → Prop} {world : World} {other : Disk} {options : Options}

/-- The runs end alike, and the disks hold the same outside the region. -/
structure Outcome.Alike (region : Location → Prop) (outcome other : Outcome) : Prop where
  result : other.result = outcome.result
  output : other.output = outcome.output
  notices : other.notices = outcome.notices
  disk : AgreeOutside region outcome.disk other.disk

theorem alike_failed {disk : Disk} (h : AgreeOutside region disk other) (notices : List Notice)
    (failure : Failure) :
    (failed disk notices failure).Alike region (failed other notices failure) :=
  ⟨rfl, rfl, rfl, h⟩

theorem write_agree {disk : Disk} (h : AgreeOutside region disk other) {output : Option String}
    (houtput : ∀ path, destination output = .file path → AvoidsOnPath region disk path)
    (text : String) :
    (∃ after otherAfter printed, write disk output text = .ok (after, printed) ∧
        write other output text = .ok (otherAfter, printed) ∧
        AgreeOutside region after otherAfter) ∨
      ∃ failure, write disk output text = .error failure ∧
        write other output text = .error failure := by
  rw [write, write, outputFile?_eq]
  cases hfile : destination output with
  | standardOutput => exact .inl ⟨disk, other, text, rfl, rfl, h⟩
  | file path =>
    have havoids := houtput path hfile
    simp only [h.openForWriting_eq havoids]
    cases hopen : disk.openForWriting path with
    | error error => exact .inr ⟨_, rfl, rfl⟩
    | ok location =>
      rcases h.replace_cases havoids hopen text with
        ⟨after, otherAfter, hafter, hother, hagree⟩ | ⟨error, herror, hother⟩
      · simp only [hafter, hother]
        exact .inl ⟨_, _, _, rfl, rfl, hagree⟩
      · simp only [herror, hother]
        exact .inr ⟨_, rfl, rfl⟩

theorem deliver_agree (h : AgreeOutside region world.disk other)
    (houtput : ∀ path, destination options.output = .file path →
      AvoidsOnPath region world.disk path)
    (notices : List Notice) (conversion : Conversion) :
    (deliver world options notices conversion).Alike region
      (deliver ⟨other, world.validate⟩ options notices conversion) := by
  rw [deliver, deliver]
  cases check (isEnabled world.validate) conversion.document with
  | error failure => exact alike_failed h notices failure
  | ok =>
    rcases write_agree h houtput (conversion.document.write ++ "\n") with
      ⟨after, otherAfter, printed, hwrite, hother, hagree⟩ | ⟨failure, hwrite, hother⟩
    · simp only [hwrite, hother]
      exact ⟨rfl, rfl, rfl, hagree⟩
    · simp only [hwrite, hother]
      exact alike_failed h notices failure

/-- A run reads the manifest and the report, and writes to one path; what else the disk holds does
not matter. -/
theorem perform_agree (h : AgreeOutside region world.disk other)
    (hchoose : chooseManifest other options.manifest = chooseManifest world.disk options.manifest)
    (hread : ∀ manifest, chooseManifest world.disk options.manifest = .ok manifest →
      other.read manifest = world.disk.read manifest)
    (hreport : AvoidsOnPath region world.disk options.report)
    (houtput : ∀ path, destination options.output = .file path →
      AvoidsOnPath region world.disk path) :
    (perform world options).Alike region (perform ⟨other, world.validate⟩ options) := by
  rw [perform, perform]
  simp only [hchoose]
  cases hmanifest : chooseManifest world.disk options.manifest with
  | error failure => exact alike_failed h _ failure
  | ok manifest =>
    cases hecosystem : chooseEcosystem options.ecosystem manifest with
    | error failure =>
      simp only [hecosystem]
      exact alike_failed h _ failure
    | ok ecosystem =>
      have hload : loadReport other options.report ecosystem =
          loadReport world.disk options.report ecosystem := by
        rw [loadReport, loadReport, h.read_eq hreport]
      simp only [hecosystem, hload]
      cases hreport : loadReport world.disk options.report ecosystem with
      | error failure => exact alike_failed h _ failure
      | ok report =>
        have hconvert : convert other (pathText other.cwd) manifest ecosystem report =
            convert world.disk (pathText world.disk.cwd) manifest ecosystem report := by
          rw [convert, convert, manifestLines, manifestLines, hread manifest hmanifest, h.cwd]
        simp only [hconvert]
        cases convert world.disk (pathText world.disk.cwd) manifest ecosystem report with
        | error failure => exact alike_failed h _ failure
        | ok conversion => exact deliver_agree h houtput _ conversion

end Bystanders

/-! ## Finding and naming -/

theorem severities_eq_nil {notices : List Notice}
    (h : ∀ level, Notice.severity level ∉ notices) : severities notices = [] := by
  rw [severities, List.filterMap_eq_nil_iff]
  intro notice hnotice
  cases notice with
  | event => rfl
  | severity level => exact absurd hnotice (h level)

/-- Two runs that come to the same conversion end alike. -/
theorem perform_eq_of_converts {world : World} {options other : Options}
    (houtput : other.output = options.output) (hfailOn : other.failOn = options.failOn)
    (hconverts : ∀ conversion,
      Converts world options conversion ↔ Converts world other conversion) :
    (∀ code, (perform world options).result = .ok code ↔
        (perform world other).result = .ok code) ∧
      (perform world options).disk = (perform world other).disk ∧
      (perform world options).output = (perform world other).output ∧
      severities (perform world options).notices = severities (perform world other).notices := by
  rcases perform_cases world options with
    ⟨conversion, notices, hconversion, hsilent, hperform⟩ | ⟨hnone, ⟨failure, hresult⟩, huntouched⟩
  · rcases perform_cases world other with
      ⟨conversion', notices', hconversion', hsilent', hperform'⟩ | ⟨hnone, -⟩
    · obtain rfl := ((hconverts conversion).1 hconversion).unique hconversion'
      obtain ⟨hresult, hdisk, hprinted, hnotices⟩ :=
        deliver_eq world houtput hfailOn (hsilent.trans hsilent'.symm) conversion
      rw [hperform, hperform']
      exact ⟨fun code => by rw [hresult], hdisk, hprinted, hnotices⟩
    · exact absurd ((hconverts conversion).1 hconversion) (hnone conversion)
  · rcases perform_cases world other with
      ⟨conversion', _, hconversion', -⟩ | ⟨-, ⟨failure', hresult'⟩, huntouched'⟩
    · exact absurd ((hconverts conversion').2 hconversion') (hnone conversion')
    · refine ⟨fun code => by simp [hresult, hresult'], ?_, ?_, ?_⟩
      · rw [huntouched.disk, huntouched'.disk]
      · rw [huntouched.output, huntouched'.output]
      · rw [severities_eq_nil huntouched.silent, severities_eq_nil huntouched'.silent]

/-- **A manifest that is found is as good as one that is named.**  Take a run without a name for the
manifest.

If a name is the first known one that the working directory has a regular file with, the run returns
the same code as one that is given this name, and leaves the same disk, the same output and the same
severity.  It delivers the conversion of this manifest, as one of the ecosystem that is asked for or
else goes with the name.

If there is no such name, it fails for that and touches nothing.

On a disk with other bystanders it ends alike: names in the working directory, off the paths of the
report and the output, that have no regular file or are not known. -/
theorem found_manifest_equals_named_manifest (world : World) {options : Options}
    (hauto : options.manifest = none) :
    (∀ before name ecosystem after,
      Ecosystem.manifests = before ++ (name, ecosystem) :: after →
      world.disk.HoldsFile name → (∀ entry ∈ before, ¬ world.disk.HoldsFile entry.1) →
      let named : Options := { options with manifest := some name }
      let chosen := options.ecosystem.getD ecosystem
      (∀ code, (perform world options).result = .ok code ↔
        (perform world named).result = .ok code) ∧
      (perform world options).disk = (perform world named).disk ∧
      (perform world options).output = (perform world named).output ∧
      severities (perform world options).notices = severities (perform world named).notices ∧
      ∀ code, (perform world options).result = .ok code → ∃ report conversion,
        loadReport world.disk options.report chosen = .ok report ∧
        convert world.disk (pathText world.disk.cwd) name chosen report = .ok conversion ∧
        (perform world options).Delivered world.disk options.output conversion ∧
        code = if options.failOn.fails conversion.severity then 2 else 0) ∧
    ((∀ entry ∈ Ecosystem.manifests, ¬ world.disk.HoldsFile entry.1) →
      (perform world options).result = .error (.noManifest ".") ∧
      (perform world options).Untouched world.disk) ∧
    ∀ (other : Disk) (bystanders : List String),
      AgreeOutside (Beneath world.disk.cwd bystanders) world.disk other →
      (∀ name ∈ bystanders, (Ecosystem.ofFileName? name).isSome →
        ¬ world.disk.HoldsFile name ∧ ¬ other.HoldsFile name) →
      (∀ path, path = options.report ∨ destination options.output = .file path →
        AvoidsOnPath (Beneath world.disk.cwd bystanders) world.disk path) →
      (perform world options).Alike (Beneath world.disk.cwd bystanders)
        (perform ⟨other, world.validate⟩ options) := by
  have hchoose : ∀ disk : Disk, chooseManifest disk options.manifest = detect disk "." := by
    intro disk
    rw [hauto, chooseManifest]
  refine ⟨?_, ?_, ?_⟩
  · intro before name ecosystem after hmanifests hfile hbefore named chosen
    have hknown : (name, ecosystem) ∈ Ecosystem.manifests := by simp [hmanifests]
    have hfound : chooseManifest world.disk options.manifest = .ok (Path.join "." name) :=
      (hchoose world.disk).trans (detect_eq_ok hmanifests hfile hbefore)
    have hnamed : chooseManifest world.disk named.manifest = .ok name := rfl
    have hconverts := fun conversion =>
      @converts_iff_of_known world options _ _ hknown (.inr rfl) hfound conversion
    have hconvertsNamed := fun conversion =>
      @converts_iff_of_known world named _ _ hknown (.inl rfl) hnamed conversion
    obtain ⟨hresult, hdisk, houtput, hseverity⟩ :=
      @perform_eq_of_converts world options named rfl rfl
        fun conversion => (hconverts conversion).trans (hconvertsNamed conversion).symm
    refine ⟨hresult, hdisk, houtput, hseverity, fun code hcode => ?_⟩
    obtain ⟨conversion, hconversion, hdelivered, rfl⟩ := delivered_of_result hcode
    obtain ⟨report, hreport, hconvert⟩ := (hconverts conversion).1 hconversion
    exact ⟨report, conversion, hreport, hconvert, hdelivered, rfl⟩
  · intro hnone
    have hfail : chooseManifest world.disk options.manifest = .error (.noManifest ".") :=
      (hchoose world.disk).trans (detect_eq_error hnone)
    rw [perform, hfail]
    exact ⟨rfl, untouched_failed _ _ rfl⟩
  · intro other bystanders hagree hbystanders havoids
    have hknown : ∀ entry ∈ Ecosystem.manifests, entry.1 ∈ bystanders →
        ¬ world.disk.HoldsFile entry.1 ∧ ¬ other.HoldsFile entry.1 := by
      intro entry hentry hmem
      have hname : ∀ entry ∈ Ecosystem.manifests,
          (Ecosystem.ofFileName? entry.1).isSome = true := by decide
      exact hbystanders entry.1 hmem (hname entry hentry)
    have hdetect := detect_eq_of_agree hagree hknown
    refine perform_agree hagree (by rw [hchoose, hchoose, hdetect]) (fun manifest hmanifest => ?_)
      (havoids _ (.inl rfl)) fun path hpath => havoids path (.inr hpath)
    obtain ⟨entry, hentry, rfl, hfile⟩ := exists_of_detect ((hchoose _).symm.trans hmanifest)
    exact hagree.read_eq (avoids_known hentry fun hmem => (hknown entry hentry hmem).1 hfile)

end Run

namespace Sample

/-- A working directory with a manifest and a report. -/
def npmDisk : Disk where
  cwd := ["work"]
  nodes := [(["work"], .directory), (["work", "package.json"], .file (some "\x7b\x7d")),
    (["work", "report.json"], .file (some sampleText))]

def npmWorld : Run.World := ⟨npmDisk, none⟩

/-- Options that name no manifest. -/
def autoOptions : Options := ⟨"report.json", none, none, none, .error⟩

theorem converts_npm :
    Run.Converts npmWorld autoOptions (Conversion.ofReport
      ⟨.npm, Manifest.lines .npm "\x7b\x7d", Path.uri "/work" "./package.json"⟩ oneProvider) := by
  have hload : Run.loadReport npmDisk "report.json" .npm = .ok oneProvider := by
    have hread : npmDisk.read "report.json" = .ok sampleText := rfl
    rw [Run.loadReport, hread]
    show (Report.ofText .npm sampleText).mapError _ = _
    rw [ofText_sampleText]
    rfl
  have hread : npmDisk.read "./package.json" = .ok "\x7b\x7d" := rfl
  exact ⟨"./package.json", .npm, oneProvider, rfl, rfl, hload,
    Run.convert_of_read hread "/work" .npm oneProvider⟩

/-- A name of a manifest that stands for a directory, and one that is not known. -/
def bystanders : List String := ["pom.xml", "notes.txt"]

def crowdedDisk : Disk :=
  { npmDisk with
    nodes := npmDisk.nodes ++
      [(["work", "pom.xml"], .directory), (["work", "notes.txt"], .file (some ""))] }

theorem agree_crowdedDisk :
    Disk.AgreeOutside (Disk.Beneath ["work"] bystanders) npmDisk crowdedDisk where
  cwd := rfl
  node? location hlocation := by
    have hpom : location ≠ ["work", "pom.xml"] := by
      rintro rfl
      exact hlocation (by decide)
    have hnotes : location ≠ ["work", "notes.txt"] := by
      rintro rfl
      exact hlocation (by decide)
    rw [Disk.node?, Disk.node?, crowdedDisk, List.lookup_append, List.lookup_cons,
      beq_false_of_ne hpom, List.lookup_cons, beq_false_of_ne hnotes]
    simp

theorem not_holdsFile_npmDisk {name : String}
    (h : name = "pom.xml" ∨ name = "build.gradle" ∨ name = "go.mod") :
    ¬ npmDisk.HoldsFile name := by
  rcases h with rfl | rfl | rfl <;> rintro ⟨_, _, hnode⟩ <;> cases hnode

theorem not_holdsFile_bystanders : ∀ name ∈ bystanders, (Ecosystem.ofFileName? name).isSome →
    ¬ npmDisk.HoldsFile name ∧ ¬ crowdedDisk.HoldsFile name := by
  simp only [bystanders, List.forall_mem_cons]
  refine ⟨fun _ => ⟨not_holdsFile_npmDisk (.inl rfl), ?_⟩, fun hknown => ?_, by simp⟩
  · rintro ⟨_, _, hnode⟩
    cases hnode
  · exact absurd hknown (by decide)

end Sample

/-- The sample has a manifest that is found: naming it and crowding the directory change nothing. -/
theorem sample_manifest_is_found :
    ∃ code, (Run.perform Sample.npmWorld Sample.autoOptions).result = .ok code ∧
      (Run.perform Sample.npmWorld
        { Sample.autoOptions with manifest := some "package.json" }).result = .ok code ∧
      (Run.perform ⟨Sample.crowdedDisk, none⟩ Sample.autoOptions).result = .ok code := by
  have hdeliverable : Run.Deliverable Sample.npmWorld Sample.autoOptions (Conversion.ofReport
      ⟨.npm, Manifest.lines .npm "\x7b\x7d", Path.uri "/work" "./package.json"⟩
      Sample.oneProvider) :=
    ⟨fun h => (Bool.false_ne_true h).elim, trivial⟩
  have hresult := Run.result_of_converts Sample.converts_npm hdeliverable
  obtain ⟨hfound, -, hcrowded⟩ := Run.found_manifest_equals_named_manifest Sample.npmWorld
    (show Sample.autoOptions.manifest = none from rfl)
  have hnamed := hfound [("pom.xml", .maven), ("build.gradle", .gradle), ("go.mod", .golang)]
    "package.json" .npm _ rfl ⟨rfl, _, rfl⟩ (by
      simp only [List.forall_mem_cons]
      exact ⟨Sample.not_holdsFile_npmDisk (by simp), Sample.not_holdsFile_npmDisk (by simp),
        Sample.not_holdsFile_npmDisk (by simp), by simp⟩)
  have hpaths : ∀ path, path = Sample.autoOptions.report ∨
      Run.destination Sample.autoOptions.output = .file path →
      Disk.AvoidsOnPath (Disk.Beneath ["work"] Sample.bystanders) Sample.npmDisk path := by
    rintro path (rfl | hpath)
    · decide
    · cases hpath
  have halike := hcrowded Sample.crowdedDisk Sample.bystanders Sample.agree_crowdedDisk
    Sample.not_holdsFile_bystanders hpaths
  exact ⟨_, hresult, (hnamed.1 _).1 hresult, halike.result.trans hresult⟩

end ManifestSarif
