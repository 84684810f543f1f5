import ManifestSarif.Proofs.DiskWrites
import ManifestSarif.Proofs.LexicalPaths

/-!
# Places that a path does not lead through

Whatever stands at places that a path does not lead through, reading or writing at the path is the
same.

* `Avoids` says that of the segments of a path, by their text alone.
* `AgreeOutside` relates two disks that hold the same outside a region.  `follow_eq` is the
  induction along a path; `read_eq`, `isFile_eq` and `openForWriting_eq` follow from it.
* `replace_cases`: a write outside the region succeeds on both disks or fails on both, and they
  still agree.
-/

namespace ManifestSarif.Disk

variable {region : Location → Prop} {disk other : Disk} {start goal location : Location}
  {path : String}

/-! ## Ways -/

/-- No place on the way is in the region. -/
def Avoids (region : Location → Prop) : Location → List String → Prop
  | place, [] => ¬ region place
  | place, segment :: rest => ¬ region place ∧ Avoids region (Path.step place segment) rest

instance decidableAvoids [DecidablePred region] :
    ∀ place segments, Decidable (Avoids region place segments)
  | place, [] => inferInstanceAs (Decidable (¬ region place))
  | place, segment :: rest =>
    have : Decidable (Avoids region (Path.step place segment) rest) := decidableAvoids _ rest
    inferInstanceAs (Decidable (¬ region place ∧ Avoids region (Path.step place segment) rest))

/-- No place on the way that the path takes from the root or the working directory is in the
region. -/
def AvoidsOnPath (region : Location → Prop) (disk : Disk) (path : String) : Prop :=
  Avoids region (disk.origin path) (Path.segments path)

instance [DecidablePred region] : Decidable (AvoidsOnPath region disk path) :=
  inferInstanceAs (Decidable (Avoids _ _ _))

theorem Avoids.not_region {segments : List String} (h : Avoids region start segments) :
    ¬ region start := by
  cases segments with
  | nil => exact h
  | cons => exact h.1

theorem Avoids.dropLast {segments : List String} (h : Avoids region start segments) :
    Avoids region start segments.dropLast := by
  induction segments generalizing start with
  | nil => exact h
  | cons segment segments ih =>
    cases segments with
    | nil => exact h.1
    | cons => exact ⟨h.1, ih h.2⟩

/-- Segments without a text lead nowhere else. -/
theorem Avoids.filter {segments : List String} (h : Avoids region start segments) :
    Avoids region start (segments.filter (· ≠ "")) := by
  induction segments generalizing start with
  | nil => exact h
  | cons segment segments ih =>
    by_cases hblank : segment = ""
    · rw [List.filter_cons_of_neg (by simpa using hblank)]
      have hrest := ih h.2
      rwa [Path.step_of_blank (.inl hblank)] at hrest
    · rw [List.filter_cons_of_pos (by simpa using hblank)]
      exact ⟨h.1, ih h.2⟩

/-! ## Following a path -/

/-- The disks hold the same outside the region. -/
structure AgreeOutside (region : Location → Prop) (disk other : Disk) : Prop where
  cwd : other.cwd = disk.cwd
  node? : ∀ location, ¬ region location → other.node? location = disk.node? location

/-- One step from a directory. -/
theorem follow_cons {segment : String} (hsegment : segment ≠ "") (rest : List String) :
    disk.follow start (segment :: rest) =
      match disk.stepError start with
      | some error => .error error
      | none =>
        if segment.utf8ByteSize > 255 then .error .nameTooLong
        else disk.follow (Path.step start segment) rest := by
  rw [follow]
  cases disk.stepError start with
  | some error => rfl
  | none =>
    by_cases hcurrent : segment = "."
    · subst hcurrent
      rfl
    · by_cases hparent : segment = ".."
      · subst hparent
        rfl
      · simp only [if_neg hcurrent, if_neg hparent,
          Path.step_of_isName ⟨hsegment, hcurrent, hparent⟩]

theorem AgreeOutside.stepError_eq (h : AgreeOutside region disk other) (hstart : ¬ region start) :
    other.stepError start = disk.stepError start := by
  rw [stepError, stepError, h.node? start hstart]

/-- A way that avoids the region is the same on both disks. -/
theorem AgreeOutside.follow_eq (h : AgreeOutside region disk other) {segments : List String}
    (hsegments : "" ∉ segments) (havoids : Avoids region start segments) :
    other.follow start segments = disk.follow start segments := by
  induction segments generalizing start with
  | nil => rfl
  | cons segment segments ih =>
    obtain ⟨hfirst, hrest⟩ := not_or.1 (mt List.mem_cons.2 hsegments)
    rw [follow_cons (Ne.symm hfirst), follow_cons (Ne.symm hfirst),
      h.stepError_eq havoids.not_region, ih hrest havoids.2]

/-- A way that avoids the region ends outside. -/
theorem not_region_of_follow {segments : List String} (hsegments : "" ∉ segments)
    (havoids : Avoids region start segments) (h : disk.follow start segments = .ok goal) :
    ¬ region goal := by
  induction segments generalizing start with
  | nil =>
    cases h
    exact havoids
  | cons segment segments ih =>
    obtain ⟨hfirst, hrest⟩ := not_or.1 (mt List.mem_cons.2 hsegments)
    rw [follow_cons (Ne.symm hfirst)] at h
    cases hstep : disk.stepError start with
    | some error => rw [hstep] at h; cases h
    | none =>
      simp only [hstep] at h
      split at h
      · cases h
      · exact ih hrest havoids.2 h

/-- What a path is followed by are its segments that have a text. -/
theorem eq_filter_of_route {segments : List String} (h : route path = .ok segments) :
    segments = (Path.segments path).filter (· ≠ "") := by
  rw [route] at h
  split at h
  · cases h
  · split at h
    · cases h
    · split at h
      · cases h
      · exact (Except.ok.inj h).symm

theorem avoids_of_route (havoids : AvoidsOnPath region disk path) {segments : List String}
    (h : route path = .ok segments) :
    "" ∉ segments ∧ Avoids region (disk.origin path) segments := by
  rw [eq_filter_of_route h]
  exact ⟨by simp, havoids.filter⟩

theorem AgreeOutside.locate_eq (h : AgreeOutside region disk other)
    (havoids : AvoidsOnPath region disk path) : other.locate path = disk.locate path := by
  rw [locate, locate, origin, h.cwd, ← origin]
  cases hroute : route path with
  | error error => rfl
  | ok segments =>
    obtain ⟨hblank, havoids⟩ := avoids_of_route havoids hroute
    exact h.follow_eq hblank havoids

theorem not_region_of_locate (havoids : AvoidsOnPath region disk path)
    (h : disk.locate path = .ok location) : ¬ region location := by
  rw [locate] at h
  cases hroute : route path with
  | error error =>
    rw [hroute] at h
    cases h
  | ok segments =>
    rw [hroute] at h
    obtain ⟨hblank, havoids⟩ := avoids_of_route havoids hroute
    exact not_region_of_follow hblank havoids h

/-! ## Reading and writing -/

theorem AgreeOutside.read_eq (h : AgreeOutside region disk other)
    (havoids : AvoidsOnPath region disk path) : other.read path = disk.read path := by
  rw [read, read, h.locate_eq havoids]
  cases hlocate : disk.locate path with
  | error error => rfl
  | ok location =>
    have hnode := h.node? location (not_region_of_locate havoids hlocate)
    simp only [bind, Except.bind, hnode]

theorem AgreeOutside.isFile_eq (h : AgreeOutside region disk other)
    (havoids : AvoidsOnPath region disk path) : other.isFile path = disk.isFile path := by
  rw [isFile, isFile, h.locate_eq havoids]
  cases hlocate : disk.locate path with
  | error error => rfl
  | ok location =>
    have hnode := h.node? location (not_region_of_locate havoids hlocate)
    simp only [hnode]

theorem AgreeOutside.directoryError_eq (h : AgreeOutside region disk other)
    (havoids : AvoidsOnPath region disk path) :
    other.directoryError path = disk.directoryError path := by
  rw [directoryError, directoryError, origin, h.cwd, ← origin]
  cases hroute : route path with
  | error error => rfl
  | ok segments =>
    obtain ⟨hblank, havoids⟩ := avoids_of_route havoids hroute
    have hparents : "" ∉ segments.dropLast := fun hmem => hblank (List.dropLast_subset _ hmem)
    simp only [bind, Except.bind, h.follow_eq hparents havoids.dropLast]
    cases hfollow : disk.follow (disk.origin path) segments.dropLast with
    | error error => rfl
    | ok parent =>
      have hparent := not_region_of_follow hparents havoids.dropLast hfollow
      simp only [h.stepError_eq hparent]

theorem AgreeOutside.openForWriting_eq (h : AgreeOutside region disk other)
    (havoids : AvoidsOnPath region disk path) :
    other.openForWriting path = disk.openForWriting path := by
  rw [openForWriting, openForWriting, h.directoryError_eq havoids, h.locate_eq havoids]
  cases hlocate : disk.locate path with
  | error error => rfl
  | ok location =>
    have hnode := h.node? location (not_region_of_locate havoids hlocate)
    simp only [bind, Except.bind, hnode]

theorem AgreeOutside.put (h : AgreeOutside region disk other) (hlocation : location ≠ [])
    (node : Node) : AgreeOutside region (disk.put location node) (other.put location node) where
  cwd := by rw [cwd_put, cwd_put, h.cwd]
  node? place hplace := by
    by_cases hsame : place = location
    · subst hsame
      rw [node?_put_self hlocation, node?_put_self hlocation]
    · rw [node?_put_of_ne hsame, node?_put_of_ne hsame, h.node? place hplace]

/-- A text is written outside the region on both disks or on neither, and they agree as before. -/
theorem AgreeOutside.replace_cases (h : AgreeOutside region disk other)
    (havoids : AvoidsOnPath region disk path) (hopen : disk.openForWriting path = .ok location)
    (text : String) :
    (∃ after otherAfter, disk.replace location text = .ok after ∧
        other.replace location text = .ok otherAfter ∧ AgreeOutside region after otherAfter) ∨
      ∃ error, disk.replace location text = .error error ∧
        other.replace location text = .error error := by
  obtain ⟨_, hlocate, hplace⟩ := openForWriting_eq_ok_iff.1 hopen
  have hnode := h.node? location (not_region_of_locate havoids hlocate)
  have hlocation : location ≠ [] := by
    rintro rfl
    exact hplace rfl
  rw [replace, replace, hnode]
  split
  · exact .inl ⟨disk, other, rfl, rfl, h⟩
  · exact .inr ⟨.noSpace, rfl, rfl⟩
  · exact .inl ⟨_, _, rfl, rfl, h.put hlocation _⟩

end ManifestSarif.Disk
