import ManifestSarif.Disk

/-!
# What a write does to a disk

A text is written to a location that was opened.  This file says what the disk holds afterwards.

* `node?_put_self` and `node?_put_of_ne` are the two equations of `Disk.put`.
* `follow_put`: a path that leads somewhere still leads there when a file is put where no directory
  was, since no step of the path starts at that place.
* `openForWriting_eq_ok_iff` and `replace_eq_ok_iff` say when a place can be opened and written.
* `written_of_replace` puts these together: after a write, the path reads back the text, and every
  other place is as it was.
-/

namespace ManifestSarif.Disk

variable {disk : Disk} {location other : Location} {node : Node}

/-! ## Nodes after a node is put -/

private theorem lookup_map_self {nodes : List (Location × Node)}
    (h : nodes.any (fun entry => entry.1 = location) = true) :
    (nodes.map fun entry => if entry.1 = location then (location, node) else entry).lookup
      location = some node := by
  induction nodes with
  | nil => simp at h
  | cons entry nodes ih =>
    rw [List.map_cons]
    by_cases hentry : entry.1 = location
    · rw [if_pos hentry, List.lookup_cons_self]
    · have hrest : nodes.any (fun entry => entry.1 = location) = true := by
        simpa [hentry] using h
      rw [if_neg hentry, List.lookup_cons, beq_false_of_ne (Ne.symm hentry)]
      exact ih hrest

private theorem lookup_map_of_ne (h : other ≠ location) (nodes : List (Location × Node)) :
    (nodes.map fun entry => if entry.1 = location then (location, node) else entry).lookup other =
      nodes.lookup other := by
  induction nodes with
  | nil => rfl
  | cons entry nodes ih =>
    obtain ⟨place, value⟩ := entry
    rw [List.map_cons, List.lookup_cons]
    by_cases hentry : place = location
    · rw [if_pos hentry, List.lookup_cons, hentry, beq_false_of_ne h, ih]
    · rw [if_neg hentry, List.lookup_cons, ih]

private theorem lookup_append_self {nodes : List (Location × Node)}
    (h : ¬nodes.any (fun entry => entry.1 = location) = true) :
    (nodes ++ [(location, node)]).lookup location = some node := by
  have hnone : nodes.lookup location = none := by
    rw [List.lookup_eq_none_iff]
    intro entry hmem
    simp only [List.any_eq_true, decide_eq_true_eq, not_exists, not_and] at h
    exact bne_iff_ne.2 (Ne.symm (h entry hmem))
  rw [List.lookup_append, hnone, Option.none_or, List.lookup_cons_self]

/-- The node is at its location. -/
theorem node?_put_self (h : location ≠ []) :
    (disk.put location node).node? location = some node := by
  rw [node?, if_neg h, put]
  split
  · next hany => exact lookup_map_self hany
  · next hany => exact lookup_append_self hany

/-- No other location is touched. -/
theorem node?_put_of_ne (h : other ≠ location) :
    (disk.put location node).node? other = disk.node? other := by
  rw [node?, node?, put]
  split
  · rfl
  · split
    · exact lookup_map_of_ne h disk.nodes
    · rw [List.lookup_append, List.lookup_cons, beq_false_of_ne h]
      exact Option.or_none

@[simp]
theorem cwd_put : (disk.put location node).cwd = disk.cwd := by
  rw [put]
  split <;> rfl

/-! ## Paths after a file is put -/

theorem stepError_put_of_ne (h : other ≠ location) :
    (disk.put location node).stepError other = disk.stepError other := by
  rw [stepError, stepError, node?_put_of_ne h]

/-- A step that can be taken starts at a directory. -/
theorem node?_of_stepError_eq_none (h : disk.stepError location = none) :
    disk.node? location = some .directory := by
  rw [stepError] at h
  split at h
  · assumption
  · cases h
  · cases h

/-- Where a path leads does not change when a node is put at a place that is no directory. -/
theorem follow_put (hplace : disk.node? location ≠ some .directory) {start goal : Location}
    {segments : List String} (h : disk.follow start segments = .ok goal) :
    (disk.put location node).follow start segments = .ok goal := by
  induction segments generalizing start with
  | nil => exact h
  | cons segment segments ih =>
    rw [follow] at h ⊢
    cases hstep : disk.stepError start with
    | some error => rw [hstep] at h; cases h
    | none =>
      have hne : start ≠ location := by
        intro hsame
        subst hsame
        exact hplace (node?_of_stepError_eq_none hstep)
      rw [stepError_put_of_ne hne, hstep]
      simp only [hstep] at h ⊢
      by_cases hcurrent : segment = "."
      · rw [if_pos hcurrent] at h ⊢
        exact ih h
      · rw [if_neg hcurrent] at h ⊢
        by_cases hparent : segment = ".."
        · rw [if_pos hparent] at h ⊢
          exact ih h
        · rw [if_neg hparent] at h ⊢
          by_cases hlong : segment.utf8ByteSize > 255
          · rw [if_pos hlong] at h
            cases h
          · rw [if_neg hlong] at h ⊢
            exact ih h

theorem locate_put (hplace : disk.node? location ≠ some .directory) {path : String}
    {goal : Location} (h : disk.locate path = .ok goal) :
    (disk.put location node).locate path = .ok goal := by
  rw [locate] at h ⊢
  cases hroute : route path with
  | error error => rw [hroute] at h; cases h
  | ok segments =>
    rw [hroute] at h
    have horigin : (disk.put location node).origin path = disk.origin path := by
      rw [origin, origin, cwd_put]
    rw [horigin]
    exact follow_put hplace h

/-! ## Opening and writing -/

/-- A path can be opened for writing when it leads to a place that is no directory and does not end
in a slash. -/
theorem openForWriting_eq_ok_iff {path : String} :
    disk.openForWriting path = .ok location ↔
      endsInSlash path = false ∧ disk.locate path = .ok location ∧
        disk.node? location ≠ some .directory := by
  rw [openForWriting]
  cases hslash : endsInSlash path with
  | true =>
    cases herror : disk.directoryError path <;> simp [bind, Except.bind]
  | false =>
    cases hlocate : disk.locate path with
    | error error => simp [bind, Except.bind]
    | ok place =>
      by_cases hplace : disk.node? place = some .directory
      · have hdirectory : place = location → disk.node? location = some .directory := by
          intro hsame
          rw [← hsame]
          exact hplace
        simpa [bind, Except.bind, hplace] using hdirectory
      · have hother : place = location → ¬disk.node? location = some .directory := by
          intro hsame
          rw [← hsame]
          exact hplace
        simpa [bind, Except.bind, hplace] using hother

/-- A place can be written unless it is the device that takes nothing. -/
theorem replace_eq_ok_iff {text : String} {after : Disk} :
    disk.replace location text = .ok after ↔
      disk.node? location ≠ some .full ∧
        after = if disk.node? location = some .sink then disk
          else disk.put location (.file (some text)) := by
  rw [replace]
  split
  · next h => simp [h, eq_comm]
  · next h => simp [h]
  · next hsink hfull =>
    rw [if_neg hsink, Except.ok.injEq]
    exact ⟨fun h => ⟨hfull, h.symm⟩, fun h => h.2.symm⟩

/-- What a disk holds after a text was written to the place that a path leads to. -/
structure Written (before after : Disk) (path text : String) (location : Location) : Prop where
  opened : before.openForWriting path = .ok location
  sameDirectory : after.cwd = before.cwd
  /-- No other place has changed. -/
  others : ∀ other, other ≠ location → after.node? other = before.node? other
  /-- The text is there, in place of what was there before. -/
  content : before.node? location ≠ some .sink →
    after.node? location = some (.file (some text)) ∧ after.read path = .ok text
  /-- The device that takes everything keeps nothing. -/
  device : before.node? location = some .sink → after = before

theorem read_put {path text : String} (h : disk.openForWriting path = .ok location) :
    (disk.put location (.file (some text))).read path = .ok text := by
  obtain ⟨hslash, hlocate, hplace⟩ := openForWriting_eq_ok_iff.1 h
  have hne : location ≠ [] := by
    intro hroot
    rw [hroot] at hplace
    exact hplace rfl
  rw [read, locate_put hplace hlocate]
  simp only [bind, Except.bind]
  rw [node?_put_self hne]
  simp [Node.read, hslash]

/-- A write that succeeds leaves the text at the place that was opened, and nowhere else. -/
theorem written_of_replace {before after : Disk} {path text : String}
    (hopen : before.openForWriting path = .ok location)
    (hreplace : before.replace location text = .ok after) :
    Written before after path text location := by
  obtain ⟨hfull, rfl⟩ := replace_eq_ok_iff.1 hreplace
  by_cases hsink : before.node? location = some .sink
  · rw [if_pos hsink]
    exact ⟨hopen, rfl, fun _ _ => rfl, fun h => absurd hsink h, fun _ => rfl⟩
  · rw [if_neg hsink]
    have hne : location ≠ [] := by
      intro hroot
      rw [hroot] at hopen
      exact (openForWriting_eq_ok_iff.1 hopen).2.2 rfl
    exact ⟨hopen, cwd_put, fun _ h => node?_put_of_ne h,
      fun _ => ⟨node?_put_self hne, read_put hopen⟩, fun h => absurd h hsink⟩

end ManifestSarif.Disk
