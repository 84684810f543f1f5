import ManifestSarif.Proofs.GradleLines
import ManifestSarif.Proofs.ImageLines

/-!
# Declarations in an edited manifest

Lines are looked at one by one, and the first that declares a record is reported.  What is written
behind a declaration never moves it, and lines in front of it move it by their number.

* `Declaration.Declares` is the rule of each ecosystem for a single line, and `onLine_iff` says that
  it is what is looked for.
* `line?_eq_some_iff_first` and `line?_eq_none_iff_forall`: the first line that declares the record
  is reported, Maven's as the line after it.
* `line?_append` says where a record is found in two parts of a manifest, whatever the ecosystem.
* `declaration_is_found_by_its_own_line` is the result.
-/

namespace ManifestSarif

namespace Declaration

/-- What a single line says if it declares the record: Maven's holds the artifact element, Gradle's
one of the notations of the coordinates, that of a container file the image, if the record has one,
and any other line the name. -/
def Declares (ecosystem : Ecosystem) (record : Record) (line : List Char) : Prop :=
  match ecosystem with
  | .maven =>
    "<artifactId>".toList ++ record.coordinates.name.toList ++ "</artifactId>".toList <:+: line
  | .gradle => NamesCoordinates record.coordinates line
  | .docker => ∃ image, record.origin.image = some image ∧ DeclaresImage image.toList line
  | .golang | .npm | .pypi => record.coordinates.name.toList <:+: line

/-- The number of lines between the one that declares a record and the one that is reported. -/
def linesBelow (ecosystem : Ecosystem) : Nat :=
  if ecosystem = .maven then 1 else 0

variable {ecosystem : Ecosystem} {record : Record} {lines : List String} {n : Nat}

theorem onLine_iff (line : String) :
    onLine ecosystem record line = true ↔ Declares ecosystem record line.toList := by
  cases ecosystem with
  | maven => exact Text.occurs_iff
  | gradle => exact onLine_gradle_iff record line
  | docker =>
    cases himage : record.origin.image with
    | none => simp [onLine, Declares, himage]
    | some image => simp [onLine_docker_iff himage, Declares, himage]
  | golang | npm | pypi => exact Text.occurs_iff

theorem offset_eq (ecosystem : Ecosystem) : offset ecosystem = linesBelow ecosystem + 1 := by
  cases ecosystem <;> rfl

theorem line?_eq_some_iff_first :
    line? ecosystem record lines = some n ↔ ∃ first,
      IsFirstLine (fun line => Declares ecosystem record line.toList) lines first ∧
        n = first + linesBelow ecosystem := by
  rw [line?, Option.map_eq_some_iff, offset_eq]
  simp only [findIdx?_eq_some_iff, isFirstLine_congr onLine_iff]
  constructor
  · rintro ⟨position, hfirst, rfl⟩
    exact ⟨position + 1, hfirst, by omega⟩
  · rintro ⟨first, hfirst, rfl⟩
    obtain ⟨above, -, -, -, rfl, -⟩ := id hfirst
    exact ⟨above.length, hfirst, by omega⟩

theorem line?_eq_none_iff_forall :
    line? ecosystem record lines = none ↔
      ∀ line ∈ lines, ¬Declares ecosystem record line.toList := by
  simp only [line?_eq_none_iff, onLine_iff]

/-! ## Two parts of a manifest -/

/-- What is found in the second part is counted from the start of the first one, and Maven's line
further down is counted from the same start. -/
theorem line?_append (above below : List String) :
    line? ecosystem record (above ++ below) =
      (line? ecosystem record above).or
        ((line? ecosystem record below).map (above.length + ·)) := by
  have hshift : (· + offset ecosystem) ∘ (· + above.length) =
      (above.length + ·) ∘ (· + offset ecosystem) := by
    funext position
    show position + above.length + offset ecosystem = above.length + (position + offset ecosystem)
    omega
  rw [line?, List.findIdx?_append, Option.map_or, line?, line?, Option.map_map, Option.map_map,
    hshift]

end Declaration

/-! ## The result -/

/-- In a manifest of two parts a record is found where it is in the first one, and otherwise where
it is in the second one, moved by the number of lines of the first.  So lines behind a declaration
do not move it, and lines in front that do not declare the record move it by their number.  Whether
a line declares the record is a matter of this line alone, and the first that does is reported. -/
theorem declaration_is_found_by_its_own_line (ecosystem : Ecosystem) (record : Record) :
    (∀ above below, Declaration.line? ecosystem record (above ++ below) =
      (Declaration.line? ecosystem record above).or
        ((Declaration.line? ecosystem record below).map (above.length + ·))) ∧
    (∀ lines added n, Declaration.line? ecosystem record lines = some n →
      Declaration.line? ecosystem record (lines ++ added) = some n) ∧
    (∀ added lines, (∀ line ∈ added, ¬Declaration.Declares ecosystem record line.toList) →
      Declaration.line? ecosystem record (added ++ lines) =
        (Declaration.line? ecosystem record lines).map (added.length + ·)) ∧
    (∀ lines n, Declaration.line? ecosystem record lines = some n ↔ ∃ first,
      Declaration.IsFirstLine
        (fun line => Declaration.Declares ecosystem record line.toList) lines first ∧
          n = first + Declaration.linesBelow ecosystem) ∧
    (∀ lines, Declaration.line? ecosystem record lines = none ↔
      ∀ line ∈ lines, ¬Declaration.Declares ecosystem record line.toList) := by
  refine ⟨Declaration.line?_append, ?_, ?_, ?_, ?_⟩
  · intro lines added n hfound
    rw [Declaration.line?_append, hfound, Option.some_or]
  · intro added lines hadded
    rw [Declaration.line?_append, Declaration.line?_eq_none_iff_forall.2 hadded, Option.none_or]
  · exact fun lines n => Declaration.line?_eq_some_iff_first
  · exact fun lines => Declaration.line?_eq_none_iff_forall

namespace Sample

/-- The record of an artifact. -/
def artifact : Record :=
  ⟨⟨none, .maven, "rhda", "osv"⟩, "pkg:maven/log4j/log4j@1.2.17",
    PackageRef.coordinates "pkg:maven/log4j/log4j@1.2.17", none, none, none⟩

end Sample

/-- Two lines above the artifact, of which one has its group, move it by two; a second element of
the artifact below does not.  An image is found in no line for a record without one. -/
theorem sample_artifact_moves_with_lines_above :
    Declaration.line? .maven Sample.artifact ["<artifactId>log4j</artifactId>"] = some 2 ∧
    Declaration.line? .maven Sample.artifact
      ["<dependency>", "<groupId>log4j</groupId>", "<artifactId>log4j</artifactId>"] = some 4 ∧
    Declaration.line? .maven Sample.artifact
      ["<artifactId>log4j</artifactId>", "<artifactId>log4j</artifactId>"] = some 2 ∧
    Declaration.line? .docker Sample.artifact ["FROM log4j"] = none := by
  obtain ⟨-, hbehind, hfront, -, -⟩ := declaration_is_found_by_its_own_line .maven Sample.artifact
  obtain ⟨-, -, -, -, hnone⟩ := declaration_is_found_by_its_own_line .docker Sample.artifact
  have hfound : Declaration.line? .maven Sample.artifact ["<artifactId>log4j</artifactId>"] =
      some 2 := by decide
  have hadded : ∀ line ∈ ["<dependency>", "<groupId>log4j</groupId>"],
      ¬Declaration.Declares .maven Sample.artifact line.toList := by
    simp only [← Declaration.onLine_iff]
    decide
  refine ⟨hfound, ?_, hbehind _ ["<artifactId>log4j</artifactId>"] _ hfound, ?_⟩
  · have hmoved := hfront _ ["<artifactId>log4j</artifactId>"] hadded
    rw [hfound] at hmoved
    exact hmoved
  · refine (hnone _).2 fun line _ => ?_
    rintro ⟨image, himage, -⟩
    cases himage

end ManifestSarif
