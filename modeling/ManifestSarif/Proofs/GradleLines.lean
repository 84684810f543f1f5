import ManifestSarif.Proofs.Occurrences
import ManifestSarif.Proofs.ReportedLines
import ManifestSarif.Proofs.WhiteSpace

/-!
# Lines of Gradle scripts that declare a dependency

A Gradle script writes the coordinates of a dependency in one of two notations: joined by colons, or
as attributes `name: 'n'`, `group: 'g'` and `version: 'v'` in any order.

* `Declaration.HasAttribute` says how an attribute is written, and `hasAttribute_iff` that it is
  found wherever it stands: the key may be on the line before, and the value may hold anything.
* `JoinsCoordinates` and `ListsCoordinates` are the two notations, and `onLine_gradle_iff` says that
  they are what is looked for.
* `gradle_line_is_first_in_a_notation` is the result for the line that is reported.
-/

namespace ManifestSarif

open Text

namespace Declaration

/-! ## Attributes -/

/-- Somewhere on the line stand the key, a colon, white space, perhaps none, and the value between
two equal quotes. -/
def HasAttribute (key value line : List Char) : Prop :=
  ∃ before gap quote after, line = before ++ key ++ ':' :: gap ++ quote :: value ++ quote :: after ∧
    Blanks gap ∧ (quote = '\'' ∨ quote = '"')

variable {key value line text group name version : List Char}

theorem startsQuoted_iff : startsQuoted value text = true ↔ ∃ gap quote after,
    text = gap ++ quote :: value ++ quote :: after ∧ Blanks gap ∧
      (quote = '\'' ∨ quote = '"') := by
  constructor
  · intro h
    obtain ⟨gap, hgap, htext⟩ := exists_blanks_trimStart text
    unfold startsQuoted at h
    cases hstart : trimStart text with
    | nil =>
      rw [hstart] at h
      cases h
    | cons quote rest =>
      rw [hstart] at h htext
      simp only [Bool.and_eq_true, Bool.or_eq_true, beq_iff_eq, Option.any_eq_true] at h
      obtain ⟨hquote, tail, hvalue, hclose⟩ := h
      obtain ⟨after, rfl⟩ := List.head?_eq_some_iff.1 hclose
      rw [List.isPrefixOf?_eq_some_iff_append_eq] at hvalue
      exact ⟨gap, quote, after, by rw [htext, ← hvalue, List.append_assoc]; rfl, hgap, hquote⟩
  · rintro ⟨gap, quote, after, rfl, hgap, hquote⟩
    have hblank : isBlank quote = false := by
      rcases hquote with rfl | rfl <;> decide
    have hstart : trimStart (gap ++ quote :: value ++ quote :: after) =
        quote :: (value ++ quote :: after) := by
      rw [List.append_assoc, trimStart_append hgap]
      exact trimStart_eq_self (by simpa using hblank)
    have hvalue : value.isPrefixOf? (value ++ quote :: after) = some (quote :: after) :=
      List.isPrefixOf?_eq_some_iff_append_eq.2 rfl
    unfold startsQuoted
    rw [hstart]
    simpa [hvalue] using hquote

/-- Every place where the key and a colon stand is looked at. -/
theorem hasAttribute_iff_suffix : hasAttribute key value line = true ↔
    ∃ text, key ++ ':' :: text <:+ line ∧ startsQuoted value text = true := by
  induction line with
  | nil =>
    refine ⟨fun h => absurd h Bool.false_ne_true, ?_⟩
    rintro ⟨text, hsuffix, -⟩
    simp at hsuffix
  | cons c rest ih =>
    rw [hasAttribute, Bool.or_eq_true, ih, Option.any_eq_true]
    simp only [List.isPrefixOf?_eq_some_iff_append_eq, List.append_assoc, List.singleton_append]
    constructor
    · rintro (⟨text, hhere, hquoted⟩ | ⟨text, hlater, hquoted⟩)
      · exact ⟨text, hhere ▸ List.suffix_rfl, hquoted⟩
      · exact ⟨text, hlater.trans (List.suffix_cons c rest), hquoted⟩
    · rintro ⟨text, hsuffix, hquoted⟩
      rcases List.suffix_cons_iff.1 hsuffix with hhere | hlater
      · exact Or.inl ⟨text, hhere, hquoted⟩
      · exact Or.inr ⟨text, hlater, hquoted⟩

theorem hasAttribute_iff : hasAttribute key value line = true ↔ HasAttribute key value line := by
  rw [hasAttribute_iff_suffix]
  constructor
  · rintro ⟨text, ⟨before, rfl⟩, hquoted⟩
    obtain ⟨gap, quote, after, rfl, hgap, hquote⟩ := startsQuoted_iff.1 hquoted
    exact ⟨before, gap, quote, after, by simp, hgap, hquote⟩
  · rintro ⟨before, gap, quote, after, rfl, hgap, hquote⟩
    refine ⟨gap ++ quote :: value ++ quote :: after, ⟨before, by simp⟩, ?_⟩
    exact startsQuoted_iff.2 ⟨gap, quote, after, rfl, hgap, hquote⟩

/-! ## The two notations -/

/-- The line holds group, name and version joined by colons, or group and name if there is no
version. -/
def JoinsCoordinates (group name version line : List Char) : Prop :=
  (version = [] ∧ group ++ ':' :: name <:+: line) ∨
    (version ≠ [] ∧ group ++ ':' :: name ++ ':' :: version <:+: line)

/-- The line has an attribute for the name, one for the group, and one for the version if there is
a version, wherever each of them stands. -/
structure ListsCoordinates (group name version line : List Char) : Prop where
  name : HasAttribute "name".toList name line
  group : HasAttribute "group".toList group line
  version : version ≠ [] → HasAttribute "version".toList version line

/-- The line names the coordinates in one of the notations; a group that is missing is empty. -/
def NamesCoordinates (coordinates : PackageRef.Coordinates) (line : List Char) : Prop :=
  let group := (coordinates.group.getD "").toList
  let name := coordinates.name.toList
  let version := coordinates.version.toList
  JoinsCoordinates group name version line ∨ ListsCoordinates group name version line

theorem occurs_gradleNotation_iff :
    occurs (gradleNotation group name version) line = true ↔
      JoinsCoordinates group name version line := by
  rw [occurs_iff, gradleNotation, JoinsCoordinates]
  by_cases hversion : version = []
  · simp [hversion]
  · simp [hversion]

theorem listsCoordinates_iff :
    (hasAttribute "name".toList name line && hasAttribute "group".toList group line &&
      (version.isEmpty || hasAttribute "version".toList version line)) = true ↔
        ListsCoordinates group name version line := by
  rw [Bool.and_eq_true, Bool.and_eq_true, Bool.or_eq_true, List.isEmpty_iff]
  rw [hasAttribute_iff, hasAttribute_iff, hasAttribute_iff]
  constructor
  · rintro ⟨⟨hname, hgroup⟩, hversion⟩
    exact ⟨hname, hgroup, hversion.resolve_left⟩
  · rintro ⟨hname, hgroup, hversion⟩
    exact ⟨⟨hname, hgroup⟩, Classical.or_iff_not_imp_left.2 hversion⟩

/-- The lines of a script that declare a record. -/
theorem onLine_gradle_iff (record : Record) (line : String) :
    onLine .gradle record line = true ↔ NamesCoordinates record.coordinates line.toList := by
  show gradleDeclares record.coordinates line.toList = true ↔ _
  rw [gradleDeclares, Bool.or_eq_true, listsCoordinates_iff, occurs_gradleNotation_iff]
  exact Or.comm

/-- A key may stand at the end of a longer word and with another value before, and a value may hold
the quote around it. -/
example : gradleDeclares ⟨some "g", "a'b", "1:2"⟩
    "(classname: 'x', version:\t\"1:2\", group: 'g', name:'a'b')".toList = true := by decide

end Declaration

/-! ## The result -/

/-- The line that is reported for a record in a Gradle script is the first one that names its
coordinates, joined by colons or as attributes, and none is reported if no line does. -/
theorem gradle_line_is_first_in_a_notation (record : Record) (lines : List String) :
    (∀ n, Declaration.line? .gradle record lines = some n ↔
      Declaration.IsFirstLine
        (fun line => Declaration.NamesCoordinates record.coordinates line.toList) lines n) ∧
    (Declaration.line? .gradle record lines = none ↔
      ∀ line ∈ lines, ¬Declaration.NamesCoordinates record.coordinates line.toList) := by
  have honLine := Declaration.onLine_gradle_iff record
  refine ⟨fun n => ?_, ?_⟩
  · rw [Declaration.line?_eq_some_iff rfl]
    exact Declaration.isFirstLine_congr honLine
  · rw [Declaration.line?_eq_none_iff]
    simp only [honLine]

end ManifestSarif
