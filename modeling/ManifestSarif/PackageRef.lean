import ManifestSarif.Text.Search

/-!
# Package references

A reference names a package as `pkg:type/path@version?qualifiers`.  Any text may stand where a
reference is expected, so every part is found by the first mark that introduces it, and a part whose
mark is missing is absent or empty.

* `PackageRef.typeSegment?` finds the segment `pkg:type/`,
* `PackageRef.ecosystem?` is the type,
* `PackageRef.dependency` is the reference without that segment and without qualifiers,
* `PackageRef.version` and `PackageRef.coordinates` decode the dependency.
-/

namespace ManifestSarif.PackageRef

open Text

/-- A text around its segment `pkg:type/`. -/
structure TypeSegment where
  before : List Char
  type : List Char
  after : List Char
deriving DecidableEq, Repr

/-- What opens a type segment. -/
def scheme : List Char := "pkg:".toList

/-- The type and the rest of a text that starts with a type and the slash that ends it; the type
holds neither a slash nor a line feed. -/
def typeAt? (text : List Char) : Option (List Char × List Char) :=
  match text with
  | [] => none
  | c :: rest =>
    if c = '/' then some ([], rest)
    else if c = '\n' then none
    else (typeAt? rest).map fun (type, after) => (c :: type, after)

/-- The leftmost segment: the first `pkg:` that a slash follows on the same line. -/
def typeSegment? : List Char → Option TypeSegment
  | [] => none
  | c :: rest =>
    match (scheme.isPrefixOf? (c :: rest)).bind typeAt? with
    | some (type, after) => some ⟨[], type, after⟩
    | none => (typeSegment? rest).map fun s => ⟨c :: s.before, s.type, s.after⟩

/-- The segment, if its type is not empty. -/
def namedSegment? (text : List Char) : Option TypeSegment :=
  (typeSegment? text).filter fun s => !s.type.isEmpty

/-- The text without its type segment. -/
def withoutType (text : List Char) : List Char :=
  match namedSegment? text with
  | some s => s.before ++ s.after
  | none => text

/-- The text without its type segment and without qualifiers. -/
def dependencyText (text : List Char) : List Char :=
  upTo '?' (withoutType text)

/-- The ecosystem that the reference names: the type of its segment, if there is one. -/
def ecosystem? (reference : String) : Option String :=
  (namedSegment? reference.toList).map fun s => String.ofList s.type

/-- The reference without its type segment and without qualifiers. -/
def dependency (reference : String) : String :=
  String.ofList (dependencyText reference.toList)

/-- The version: what follows the first `@` of the dependency, or nothing. -/
def version (reference : String) : String :=
  match cutAt '@' (dependencyText reference.toList) with
  | some (_, version) => String.ofList version
  | none => ""

/-- Group, name and version of a dependency. -/
structure Coordinates where
  group : Option String
  name : String
  version : String
deriving DecidableEq, Repr

/-- Whether references of the ecosystem write a group before the name. -/
def hasGroups (ecosystem : Option String) : Bool :=
  ecosystem = some "maven" || ecosystem = some "gradle"

/-- The coordinates: the path before the version is a group and a name where the ecosystem has
groups and the path has a slash, and a name as a whole otherwise. -/
def coordinates (reference : String) : Coordinates :=
  let path := upTo '@' (dependencyText reference.toList)
  let split := if hasGroups (ecosystem? reference) then cutAt '/' path else none
  match split with
  | some (group, name) =>
    ⟨some (String.ofList group), String.ofList name, version reference⟩
  | none => ⟨none, String.ofList path, version reference⟩

end ManifestSarif.PackageRef
