import ManifestSarif.Manifest.Dockerfile
import ManifestSarif.Record

/-!
# Where a manifest declares a dependency

Each ecosystem has its way of naming a dependency on a line of the manifest.

* `Declaration.onLine` tells whether a line declares a record,
* `Declaration.offset` is what is added to the position of that line,
* `Declaration.line?` is the number under which the first such line is reported.
-/

namespace ManifestSarif.Declaration

open Text

/-- Whether the text starts with white space and then `value` between two equal quotes. -/
def startsQuoted (value text : List Char) : Bool :=
  match trimStart text with
  | [] => false
  | quote :: rest =>
    (quote == '\'' || quote == '"') && (value.isPrefixOf? rest).any fun tail =>
      tail.head? == some quote

/-- Whether `key:`, white space and the quoted `value` stand somewhere on the line. -/
def hasAttribute (key value : List Char) : List Char → Bool
  | [] => false
  | c :: rest =>
    ((key ++ [':']).isPrefixOf? (c :: rest)).any (startsQuoted value) || hasAttribute key value rest

/-- Group, name and version, joined by colons; group and name alone without a version. -/
def gradleNotation (group name version : List Char) : List Char :=
  if version.isEmpty then group ++ ':' :: name else group ++ ':' :: name ++ ':' :: version

/-- Whether a line of a Gradle script names the coordinates, joined by colons or as attributes. -/
def gradleDeclares (coordinates : PackageRef.Coordinates) (line : List Char) : Bool :=
  let group := (coordinates.group.getD "").toList
  let name := coordinates.name.toList
  let version := coordinates.version.toList
  (hasAttribute "name".toList name line && hasAttribute "group".toList group line &&
      (version.isEmpty || hasAttribute "version".toList version line)) ||
    occurs (gradleNotation group name version) line

/-- The image reference without its first `:latest`. -/
def untagged (image : List Char) : List Char :=
  replaceFirst ":latest".toList [] image

/-- Whether a line of a container file builds on the image. -/
def dockerDeclares (image line : List Char) : Bool :=
  (Dockerfile.argument? ['F', 'R', 'O', 'M'] line).any fun argument =>
    occurs image argument || occurs (untagged image) argument

/-- The element that names an artifact. -/
def artifactElement (name : List Char) : List Char :=
  "<artifactId>".toList ++ name ++ "</artifactId>".toList

/-- Whether the line declares the record.  A container file declares images only. -/
def onLine (ecosystem : Ecosystem) (record : Record) (line : String) : Bool :=
  match ecosystem with
  | .maven => occurs (artifactElement record.coordinates.name.toList) line.toList
  | .gradle => gradleDeclares record.coordinates line.toList
  | .docker => record.origin.image.any fun image => dockerDeclares image.toList line.toList
  | _ => occurs record.coordinates.name.toList line.toList

/-- What is added to the position of the declaring line, counted from zero, to report it.  Maven
names the artifact on the line before the one that is reported. -/
def offset : Ecosystem → Nat
  | .maven => 2
  | _ => 1

/-- The number of the first line that declares the record. -/
def line? (ecosystem : Ecosystem) (record : Record) (lines : List String) : Option Nat :=
  (lines.findIdx? (onLine ecosystem record)).map (· + offset ecosystem)

end ManifestSarif.Declaration
