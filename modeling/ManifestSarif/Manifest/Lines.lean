import ManifestSarif.Ecosystem
import ManifestSarif.Manifest.Dockerfile
import ManifestSarif.Manifest.Gradle

/-!
# Lines of a manifest

The lines that dependencies are looked up in: those of the manifest, with the variables of Gradle
scripts and container files replaced by their values.
-/

namespace ManifestSarif.Manifest

open Text

/-- The variables that a manifest of the ecosystem defines. -/
def symbols (ecosystem : Ecosystem) (content : List Char) : Symbols :=
  match ecosystem with
  | .gradle => Gradle.symbols content
  | .docker => Dockerfile.symbols content
  | _ => .empty

/-- The text cut at every line feed, each line without one carriage return at its end. -/
def splitLines (text : List Char) : List (List Char) :=
  (pieces '\n' text).map chomp

/-- The lines of a manifest after its variables are replaced. -/
def lines (ecosystem : Ecosystem) (content : String) : List String :=
  let text := content.toList
  (splitLines ((symbols ecosystem text).substitute text)).map String.ofList

end ManifestSarif.Manifest
