import ManifestSarif.Ecosystem
import ManifestSarif.Text.Lines

/-!
# Paths

A path is a text whose slashes separate its components.  Repeated slashes count as one, and a dot
that is not at the start of a relative path means nothing.

* `Path.components` reads a path,
* `Path.fileName?` is the name that a path ends in, `Path.ecosystem?` what it implies,
* `Path.uri` is the path relative to a working directory.
-/

namespace ManifestSarif.Path

/-- One step of a path. -/
inductive Component where
  | root
  | current
  | parent
  | name (name : String)
deriving DecidableEq, Repr

/-- Whether the path starts at the root. -/
def isAbsolute (path : String) : Bool :=
  path.toList.head? = some '/'

/-- The texts between the slashes of a path. -/
def segments (path : String) : List String :=
  (Text.pieces '/' path.toList).map String.ofList

/-- The step that a segment stands for, unless it means nothing. -/
def component? (segment : String) : Option Component :=
  if segment = "" ∨ segment = "." then none
  else if segment = ".." then some .parent
  else some (.name segment)

/-- The components of a path. -/
def components (path : String) : List Component :=
  let steps := (segments path).filterMap component?
  if isAbsolute path then .root :: steps
  else if (segments path).head? = some "." then .current :: steps
  else steps

/-- The name that the path ends in. -/
def fileName? (path : String) : Option String :=
  match (components path).getLast? with
  | some (.name name) => some name
  | _ => none

/-- The ecosystem of a manifest with this path, if its name is known. -/
def ecosystem? (path : String) : Option Ecosystem :=
  (fileName? path).bind Ecosystem.ofFileName?

/-- The path of a file in a directory. -/
def join (directory name : String) : String :=
  if directory = "" ∨ directory.toList.getLast? = some '/' then directory ++ name
  else directory ++ "/" ++ name

/-- The part of a URI that a component makes, if it makes one. -/
def uriSegment? : Component → Option String
  | .name name => some name
  | .parent => some ".."
  | .root => none
  | .current => none

/-- The components of `path` after those it shares with `base`, and the number of components of
`base` that it does not share. -/
def diverge : List Component → List Component → List Component × Nat
  | p :: path, b :: base => if p = b then diverge path base else (p :: path, base.length + 1)
  | path, base => (path, base.length)

/-- The components that lead from the directory `base` to `path`. -/
def relativeTo (base path : List Component) : List Component :=
  let (rest, ups) := diverge path base
  List.replicate ups .parent ++ rest

/-- The path as a URI relative to the working directory `cwd`. -/
def uri (cwd path : String) : String :=
  let steps :=
    if isAbsolute path then relativeTo (components cwd) (components path) else components path
  String.intercalate "/" (steps.filterMap uriSegment?)

end ManifestSarif.Path
