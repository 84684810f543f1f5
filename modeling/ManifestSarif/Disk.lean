import ManifestSarif.Path

/-!
# Files

A tree of files and directories with a working directory, as far as reading and replacing files can
tell.

* `Disk.locate` follows a path, `Disk.read` reads a text file, `Disk.replace` writes one,
* `Disk.isFile` tells whether a regular file has the path,
* `Disk.changedFiles` lists the files that differ from those of another disk.

Reading a device that takes nothing is left out: a system yields characters without end there, so
that no text is ever read, and `Node.read` says that it is empty.
-/

namespace ManifestSarif

/-- Why a file cannot be read or written. -/
inductive FileError where
  | notFound
  | notADirectory
  | isADirectory
  | noSpace
  | nameTooLong
  | notText
  | nulInPath
deriving DecidableEq, Repr

/-- The words for the error. -/
def FileError.message : FileError → String
  | notFound => "No such file or directory (os error 2)"
  | notADirectory => "Not a directory (os error 20)"
  | isADirectory => "Is a directory (os error 21)"
  | noSpace => "No space left on device (os error 28)"
  | nameTooLong => "File name too long (os error 36)"
  | notText => "stream did not contain valid UTF-8"
  | nulInPath => "file name contained an unexpected NUL byte"

/-- What a name of a directory stands for. -/
inductive Node where
  | directory
  /-- A file with its text, or without one when its bytes are no text. -/
  | file (text : Option String)
  /-- A device that is empty when read and takes everything. -/
  | sink
  /-- A device that takes nothing; that it never ends when it is read is left out. -/
  | full
deriving DecidableEq, Repr

/-- The text that a node has when it is read, if it has one. -/
def Node.read : Node → Except FileError (Option String)
  | directory => .error .isADirectory
  | file text => .ok text
  | sink => .ok (some "")
  | full => .ok (some "")

/-- The names from the root to a node. -/
abbrev Location := List String

/-- The nodes below the root, and where relative paths start. -/
structure Disk where
  cwd : Location
  nodes : List (Location × Node)

namespace Disk

/-- The node at a location; the root is a directory. -/
def node? (disk : Disk) (location : Location) : Option Node :=
  if location = [] then some .directory else disk.nodes.lookup location

/-- The disk with a node put at a location. -/
def put (disk : Disk) (location : Location) (node : Node) : Disk :=
  if disk.nodes.any fun entry => entry.1 = location then
    { disk with
      nodes := disk.nodes.map fun entry => if entry.1 = location then (location, node) else entry }
  else { disk with nodes := disk.nodes ++ [(location, node)] }

/-! ## Following a path -/

/-- The error of a step that starts at something other than a directory. -/
def stepError (disk : Disk) (location : Location) : Option FileError :=
  match disk.node? location with
  | some .directory => none
  | some _ => some .notADirectory
  | none => some .notFound

/-- Follows the segments of a path from a location.  Each step starts at a directory; the last one
may lead to nothing. -/
def follow (disk : Disk) : Location → List String → Except FileError Location
  | location, [] => .ok location
  | location, segment :: rest =>
    match disk.stepError location with
    | some error => .error error
    | none =>
      if segment = "." then follow disk location rest
      else if segment = ".." then follow disk location.dropLast rest
      else if segment.utf8ByteSize > 255 then .error .nameTooLong
      else follow disk (location ++ [segment]) rest

/-- Whether the path can only be that of a directory: it ends in a slash. -/
def endsInSlash (path : String) : Bool :=
  path.toList.getLast? = some '/'

/-- The segments of a path, if it is neither empty nor too long. -/
def route (path : String) : Except FileError (List String) :=
  if path.toList.contains '\x00' then .error .nulInPath
  else if path = "" then .error .notFound
  else if path.utf8ByteSize ≥ 4096 then .error .nameTooLong
  else .ok ((Path.segments path).filter (· ≠ ""))

/-- Where a path starts. -/
def origin (disk : Disk) (path : String) : Location :=
  if Path.isAbsolute path then [] else disk.cwd

/-- The location that a path leads to. -/
def locate (disk : Disk) (path : String) : Except FileError Location := do
  follow disk (disk.origin path) (← route path)

/-! ## Reading and writing -/

/-- The text of a file. -/
def read (disk : Disk) (path : String) : Except FileError String := do
  let location ← disk.locate path
  match disk.node? location with
  | none => .error .notFound
  | some node =>
    let text? ← node.read
    if endsInSlash path then .error .notADirectory
    else
      match text? with
      | some text => .ok text
      | none => .error .notText

/-- Whether the path is that of a regular file. -/
def isFile (disk : Disk) (path : String) : Bool :=
  match disk.locate path with
  | .error _ => false
  | .ok location =>
    match disk.node? location with
    | some (.file _) => !endsInSlash path
    | _ => false

/-- Why nothing is written to a path with a slash at its end: the directory that it lies in cannot
be reached, or else the path is that of a directory, whatever its last name is. -/
def directoryError (disk : Disk) (path : String) : Except FileError FileError := do
  let parent ← disk.follow (disk.origin path) (← route path).dropLast
  return (disk.stepError parent).getD .isADirectory

/-- The location of a file that is to be written, which may exist or not. -/
def openForWriting (disk : Disk) (path : String) : Except FileError Location := do
  if endsInSlash path then .error (← disk.directoryError path)
  else
    let location ← disk.locate path
    if disk.node? location = some .directory then .error .isADirectory else .ok location

/-- Replaces what is at a location that was opened. -/
def replace (disk : Disk) (location : Location) (text : String) : Except FileError Disk :=
  match disk.node? location with
  | some .sink => .ok disk
  | some .full => .error .noSpace
  | _ => .ok (disk.put location (.file (some text)))

/-! ## Setting up and comparing -/

/-- The root with the devices, and the directories that lead to the working directory. -/
def initial (cwd : Location) : Disk where
  cwd := cwd
  nodes :=
    [(["dev"], .directory), (["dev", "null"], .sink), (["dev", "full"], .full)] ++
      (List.range cwd.length).map fun depth => (cwd.take (depth + 1), .directory)

/-- Follows the segments of a path from a location and makes the directories it leads through. -/
def placeFrom (disk : Disk) (node : Node) : Location → List String → Disk
  | location, [] => if disk.node? location = some .directory then disk else disk.put location node
  | location, segment :: rest =>
    let disk :=
      if disk.node? location = none then disk.put location .directory else disk
    if segment = "." then placeFrom disk node location rest
    else if segment = ".." then placeFrom disk node location.dropLast rest
    else placeFrom disk node (location ++ [segment]) rest

/-- The disk with a node at a path, and with the directories that lead there. -/
def place (disk : Disk) (path : String) (node : Node) : Disk :=
  placeFrom disk node (disk.origin path) ((Path.segments path).filter (· ≠ ""))

/-- The texts of the files that are not on the disk `before`, or have another content there. -/
def changedFiles (before after : Disk) : List (Location × String) :=
  after.nodes.filterMap fun (location, node) =>
    match node with
    | .file (some text) =>
      if before.node? location = some node then none else some (location, text)
    | _ => none

/-- The path of a location. -/
def pathText (location : Location) : String :=
  "/" ++ String.intercalate "/" location

end Disk

end ManifestSarif
