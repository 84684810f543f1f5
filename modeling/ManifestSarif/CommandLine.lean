import ManifestSarif.Ecosystem
import ManifestSarif.Severity

/-!
# The command line

The options of the program and how arguments are read.  An option takes one value, as the next
argument or after an equals sign.  A value is looked at only when the next option or the end of the
arguments is reached, while an argument that is no option is refused at once.

* `Options` is what a run needs, `CommandLine.Request` what the arguments ask for,
* `CommandLine.parse` reads the arguments.
-/

namespace ManifestSarif

/-- What a run needs. -/
structure Options where
  report : String
  manifest : Option String
  ecosystem : Option Ecosystem
  output : Option String
  failOn : FailOn
deriving DecidableEq, Repr

namespace CommandLine

/-- Why arguments are refused. -/
inductive UsageError where
  /-- An option that must be given is missing. -/
  | missingOption
  /-- An argument is neither an option nor the value of one. -/
  | unknownArgument
  /-- A value is missing, or is not one that the option takes. -/
  | invalidValue
  /-- An option is given twice. -/
  | repeatedOption
  /-- A value is attached to an option that takes none. -/
  | unneededValue
deriving DecidableEq, Repr

/-- What arguments ask for. -/
inductive Request where
  | run (options : Options)
  | help
  | version
  | refused (error : UsageError)
deriving DecidableEq, Repr

/-- The options that take a value. -/
inductive Key where
  | report
  | manifest
  | ecosystem
  | output
  | failOn
deriving DecidableEq, Repr

/-- The options by their names. -/
def keys : List (String × Key) :=
  [("report", .report), ("manifest", .manifest), ("ecosystem", .ecosystem), ("output", .output),
    ("fail-on", .failOn)]

/-- The values that were given. -/
structure Given where
  report : Option String
  manifest : Option String
  ecosystem : Option Ecosystem
  output : Option String
  failOn : Option FailOn

/-- Nothing given. -/
def Given.nothing : Given := ⟨none, none, none, none, none⟩

/-- Puts a value where none is yet. -/
def set {α : Type} (old : Option α) (new : Option α) : Except UsageError (Option α) :=
  match old, new with
  | some _, _ => .error .repeatedOption
  | none, some value => .ok (some value)
  | none, none => .error .invalidValue

/-- The path that a value is; it may not be empty. -/
def path? (value : String) : Option String :=
  if value = "" then none else some value

/-- The values with one more. -/
def Given.add (given : Given) (key : Key) (value : String) : Except UsageError Given :=
  match key with
  | .report => do return { given with report := ← set given.report (path? value) }
  | .manifest => do return { given with manifest := ← set given.manifest (path? value) }
  | .ecosystem => do
    return { given with ecosystem := ← set given.ecosystem (Ecosystem.ofName? value) }
  | .output => do return { given with output := ← set given.output (path? value) }
  | .failOn => do return { given with failOn := ← set given.failOn (FailOn.ofName? value) }

/-- The values that were looked at, and the option last read with its value, if it has one yet. -/
structure State where
  given : Given
  pending : Option (Key × Option String)

/-- The values after the option last read. -/
def State.settle (state : State) : Except UsageError Given :=
  match state.pending with
  | none => .ok state.given
  | some (_, none) => .error .invalidValue
  | some (key, some value) => state.given.add key value

/-- What the arguments ask for at their end. -/
def State.finish (state : State) : Request :=
  match state.settle with
  | .error error => .refused error
  | .ok given =>
    match given.report with
    | none => .refused .missingOption
    | some report =>
      .run ⟨report, given.manifest, given.ecosystem, given.output, given.failOn.getD .error⟩

/-- What an option that takes no value asks for, by its name. -/
def notices : List (String × Request) :=
  [("help", .help), ("version", .version)]

/-- What a letter after one hyphen asks for. -/
def shortNotices : List (Char × Request) :=
  [('h', .help), ('V', .version)]

/-- A request, unless the option before it is refused. -/
def State.answer (state : State) (request : Request) : Request :=
  match state.settle with
  | .error error => .refused error
  | .ok _ => request

/-- The forms of an argument. -/
inductive Argument where
  /-- Two hyphens alone. -/
  | divider
  /-- A name after two hyphens, and the value attached to it. -/
  | long (name : String) (value : Option String)
  /-- Letters after one hyphen. -/
  | short (letters : List Char)
  | value (value : String)
deriving DecidableEq, Repr

/-- A name and the value after its first equals sign. -/
def splitValue : List Char → List Char × Option (List Char)
  | [] => ([], none)
  | c :: rest =>
    if c = '=' then ([], some rest)
    else
      let more := splitValue rest
      (c :: more.1, more.2)

/-- The form of an argument. -/
def Argument.ofText (text : String) : Argument :=
  match text.toList with
  | ['-', '-'] => .divider
  | '-' :: '-' :: rest =>
    let split := splitValue rest
    .long (String.ofList split.1) (split.2.map String.ofList)
  | '-' :: c :: rest => .short (c :: rest)
  | _ => .value text

/-- Reads the arguments after those that led to `state`. -/
def parseFrom (state : State) : List String → Request
  | [] => state.finish
  | text :: rest =>
    match Argument.ofText text with
    | .divider => if rest.isEmpty then state.finish else .refused .unknownArgument
    | .short letters =>
      match letters.head?.bind fun letter => shortNotices.lookup letter with
      | some request => state.answer request
      | none => .refused .unknownArgument
    | .long name attached =>
      match keys.lookup name, notices.lookup name with
      | some key, _ =>
        match state.settle with
        | .error error => .refused error
        | .ok given =>
          match attached with
          | none => parseFrom ⟨given, some (key, none)⟩ rest
          | some value =>
            match given.add key value with
            | .error error => .refused error
            | .ok given => parseFrom ⟨given, none⟩ rest
      | none, some request =>
        if attached.isSome then .refused .unneededValue else state.answer request
      | none, none => .refused .unknownArgument
    | .value value =>
      match state.pending with
      | some (key, none) => parseFrom ⟨state.given, some (key, some value)⟩ rest
      | _ => .refused .unknownArgument

/-- What the arguments ask for. -/
def parse (arguments : List String) : Request :=
  parseFrom ⟨.nothing, none⟩ arguments

end CommandLine

end ManifestSarif
