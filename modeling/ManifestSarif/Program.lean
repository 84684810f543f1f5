import ManifestSarif.Log.Filter
import ManifestSarif.Run

/-!
# The program

What the program does with its arguments and its environment, seen from outside: the exit code, and
what it writes to its two outputs and to the disk.

* `Program.noticeLines` is what a run prints besides the document,
* `Program.failureText` is how a failure is printed,
* `Program.respond` is the answer to some arguments.
-/

namespace ManifestSarif.Program

/-- What the program finds in its surroundings. -/
structure Environment where
  disk : Disk
  /-- The setting of the log filter. -/
  log : Option String
  /-- The setting that asks for a check of the document. -/
  validate : Option String

/-- What the program does. -/
inductive Response where
  /-- A run with its exit code. -/
  | ran (code : Nat) (output errors : String) (disk : Disk)
  /-- The arguments ask for no run, or are refused. -/
  | noRun (code : Nat) (request : CommandLine.Request)

/-- The line of a notice, if the filter shows it. -/
def noticeLine? (filter : Log.Filter) : Run.Notice → Option String
  | .event event => (filter.shown [event]).head?.map Log.Event.line
  | .severity severity => some ("severity=" ++ severity.name)

/-- The lines of the notices that the filter shows. -/
def noticeLines (filter : Log.Filter) (notices : List Run.Notice) : List String :=
  notices.filterMap (noticeLine? filter)

/-! ## Failures -/

/-- A text whose line feeds are followed by an indent. -/
def indented (indent text : String) : String :=
  String.intercalate ("\n" ++ indent) ((Text.pieces '\n' text.toList).map String.ofList)

/-- A cause with its number. -/
def numberedCause (cause : String × Nat) : String :=
  let number := toString cause.2
  String.ofList (List.replicate (5 - number.length) ' ') ++ number ++ ": " ++
    indented "       " cause.1

/-- The causes of a failure; several ones are numbered. -/
def causesText : List String → String
  | [] => ""
  | [cause] => "\n\nCaused by:\n    " ++ indented "    " cause
  | causes => "\n\nCaused by:\n" ++ String.intercalate "\n" (causes.zipIdx.map numberedCause)

/-- The message of a failure and its causes. -/
def failureText : List String → String
  | [] => ""
  | message :: causes => message ++ causesText causes

/-! ## The answer to arguments -/

/-- Lines with their ends. -/
def unlines (lines : List String) : String :=
  String.join (lines.map (· ++ "\n"))

/-- The exit code of a run that fails. -/
def failureCode : Nat := 1

/-- The exit code for arguments that are refused. -/
def usageCode : Nat := 2

/-- The response of a run. -/
def ofOutcome (filter : Log.Filter) (outcome : Run.Outcome) : Response :=
  let lines := noticeLines filter outcome.notices
  match outcome.result with
  | .ok code => .ran code outcome.output (unlines lines) outcome.disk
  | .error failure =>
    .ran failureCode outcome.output (unlines (lines ++ [failureText failure.messages])) outcome.disk

/-- What the program does when it is called with the arguments. -/
def respond (environment : Environment) (arguments : List String) : Response :=
  match CommandLine.parse arguments with
  | .run options =>
    ofOutcome (.ofSetting environment.log)
      (Run.perform ⟨environment.disk, environment.validate⟩ options)
  | .help => .noRun 0 .help
  | .version => .noRun 0 .version
  | .refused error => .noRun usageCode (.refused error)

end ManifestSarif.Program
