/-!
# Logged events

Events that a run logs: `Event` has a level, the part of the program that it comes from, the phases
it happened in and a message; `Event.line` is how it is shown.
-/

namespace ManifestSarif.Log

/-- How important an event is, from the most to the least. -/
inductive Level where
  | error
  | warn
  | info
  | debug
  | trace
deriving DecidableEq, Repr

/-- The position of the level, counted from the most important one. -/
def Level.rank : Level → Nat
  | error => 1
  | warn => 2
  | info => 3
  | debug => 4
  | trace => 5

/-- The word for the level. -/
def Level.name : Level → String
  | error => "ERROR"
  | warn => "WARN"
  | info => "INFO"
  | debug => "DEBUG"
  | trace => "TRACE"

/-- The parts of the program that log. -/
inductive Source where
  | program
  | conversion
  | report
  | phases
deriving DecidableEq, Repr

/-- The name by which a filter refers to the part. -/
def Source.name : Source → String
  | program => "rhda_sarif"
  | conversion => "rhda_sarif::convert"
  | report => "rhda_sarif::report"
  | phases => "rhda_sarif::telemetry"

/-- Something that happened, with the phases around it, the outermost first. -/
structure Event where
  level : Level
  source : Source
  phases : List String
  message : String
deriving DecidableEq, Repr

/-- The event as it happens within a phase. -/
def Event.within (phase : String) (event : Event) : Event :=
  { event with phases := phase :: event.phases }

/-! ## Showing events -/

/-- A character of a message: those that would control a terminal are written by number. -/
def escape (c : Char) : List Char :=
  let n := c.toNat
  let hex := Nat.toDigits 16 n
  if n = 0x1b ∨ n = 0x07 ∨ n = 0x08 ∨ n = 0x0c ∨ n = 0x7f then
    '\\' :: 'x' :: List.replicate (2 - hex.length) '0' ++ hex
  else if 0x80 ≤ n ∧ n ≤ 0x9f then '\\' :: 'u' :: '\x7b' :: hex ++ ['\x7d']
  else [c]

/-- The phases in front of a message. -/
def phasesText (phases : List String) : String :=
  if phases.isEmpty then ""
  else
    String.intercalate ":" (phases.map fun phase => "phase\x7bname=" ++ phase ++ "\x7d") ++ ": "

/-- The event in one line, unless its message has line feeds. -/
def Event.line (event : Event) : String :=
  event.level.name ++ " " ++ phasesText event.phases ++
    String.ofList (event.message.toList.flatMap escape)

end ManifestSarif.Log
