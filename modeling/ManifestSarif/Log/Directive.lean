import ManifestSarif.Decimal.Digits
import ManifestSarif.Log.Event
import ManifestSarif.Text.Alphanumeric
import ManifestSarif.Text.Blank
import ManifestSarif.Text.Lines
import ManifestSarif.Text.Pattern.Reader

/-!
# Directives of a log filter

A directive sets a level for some sources, or for what happens in some phases.  It is written as
`source[span{field=value}]=level`, where each part may be missing.

* `Directive` is a directive, `Directive.ofText?` reads one,
* `levelOf?` reads a level.
-/

namespace ManifestSarif.Log

open Text

/-! ## Levels -/

/-- The level with the number, of which 0 stands for none. -/
def levelOfNumber? : Nat → Option (Option Level)
  | 0 => some none
  | 1 => some (some .error)
  | 2 => some (some .warn)
  | 3 => some (some .info)
  | 4 => some (some .debug)
  | 5 => some (some .trace)
  | _ => none

/-- The number that the text denotes, with or without a plus sign. -/
def numberOf? (text : List Char) : Option Nat :=
  let digits := match text with
    | '+' :: rest => rest
    | _ => text
  if !digits.isEmpty && digits.all Char.isDigit then
    some (Decimal.digitsValue digits)
  else none

/-- The level that the text names, in letters of either case. -/
def levelOfWord? (text : List Char) : Option (Option Level) :=
  [("error", some Level.error), ("warn", some .warn), ("info", some .info), ("debug", some .debug),
    ("trace", some .trace), ("off", none)].lookup (String.ofList (text.map Char.toLower))

/-- The level that the text names or numbers. -/
def levelOf? (text : List Char) : Option (Option Level) :=
  ((numberOf? text).bind levelOfNumber?).orElse fun _ => levelOfWord? text

/-! ## Fields -/

/-- The text without a sign at its start. -/
def unsigned : List Char → List Char
  | '+' :: rest => rest
  | '-' :: rest => rest
  | text => text

/-- Whether the text is an exponent, or empty. -/
def isExponent : List Char → Bool
  | [] => true
  | e :: rest =>
    e.toLower == 'e' && !(unsigned rest).isEmpty && (unsigned rest).all Char.isDigit

/-- Whether the text is a decimal number without a sign.  There is a digit before or after the
point. -/
def isDecimal (text : List Char) : Bool :=
  let whole := text.takeWhile Char.isDigit
  let (fraction, rest) := match text.dropWhile Char.isDigit with
    | '.' :: rest => (rest.takeWhile Char.isDigit, rest.dropWhile Char.isDigit)
    | rest => ([], rest)
  !(whole ++ fraction).isEmpty && isExponent rest

/-- Whether the text is a number, which may be infinite or undefined. -/
def isNumber (text : List Char) : Bool :=
  isDecimal (unsigned text) ||
    ["inf", "infinity", "nan"].contains (String.ofList ((unsigned text).map Char.toLower))

/-- What the value of a field has to be.  A truth value or a number is no pattern, and the name of
no phase. -/
structure ValueTest where
  text : List Char
  pattern : Option Pattern
deriving DecidableEq, Repr

/-- The test that a text describes. -/
def ValueTest.ofText? (text : List Char) : Option ValueTest :=
  if text = "true".toList || text = "false".toList || isNumber text then some ⟨text, none⟩
  else (Pattern.ofText? text).map fun pattern => ⟨text, some pattern⟩

/-- Whether a text passes the test. -/
def ValueTest.passes (test : ValueTest) (text : String) : Bool :=
  test.pattern.any fun pattern => pattern.accepts text.toList

/-- A field that has to be there, with or without a test of its value. -/
structure FieldTest where
  name : List Char
  value : Option ValueTest
deriving DecidableEq, Repr

/-- The field that a text describes: a name, and after an equals sign the test of its value, which
ends at the next equals sign. -/
def FieldTest.ofText? (text : List Char) : Option FieldTest :=
  if text.isEmpty then none
  else
    match pieces '=' text with
    | name :: value :: _ => (ValueTest.ofText? value).map fun test => ⟨name, some test⟩
    | _ => some ⟨text, none⟩

/-! ## Directives -/

/-- What a directive lets through: events up to some level.  `none` for the level lets nothing
through, `none` for another part makes no condition. -/
structure Directive where
  /-- What the name of the source starts with. -/
  target : Option (List Char)
  /-- The name of a span around the event. -/
  span : Option (List Char)
  /-- A field of the span, or of the event. -/
  field : Option FieldTest
  level : Option Level
deriving DecidableEq, Repr

namespace Directive

/-- The directive for all events up to a level. -/
def fromLevel (level : Level) : Directive := ⟨none, none, none, some level⟩

/-- What the text of a directive is being read for.  A number tells where the part starts. -/
inductive Stage where
  | start
  /-- A level, or the target. -/
  | opening
  | span (first : Nat)
  | field (first : Nat)
  /-- The bracket after a field. -/
  | closing
  /-- The equals sign after a span. -/
  | equals
  | level (first : Nat)

/-- The text before and after so many bytes, if a character starts there. -/
def splitAt? (bytes : Nat) (text : List Char) : Option (List Char × List Char) :=
  if bytes = 0 then some ([], text)
  else
    match text with
    | [] => none
    | c :: rest =>
      if c.utf8Size ≤ bytes then
        (splitAt? (bytes - c.utf8Size) rest).map fun (before, after) => (c :: before, after)
      else none

/-- The part of a text from one place to another. -/
def part? (text : List Char) (first last : Nat) : Option (List Char) := do
  let (_, rest) ← splitAt? first text
  let (part, _) ← splitAt? (last - first) rest
  return part

/-- The level that a text sets; an empty one sets the last level. -/
def levelFrom? (text : List Char) : Option (Option Level) :=
  if text.isEmpty then some (some .trace) else levelOf? text

/-- Whether a directive may start with the character. -/
def startsDirective (c : Char) : Bool :=
  c == '-' || c == ':' || c == '_' || isAlphanumeric c

/-- The directive and the stage after a character, which stands at some place.  The parts are taken
from `text`. -/
def step? (text : List Char) (draft : Directive) (stage : Stage) (place : Nat) (c : Char) :
    Option (Directive × Stage) :=
  match stage, c with
  | .start, '[' => some (draft, .span (place + 1))
  | .start, c => if startsDirective c then some (draft, .opening) else none
  | .opening, '=' => do
    return ({ draft with target := some (← part? text 0 place) }, .level (place + 1))
  | .opening, '[' => do
    return ({ draft with target := some (← part? text 0 place) }, .span (place + 1))
  | .span first, ']' => do
    return ({ draft with span := some (← part? text first place) }, .equals)
  | .span first, '\x7b' => do
    let name ← part? text first place
    return ({ draft with span := if name.isEmpty then none else some name }, .field (place + 1))
  | .field first, '\x7d' => do
    let field ← FieldTest.ofText? (← part? text first place)
    return ({ draft with field := some field }, .closing)
  | .closing, ']' => some (draft, .equals)
  | .closing, _ => none
  | .equals, '=' => some (draft, .level (place + 1))
  | .equals, _ => none
  | stage, _ => some (draft, stage)

/-- The directive when its text ends at a stage. -/
def finish? (text : List Char) (draft : Directive) : Stage → Option Directive
  | .opening =>
    match levelFrom? text with
    | some level => some { draft with level := level }
    | none => some { draft with target := some text }
  | .equals => some draft
  | .level first => do
    let (_, rest) ← splitAt? first text
    return { draft with level := ← levelFrom? rest }
  | _ => none

/-- Reads the rest of a directive, which starts at some place. -/
def readFrom? (text : List Char) : Directive → Stage → Nat → List Char → Option Directive
  | draft, stage, _, [] => finish? text draft stage
  | draft, stage, place, c :: rest => do
    let (draft, stage) ← step? text draft stage place c
    readFrom? text draft stage (place + c.utf8Size) rest

/-- The directive that the text is; without a level it lets everything through.  Blanks at the ends
do not count when the text is searched for the places of its parts, but the parts are taken from the
text with the blanks. -/
def ofText? (text : List Char) : Option Directive :=
  readFrom? text ⟨none, none, none, some .trace⟩ .start 0 (trim text)

end Directive

end ManifestSarif.Log
