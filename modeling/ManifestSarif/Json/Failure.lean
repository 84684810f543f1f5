import ManifestSarif.Json.Value
import ManifestSarif.Text.Quoted

/-!
# Why a JSON text is refused

A text is refused at its first problem, be it of grammar or of type.

* `Cause` is the problem, `Failure` the problem with the path to it,
* `Failure.message` is the wording,
* `Quotation.read` pairs up the `\u` escapes of a string,
* `Obstacle.cause`, `ListGap.cause` and their kin name the problem of a value that breaks off where
  it is read, `Partial.skipped` where it is passed over.
-/

namespace ManifestSarif.Json

/-- What a value is, for a message. -/
inductive Found where
  | null
  | bool (b : Bool)
  | number (n : Number)
  | text (s : String)
  | array
  | object
deriving DecidableEq, Repr

/-- A problem of a JSON text. -/
inductive Cause where
  | wrongType (found : Found) (expected : String)
  | wrongValue (found : Found) (expected : String)
  | wrongLength (length : Nat) (expected : String)
  | missingField (name : String)
  | duplicateField (name : String)
  | tooDeep
  | numberTooLarge
  | invalidNumber
  | invalidEscape
  | controlCharacter
  | loneSurrogate
  | unpairedSurrogate
  | expectedValue
  | expectedWord
  | expectedColon
  | expectedItem
  | expectedMember
  | expectedKey
  | trailingComma
  | trailingCharacters
  | endInValue
  | endInString
  | endInArray
  | endInObject
deriving DecidableEq, Repr

/-- A step from a value to a part of it.  The key of a member that could not be read is unknown. -/
inductive Step where
  | key (key : String)
  | index (index : Nat)
  | unknown
deriving DecidableEq, Repr

/-- A problem and the path from the whole value to the part that has it. -/
structure Failure where
  path : List Step
  cause : Cause
deriving DecidableEq, Repr

/-! ## Wording -/

/-- The words for what was found. -/
def Found.message : Found → String
  | .null => "null"
  | .bool b => "boolean `" ++ (if b then "true" else "false") ++ "`"
  | .number (.float minus x) => "floating point `" ++ (Number.float minus x).write ++ "`"
  | .number n => "integer `" ++ n.write ++ "`"
  | .text s => "string " ++ Text.Quoted.write s
  | .array => "sequence"
  | .object => "map"

/-- The words for the problem. -/
def Cause.message : Cause → String
  | wrongType found expected => "invalid type: " ++ found.message ++ ", expected " ++ expected
  | wrongValue found expected => "invalid value: " ++ found.message ++ ", expected " ++ expected
  | wrongLength length expected =>
    "invalid length " ++ toString length ++ ", expected " ++ expected
  | missingField name => "missing field `" ++ name ++ "`"
  | duplicateField name => "duplicate field `" ++ name ++ "`"
  | tooDeep => "recursion limit exceeded"
  | numberTooLarge => "number out of range"
  | invalidNumber => "invalid number"
  | invalidEscape => "invalid escape"
  | controlCharacter => "control character (\\u0000-\\u001F) found while parsing a string"
  | loneSurrogate => "lone leading surrogate in hex escape"
  | unpairedSurrogate => "unexpected end of hex escape"
  | expectedValue => "expected value"
  | expectedWord => "expected ident"
  | expectedColon => "expected `:`"
  | expectedItem => "expected `,` or `]`"
  | expectedMember => "expected `,` or `\x7d`"
  | expectedKey => "key must be a string"
  | trailingComma => "trailing comma"
  | trailingCharacters => "trailing characters"
  | endInValue => "EOF while parsing a value"
  | endInString => "EOF while parsing a string"
  | endInArray => "EOF while parsing a list"
  | endInObject => "EOF while parsing an object"

/-- A step as it is written after the steps before it; `first` tells whether there are none. -/
def Step.write (first : Bool) : Step → String
  | .index i => "[" ++ toString i ++ "]"
  | .key name => if first then name else "." ++ name
  | .unknown => if first then "?" else ".?"

/-- The path as it is written. -/
def writePath : List Step → String
  | [] => ""
  | step :: rest => step.write true ++ String.join (rest.map (Step.write false))

namespace Failure

/-- The failure of a whole value. -/
def here (cause : Cause) : Failure := ⟨[], cause⟩

/-- The failure seen from the value that `step` leads away from. -/
def under (step : Step) (failure : Failure) : Failure :=
  ⟨step :: failure.path, failure.cause⟩

/-- The path and the problem; the problem alone where no part of the path is known. -/
def message (failure : Failure) : String :=
  if failure.path.all (· = .unknown) then failure.cause.message
  else writePath failure.path ++ ": " ++ failure.cause.message

end Failure

/-! ## Strings -/

/-- The problem of a string with the flaw. -/
def QuotationFlaw.cause : QuotationFlaw → Cause
  | endOfText => .endInString
  | control => .controlCharacter
  | escape => .invalidEscape
  | hex => .invalidEscape

/-- The problem of a leading surrogate that is the last piece before a flaw, or before the closing
quote: no `\u` escape follows it, unless the text ends or that escape is the broken one. -/
def surrogateCause : Option QuotationFlaw → Cause
  | some .endOfText => .endInString
  | some .hex => .invalidEscape
  | _ => .unpairedSurrogate

/-- The characters of a string that has the given flaw after its pieces, or none: surrogates stand
in pairs, a leading one before a trailing one. -/
def Quotation.read (flaw : Option QuotationFlaw) : Quotation → Except Cause (List Char)
  | [] =>
    match flaw with
    | none => .ok []
    | some flaw => .error flaw.cause
  | .char c :: rest => (Quotation.read flaw rest).map (c :: ·)
  | .unit n :: rest =>
    if n < 0xd800 ∨ 0xdfff < n then (Quotation.read flaw rest).map (Char.ofNat n :: ·)
    else if 0xdc00 ≤ n then .error .loneSurrogate
    else
      match rest with
      | [] => .error (surrogateCause flaw)
      | .char _ :: _ => .error .unpairedSurrogate
      | .unit m :: rest =>
        if 0xdc00 ≤ m ∧ m ≤ 0xdfff then
          (Quotation.read flaw rest).map
            (Char.ofNat (0x10000 + (n - 0xd800) * 0x400 + (m - 0xdc00)) :: ·)
        else .error .loneSurrogate

/-- The text of a complete string. -/
def Quotation.text (pieces : Quotation) : Except Cause String :=
  (Quotation.read none pieces).map String.ofList

/-- The problem of a string that is broken. -/
def Quotation.brokenCause (pieces : Quotation) (flaw : QuotationFlaw) : Cause :=
  match Quotation.read (some flaw) pieces with
  | .ok _ => flaw.cause
  | .error cause => cause

/-! ## Values that break off -/

/-- The problem that a flaw is where a value is read. -/
def Flaw.cause : Flaw → Cause
  | character => .expectedValue
  | word ends => if ends then .endInValue else .expectedWord
  | numeral ends => if ends then .endInValue else .invalidNumber
  | quotation pieces flaw => pieces.brokenCause flaw

/-- The problem that a flaw is where a value is passed over: surrogates need no partner there, and
a numeral may not end early even with the text. -/
def Flaw.skipped : Flaw → Cause
  | character => .expectedValue
  | word ends => if ends then .endInValue else .expectedWord
  | numeral _ => .invalidNumber
  | quotation _ flaw => flaw.cause

/-- The problem where a value is read. -/
def Obstacle.cause : Obstacle → Cause
  | endOfText => .endInValue
  | flaw f => f.cause
  | token => .expectedValue

/-- The problem where a value is passed over. -/
def Obstacle.skipped : Obstacle → Cause
  | endOfText => .endInValue
  | flaw f => f.skipped
  | token => .expectedValue

/-- The problem where items are read. -/
def ListGap.cause : ListGap → Cause
  | endOfText => .endInArray
  | noComma => .expectedItem
  | commaThenClose => .trailingComma
  | commaThenEnd => .endInValue

/-- The problem where no further item is expected. -/
def ListGap.afterLast : ListGap → Cause
  | endOfText => .endInArray
  | noComma => .trailingCharacters
  | commaThenClose => .trailingComma
  | commaThenEnd => .trailingCharacters

/-- The problem where items are passed over. -/
def ListGap.skipped : ListGap → Cause
  | endOfText => .endInArray
  | noComma => .expectedItem
  | commaThenClose => .expectedValue
  | commaThenEnd => .endInValue

/-- The problem where members are read. -/
def ObjectGap.cause : ObjectGap → Cause
  | endOfText => .endInObject
  | noKey => .expectedKey
  | noComma => .expectedMember
  | commaThenClose => .trailingComma
  | commaThenEnd => .endInValue
  | commaThenNoKey => .expectedKey

/-- The problem where members are passed over. -/
def ObjectGap.skipped : ObjectGap → Cause
  | endOfText => .endInObject
  | noKey => .expectedKey
  | noComma => .expectedMember
  | commaThenClose => .expectedKey
  | commaThenEnd => .endInObject
  | commaThenNoKey => .expectedKey

/-- The problem of a key without a colon. -/
def colonCause (endOfText : Bool) : Cause :=
  if endOfText then .endInObject else .expectedColon

/-- The problem of a value that is passed over. -/
def Partial.skipped : Partial → Cause
  | atStart obstacle => obstacle.skipped
  | arrayGap _ gap => gap.skipped
  | arrayItem _ item => item.skipped
  | objectGap _ gap => gap.skipped
  | objectKey _ _ flaw => flaw.cause
  | objectColon _ _ ends => colonCause ends
  | objectMember _ _ value => value.skipped

end ManifestSarif.Json
