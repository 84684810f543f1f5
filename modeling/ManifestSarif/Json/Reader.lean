import ManifestSarif.Json.Failure
import ManifestSarif.KeyMap

/-!
# Reading typed data from JSON

A `Reader` says which values it accepts, what it makes of them, and what is the first problem of a
value that breaks off.  A problem of type that comes before the place where the grammar is broken is
reported first, as in reading from left to right.

* `Reader.text`, `Reader.bool`, `Reader.count` read scalars, `Reader.optional` admits null,
* `Reader.list`, `Reader.keyed` and `Reader.record` read containers; each takes what it needs for
  its parts, or `none` where nesting may go no deeper,
* `Reader.ofText?` reads a whole text.
-/

namespace ManifestSarif.Json

/-- How data is made from values. -/
structure Reader (α : Type) where
  /-- What a complete value stands for, or why it is refused. -/
  complete : Value → Except Failure α
  /-- The first problem of a value that breaks off. -/
  broken : Partial → Failure

/-! ## Problems of type -/

/-- What a complete value is; a string or a numeral may turn out to be no text or number. -/
def Value.found : Value → Except Cause Found
  | null => .ok .null
  | bool b => .ok (.bool b)
  | number numeral =>
    match numeral.number? with
    | some n => .ok (.number n)
    | none => .error .numberTooLarge
  | text pieces => pieces.text.map .text
  | array _ => .ok .array
  | object _ => .ok .object

/-- The problem of a complete value where something else is expected. -/
def Value.mismatch (expected : String) (value : Value) : Cause :=
  match value.found with
  | .ok found => .wrongType found expected
  | .error cause => cause

/-- The problem of a value that breaks off where something else is expected: a container is refused
for its bracket. -/
def Partial.mismatch (expected : String) : Partial → Cause
  | atStart obstacle => obstacle.cause
  | arrayGap .. | arrayItem .. => .wrongType .array expected
  | objectGap .. | objectKey .. | objectColon .. | objectMember .. => .wrongType .object expected

/-- The failure that data or a further problem ends in. -/
def failureOf {α : Type} (result : Except Failure α) (further : α → Failure) : Failure :=
  match result with
  | .ok a => further a
  | .error failure => failure

namespace Reader

variable {α β σ : Type}

/-- Turns what is read into something else. -/
def map (f : α → β) (reader : Reader α) : Reader β where
  complete value := (reader.complete value).map f
  broken := reader.broken

/-! ## Scalars -/

/-- Reads a string. -/
def text : Reader String where
  complete
    | .text pieces => pieces.text.mapError .here
    | value => .error (.here (value.mismatch "a string"))
  broken p := .here (p.mismatch "a string")

/-- Reads a truth value. -/
def bool : Reader Bool where
  complete
    | .bool b => .ok b
    | value => .error (.here (value.mismatch "a boolean"))
  broken p := .here (p.mismatch "a boolean")

/-- The count that a number is, if it is one. -/
def countOf (number : Number) : Except Cause UInt64 :=
  match number with
  | .natural n => .ok n
  | .negative _ => .error (.wrongValue (.number number) "u64")
  | .float .. => .error (.wrongType (.number number) "u64")

/-- Reads a natural number below 2⁶⁴. -/
def count : Reader UInt64 where
  complete
    | .number numeral =>
      match numeral.number? with
      | some n => (countOf n).mapError .here
      | none => .error (.here .numberTooLarge)
    | value => .error (.here (value.mismatch "u64"))
  broken p := .here (p.mismatch "u64")

/-- Reads null as nothing. -/
def optional (reader : Reader α) : Reader (Option α) where
  complete
    | .null => .ok none
    | value => (reader.complete value).map some
  broken := reader.broken

/-! ## Lists -/

/-- The items of a list, the first one at position `index`. -/
def readItems (reader : Reader α) (index : Nat) : List Value → Except Failure (List α)
  | [] => .ok []
  | item :: rest => do
    let a ← (reader.complete item).mapError (.under (.index index))
    let more ← readItems reader (index + 1) rest
    return a :: more

/-- Reads an array of like items. -/
def list (reader? : Option (Reader α)) : Reader (List α) where
  complete
    | .array items =>
      match reader? with
      | some reader => readItems reader 0 items
      | none => .error (.here .tooDeep)
    | value => .error (.here (value.mismatch "a sequence"))
  broken p :=
    match reader?, p with
    | none, .arrayGap .. | none, .arrayItem .. => .here .tooDeep
    | some reader, .arrayGap items gap =>
      failureOf (readItems reader 0 items) fun _ => .here gap.cause
    | some reader, .arrayItem items item =>
      failureOf (readItems reader 0 items) fun _ =>
        (reader.broken item).under (.index items.length)
    | _, p => .here (p.mismatch "a sequence")

/-! ## Maps -/

/-- The key of a member. -/
def readKey (key : Quotation) : Except Failure String :=
  key.text.mapError fun cause => ⟨[.unknown], cause⟩

/-- The entries of a map. -/
def readEntries (reader : Reader α) :
    List (Quotation × Value) → Except Failure (List (String × α))
  | [] => .ok []
  | (key, value) :: rest => do
    let key ← readKey key
    let a ← (reader.complete value).mapError (.under (.key key))
    let more ← readEntries reader rest
    return (key, a) :: more

/-- Reads an object with any keys and like values; of equal keys the last one counts. -/
def keyed (reader? : Option (Reader α)) : Reader (KeyMap α) where
  complete
    | .object members =>
      match reader? with
      | some reader => (readEntries reader members).map KeyMap.ofList
      | none => .error (.here .tooDeep)
    | value => .error (.here (value.mismatch "a map"))
  broken p :=
    match reader?, p with
    | none, .objectGap .. | none, .objectKey .. | none, .objectColon ..
    | none, .objectMember .. => .here .tooDeep
    | some reader, .objectGap members gap =>
      failureOf (readEntries reader members) fun _ => ⟨[.unknown], gap.cause⟩
    | some reader, .objectKey members pieces flaw =>
      failureOf (readEntries reader members) fun _ => ⟨[.unknown], pieces.brokenCause flaw⟩
    | some reader, .objectColon members key ends =>
      failureOf (readEntries reader members) fun _ =>
        failureOf (readKey key) fun _ => .here (colonCause ends)
    | some reader, .objectMember members key value =>
      failureOf (readEntries reader members) fun _ =>
        failureOf (readKey key) fun key => (reader.broken value).under (.key key)
    | _, p => .here (p.mismatch "a map")

/-! ## Records -/

/-- Whether a field may be missing. -/
inductive Presence where
  /-- It must be there. -/
  | required
  /-- It may be missing as a member of an object. -/
  | optional
  /-- It may be missing as a member of an object and at the end of an array. -/
  | defaulted
deriving DecidableEq, Repr

/-- A field of a record, and how its value changes what was made of the other fields. -/
structure RecordField (σ : Type) where
  name : String
  presence : Presence
  reader : Reader (σ → σ)

/-- A field that sets a part of the record. -/
def field (name : String) (presence : Presence) (reader : Reader α) (set : α → σ → σ) :
    RecordField σ :=
  ⟨name, presence, reader.map set⟩

/-- The record so far and the names of the fields that were read. -/
structure Progress (σ : Type) where
  state : σ
  seen : List String

/-- The field with the name, unless there is none; it may not have been read before. -/
def Progress.fieldFor (fields : List (RecordField σ)) (progress : Progress σ) (name : String) :
    Except Failure (Option (RecordField σ)) :=
  match fields.find? fun f => f.name = name with
  | none => .ok none
  | some f =>
    if name ∈ progress.seen then .error (.here (.duplicateField name)) else .ok (some f)

/-- The record after a member; one with an unknown name changes nothing. -/
def readMember (fields : List (RecordField σ)) (progress : Progress σ)
    (member : Quotation × Value) : Except Failure (Progress σ) := do
  let name ← readKey member.1
  match ← progress.fieldFor fields name with
  | none => return progress
  | some f =>
    let set ← (f.reader.complete member.2).mapError (.under (.key name))
    return ⟨set progress.state, name :: progress.seen⟩

/-- The record after the members of an object. -/
def readMembers (fields : List (RecordField σ)) (start : σ)
    (members : List (Quotation × Value)) : Except Failure (Progress σ) :=
  members.foldlM (readMember fields) ⟨start, []⟩

/-- The record, unless a field is missing that must be there. -/
def Progress.finish (fields : List (RecordField σ)) (progress : Progress σ) : Except Failure σ :=
  match fields.find? fun f => f.presence = .required ∧ f.name ∉ progress.seen with
  | some f => .error (.here (.missingField f.name))
  | none => .ok progress.state

/-- How a record with its fields is named. -/
def describe (name : String) (fields : List (RecordField σ)) : String :=
  "struct " ++ name ++ " with " ++ toString fields.length ++
    (if fields.length = 1 then " element" else " elements")

/-- The record after the items of an array, which stand for the fields in their order.  The first
of the `rest` of the fields is at position `index`. -/
def readFields (description : String) (index : Nat) (state : σ) :
    List (RecordField σ) → List Value → Except Failure σ
  | [], [] => .ok state
  | [], _ :: _ => .error (.here .trailingCharacters)
  | f :: rest, [] =>
    if f.presence = .defaulted then readFields description (index + 1) state rest []
    else .error (.here (.wrongLength index description))
  | f :: rest, item :: items => do
    let set ← (f.reader.complete item).mapError (.under (.index index))
    readFields description (index + 1) (set state) rest items

/-- The record after items that stand for the first fields, and the fields that are left; none are
left when there are too many items. -/
def readFirst (index : Nat) (state : σ) :
    List (RecordField σ) → List Value → Except Failure (List (RecordField σ))
  | [], _ :: _ => .error (.here .trailingCharacters)
  | rest, [] => .ok rest
  | f :: rest, item :: items => do
    let set ← (f.reader.complete item).mapError (.under (.index index))
    readFirst (index + 1) (set state) rest items

/-- Reads a record from an object of its fields, in any order and among others, or from an array of
their values in order. -/
def record (name : String) (fields? : Option (List (RecordField σ))) (start : σ) : Reader σ where
  complete
    | .object members =>
      match fields? with
      | some fields => do (← readMembers fields start members).finish fields
      | none => .error (.here .tooDeep)
    | .array items =>
      match fields? with
      | some fields => readFields (describe name fields) 0 start fields items
      | none => .error (.here .tooDeep)
    | value => .error (.here (value.mismatch ("struct " ++ name)))
  broken p :=
    match fields?, p with
    | _, .atStart obstacle => .here obstacle.cause
    | none, _ => .here .tooDeep
    | some fields, .arrayGap items gap =>
      failureOf (readFirst 0 start fields items) fun rest =>
        .here (if rest.isEmpty then gap.afterLast else gap.cause)
    | some fields, .arrayItem items item =>
      failureOf (readFirst 0 start fields items) fun rest =>
        match rest with
        | [] => .here .trailingCharacters
        | f :: _ => (f.reader.broken item).under (.index items.length)
    | some fields, .objectGap members gap =>
      failureOf (readMembers fields start members) fun _ => ⟨[.unknown], gap.cause⟩
    | some fields, .objectKey members pieces flaw =>
      failureOf (readMembers fields start members) fun _ =>
        ⟨[.unknown], pieces.brokenCause flaw⟩
    | some fields, .objectColon members key ends =>
      failureOf (readMembers fields start members) fun progress =>
        failureOf (readKey key) fun name =>
          failureOf (progress.fieldFor fields name) fun _ => .here (colonCause ends)
    | some fields, .objectMember members key value =>
      failureOf (readMembers fields start members) fun progress =>
        failureOf (readKey key) fun name =>
          failureOf (progress.fieldFor fields name) fun f? =>
            match f? with
            | none => ⟨[.key name], value.skipped⟩
            | some f => (f.reader.broken value).under (.key name)

end Reader

end ManifestSarif.Json
