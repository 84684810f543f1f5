import ManifestSarif.Json.Data
import ManifestSarif.Sarif.Document

/-!
# The shape of a document

A document can be checked against a schema of the parts that it uses.

* `Schema` is the language of the schema, `shape` the schema of documents,
* `Schema.violations` lists what is wrong with a value, `Violation.message` says it in words.
-/

namespace ManifestSarif.Sarif

open Json

/-- The kinds of values that a schema may ask for. -/
inductive Kind where
  | text
  | integer
  | list
  | object
deriving DecidableEq, Repr

/-- What a value has to be. -/
inductive Schema where
  | any
  /-- A text of at least so many characters. -/
  | text (minLength : Nat)
  /-- An integer of at least this size. -/
  | integer (minimum : Int)
  /-- One text. -/
  | exactly (value : String)
  /-- One of some texts. -/
  | oneOf (values : List String)
  /-- A list of at least so many items that all meet a schema. -/
  | list (minItems : Nat) (item : Schema)
  /-- An object that has some members and whose members, as far as they are named, meet their
  schemas. -/
  | object (required : List String) (members : List (String × Schema))

/-- What is wrong with a value. -/
inductive Violation where
  | wrongKind (value : Data) (kind : Kind)
  | tooShort (value : Data) (minLength : Nat)
  | tooSmall (value : Data) (minimum : Int)
  | notExactly (expected : String)
  | notOneOf (value : Data) (values : List String)
  | tooFewItems (value : Data) (minItems : Nat)
  | missing (name : String)
deriving Repr

/-- The word for a kind of values. -/
def Kind.name : Kind → String
  | text => "string"
  | integer => "integer"
  | list => "array"
  | object => "object"

/-- A count with its noun. -/
def countText (n : Nat) (noun : String) : String :=
  toString n ++ " " ++ noun ++ (if n = 1 then "" else "s")

/-- The first values in quotes, and how many others there are. -/
def choiceText (values : List String) : String :=
  match values.map Data.quote with
  | [] => ""
  | [a] => a
  | [a, b] => a ++ " or " ++ b
  | [a, b, c] => a ++ ", " ++ b ++ " or " ++ c
  | a :: b :: more => a ++ ", " ++ b ++ " or " ++ toString more.length ++ " other candidates"

/-- The words for a violation. -/
def Violation.message : Violation → String
  | wrongKind value kind => value.write ++ " is not of type " ++ Data.quote kind.name
  | tooShort value minLength =>
    value.write ++ " is shorter than " ++ countText minLength "character"
  | tooSmall value minimum => value.write ++ " is less than the minimum of " ++ toString minimum
  | notExactly expected => Data.quote expected ++ " was expected"
  | notOneOf value values => value.write ++ " is not one of " ++ choiceText values
  | tooFewItems value minItems =>
    value.write ++ " has less than " ++ countText minItems "item"
  | missing name => Data.quote name ++ " is a required property"

/-- Whether a value is the given text. -/
def isText (value : Data) (s : String) : Bool :=
  match value with
  | .text t => t == s
  | _ => false

/-- The integer that a number is, if it is one. -/
def integerOf? : Number → Option Int
  | .natural n => some n.toNat
  | .negative n => some (-(n : Int))
  | .float .. => none

namespace Schema

/-- What is wrong with a text. -/
def textViolations (minLength : Nat) (value : Data) : List Violation :=
  match value with
  | .text s => if s.length < minLength then [.tooShort value minLength] else []
  | _ => [.wrongKind value .text]

/-- What is wrong with an integer. -/
def integerViolations (minimum : Int) (value : Data) : List Violation :=
  match value with
  | .number n =>
    match integerOf? n with
    | some i => if i < minimum then [.tooSmall value minimum] else []
    | none => [.wrongKind value .integer]
  | _ => [.wrongKind value .integer]

/-- The names that no member has. -/
def missingNames (required : List String) (members : List (String × Data)) : List Violation :=
  (required.filter fun name => (Data.member? members name).isNone).map .missing

mutual

/-- Everything that is wrong with a value. -/
def violations : Schema → Data → List Violation
  | any, _ => []
  | text minLength, value => textViolations minLength value
  | integer minimum, value => integerViolations minimum value
  | exactly expected, value => if isText value expected then [] else [.notExactly expected]
  | oneOf values, value =>
    if values.any (isText value) then [] else [.notOneOf value values]
  | list minItems item, value =>
    match value with
    | .list items =>
      (if items.length < minItems then [.tooFewItems value minItems] else []) ++
        items.flatMap item.violations
    | _ => [.wrongKind value .list]
  | object required schemas, value =>
    match value with
    | .object members => missingNames required members ++ memberViolations schemas members
    | _ => [.wrongKind value .object]

/-- Everything that is wrong with the members that have a schema. -/
def memberViolations : List (String × Schema) → List (String × Data) → List Violation
  | [], _ => []
  | (name, schema) :: rest, members =>
    (match Data.member? members name with
      | some value => schema.violations value
      | none => []) ++ memberViolations rest members

end

end Schema

/-! ## The schema of documents -/

/-- A message. -/
def messageShape : Schema :=
  .object ["text"] [("text", .text 0)]

/-- The words for the levels. -/
def levelNames : List String :=
  [Level.none, .note, .warning, .error].map Level.name

/-- What a rule reports unless something else is configured. -/
def configurationShape : Schema :=
  .object [] [("level", .oneOf levelNames)]

/-- A rule. -/
def ruleShape : Schema :=
  .object ["id", "shortDescription"] [
    ("id", .text 1),
    ("shortDescription", messageShape),
    ("fullDescription", messageShape),
    ("help", messageShape),
    ("defaultConfiguration", configurationShape),
    ("properties", .object [] [("tags", .list 0 (.text 0))])]

/-- A region of a file. -/
def regionShape : Schema :=
  .object ["startLine"] [("startLine", .integer 1)]

/-- A file. -/
def artifactShape : Schema :=
  .object ["uri"] [("uri", .text 1)]

/-- A location. -/
def locationShape : Schema :=
  .object ["physicalLocation"] [
    ("physicalLocation",
      .object ["artifactLocation", "region"] [
        ("artifactLocation", artifactShape),
        ("region", regionShape)])]

/-- A result. -/
def resultShape : Schema :=
  .object ["ruleId", "message", "locations"] [
    ("ruleId", .text 1),
    ("message", messageShape),
    ("locations", .list 1 locationShape)]

/-- The component that found the results. -/
def componentShape : Schema :=
  .object ["name", "rules"] [
    ("name", .text 1),
    ("rules", .list 0 ruleShape)]

/-- A run. -/
def runShape : Schema :=
  .object ["tool", "results"] [
    ("tool", .object ["driver"] [("driver", componentShape)]),
    ("results", .list 0 resultShape)]

/-- A document. -/
def shape : Schema :=
  .object ["$schema", "version", "runs"] [
    ("$schema", .text 1),
    ("version", .exactly formatVersion),
    ("runs", .list 1 runShape)]

/-- The messages for everything that is wrong with a document given as JSON. -/
def schemaErrors (data : Data) : List String :=
  (shape.violations data).map Violation.message

/-- Everything that is wrong with a document. -/
def Document.schemaErrors (document : Document) : List String :=
  Sarif.schemaErrors document.data

end ManifestSarif.Sarif
