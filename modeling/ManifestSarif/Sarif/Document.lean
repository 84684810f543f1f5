import ManifestSarif.Json.Data

/-!
# The SARIF document

A document lists results, which point at lines of the manifest, and rules, which explain them.  The
two lists are apart: which rule explains a result is told by the identifier and by the position.

* `Document.data` is the document as JSON; members are in the order of their names, and absent parts
  are left out.
-/

namespace ManifestSarif.Sarif

open Json

/-- The level of a rule. -/
inductive Level where
  | none
  | note
  | warning
  | error
deriving DecidableEq, Repr

/-- The word for the level. -/
def Level.name : Level → String
  | none => "none"
  | note => "note"
  | warning => "warning"
  | error => "error"

/-- The explanation of a result. -/
structure Rule where
  id : String
  level : Level
  shortDescription : String
  fullDescription : Option String
  help : Option String
  tags : List String
deriving DecidableEq, Repr

/-- A message at a line of a file. -/
structure Result where
  ruleId : String
  message : String
  uri : String
  line : Nat
deriving DecidableEq, Repr

/-- What a run of the tool reports. -/
structure Document where
  results : List Result
  rules : List Rule
deriving DecidableEq, Repr

/-- The name of the tool in the document. -/
def toolName : String := "Red Hat Dependency Analytics"

/-- The address of the schema that the document names. -/
def schemaAddress : String :=
  "https://schemastore.azurewebsites.net/schemas/json/sarif-2.1.0.json"

/-- The version of the format. -/
def formatVersion : String := "2.1.0"

/-- A text as a message object. -/
def messageData (text : String) : Data :=
  .object [("text", .text text)]

/-- A member that is left out when its value is absent. -/
def optionalMember (name : String) (value : Option Data) : List (String × Data) :=
  (value.map fun value => (name, value)).toList

/-- The bag of tags, if there are any. -/
def tagsData (tags : List String) : Option Data :=
  if tags.isEmpty then none else some (.object [("tags", .list (tags.map .text))])

/-- The rule as JSON. -/
def Rule.data (rule : Rule) : Data :=
  .object (
    [("defaultConfiguration", .object [("level", .text rule.level.name)])] ++
    optionalMember "fullDescription" (rule.fullDescription.map messageData) ++
    optionalMember "help" (rule.help.map messageData) ++
    [("id", .text rule.id)] ++
    optionalMember "properties" (tagsData rule.tags) ++
    [("shortDescription", messageData rule.shortDescription)])

/-- The place of the result as JSON. -/
def Result.locationData (result : Result) : Data :=
  .object [("physicalLocation", .object [
    ("artifactLocation", .object [("uri", .text result.uri)]),
    ("region", .object [("startLine", .ofNat result.line)])])]

/-- The result as JSON. -/
def Result.data (result : Result) : Data :=
  .object [
    ("locations", .list [result.locationData]),
    ("message", messageData result.message),
    ("ruleId", .text result.ruleId)]

namespace Document

/-- The document as JSON. -/
def data (document : Document) : Data :=
  .object [
    ("$schema", .text schemaAddress),
    ("runs", .list [.object [
      ("results", .list (document.results.map Result.data)),
      ("tool", .object [("driver", .object [
        ("name", .text toolName),
        ("rules", .list (document.rules.map Rule.data))])])]]),
    ("version", .text formatVersion)]

/-- The text of the document. -/
def write (document : Document) : String :=
  document.data.write

end Document

end ManifestSarif.Sarif
