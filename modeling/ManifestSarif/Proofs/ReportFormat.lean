import ManifestSarif.Ecosystem
import ManifestSarif.Json.Failure

/-!
# What the format of reports leaves open

The format names the members that each record of a report has.  In which order they stand, and which
other members stand among them, is left open.

* `Part.members` are the members of the records, `Shape` is what the format has in a place.
* `Shape.Varies` relates two values that differ in one thing that is left open, at one place.
-/

namespace ManifestSarif.ReportFormat

open Json

/-- The records of a report. -/
inductive Part where
  | analysis
  | provider
  | status
  | source
  | summary
  | dependency
  | issue
  | cvss
  | remediation
  | trustedContent
deriving DecidableEq, Repr

/-- What the format has in a place: an object of the members of a record, an object with any keys, a
list, or neither of them. -/
inductive Shape where
  | record (part : Part)
  | map (value : Shape)
  | list (item : Shape)
  | plain
deriving DecidableEq, Repr

/-- The names of the members of a record, each with what is there. -/
def Part.members : Part → List (String × Shape)
  | analysis => [("providers", .map (.record .provider))]
  | provider => [("status", .record .status), ("sources", .map (.record .source))]
  | status => [("ok", .plain)]
  | source => [("summary", .record .summary), ("dependencies", .list (.record .dependency))]
  | summary => [("critical", .plain), ("high", .plain), ("medium", .plain), ("low", .plain)]
  | dependency =>
    [("ref", .plain), ("issues", .list (.record .issue)),
      ("transitive", .list (.record .dependency)), ("recommendation", .plain)]
  | issue =>
    [("id", .plain), ("title", .plain), ("severity", .plain), ("cves", .list .plain),
      ("cvss", .record .cvss), ("remediation", .record .remediation)]
  | cvss => [("cvss", .plain)]
  | remediation => [("trustedContent", .record .trustedContent)]
  | trustedContent => [("ref", .plain)]

/-- What is in the member with the name; `none` if the record has no such member. -/
def Part.member? (part : Part) (name : String) : Option Shape :=
  part.members.lookup name

namespace Shape

/-- A report of an ecosystem: container files have an analysis for each image. -/
def ofReport : Ecosystem → Shape
  | .docker => .map (.record .analysis)
  | _ => .record .analysis

/-- What is in the items of an array. -/
def item : Shape → Shape
  | .list shape => shape
  | _ => .plain

/-- What is in the member of an object with the key. -/
def member : Shape → Quotation → Shape
  | .record part, key => (key.text.toOption.bind part.member?).getD .plain
  | .map shape, _ => shape
  | _, _ => .plain

end Shape

/-- The keys that are texts differ from each other. -/
def DistinctKeys (members : List (Quotation × Value)) : Prop :=
  (members.filterMap fun member => member.1.text.toOption).Nodup

/-- The values differ in the order of the members of one object, in one member with an unknown name
and whatever value, or in one of these things further inside.  Only the keys of a map have to be
distinct, and an array that stands for a record has its items in order. -/
inductive Shape.Varies : Shape → Value → Value → Prop where
  | order {shape : Shape} {members others : List (Quotation × Value)}
      (h : members.Perm others) (hkeys : ∀ value, shape = .map value → DistinctKeys members) :
      Varies shape (.object members) (.object others)
  | extra {part : Part} (before after : List (Quotation × Value)) {key : Quotation} {name : String}
      (value : Value) (hkey : key.text = .ok name) (hname : part.member? name = none) :
      Varies (.record part) (.object (before ++ after))
        (.object (before ++ (key, value) :: after))
  | item {shape : Shape} (before after : List Value) {item other : Value}
      (hshape : ∀ part, shape ≠ .record part) (h : Varies shape.item item other) :
      Varies shape (.array (before ++ item :: after)) (.array (before ++ other :: after))
  | member {shape : Shape} (before after : List (Quotation × Value)) {key : Quotation}
      {value other : Value} (h : Varies (shape.member key) value other) :
      Varies shape (.object (before ++ (key, value) :: after))
        (.object (before ++ (key, other) :: after))

end ManifestSarif.ReportFormat
