import ManifestSarif.Proofs.ReportFormat
import ManifestSarif.Proofs.ReportRendering

/-!
# Places of a report and what they take

Every place of a report has a type: a record, a map, a list, a scalar, and perhaps null as well.

* `Form` is the type of a place, `Part.forms` are the types of the members of each record.
* `Form.Takes` tells the scalars that a place of the type takes: those that some data are written
  as.
* `Form.Spoiled` relates a value to the one that has, at the end of a path, a scalar which the place
  does not take.
-/

namespace ManifestSarif.ReportFormat

open Json

/-- The type of a place. -/
inductive Form where
  | text
  | truth
  | count
  | record (part : Part)
  | map (value : Form)
  | list (item : Form)
  /-- Null may stand there for nothing. -/
  | optional (form : Form)

/-- The names of the members of a record, each with the type of its place. -/
def Part.forms : Part → List (String × Form)
  | analysis => [("providers", .optional (.map (.record .provider)))]
  | provider =>
    [("status", .optional (.record .status)), ("sources", .optional (.map (.record .source)))]
  | status => [("ok", .optional .truth)]
  | source =>
    [("summary", .optional (.record .summary)),
      ("dependencies", .optional (.list (.record .dependency)))]
  | summary => [("critical", .count), ("high", .count), ("medium", .count), ("low", .count)]
  | dependency =>
    [("ref", .optional .text), ("issues", .optional (.list (.record .issue))),
      ("transitive", .optional (.list (.record .dependency))),
      ("recommendation", .optional .text)]
  | issue =>
    [("id", .text), ("title", .text), ("severity", .text), ("cves", .optional (.list .text)),
      ("cvss", .optional (.record .cvss)), ("remediation", .optional (.record .remediation))]
  | cvss => [("cvss", .optional .text)]
  | remediation => [("trustedContent", .optional (.record .trustedContent))]
  | trustedContent => [("ref", .text)]

/-- The type of the member with the name; `none` if the record has no such member. -/
def Part.form? (part : Part) (name : String) : Option Form :=
  part.forms.lookup name

/-- Neither an array nor an object. -/
def IsScalar : Value → Prop
  | .array _ => False
  | .object _ => False
  | _ => True

namespace Form

/-- A report of an ecosystem: container files have an analysis for each image. -/
def ofReport : Ecosystem → Form
  | .docker => .map (.record .analysis)
  | _ => .record .analysis

/-- The scalars that a place takes. -/
def Takes : Form → Value → Prop
  | text, scalar => ∃ s, Rendering.text s scalar
  | truth, scalar => ∃ b, Rendering.bool b scalar
  | count, scalar => ∃ n, Rendering.count n scalar
  | optional form, scalar => scalar = .null ∨ form.Takes scalar
  | record _, _ => False
  | map _, _ => False
  | list _, _ => False

/-- The second value is the first one with a scalar put at the place that the path leads to, where
the format has a place for which this scalar is none.  The path goes through members of records,
entries of maps and items of lists. -/
inductive Spoiled : Form → List Step → Value → Value → Prop where
  | here {form : Form} {value scalar : Value} (hscalar : IsScalar scalar)
      (hrefused : ¬ form.Takes scalar) : Spoiled form [] value scalar
  | optional {form : Form} {step : Step} {path : List Step} {value other : Value}
      (h : Spoiled form (step :: path) value other) :
      Spoiled (.optional form) (step :: path) value other
  | item {form : Form} {path : List Step} {value other : Value} (before after : List Value)
      (h : Spoiled form path value other) :
      Spoiled (.list form) (.index before.length :: path) (.array (before ++ value :: after))
        (.array (before ++ other :: after))
  | entry {form : Form} {path : List Step} {value other : Value}
      (before after : List (Quotation × Value)) {key : Quotation} {name : String}
      (hkey : key.Spells name.toList) (h : Spoiled form path value other) :
      Spoiled (.map form) (.key name :: path) (.object (before ++ (key, value) :: after))
        (.object (before ++ (key, other) :: after))
  | member {part : Part} {form : Form} {path : List Step} {value other : Value}
      (before after : List (Quotation × Value)) {key : Quotation} {name : String}
      (hkey : key.Spells name.toList) (hform : part.form? name = some form)
      (h : Spoiled form path value other) :
      Spoiled (.record part) (.key name :: path) (.object (before ++ (key, value) :: after))
        (.object (before ++ (key, other) :: after))

end Form

end ManifestSarif.ReportFormat
