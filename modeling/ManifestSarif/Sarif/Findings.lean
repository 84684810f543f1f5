import ManifestSarif.Record
import ManifestSarif.Sarif.Document

/-!
# Findings of a record

What is reported for one record at its line: every issue of the record and of the records right
below it, or else the replacement that is recommended for it.

* `Level.ofIssue` is the level of an issue,
* `Rule.ofIssue` and `Rule.ofRecommendation` explain what `Result.ofIssue` and
  `Result.ofRecommendation` report,
* `Findings` holds the results and the rules so far, as two lists that grow by `Findings.push` and
  `Findings.extend`,
* `Findings.ofRecord` are the findings of a record.
-/

namespace ManifestSarif.Sarif

/-- The level that the severity of an issue stands for. -/
def Level.ofIssue (severity : String) : Level :=
  if severity = "LOW" ∨ severity = "MEDIUM" then .warning
  else if severity = "HIGH" ∨ severity = "CRITICAL" then .error
  else .none

/-! ## Rules -/

/-- The public identifiers and the score of an issue, marked as belonging to security. -/
def issueTags (issue : Issue) : List String :=
  let tags := issue.cveList ++ (issue.score?.map ("cvss:" ++ ·)).toList
  if tags.isEmpty then [] else "security" :: tags

/-- The rule of an issue that comes in through `directRef`. -/
def Rule.ofIssue (issue : Issue) (directRef : String) : Rule where
  id := issue.id
  level := .ofIssue issue.severity
  shortDescription := issue.severity ++ " severity - " ++ issue.title ++ " vulnerability"
  fullDescription :=
    if issue.cveList.isEmpty then none else some (String.intercalate ", " issue.cveList)
  help := some ("Introduced through " ++ directRef)
  tags := issueTags issue

/-- The address of the catalog of verified images. -/
def catalogAddress : String := "https://catalog.redhat.com/software/containers/search"

/-- The rule of a recommended version, or of a recommended base image. -/
def Rule.ofRecommendation (version : String) (forImage : Bool) : Rule where
  id := version
  level := .note
  shortDescription :=
    if forImage then "Switch to a Red Hat verified base image from " ++ catalogAddress
    else "Red Hat recommendation"
  fullDescription := none
  help := none
  tags := []

/-! ## Messages -/

/-- The group of a vulnerable dependency and a slash, if it has one. -/
def groupText (group : Option String) : String :=
  match group.filter fun group => !group.isEmpty with
  | some group => group ++ "/"
  | none => ""

/-- The version of a vulnerable dependency in words, if it has one. -/
def versionText (version : String) : String :=
  if version.isEmpty then "" else " version " ++ version

/-- The words for an issue of `record`, which is the record at the line or one right below it. -/
def issueMessage (issue : Issue) (record : Record) (direct : Bool) : String :=
  "This line introduces a \"" ++ issue.title ++ "\" vulnerability with " ++ issue.severity ++
    " severity.\nVulnerability data provider is " ++ record.origin.provider ++
    ".\nVulnerability data source is " ++ record.origin.source ++
    ".\nVulnerable" ++ (if direct then "" else " transitive") ++ " dependency is " ++
    groupText record.coordinates.group ++ record.coordinates.name ++
    versionText record.coordinates.version ++ "." ++
    match issue.trustedRef? with
    | some ref => "\nRecommended remediation version: " ++ PackageRef.version ref
    | none => ""

/-- The words for a recommendation. -/
def recommendationMessage (version : String) (forImage : Bool) : String :=
  if forImage then
    "Switch to a Red Hat verified base image such as " ++ version ++ ". Browse " ++
      catalogAddress ++ " for alternatives."
  else "Recommended Red Hat verified version: " ++ version ++ "."

/-! ## Results -/

/-- The place that results point at. -/
structure Place where
  uri : String
  line : Nat
deriving DecidableEq, Repr

/-- The result of an issue of `record`, which is the record at the line or one right below it. -/
def Result.ofIssue (place : Place) (record : Record) (direct : Bool) (issue : Issue) : Result :=
  ⟨issue.id, issueMessage issue record direct, place.uri, place.line⟩

/-- The result of a recommendation. -/
def Result.ofRecommendation (place : Place) (version : String) (forImage : Bool) : Result :=
  ⟨version, recommendationMessage version forImage, place.uri, place.line⟩

/-! ## Findings -/

/-- Results and the rules that explain them, in the order in which they were found. -/
@[ext]
structure Findings where
  results : List Result
  rules : List Rule
deriving DecidableEq, Repr

namespace Findings

/-- Nothing found yet. -/
def empty : Findings := ⟨[], []⟩

/-- The findings with one more result and its rule. -/
def push (findings : Findings) (result : Result) (rule : Rule) : Findings :=
  ⟨findings.results ++ [result], findings.rules ++ [rule]⟩

/-- The findings with others behind them. -/
def extend (findings other : Findings) : Findings :=
  ⟨findings.results ++ other.results, findings.rules ++ other.rules⟩

/-- Findings one after the other. -/
def concat (parts : List Findings) : Findings :=
  parts.foldl extend empty

/-- What pulls the issues of a record in: its image, or else its own dependency. -/
def directRef (record : Record) : String :=
  record.origin.image.getD (PackageRef.dependency record.ref)

/-- The findings with those of the issues of a record, which come in through `directRef`. -/
def pushIssues (place : Place) (directRef : String) (direct : Bool) (findings : Findings)
    (record : Record) : Findings :=
  record.ownIssues.foldl
    (fun findings issue =>
      findings.push (.ofIssue place record direct issue) (.ofIssue issue directRef))
    findings

/-- The findings of the issues of a record and of the records right below it. -/
def ofIssues (place : Place) (record : Record) : Findings :=
  record.directTransitives.foldl (pushIssues place (directRef record) false)
    (pushIssues place (directRef record) true empty record)

/-- The finding of the recommendation of a record, if there is one. -/
def ofRecommendation (place : Place) (record : Record) : Findings :=
  match record.recommendation with
  | some version =>
    empty.push (.ofRecommendation place version record.origin.image.isSome)
      (.ofRecommendation version record.origin.image.isSome)
  | none => empty

/-- The findings of a record: those of issues where its group has some, and its recommendation
otherwise. -/
def ofRecord (place : Place) (groupHasIssues : Bool) (record : Record) : Findings :=
  if groupHasIssues then ofIssues place record else ofRecommendation place record

end Findings

end ManifestSarif.Sarif
