import ManifestSarif.Flattening
import ManifestSarif.Log.Event
import ManifestSarif.Manifest.Declaration
import ManifestSarif.Manifest.Lines
import ManifestSarif.Sarif.Findings

/-!
# Conversion

A report and the lines of its manifest make a document and a severity.

* `Conversion.ofAnalysis` converts the analysis of one manifest or of one image,
* `Conversion.ofReport` converts a report: its images one after the other, all against the same
  manifest,
* `Conversion.document` is the document with all findings.
-/

namespace ManifestSarif

/-- The findings of a conversion, the worst level seen, and what was logged on the way. -/
structure Conversion where
  findings : Sarif.Findings
  severity : Severity
  events : List Log.Event

namespace Conversion

open Sarif

/-- The manifest that dependencies are looked up in. -/
structure Target where
  ecosystem : Ecosystem
  lines : List String
  uri : String

/-- The findings of a record of a group; none if no line declares it. -/
def findingsOf (target : Target) (group : Group) (record : Record) : Findings :=
  match Declaration.line? record.origin.ecosystem record target.lines with
  | some line => .ofRecord ⟨target.uri, line⟩ group.hasIssues record
  | none => .empty

/-- The event for a record of a group that no line declares. -/
def eventsOf (target : Target) (group : Group) (record : Record) : List Log.Event :=
  match Declaration.line? record.origin.ecosystem record target.lines with
  | some _ => []
  | none =>
    [⟨.debug, .conversion, [],
      "no manifest line declares " ++ record.ref ++ " in group " ++ group.key⟩]

/-- The event for a finished walk over a report. -/
def flattenedEvent (flattening : Flattening) : Log.Event :=
  ⟨.debug, .report, ["flatten"],
    "flattened " ++ toString flattening.groups.length ++ " dependency groups from " ++
      toString flattening.sourceCount ++ " sources"⟩

/-- The event for providers that could not be asked, if there are any. -/
def failedEvents (providers : List String) : List Log.Event :=
  if providers.isEmpty then []
  else
    [⟨.warn, .conversion, [],
      "The component analysis couldn't fetch data from the following providers: [" ++
        String.intercalate ", " providers ++ "]"⟩]

/-- The conversion of one analysis, of an image if one is given. -/
def ofAnalysis (target : Target) (image : Option String) (report : AnalysisReport) :
    Conversion :=
  let flattening := Flattening.ofReport report target.ecosystem image
  { findings := .concat (flattening.groups.flatMap fun group =>
      group.records.map (findingsOf target group))
    severity := flattening.severity
    events := flattenedEvent flattening :: failedEvents flattening.failedProviders ++
      flattening.groups.flatMap fun group => group.records.flatMap (eventsOf target group) }

/-- The conversion of the analysis of an image. -/
def ofImage (target : Target) (image : String) (report : AnalysisReport) : Conversion :=
  let conversion := ofAnalysis target (some image) report
  { conversion with events := conversion.events.map (Log.Event.within "image") }

/-- Conversions one after the other. -/
def concat (conversions : List Conversion) : Conversion where
  findings := .concat (conversions.map (·.findings))
  severity := Severity.worst (conversions.map (·.severity))
  events := conversions.flatMap (·.events)

/-- The event for a finished conversion. -/
def builtEvent (target : Target) (findings : Findings) : Log.Event :=
  ⟨.debug, .conversion, [],
    "built " ++ toString findings.results.length ++ " results and " ++
      toString findings.rules.length ++ " rules for " ++ target.uri⟩

/-- The conversions of the analyses of a report. -/
def parts (target : Target) : Report → List Conversion
  | .single report => [ofAnalysis target none report]
  | .images reports => reports.toList.map fun (image, report) => ofImage target image report

/-- The conversion of a report. -/
def ofReport (target : Target) (report : Report) : Conversion :=
  let whole := concat (parts target report)
  { whole with events := whole.events ++ [builtEvent target whole.findings] }

/-- The document of a conversion. -/
def document (conversion : Conversion) : Document :=
  ⟨conversion.findings.results, conversion.findings.rules⟩

end Conversion

end ManifestSarif
