import ManifestSarif.KeyMap
import ManifestSarif.Record

/-!
# Flattening a report

The entries of all sources that could be asked, as records in groups.  Records belong to one group
when they have the same key: the image of the walk, or without an image their own reference.

* `AnalysisReport.sources` lists the sources of the providers that succeeded,
* `AnalysisReport.failedProviders` lists the other providers,
* `Grouping.add` puts a record into the group of its key, whose position the index tells,
* `Group.collect` groups records by their keys, in order of first occurrence,
* `Flattening.ofReport` puts all together with the worst level of the summaries.
-/

namespace ManifestSarif

/-- Records that share a key. -/
structure Group where
  key : String
  records : List Record

namespace Group

/-- Whether any record of the group, or one right below it, has issues. -/
def hasIssues (group : Group) : Bool :=
  group.records.any Record.hasIssuesNearby

/-- The group with the record at its end. -/
def push (group : Group) (record : Record) : Group :=
  { group with records := group.records ++ [record] }

/-- The key under which a record is grouped. -/
def keyOf (record : Record) : String :=
  record.origin.image.getD record.ref

end Group

/-- Groups, and an index from their keys to their positions. -/
structure Grouping where
  groups : List Group
  index : KeyMap Nat

namespace Grouping

/-- No groups yet. -/
def empty : Grouping := ⟨[], .empty⟩

/-- The record added to the group of its key, or as a new group at the end. -/
def add (grouping : Grouping) (record : Record) : Grouping :=
  let key := Group.keyOf record
  match grouping.index.get? key with
  | some position =>
    { grouping with groups := grouping.groups.modify position (·.push record) }
  | none =>
    ⟨grouping.groups ++ [⟨key, [record]⟩], grouping.index.insert key grouping.groups.length⟩

end Grouping

/-- The records in groups of equal keys. -/
def Group.collect (records : List Record) : List Group :=
  (records.foldl Grouping.add .empty).groups

namespace AnalysisReport

/-- The providers whose analysis did not succeed, in order of their names. -/
def failedProviders (report : AnalysisReport) : List String :=
  (report.providerList.filter fun (_, provider) => !provider.succeeded).map (·.1)

/-- The sources of the providers that succeeded, in order of the names of provider and source. -/
def sources (report : AnalysisReport) : List (String × String × Source) :=
  (report.providerList.filter fun (_, provider) => provider.succeeded).flatMap
    fun (provider, data) => data.sourceList.map fun (source, data) => (provider, source, data)

/-- The records of the entries of all sources, in order. -/
def records (report : AnalysisReport) (ecosystem : Ecosystem) (image : Option String) :
    List Record :=
  report.sources.flatMap fun (provider, source, data) =>
    (data.dependencies.getD []).filterMap
      (Record.ofDependency? ⟨image, ecosystem, provider, source⟩)

/-- The worst level that the summaries of the sources imply. -/
def severity (report : AnalysisReport) : Severity :=
  Severity.worst (report.sources.filterMap fun (_, _, data) => data.summary.map Summary.severity)

end AnalysisReport

/-- What a walk over one report finds. -/
structure Flattening where
  groups : List Group
  failedProviders : List String
  severity : Severity
  sourceCount : Nat

/-- The walk over a report, of one image if one is given. -/
def Flattening.ofReport (report : AnalysisReport) (ecosystem : Ecosystem) (image : Option String) :
    Flattening where
  groups := Group.collect (report.records ecosystem image)
  failedProviders := report.failedProviders
  severity := report.severity
  sourceCount := report.sources.length

end ManifestSarif
