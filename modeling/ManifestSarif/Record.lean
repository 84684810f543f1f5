import ManifestSarif.Ecosystem
import ManifestSarif.PackageRef
import ManifestSarif.Report.Basic

/-!
# Dependency records

A dependency entry of a report together with where it comes from and what its reference says.

* `Record.ofDependency?` builds the record of an entry and of those below it,
* `Record.ofTransitive_eq_map`: the records below are those of the entries that have a reference,
* `Record.hasIssues` and `Record.hasIssuesNearby` tell whether it, or it and the entries right below
  it, have issues.
-/

namespace ManifestSarif

/-- Where the entries of one walk come from. -/
structure Origin where
  image : Option String
  ecosystem : Ecosystem
  provider : String
  source : String
deriving DecidableEq, Repr

/-- An entry with its coordinates.  `issues` is present only when there are some, and
`recommendation` is a version, present only when there are no issues. -/
structure Record where
  origin : Origin
  ref : String
  coordinates : PackageRef.Coordinates
  issues : Option (List Issue)
  transitives : Option (List Record)
  recommendation : Option String
deriving Repr

namespace Record

/-- The issues of the record itself. -/
def ownIssues (record : Record) : List Issue :=
  record.issues.getD []

/-- The records right below. -/
def directTransitives (record : Record) : List Record :=
  record.transitives.getD []

/-- Whether the record itself has issues. -/
def hasIssues (record : Record) : Bool :=
  !record.ownIssues.isEmpty

/-- Whether the record or one right below it has issues. -/
def hasIssuesNearby (record : Record) : Bool :=
  record.hasIssues || record.directTransitives.any hasIssues

/-- The issues, unless there are none. -/
def someIssues? (issues : Option (List Issue)) : Option (List Issue) :=
  issues.filter fun issues => !issues.isEmpty

/-- The version that an entry without issues recommends. -/
def recommendedVersion? (issues : Option (List Issue)) (recommendation : Option String) :
    Option String :=
  match someIssues? issues with
  | some _ => none
  | none => (recommendation.map PackageRef.version).filter fun version => !version.isEmpty

mutual

/-- The record of an entry; `none` when the entry has no reference or an empty one. -/
def ofDependency? (origin : Origin) : Dependency → Option Record
  | ⟨ref, issues, transitive, recommendation⟩ =>
    match ref.filter fun ref => !ref.isEmpty with
    | none => none
    | some ref =>
      some {
        origin
        ref
        coordinates := PackageRef.coordinates ref
        issues := someIssues? issues
        transitives := ofTransitive origin transitive
        recommendation := recommendedVersion? issues recommendation }

/-- The records of the entries below, if the list of them is present. -/
def ofTransitive (origin : Origin) : Option (List Dependency) → Option (List Record)
  | none => none
  | some dependencies => some (ofDependencies origin dependencies)

/-- The records of those entries that have a reference. -/
def ofDependencies (origin : Origin) : List Dependency → List Record
  | [] => []
  | dependency :: rest =>
    match ofDependency? origin dependency with
    | some record => record :: ofDependencies origin rest
    | none => ofDependencies origin rest

end

theorem ofDependencies_eq_filterMap (origin : Origin) (dependencies : List Dependency) :
    ofDependencies origin dependencies = dependencies.filterMap (ofDependency? origin) := by
  induction dependencies with
  | nil => simp [ofDependencies]
  | cons dependency rest ih =>
    cases h : ofDependency? origin dependency <;> simp [ofDependencies, h, ih]

theorem ofTransitive_eq_map (origin : Origin) (transitive : Option (List Dependency)) :
    ofTransitive origin transitive = transitive.map (·.filterMap (ofDependency? origin)) := by
  cases transitive <;> simp [ofTransitive, ofDependencies_eq_filterMap]

end Record

end ManifestSarif
