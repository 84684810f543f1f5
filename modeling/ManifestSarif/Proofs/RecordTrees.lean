import ManifestSarif.Proofs.Entries

/-!
# Trees of records

The record of an entry has records below it, and those have records below them.  The tree of records
is the tree of the entries without those that have no reference, and each record tells what its
entry says.

* `Dependency.at?` and `Record.at?` lead along a path into the two trees.
* `Record.Tells` is what holds of a record and its entry, and `tells_of_ofDependency?` that the
  record of an entry has it.
* `getElem?_directTransitives` is one step into both trees, and `at?_of_ofDependency?` a whole path.
* `record_tree_follows_entries` is the result.
-/

namespace ManifestSarif

/-- The entry at the end of a path.  Each number of the path chooses among the entries right below
that have a reference; the others are not counted, so no path leads to or through them. -/
def Dependency.at? : Dependency → List Nat → Option Dependency
  | dependency, [] => some dependency
  | dependency, i :: path => (dependency.transitiveList.filter hasRef)[i]?.bind (at? · path)

namespace Record

/-- The record at the end of a path, each number of which chooses among the records right below. -/
def at? : Record → List Nat → Option Record
  | record, [] => some record
  | record, i :: path => record.directTransitives[i]?.bind (at? · path)

/-- What a record from `origin` tells of its entry. -/
structure Tells (origin : Origin) (entry : Dependency) (record : Record) : Prop where
  ref_eq : entry.ref = some record.ref
  ref_ne : record.ref ≠ ""
  coordinates_eq : record.coordinates = PackageRef.coordinates record.ref
  origin_eq : record.origin = origin
  issues_iff : ∀ issues, record.issues = some issues ↔ entry.issues = some issues ∧ issues ≠ []
  recommendation_iff : ∀ version, record.recommendation = some version ↔
    entry.issueList = [] ∧
      ∃ ref, entry.recommendation = some ref ∧ PackageRef.version ref = version ∧ version ≠ ""
  not_both : record.issues = none ∨ record.recommendation = none
  transitives_isSome : record.transitives.isSome = entry.transitive.isSome
  transitives_all : List.Forall₂ (fun below record => ofDependency? origin below = some record)
    (entry.transitiveList.filter Dependency.hasRef) record.directTransitives

/-! ## One record -/

theorem ofDependency?_eq_none_iff {origin : Origin} {dependency : Dependency} :
    ofDependency? origin dependency = none ↔
      dependency.ref = none ∨ dependency.ref = some "" := by
  rw [← Option.not_isSome_iff_eq_none, isSome_ofDependency?, Dependency.hasRef]
  cases dependency.ref <;> simp

theorem someIssues?_eq_some_iff {issues : Option (List Issue)} {some? : List Issue} :
    someIssues? issues = some some? ↔ issues = some some? ∧ some? ≠ [] := by
  rw [someIssues?, Option.filter_eq_some_iff]
  simp

theorem someIssues?_eq_none_iff {issues : Option (List Issue)} :
    someIssues? issues = none ↔ issues.getD [] = [] := by
  rcases issues with _ | (_ | ⟨issue, issues⟩) <;> simp [someIssues?]

theorem recommendedVersion?_eq_some_iff {issues : Option (List Issue)}
    {recommendation : Option String} {version : String} :
    recommendedVersion? issues recommendation = some version ↔
      issues.getD [] = [] ∧
        ∃ ref, recommendation = some ref ∧ PackageRef.version ref = version ∧ version ≠ "" := by
  rw [← someIssues?_eq_none_iff, recommendedVersion?]
  cases someIssues? issues with
  | some issues => simp
  | none => simp [Option.filter_eq_some_iff, ← and_assoc]

variable {origin : Origin} {dependency : Dependency} {record : Record}

/-- The entries with a reference have one record each, and those are all records. -/
theorem forall₂_filterMap_ofDependency? (origin : Origin) (dependencies : List Dependency) :
    List.Forall₂ (fun below record => ofDependency? origin below = some record)
      (dependencies.filter Dependency.hasRef) (dependencies.filterMap (ofDependency? origin)) := by
  induction dependencies with
  | nil => exact .nil
  | cons dependency dependencies ih =>
    have hsome := isSome_ofDependency? origin dependency
    cases hrecord : ofDependency? origin dependency with
    | none =>
      rw [hrecord] at hsome
      rw [List.filterMap_cons_none hrecord, List.filter_cons_of_neg (by simp [← hsome])]
      exact ih
    | some record =>
      rw [hrecord] at hsome
      rw [List.filterMap_cons_some hrecord, List.filter_cons_of_pos (by simp [← hsome])]
      exact .cons hrecord ih

theorem tells_of_ofDependency? (h : ofDependency? origin dependency = some record) :
    record.Tells origin dependency := by
  have htransitives : List.Forall₂ (fun below record => ofDependency? origin below = some record)
      (dependency.transitiveList.filter Dependency.hasRef) record.directTransitives := by
    rw [directTransitives_of_ofDependency? h]
    exact forall₂_filterMap_ofDependency? origin dependency.transitiveList
  obtain ⟨ref, href, hne, rfl⟩ := ofDependency?_eq_some_iff.1 h
  exact {
    ref_eq := href
    ref_ne := hne
    coordinates_eq := rfl
    origin_eq := rfl
    issues_iff := fun _ => someIssues?_eq_some_iff
    recommendation_iff := fun _ => recommendedVersion?_eq_some_iff
    not_both := by
      cases hissues : someIssues? dependency.issues with
      | none => exact Or.inl rfl
      | some issues => exact Or.inr (by simp [recommendedVersion?, hissues])
    transitives_isSome := Option.isSome_map
    transitives_all := htransitives }

/-! ## All records of a tree -/

/-- Right below a record stand the records of the entries right below its entry. -/
theorem getElem?_directTransitives (h : ofDependency? origin dependency = some record) (i : Nat) :
    record.directTransitives[i]? =
        (dependency.transitiveList.filter Dependency.hasRef)[i]?.bind (ofDependency? origin) ∧
      record.directTransitives[i]?.isSome =
        (dependency.transitiveList.filter Dependency.hasRef)[i]?.isSome := by
  have hall := (tells_of_ofDependency? h).transitives_all
  generalize dependency.transitiveList.filter Dependency.hasRef = entries at hall
  generalize record.directTransitives = records at hall
  induction hall generalizing i with
  | nil => simp
  | cons hrecord _ ih =>
    cases i with
    | zero => simp [hrecord]
    | succ i => simpa using ih i

/-- A path into the tree of an entry leads to a record exactly when it leads to an entry, and then
to the record of that entry. -/
theorem at?_of_ofDependency? (h : ofDependency? origin dependency = some record)
    (path : List Nat) :
    record.at? path = (dependency.at? path).bind (ofDependency? origin) ∧
      (record.at? path).isSome = (dependency.at? path).isSome := by
  induction path generalizing dependency record with
  | nil => simp [at?, Dependency.at?, h]
  | cons i path ih =>
    obtain ⟨hstep, hsome⟩ := getElem?_directTransitives h i
    rw [at?, Dependency.at?]
    cases hentry : (dependency.transitiveList.filter Dependency.hasRef)[i]? with
    | none => simp [hstep, hentry]
    | some entry =>
      rw [hentry, Option.isSome_some, Option.isSome_iff_exists] at hsome
      obtain ⟨below, hbelow⟩ := hsome
      rw [hentry, hbelow, Option.bind_some] at hstep
      rw [hbelow, Option.bind_some, Option.bind_some]
      exact ih hstep.symm

end Record

/-! ## The result -/

/-- An entry has no record exactly when its reference is absent or empty.  Otherwise the paths into
the tree of its record are those into the tree of entries with references, and the record at the end
of a path tells what the entry there says: the reference is not empty and decides the coordinates,
issues are those of the entry and there are some, a recommended version is present exactly when the
entry has no issues and recommends one, records below are present exactly when entries are, and are
those of the entries with a reference, in order.  Where the records come from is the same
for all. -/
theorem record_tree_follows_entries (origin : Origin) (dependency : Dependency) :
    (Record.ofDependency? origin dependency = none ↔
      dependency.ref = none ∨ dependency.ref = some "") ∧
    ∀ root, Record.ofDependency? origin dependency = some root →
      root.origin = origin ∧
      ∀ path, (root.at? path).isSome = (dependency.at? path).isSome ∧
        ∀ node, root.at? path = some node →
          ∃ entry, dependency.at? path = some entry ∧ node.Tells root.origin entry := by
  refine ⟨Record.ofDependency?_eq_none_iff, fun root hroot => ?_⟩
  have horigin := Record.origin_of_ofDependency? hroot
  refine ⟨horigin, fun path => ?_⟩
  obtain ⟨hat, hsome⟩ := Record.at?_of_ofDependency? hroot path
  refine ⟨hsome, fun node hnode => ?_⟩
  rw [hnode, eq_comm, Option.bind_eq_some_iff] at hat
  obtain ⟨entry, hentry, hrecord⟩ := hat
  rw [horigin]
  exact ⟨entry, hentry, Record.tells_of_ofDependency? hrecord⟩

/-- Three records stand one below the other, as their entries do; the second entry right below the
first one has no reference and no record. -/
theorem sample_tree_has_records_on_three_levels :
    ∃ root, Record.ofDependency? ⟨none, .pypi, "rhda", "osv"⟩ Sample.requests = some root ∧
      (root.at? [1]).isNone = true ∧
      ∃ node, root.at? [0, 0] = some node ∧ node.ref = "pkg:pypi/idna@2.7" ∧
        ∃ entry, Sample.requests.at? [0, 0] = some entry ∧ node.Tells root.origin entry := by
  obtain ⟨-, hroot⟩ := record_tree_follows_entries ⟨none, .pypi, "rhda", "osv"⟩ Sample.requests
  obtain ⟨-, htree⟩ := hroot _ rfl
  exact ⟨_, rfl, by decide, _, rfl, rfl, (htree [0, 0]).2 _ rfl⟩

end ManifestSarif
