import ManifestSarif.Proofs.TypeSegments

/-!
# What a reference says

A reference is decoded in two steps: its type segment and its qualifiers are taken off, and what is
left, the dependency, is cut into group, name and version.

* `Decodes` says how a dependency is made up of its coordinates.  `decodes_coordinates`: those that
  are read are such, and by `Decodes.unique` there are no others.
* `Parts` are the parts that a reference is written from, and `Parts.WellFormed` says which
  characters each must not have.
* `written_reference_is_decoded` is the result for references that are written so, and
  `reference_is_decoded_without_loss` the one for any text.
-/

namespace ManifestSarif.PackageRef

open Text

/-! ## Coordinates of a dependency -/

/-- Group and name as a dependency writes them. -/
def Coordinates.path (c : Coordinates) : String :=
  match c.group with
  | some group => group ++ "/" ++ c.name
  | none => c.name

/-- The dependency is the path, and behind it an `@` and the version, if it has an `@` at all.
References of Maven and Gradle, and no others, have a group if there is a slash before the first
`@`; the first such slash ends the group. -/
structure Decodes (type? : Option String) (dependency : String) (c : Coordinates) : Prop where
  at_not_mem_name : '@' ∉ c.name.toList
  not_mem_group : ∀ group ∈ c.group, '/' ∉ group.toList ∧ '@' ∉ group.toList
  eq_of_at : '@' ∈ dependency.toList → dependency = c.path ++ "@" ++ c.version
  eq_of_no_at : '@' ∉ dependency.toList → dependency = c.path ∧ c.version = ""
  group_iff : c.group.isSome = true ↔ (type? = some "maven" ∨ type? = some "gradle") ∧
    '/' ∈ dependency.toList.takeWhile (· ≠ '@')

variable {type? : Option String} {text : String} {c c' : Coordinates}

theorem Coordinates.toList_path_of_group {group : String} (h : c.group = some group) :
    c.path.toList = group.toList ++ '/' :: c.name.toList := by
  simp [path, h]

theorem Coordinates.path_of_no_group (h : c.group = none) : c.path = c.name := by
  rw [path, h]

/-- A path has the characters of group and name, and a slash if there is a group. -/
theorem Coordinates.mem_path_iff {x : Char} : x ∈ c.path.toList ↔
    x ∈ c.name.toList ∨ ∃ group ∈ c.group, x = '/' ∨ x ∈ group.toList := by
  cases hgroup : c.group with
  | some group =>
    rw [toList_path_of_group hgroup, List.mem_append, List.mem_cons]
    simp only [Option.mem_def, Option.some.injEq, exists_eq_left']
    tauto
  | none => simp [path_of_no_group hgroup]

/-- Coordinates decode what is written from them, if the path has no `@` and its first slash ends
the group. -/
theorem decodes_of_path (hat : '@' ∉ c.path.toList) (hslash : ∀ group ∈ c.group, '/' ∉ group.toList)
    (htext : text = c.path ++ "@" ++ c.version ∨ text = c.path ∧ c.version = "")
    (hgroup : c.group.isSome = true ↔
      (type? = some "maven" ∨ type? = some "gradle") ∧ '/' ∈ c.path.toList) :
    Decodes type? text c := by
  obtain ⟨more, hmore, hhead⟩ : ∃ more, text.toList = c.path.toList ++ more ∧
      ∀ d ∈ more.head?, d = '@' := by
    rcases htext with rfl | ⟨rfl, -⟩
    · exact ⟨'@' :: c.version.toList, by simp, by simp⟩
    · exact ⟨[], by simp, by simp⟩
  have hpath : text.toList.takeWhile (· ≠ '@') = c.path.toList := hmore ▸ upTo_append hat hhead
  rw [Coordinates.mem_path_iff, not_or] at hat
  refine ⟨hat.1, fun group hmem => ⟨hslash group hmem, fun hin => ?_⟩, fun hin => ?_,
    fun hnot => ?_, hpath ▸ hgroup⟩
  · exact hat.2 ⟨group, hmem, Or.inr hin⟩
  · rcases htext with rfl | ⟨rfl, -⟩
    · rfl
    · rw [Coordinates.mem_path_iff] at hin
      exact absurd hin (not_or.2 hat)
  · rcases htext with rfl | h
    · simp at hnot
    · exact h

theorem Decodes.at_not_mem_path (h : Decodes type? text c) : '@' ∉ c.path.toList := by
  rw [Coordinates.mem_path_iff]
  rintro (hname | ⟨group, hgroup, hslash | hmem⟩)
  · exact h.at_not_mem_name hname
  · exact absurd hslash (by decide)
  · exact (h.not_mem_group group hgroup).2 hmem

theorem Decodes.path_eq (h : Decodes type? text c) (h' : Decodes type? text c') :
    c.path = c'.path ∧ c.version = c'.version := by
  by_cases hat : '@' ∈ text.toList
  · have heq := congrArg String.toList ((h.eq_of_at hat).symm.trans (h'.eq_of_at hat))
    simp only [String.toList_append, List.append_assoc] at heq
    obtain ⟨hpath, hversion⟩ := append_mark_inj h.at_not_mem_path h'.at_not_mem_path heq
    exact ⟨String.toList_inj.1 hpath, String.toList_inj.1 hversion⟩
  · obtain ⟨hpath, hversion⟩ := h.eq_of_no_at hat
    obtain ⟨hpath', hversion'⟩ := h'.eq_of_no_at hat
    exact ⟨hpath.symm.trans hpath', hversion.trans hversion'.symm⟩

/-- A dependency has one decoding. -/
theorem Decodes.unique (h : Decodes type? text c) (h' : Decodes type? text c') : c = c' := by
  obtain ⟨hpath, hversion⟩ := h.path_eq h'
  -- Whether there is a group is told from the dependency, and where it ends from the path.
  have hsome : c.group.isSome = true ↔ c'.group.isSome = true := h.group_iff.trans h'.group_iff.symm
  obtain ⟨group, name, version⟩ := c
  obtain ⟨group', name', version'⟩ := c'
  obtain rfl : version = version' := hversion
  cases group with
  | none =>
    cases group' with
    | none =>
      obtain rfl : name = name' := hpath
      rfl
    | some group' => simp at hsome
  | some group =>
    cases group' with
    | none => simp at hsome
    | some group' =>
      have heq := congrArg String.toList hpath
      rw [Coordinates.toList_path_of_group rfl, Coordinates.toList_path_of_group rfl] at heq
      obtain ⟨hgroup, hname⟩ :=
        append_mark_inj (h.not_mem_group group rfl).1 (h'.not_mem_group group' rfl).1 heq
      obtain rfl : group = group' := String.toList_inj.1 hgroup
      obtain rfl : name = name' := String.toList_inj.1 hname
      rfl

/-! ## What is read -/

theorem hasGroups_iff :
    hasGroups type? = true ↔ type? = some "maven" ∨ type? = some "gradle" := by
  simp [hasGroups]

theorem toList_dependency (reference : String) :
    (dependency reference).toList = dependencyText reference.toList :=
  String.toList_ofList

/-- The path before the version is cut at its first slash, or it is the name. -/
theorem coordinates_cases (reference : String) {path : List Char}
    (hpath : upTo '@' (dependencyText reference.toList) = path) :
    (hasGroups (ecosystem? reference) = true ∧ ∃ group name,
        path = group ++ '/' :: name ∧ '/' ∉ group ∧ coordinates reference =
          ⟨some (String.ofList group), String.ofList name, version reference⟩) ∨
      (¬(hasGroups (ecosystem? reference) = true ∧ '/' ∈ path) ∧
        coordinates reference = ⟨none, String.ofList path, version reference⟩) := by
  by_cases hgroups : hasGroups (ecosystem? reference) = true
  · by_cases hslash : '/' ∈ path
    · obtain ⟨group, name, rfl, hgroup⟩ := List.eq_append_cons_of_mem hslash
      refine Or.inl ⟨hgroups, group, name, rfl, hgroup, ?_⟩
      simp only [coordinates, if_pos hgroups, hpath, cutAt_append hgroup]
    · refine Or.inr ⟨fun h => hslash h.2, ?_⟩
      simp only [coordinates, if_pos hgroups, hpath, cutAt_eq_none hslash]
  · refine Or.inr ⟨fun h => hgroups h.1, ?_⟩
    simp only [coordinates, if_neg hgroups, hpath]

theorem version_coordinates (reference : String) :
    (coordinates reference).version = version reference := by
  rcases coordinates_cases reference rfl with ⟨-, _, _, -, -, heq⟩ | ⟨-, heq⟩ <;>
    rw [heq]

/-- Group and name together are the path before the version. -/
theorem toList_path_coordinates (reference : String) :
    (coordinates reference).path.toList = upTo '@' (dependencyText reference.toList) := by
  rcases coordinates_cases reference rfl with
    ⟨-, group, name, hpath, -, heq⟩ | ⟨-, heq⟩
  · rw [heq, Coordinates.toList_path_of_group rfl, hpath, String.toList_ofList,
      String.toList_ofList]
  · rw [heq, Coordinates.path_of_no_group rfl, String.toList_ofList]

/-- The version follows the first `@` of the dependency, or is empty. -/
theorem dependency_eq (reference : String) :
    dependency reference = (coordinates reference).path ++ "@" ++ version reference ∨
      dependency reference = (coordinates reference).path ∧ version reference = "" := by
  obtain ⟨more, hmore, hat, hhead⟩ := exists_upTo '@' (dependencyText reference.toList)
  rw [← toList_path_coordinates] at hmore hat
  rw [← String.toList_inj, toList_dependency, ← String.toList_inj, toList_dependency, version]
  cases more with
  | nil =>
    rw [List.append_nil] at hmore
    exact Or.inr ⟨hmore, by rw [hmore, cutAt_eq_none hat]⟩
  | cons d more =>
    obtain rfl := hhead d rfl
    refine Or.inl ?_
    rw [hmore, cutAt_append hat]
    simp

/-- The coordinates that are read from a reference are those of its dependency. -/
theorem decodes_coordinates (reference : String) :
    Decodes (ecosystem? reference) (dependency reference) (coordinates reference) := by
  have hpath := toList_path_coordinates reference
  have hcases := coordinates_cases reference rfl
  refine decodes_of_path ?_ ?_ (version_coordinates reference ▸ dependency_eq reference) ?_
  · obtain ⟨-, -, hat, -⟩ := exists_upTo '@' (dependencyText reference.toList)
    rwa [hpath]
  · intro group hgroup
    rcases hcases with ⟨-, front, name, -, hslash, heq⟩ | ⟨-, heq⟩
    · rw [heq] at hgroup
      obtain rfl := Option.some.inj hgroup
      rwa [String.toList_ofList]
    · rw [heq] at hgroup
      cases hgroup
  · rw [← hasGroups_iff, hpath]
    rcases hcases with ⟨hgroups, group, name, hsplit, -, heq⟩ | ⟨hnone, heq⟩
    · rw [heq, hsplit]
      simp [hgroups]
    · rw [heq]
      exact iff_of_false (by simp) hnone

/-! ## References written from their parts -/

/-- What a reference is written from. -/
structure Parts where
  type : String
  path : String
  version : Option String
  qualifiers : Option String
deriving DecidableEq, Repr

namespace Parts

/-- The path, and an `@` and the version if there is one. -/
def dependency (parts : Parts) : String :=
  match parts.version with
  | some version => parts.path ++ "@" ++ version
  | none => parts.path

/-- The reference: `pkg:`, the type, a slash, the dependency, and a `?` and the qualifiers if there
are any. -/
def written (parts : Parts) : String :=
  let reference := "pkg:" ++ parts.type ++ "/" ++ parts.dependency
  match parts.qualifiers with
  | some qualifiers => reference ++ "?" ++ qualifiers
  | none => reference

/-- No part has a mark that ends it.  Apart from that they may hold anything: the type a `pkg:` or
an `@`, the path a slash or the type again, the version a slash or an `@`. -/
structure WellFormed (parts : Parts) : Prop where
  type_ne : parts.type ≠ ""
  slash_not_mem_type : '/' ∉ parts.type.toList
  feed_not_mem_type : '\n' ∉ parts.type.toList
  at_not_mem_path : '@' ∉ parts.path.toList
  query_not_mem_path : '?' ∉ parts.path.toList
  query_not_mem_version : ∀ version ∈ parts.version, '?' ∉ version.toList

/-- The type is one whose paths have groups, and the path is the group, a slash and the name; the
slash is the first one. -/
structure Groups (parts : Parts) (group name : String) : Prop where
  type_eq : parts.type = "maven" ∨ parts.type = "gradle"
  path_eq : parts.path = group ++ "/" ++ name
  slash_not_mem : '/' ∉ group.toList

variable {parts : Parts} {group name : String}

theorem WellFormed.query_not_mem_dependency (h : parts.WellFormed) :
    '?' ∉ parts.dependency.toList := by
  rw [dependency]
  cases hversion : parts.version with
  | some version => simp [h.query_not_mem_path, h.query_not_mem_version version hversion]
  | none => exact h.query_not_mem_path

/-- Behind the dependency a reference ends, or goes on with a `?`. -/
theorem exists_toList_written (parts : Parts) : ∃ more, (∀ c ∈ more.head?, c = '?') ∧
    parts.written.toList =
      scheme ++ parts.type.toList ++ '/' :: (parts.dependency.toList ++ more) := by
  rw [written]
  cases parts.qualifiers with
  | some qualifiers => exact ⟨'?' :: qualifiers.toList, by simp, by simp [scheme]⟩
  | none => exact ⟨[], by simp, by simp [scheme]⟩

theorem WellFormed.namedSegment?_written (h : parts.WellFormed) :
    ∃ more, (∀ c ∈ more.head?, c = '?') ∧ namedSegment? parts.written.toList =
      some ⟨[], parts.type.toList, parts.dependency.toList ++ more⟩ := by
  obtain ⟨more, hhead, hwritten⟩ := parts.exists_toList_written
  refine ⟨more, hhead, namedSegment?_eq_some_iff.2 ⟨⟨⟨hwritten, ?_, ?_⟩, ?_⟩, ?_⟩⟩
  · exact h.slash_not_mem_type
  · exact h.feed_not_mem_type
  · exact fun _ _ => Nat.zero_le _
  · simpa using h.type_ne

theorem WellFormed.ecosystem?_written (h : parts.WellFormed) :
    ecosystem? parts.written = some parts.type := by
  obtain ⟨more, -, hnamed⟩ := h.namedSegment?_written
  rw [ecosystem?, hnamed, Option.map_some, String.ofList_toList]

theorem WellFormed.dependency_written (h : parts.WellFormed) :
    PackageRef.dependency parts.written = parts.dependency := by
  obtain ⟨more, hhead, hnamed⟩ := h.namedSegment?_written
  rw [← String.toList_inj, toList_dependency, dependencyText, withoutType, hnamed]
  exact upTo_append h.query_not_mem_dependency hhead

/-- Coordinates with the path and the version of the parts are read, if they have a group exactly
where the path has one. -/
theorem WellFormed.coordinates_written (h : parts.WellFormed) (hpath : c.path = parts.path)
    (hversion : c.version = parts.version.getD "") (hslash : ∀ group ∈ c.group, '/' ∉ group.toList)
    (hgroup : c.group.isSome = true ↔
      (parts.type = "maven" ∨ parts.type = "gradle") ∧ '/' ∈ parts.path.toList) :
    coordinates parts.written = c := by
  have hread := decodes_coordinates parts.written
  rw [h.ecosystem?_written, h.dependency_written] at hread
  -- Both decode the same dependency, so it is enough that the given ones do.
  refine hread.unique (decodes_of_path ?_ hslash ?_ ?_)
  · exact hpath ▸ h.at_not_mem_path
  · rw [hpath, hversion, dependency]
    cases parts.version with
    | some version => exact Or.inl rfl
    | none => exact Or.inr ⟨rfl, rfl⟩
  · rw [hpath, hgroup, Option.some_inj, Option.some_inj]

/-- A path with a slash has a group and a name. -/
theorem exists_groups (htype : parts.type = "maven" ∨ parts.type = "gradle")
    (hslash : '/' ∈ parts.path.toList) : ∃ group name, parts.Groups group name := by
  obtain ⟨group, name, hpath, hgroup⟩ := List.eq_append_cons_of_mem hslash
  refine ⟨String.ofList group, String.ofList name, htype, ?_, by rwa [String.toList_ofList]⟩
  rw [← String.toList_inj, hpath]
  simp

end Parts

/-! ## The results -/

/-- Reading a reference gives the parts back that it was written from, whatever they hold besides:
the type, the dependency without the qualifiers, the version, empty if there is none, and the path
as group and name where the type has groups and the path a slash, and as a name otherwise. -/
theorem written_reference_is_decoded {parts : Parts} (h : parts.WellFormed) :
    ecosystem? parts.written = some parts.type ∧
    dependency parts.written = parts.dependency ∧
    version parts.written = parts.version.getD "" ∧
    (∀ group name, parts.Groups group name →
      coordinates parts.written = ⟨some group, name, parts.version.getD ""⟩) ∧
    ((∀ group name, ¬parts.Groups group name) →
      coordinates parts.written = ⟨none, parts.path, parts.version.getD ""⟩) := by
  have hgroups : ∀ group name, parts.Groups group name →
      coordinates parts.written = ⟨some group, name, parts.version.getD ""⟩ := by
    intro group name ⟨htype, hpath, hslash⟩
    refine h.coordinates_written hpath.symm rfl ?_ ?_
    · rintro _ ⟨rfl⟩
      exact hslash
    · simp [htype, hpath]
  have hnone : (∀ group name, ¬parts.Groups group name) →
      coordinates parts.written = ⟨none, parts.path, parts.version.getD ""⟩ := by
    intro hnot
    refine h.coordinates_written rfl rfl (by simp) (iff_of_false (by simp) ?_)
    rintro ⟨htype, hslash⟩
    obtain ⟨group, name, hsplit⟩ := Parts.exists_groups htype hslash
    exact hnot group name hsplit
  refine ⟨h.ecosystem?_written, h.dependency_written, ?_, hgroups, hnone⟩
  rw [← version_coordinates]
  by_cases hsplit : ∃ group name, parts.Groups group name
  · obtain ⟨group, name, hsplit⟩ := hsplit
    rw [hgroups group name hsplit]
  · rw [hnone fun group name hgroup => hsplit ⟨group, name, hgroup⟩]

namespace Sample

/-- The path starts like the reference, and version and qualifiers hold the marks of all parts. -/
def crowded : Parts :=
  ⟨"maven", "pkg:maven/b", some "1@2/pkg:x", some "q?/@"⟩

/-- The type holds all marks but the slash, and the path has a slash that ends no group. -/
def crowdedType : Parts :=
  ⟨"a@pkg:b?c", "x/y", none, none⟩

end Sample

theorem sample_crowded_references_are_decoded :
    Sample.crowded.WellFormed ∧ Sample.crowdedType.WellFormed ∧
    Sample.crowded.written = "pkg:maven/pkg:maven/b@1@2/pkg:x?q?/@" ∧
    ecosystem? Sample.crowded.written = some "maven" ∧
    coordinates Sample.crowded.written = ⟨some "pkg:maven", "b", "1@2/pkg:x"⟩ ∧
    Sample.crowdedType.written = "pkg:a@pkg:b?c/x/y" ∧
    ecosystem? Sample.crowdedType.written = some "a@pkg:b?c" ∧
    coordinates Sample.crowdedType.written = ⟨none, "x/y", ""⟩ := by
  have hcrowded : Sample.crowded.WellFormed := by
    refine ⟨by decide, by decide, by decide, by decide, by decide, ?_⟩
    rintro _ ⟨rfl⟩
    decide
  have htype : Sample.crowdedType.WellFormed :=
    ⟨by decide, by decide, by decide, by decide, by decide, nofun⟩
  have hgroups : Sample.crowded.Groups "pkg:maven" "b" := ⟨Or.inl rfl, by decide, by decide⟩
  have hnone : ∀ group name, ¬Sample.crowdedType.Groups group name :=
    fun _ _ h => absurd h.type_eq (by decide)
  obtain ⟨hecosystem, -, -, hsplit, -⟩ := written_reference_is_decoded hcrowded
  obtain ⟨hecosystem', -, -, -, hwhole⟩ := written_reference_is_decoded htype
  exact ⟨hcrowded, htype, by decide, hecosystem, hsplit _ _ hgroups, by decide, hecosystem',
    hwhole hnone⟩

/-- Of any text the type segment is taken out, the leftmost one and only if it has a type, and this
is the same as taking out its text where that first occurs.  What is left up to the first `?` is the
dependency, and group, name and version put together are the dependency again. -/
theorem reference_is_decoded_without_loss (reference : String) :
    (∃ rest, Strips reference.toList ((ecosystem? reference).map String.toList) rest ∧
      (∀ type, ecosystem? reference = some type →
        replaceFirst ("pkg:" ++ type ++ "/").toList [] reference.toList = rest) ∧
      (dependency reference).toList = rest.takeWhile (· ≠ '?')) ∧
    (coordinates reference).version = version reference ∧
    Decodes (ecosystem? reference) (dependency reference) (coordinates reference) := by
  have hstrips := strips_withoutType reference.toList
  have htype : (ecosystem? reference).map String.toList =
      (namedSegment? reference.toList).map (·.type) := by
    rw [ecosystem?, Option.map_map]
    congr 1
    funext s
    exact String.toList_ofList
  rw [← htype] at hstrips
  refine ⟨⟨_, hstrips, fun type hsome => ?_, toList_dependency reference⟩,
    version_coordinates reference, decodes_coordinates reference⟩
  rw [hsome] at hstrips
  simpa [scheme] using hstrips.eq_replaceFirst

/-- The first `pkg:` has no slash on its line, so the second one opens the segment; what stands
before it belongs to the dependency. -/
example : dependency "a@pkg:\npkg:npm/b?c" = "a@pkg:\nb" := by decide

end ManifestSarif.PackageRef
