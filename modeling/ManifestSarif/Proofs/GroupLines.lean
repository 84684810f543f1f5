import ManifestSarif.Proofs.ImageConversions
import ManifestSarif.Proofs.StableGrouping

/-!
# A group has one line

Records are located one by one, by their coordinates or by their image, and nothing tells the
locator which group a record is in.  Still all records of a group have one line, because the key of
the group decides what the locator looks at.

* `Declaration.line?_eq_of_keyOf_eq`: records of one walk that have one key have one line.
* `Group.StandsAt` says that a group is located, or left out, as a whole.
* `group_is_located_as_a_whole` is the result, for a run against a manifest on a disk.
-/

namespace ManifestSarif

open Sarif

/-! ## Records of one key -/

theorem Record.coordinates_of_ofDependency? {origin : Origin} {dependency : Dependency}
    {record : Record} (h : ofDependency? origin dependency = some record) :
    record.coordinates = PackageRef.coordinates record.ref := by
  obtain ⟨ref, -, -, rfl⟩ := ofDependency?_eq_some_iff.1 h
  rfl

theorem AnalysisReport.coordinates_of_mem_records {report : AnalysisReport} {ecosystem : Ecosystem}
    {image : Option String} {record : Record} (h : record ∈ report.records ecosystem image) :
    record.coordinates = PackageRef.coordinates record.ref := by
  rw [records_eq_filterMap_entries] at h
  obtain ⟨entry, -, hrecord⟩ := List.mem_filterMap.1 h
  exact Record.coordinates_of_ofDependency? hrecord

namespace Declaration

variable {ecosystem : Ecosystem} {image : Option String} {report : AnalysisReport}
  {left right : Record}

/-- Nothing but the coordinates and the image of a record decides which lines declare it. -/
theorem line?_eq_of_coordinates_eq (hcoordinates : left.coordinates = right.coordinates)
    (himage : left.origin.image = right.origin.image) (lines : List String) :
    line? ecosystem left lines = line? ecosystem right lines := by
  have honLine : onLine ecosystem left = onLine ecosystem right := by
    funext line
    cases ecosystem <;> simp only [onLine, hcoordinates, himage]
  rw [line?, line?, honLine]

/-- Records of one walk that have one key have one line: without an image the key is the reference,
which decides the coordinates, and with an image no more than the image is looked at. -/
theorem line?_eq_of_keyOf_eq (himage : image.isSome = true → ecosystem = .docker)
    (hleft : left ∈ report.records ecosystem image)
    (hright : right ∈ report.records ecosystem image)
    (hkey : Group.keyOf left = Group.keyOf right) (lines : List String) :
    line? ecosystem left lines = line? ecosystem right lines := by
  have hsame : left.origin.image = right.origin.image := by
    rw [(AnalysisReport.origin_of_mem_records hleft).1,
      (AnalysisReport.origin_of_mem_records hright).1]
  cases image with
  | none =>
    have href : left.ref = right.ref := by
      rwa [AnalysisReport.keyOf_of_mem_records hleft,
        AnalysisReport.keyOf_of_mem_records hright] at hkey
    refine line?_eq_of_coordinates_eq ?_ hsame lines
    rw [AnalysisReport.coordinates_of_mem_records hleft,
      AnalysisReport.coordinates_of_mem_records hright, href]
  | some name =>
    obtain rfl := himage rfl
    exact line?_docker_eq hsame

end Declaration

/-! ## Groups -/

/-- Records of one group have one line, whatever the lines are. -/
theorem Declaration.line?_eq_of_mem_group {ecosystem : Ecosystem} {image : Option String}
    {report : AnalysisReport} {group : Group} {left right : Record}
    (himage : image.isSome = true → ecosystem = .docker)
    (hgroup : group ∈ (Flattening.ofReport report ecosystem image).groups)
    (hleft : left ∈ group.records) (hright : right ∈ group.records) (lines : List String) :
    line? ecosystem left lines = line? ecosystem right lines := by
  have hstable := Group.stable_collect (report.records ecosystem image)
  have hkeyed := Group.keyed_collect (report.records ecosystem image)
  apply line?_eq_of_keyOf_eq himage (hstable.mem_of_mem hgroup hleft)
    (hstable.mem_of_mem hgroup hright)
  rw [hkeyed.keyOf_eq group hgroup left hleft, hkeyed.keyOf_eq group hgroup right hright]

/-- The line of the group, if it has one, is the line of every record in it.  All that is found
about its records is at this line, and nothing is found if there is none. -/
structure Group.StandsAt (target : Conversion.Target) (line? : Option Nat) (group : Group) :
    Prop where
  line?_eq : ∀ record ∈ group.records,
    Declaration.line? record.origin.ecosystem record target.lines = line?
  findings_eq : Conversion.groupFindings target group =
    match line? with
    | some line =>
      .concat (group.records.map (Findings.ofRecord ⟨target.uri, line⟩ group.hasIssues))
    | none => .empty
  line_eq : ∀ result ∈ (Conversion.groupFindings target group).results,
    line? = some result.line

namespace Conversion

variable {target : Target} {group : Group} {line? : Option Nat}

/-- If the records of a group have one line, so have its findings. -/
theorem standsAt_of_line?_eq
    (h : ∀ record ∈ group.records,
      Declaration.line? record.origin.ecosystem record target.lines = line?) :
    group.StandsAt target line? := by
  cases line? with
  | none =>
    have hnone : groupFindings target group = .empty := by
      refine Findings.concat_eq_empty fun part hpart => ?_
      obtain ⟨record, hmem, rfl⟩ := List.mem_map.1 hpart
      rw [findingsOf, h record hmem]
    refine ⟨h, hnone, ?_⟩
    rw [hnone]
    intro result hresult
    exact absurd hresult List.not_mem_nil
  | some line =>
    have hfindings : groupFindings target group =
        .concat (group.records.map (Findings.ofRecord ⟨target.uri, line⟩ group.hasIssues)) :=
      congrArg _ (List.map_congr_left fun record hmem => by rw [findingsOf, h record hmem])
    refine ⟨h, hfindings, ?_⟩
    intro result hresult
    rw [hfindings, Findings.results_concat, List.flatMap_map] at hresult
    obtain ⟨record, -, hresult⟩ := List.mem_flatMap.1 hresult
    rw [← Findings.map_result_toList (Findings.aligned_ofRecord _ record _)] at hresult
    obtain ⟨finding, hfinding, rfl⟩ := List.mem_map.1 hresult
    exact congrArg some (Findings.line_of_mem_ofRecord hfinding).symm

/-- Every group of a walk stands at the line of any of its records. -/
theorem exists_standsAt {image : Option String}
    (himage : image.isSome = true → target.ecosystem = .docker) {report : AnalysisReport}
    (hgroup : group ∈ (Flattening.ofReport report target.ecosystem image).groups) :
    ∃ line?, group.StandsAt target line? := by
  have hstable := Group.stable_collect (report.records target.ecosystem image)
  obtain ⟨first, hfirst⟩ := List.exists_mem_of_ne_nil _ (hstable.records_ne_nil hgroup)
  refine ⟨Declaration.line? target.ecosystem first target.lines, standsAt_of_line?_eq ?_⟩
  intro record hrecord
  rw [(AnalysisReport.origin_of_mem_records (hstable.mem_of_mem hgroup hrecord)).2]
  exact Declaration.line?_eq_of_mem_group himage hgroup hrecord hfirst target.lines

end Conversion

/-! ## The result -/

/-- Images come with container files only.  Then records that are in one group of a walk have one
line, whatever the lines are.  So a run that reads a manifest converts the report group by group:
the groups of an analysis have different keys, the key of a group is the image or the reference of
its records, and each group stands at one line with all that is found about its records, or has no
line and no findings. -/
theorem group_is_located_as_a_whole {disk : Disk} {manifest content : String}
    (hread : disk.read manifest = .ok content) (cwd : String) {ecosystem : Ecosystem}
    {report : Report}
    (himages : ∀ analysis ∈ report.analyses, analysis.1.isSome = true → ecosystem = .docker) :
    (∀ analysis ∈ report.analyses,
      ∀ group ∈ (Flattening.ofReport analysis.2 ecosystem analysis.1).groups,
        ∀ left ∈ group.records, ∀ right ∈ group.records, ∀ lines,
          Declaration.line? ecosystem left lines = Declaration.line? ecosystem right lines) ∧
    ∃ conversion, Run.convert disk cwd manifest ecosystem report = .ok conversion ∧
      conversion.findings = .concat (report.analyses.flatMap fun analysis =>
        (Flattening.ofReport analysis.2 ecosystem analysis.1).groups.map
          (Conversion.groupFindings
            ⟨ecosystem, Manifest.lines ecosystem content, Path.uri cwd manifest⟩)) ∧
      ∀ analysis ∈ report.analyses,
        ((Flattening.ofReport analysis.2 ecosystem analysis.1).groups.map (·.key)).Nodup ∧
        ∀ group ∈ (Flattening.ofReport analysis.2 ecosystem analysis.1).groups,
          (∀ record ∈ group.records, analysis.1.getD record.ref = group.key) ∧
          ∃ line?, group.StandsAt
            ⟨ecosystem, Manifest.lines ecosystem content, Path.uri cwd manifest⟩ line? := by
  refine ⟨?_, _, Run.convert_of_read hread cwd ecosystem report,
    Conversion.findings_ofReport_groups _ report, ?_⟩
  · intro analysis hanalysis group hgroup left hleft right hright
    exact Declaration.line?_eq_of_mem_group (himages analysis hanalysis) hgroup hleft hright
  · intro analysis hanalysis
    have hstable := Group.stable_collect (analysis.2.records ecosystem analysis.1)
    have hkeyed := Group.keyed_collect (analysis.2.records ecosystem analysis.1)
    refine ⟨hkeyed.keys_nodup, fun group hgroup => ⟨fun record hrecord => ?_, ?_⟩⟩
    · rw [← AnalysisReport.keyOf_of_mem_records (hstable.mem_of_mem hgroup hrecord)]
      exact hkeyed.keyOf_eq group hgroup record hrecord
    · exact Conversion.exists_standsAt (himages analysis hanalysis) hgroup

namespace Sample

/-- An image with three entries from two sources. -/
def layeredImage : Report :=
  .images (KeyMap.ofList [
    ("db:1", ⟨some (KeyMap.ofList [
      ("rhda", ⟨some ⟨some true⟩, some (KeyMap.ofList [
        ("csaf", ⟨none, some [dependency (some "pkg:rpm/zlib@1.2") [issue "CVE-11" "LOW"] []]⟩),
        ("osv", ⟨none, some [openssl [dependency (some "pkg:rpm/glibc@2.3") [issue "CVE-12" "HIGH"]
          []], dependency (some "pkg:rpm/zlib@1.2") [issue "CVE-13" "LOW"] []]⟩)])⟩)])⟩)])

end Sample

/-- All results of the image are at the line that declares it, whichever source and entry they come
from, and whether the issue is on the entry or right below it. -/
theorem sample_image_has_one_line :
    (∀ analysis ∈ Sample.layeredImage.analyses,
      analysis.1.isSome = true → Ecosystem.docker = .docker) ∧
    ∃ conversion,
      Run.convert Sample.dockerDisk "/work" "Dockerfile" .docker Sample.layeredImage =
        .ok conversion ∧
      (conversion.document.results.map fun result => (result.ruleId, result.line)) =
        [("CVE-11", 2), ("CVE-12", 2), ("CVE-13", 2)] ∧
      ∀ analysis ∈ Sample.layeredImage.analyses,
        ∀ group ∈ (Flattening.ofReport analysis.2 .docker analysis.1).groups,
          ∃ line?, group.StandsAt
            ⟨.docker, Manifest.lines .docker Sample.dockerfile, Path.uri "/work" "Dockerfile"⟩
            line? := by
  have hread : Sample.dockerDisk.read "Dockerfile" = .ok Sample.dockerfile := by decide
  have himages : ∀ analysis ∈ Sample.layeredImage.analyses,
      analysis.1.isSome = true → Ecosystem.docker = .docker := by decide
  obtain ⟨-, conversion, hconvert, -, hgroups⟩ :=
    group_is_located_as_a_whole hread "/work" himages
  refine ⟨himages, conversion, hconvert, ?_, ?_⟩
  · rw [Run.convert_of_read hread] at hconvert
    obtain rfl := Except.ok.inj hconvert
    decide
  · intro analysis hanalysis group hgroup
    exact ((hgroups analysis hanalysis).2 group hgroup).2

end ManifestSarif
