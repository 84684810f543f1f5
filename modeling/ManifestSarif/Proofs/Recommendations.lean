import ManifestSarif.Proofs.ReportedIssues

/-!
# When a recommendation is emitted

A record is recommended another version only if no record of its group has issues nearby.  Groups
are made of records from all sources, so what one source says can silence what another recommends.

* `hasIssuesNearby_iff` and `recommendation_eq` read the two conditions off the entry of a record.
* `filter_findings_ofAnalysis_notes_perm` takes them from groups to records, since a group has the
  records of one key.
* `Entry.note?` is the note that an entry calls for among the entries of its analysis.
* `notes_emitted_exactly_when_allowed` is the result, for a run against a manifest on a disk.
-/

namespace ManifestSarif

open Sarif

/-! ## Notes -/

namespace Sarif

/-- The results of the document whose rule, at the same position, has the level `note`. -/
def Document.noteResults (document : Document) : List Result :=
  ((document.results.zip document.rules).filter fun pair => pair.2.level = .note).map (·.1)

namespace Findings

variable {place : Place} {record : Record}

theorem filter_ofRecord_notes (groupHasIssues : Bool) :
    (ofRecord place groupHasIssues record).toList.filter (fun finding => !finding.isIssue) =
      if groupHasIssues then [] else (ofRecommendation place record).toList := by
  cases groupHasIssues with
  | true =>
    rw [if_pos rfl, List.filter_eq_nil_iff]
    intro finding hmem
    simp [isIssue_of_mem_ofIssues (show finding ∈ (ofIssues place record).toList from hmem)]
  | false =>
    rw [if_neg Bool.false_ne_true]
    refine List.filter_eq_self.2 fun finding hmem => ?_
    simpa using not_isIssue_of_mem_ofRecommendation hmem

end Findings

end Sarif

/-! ## Conditions of an entry -/

namespace Dependency

/-- The version part of what the entry recommends; empty if it recommends nothing. -/
def recommendedVersion (dependency : Dependency) : String :=
  (dependency.recommendation.map PackageRef.version).getD ""

end Dependency

namespace Record

variable {origin : Origin} {dependency : Dependency} {record : Record}

theorem hasIssuesNearby_iff :
    record.hasIssuesNearby = true ↔
      record.ownIssues ++ record.directTransitives.flatMap ownIssues ≠ [] := by
  have hhas : ∀ record : Record, record.hasIssues = true ↔ record.ownIssues ≠ [] := by
    intro record
    simp [hasIssues]
  rw [hasIssuesNearby, Bool.or_eq_true, hhas, List.any_eq_true]
  simp only [hhas, ne_eq, List.append_eq_nil_iff, List.flatMap_eq_nil_iff, not_and_or, not_forall,
    exists_prop]

/-- A record carries a recommendation when its own entry has no issues and names a version. -/
theorem recommendation_eq (h : ofDependency? origin dependency = some record) :
    record.recommendation =
      if dependency.issueList = [] ∧ dependency.recommendedVersion ≠ "" then
        some dependency.recommendedVersion
      else none := by
  obtain ⟨ref, -, -, rfl⟩ := ofDependency?_eq_some_iff.1 h
  show recommendedVersion? dependency.issues dependency.recommendation = _
  have hown := someIssues?_getD dependency.issues
  rw [recommendedVersion?]
  cases hissues : someIssues? dependency.issues with
  | some issues =>
    -- Issues that are kept are not empty.
    have hne : issues ≠ [] := by
      rw [someIssues?] at hissues
      simpa using (Option.filter_eq_some_iff.1 hissues).2
    have hlist : dependency.issueList = issues := by
      rw [Dependency.issueList, ← hown, hissues]
      rfl
    rw [if_neg (fun hand => hne (hlist ▸ hand.1))]
  | none =>
    have hlist : dependency.issueList = [] := by
      rw [Dependency.issueList, ← hown, hissues]
      rfl
    simp only [hlist, true_and, Dependency.recommendedVersion]
    cases dependency.recommendation with
    | none => rfl
    | some recommendation =>
      by_cases hempty : PackageRef.version recommendation = ""
      · simp [hempty]
      · simp [hempty, Option.filter_some_pos]

end Record

namespace Entry

/-- The key of an entry with a reference: its image if it has one, and else its reference. -/
def key (entry : Entry) : String :=
  entry.origin.image.getD (entry.dependency.ref.getD "")

/-- No entry with the key, of whatever source, has issues nearby. -/
def Unaffected (entries : List Entry) (key : String) : Prop :=
  ∀ entry ∈ entries, entry.dependency.hasRef = true → entry.key = key →
    entry.dependency.nearIssues = []

instance (entries : List Entry) (key : String) : Decidable (Unaffected entries key) :=
  inferInstanceAs (Decidable (∀ entry ∈ entries, _))

/-- The note that an entry calls for among the entries of its analysis: the version that it
recommends, at its own line. -/
def note? (entries : List Entry) (lines : List String) (uri : String) (entry : Entry) :
    Option (String × String × Nat) :=
  if entry.dependency.issueList = [] ∧ entry.dependency.recommendedVersion ≠ "" ∧
      Unaffected entries entry.key then
    (entry.line? lines).map fun line => (entry.dependency.recommendedVersion, uri, line)
  else none

theorem keyOf_record {entry : Entry} {record : Record} (h : entry.record? = some record) :
    Group.keyOf record = entry.key := by
  obtain ⟨ref, href, -, rfl⟩ := Record.ofDependency?_eq_some_iff.1 h
  rw [Group.keyOf, key, href]
  rfl

theorem hasRef_iff {entry : Entry} :
    entry.dependency.hasRef = true ↔ ∃ record, entry.record? = some record := by
  rw [← Record.isSome_ofDependency? entry.origin, Option.isSome_iff_exists]
  rfl

/-- What the records of a key say about issues nearby, their entries say. -/
theorem unaffected_iff {entries : List Entry} {key : String} :
    Unaffected entries key ↔
      ¬∃ record ∈ entries.filterMap record?,
        Group.keyOf record = key ∧ record.hasIssuesNearby = true := by
  constructor
  · intro h hex
    obtain ⟨record, hmem, hkey, hnearby⟩ := hex
    obtain ⟨entry, hentry, hrecord⟩ := List.mem_filterMap.1 hmem
    rw [Record.hasIssuesNearby_iff, Record.nearIssues_of_record hrecord] at hnearby
    exact hnearby (h entry hentry (hasRef_iff.2 ⟨record, hrecord⟩) (keyOf_record hrecord ▸ hkey))
  · intro h entry hentry href hkey
    obtain ⟨record, hrecord⟩ := hasRef_iff.1 href
    by_contra hnear
    refine h ⟨record, List.mem_filterMap.2 ⟨entry, hentry, hrecord⟩, ?_, ?_⟩
    · rw [keyOf_record hrecord, hkey]
    · rwa [Record.hasIssuesNearby_iff, Record.nearIssues_of_record hrecord]

end Entry

/-! ## The notes of an analysis -/

namespace Conversion

theorem noteResults_document (conversion : Conversion) :
    conversion.document.noteResults =
      (conversion.findings.toList.filter fun finding => !finding.isIssue).map (·.result) := by
  have hlevel : (fun finding : Finding => !finding.isIssue) =
      fun finding => decide (finding.rule.level = .note) := by
    funext finding
    simp [Finding.isIssue]
  rw [Findings.toList, List.filter_map, List.map_map, hlevel]
  rfl

/-- The note of a record, at the line that declares it, unless its key is affected. -/
def noteFindings (target : Target) (affected : Bool) (record : Record) : List Finding :=
  match Declaration.line? record.origin.ecosystem record target.lines with
  | some line =>
    if affected then [] else (Findings.ofRecommendation ⟨target.uri, line⟩ record).toList
  | none => []

/-- Whether a record with the key has issues nearby. -/
def affects (records : List Record) (key : String) : Bool :=
  records.any fun record => Group.keyOf record = key && record.hasIssuesNearby

theorem affects_iff {records : List Record} {key : String} :
    affects records key = true ↔
      ∃ record ∈ records, Group.keyOf record = key ∧ record.hasIssuesNearby = true := by
  simp [affects]

/-- The findings that are emitted for the records of one key. -/
def groupFindings (target : Target) (group : Group) : Findings :=
  .concat (group.records.map (findingsOf target group))

/-- The findings of a report are those of its groups, one group after the other. -/
theorem findings_ofReport_groups (target : Target) (report : Report) :
    (ofReport target report).findings = .concat (report.analyses.flatMap fun (image, analysis) =>
      (Flattening.ofReport analysis target.ecosystem image).groups.map (groupFindings target)) := by
  rw [findings_ofReport, Findings.concat_flatMap]
  refine congrArg _ (List.map_congr_left fun analysis _ => ?_)
  exact Findings.concat_flatMap _ _

theorem filter_findingsOf_notes (target : Target) (group : Group) (record : Record) :
    (findingsOf target group record).toList.filter (fun finding => !finding.isIssue) =
      noteFindings target group.hasIssues record := by
  rw [findingsOf, noteFindings]
  cases Declaration.line? record.origin.ecosystem record target.lines with
  | none => rfl
  | some line => exact Findings.filter_ofRecord_notes group.hasIssues

/-- The notes of an analysis are those of its records, each silenced by all records of its key. -/
theorem filter_findings_ofAnalysis_notes_perm (target : Target) (image : Option String)
    (report : AnalysisReport) :
    ((ofAnalysis target image report).findings.toList.filter fun finding =>
        !finding.isIssue).Perm
      ((report.records target.ecosystem image).flatMap fun record =>
        noteFindings target
          (affects (report.records target.ecosystem image) (Group.keyOf record)) record) := by
  let records := report.records target.ecosystem image
  have hgroups : ((ofAnalysis target image report).findings.toList.filter fun finding =>
        !finding.isIssue) =
      (Group.allRecords (Group.collect records)).flatMap fun record =>
        noteFindings target (affects records (Group.keyOf record)) record := by
    rw [Group.allRecords, List.flatMap_assoc, toList_ofAnalysis, List.filter_flatMap]
    refine List.flatMap_congr fun group hgroup => ?_
    rw [List.filter_flatMap]
    refine List.flatMap_congr fun record hrecord => ?_
    have hkey := (Group.keyed_collect records).keyOf_eq group hgroup record hrecord
    have hsame : group.hasIssues = affects records (Group.keyOf record) := by
      rw [Bool.eq_iff_iff, Group.hasIssues_iff_of_mem_collect hgroup, affects_iff, hkey]
    rw [filter_findingsOf_notes, hsame]
  rw [hgroups]
  exact (Group.collect_perm records).flatMap_right _

/-- The findings of a group are all of issues, or all notes. -/
theorem groupFindings_cases (target : Target) (group : Group) :
    (∀ rule ∈ (groupFindings target group).rules, rule.level ≠ .note) ∨
      ∀ rule ∈ (groupFindings target group).rules, rule.level = .note := by
  have hmem : ∀ rule ∈ (groupFindings target group).rules, ∃ place, ∃ record ∈ group.records,
      ∃ finding ∈ (Findings.ofRecord place group.hasIssues record).toList,
        finding.rule = rule := by
    intro rule hrule
    rw [groupFindings, Findings.rules_concat, List.flatMap_map] at hrule
    obtain ⟨record, hrecord, hrule⟩ := List.mem_flatMap.1 hrule
    rw [← Findings.map_rule_toList (aligned_findingsOf target group record)] at hrule
    obtain ⟨finding, hfinding, hsame⟩ := List.mem_map.1 hrule
    rw [findingsOf] at hfinding
    split at hfinding
    · exact ⟨_, record, hrecord, finding, hfinding, hsame⟩
    · cases hfinding
  cases hissues : group.hasIssues with
  | true =>
    left
    intro rule hrule
    obtain ⟨place, record, -, finding, h, rfl⟩ := hmem rule hrule
    rw [hissues] at h
    have hissue := Findings.isIssue_of_mem_ofIssues h
    simpa [Finding.isIssue] using hissue
  | false =>
    right
    intro rule hrule
    obtain ⟨place, record, -, finding, h, rfl⟩ := hmem rule hrule
    rw [hissues] at h
    have hnote := Findings.not_isIssue_of_mem_ofRecommendation h
    simpa [Finding.isIssue] using hnote

/-! ## The notes of a report -/

theorem map_ofRecommendation {entry : Entry} {record : Record} (h : entry.record? = some record)
    (place : Place) :
    (Findings.ofRecommendation place record).toList.map Finding.mark =
      if entry.dependency.issueList = [] ∧ entry.dependency.recommendedVersion ≠ "" then
        [(entry.dependency.recommendedVersion, place.uri, place.line)]
      else [] := by
  rw [Findings.toList_ofRecommendation, Record.recommendation_eq h]
  split <;> rfl

/-- The note of the record of an entry is the one that the entry calls for. -/
theorem map_noteFindings_record? (target : Target) (entries : List Entry) (entry : Entry) :
    (entry.record?.toList.flatMap fun record =>
        noteFindings target (affects (entries.filterMap Entry.record?) (Group.keyOf record))
          record).map Finding.mark =
      (entry.note? entries target.lines target.uri).toList := by
  cases hrecord : entry.record? with
  | none =>
    rw [Entry.note?, Entry.line?_eq_none hrecord, Option.map_none, ite_self]
    rfl
  | some record =>
    rw [Option.toList_some, List.flatMap_singleton, noteFindings, Entry.note?,
      Entry.line?_of_record hrecord, Entry.keyOf_record hrecord]
    cases Declaration.line? record.origin.ecosystem record target.lines with
    | none => simp
    | some line =>
      by_cases hkey : Entry.Unaffected entries entry.key
      · have haffects : affects (entries.filterMap Entry.record?) entry.key = false := by
          rw [← Bool.not_eq_true, affects_iff]
          exact Entry.unaffected_iff.1 hkey
        simp only [haffects, hkey, and_true, Bool.false_eq_true, if_false, Option.map_some]
        rw [map_ofRecommendation hrecord]
        split <;> rfl
      · have haffects : affects (entries.filterMap Entry.record?) entry.key = true := by
          rw [affects_iff]
          by_contra hnone
          exact hkey (Entry.unaffected_iff.2 hnone)
        simp [haffects, hkey]

end Conversion

/-- The notes that the entries of an analysis call for. -/
def AnalysisReport.noteMarks (report : AnalysisReport) (ecosystem : Ecosystem)
    (image : Option String) (lines : List String) (uri : String) : List (String × String × Nat) :=
  (report.entries ecosystem image).filterMap
    (Entry.note? (report.entries ecosystem image) lines uri)

/-- The notes that the entries of a report call for. -/
def Report.noteMarks (report : Report) (ecosystem : Ecosystem) (lines : List String)
    (uri : String) : List (String × String × Nat) :=
  report.analyses.flatMap fun (image, analysis) => analysis.noteMarks ecosystem image lines uri

namespace Conversion

theorem map_findings_ofAnalysis_notes_perm (target : Target) (image : Option String)
    (report : AnalysisReport) :
    (((ofAnalysis target image report).findings.toList.filter fun finding =>
        !finding.isIssue).map Finding.mark).Perm
      (report.noteMarks target.ecosystem image target.lines target.uri) := by
  refine ((filter_findings_ofAnalysis_notes_perm target image report).map _).trans ?_
  rw [AnalysisReport.noteMarks, AnalysisReport.records_eq_filterMap_entries]
  generalize report.entries target.ecosystem image = entries
  have hentries : (entries.filterMap Entry.record?).flatMap (fun record =>
        noteFindings target (affects (entries.filterMap Entry.record?) (Group.keyOf record))
          record) =
      entries.flatMap fun entry => entry.record?.toList.flatMap fun record =>
        noteFindings target (affects (entries.filterMap Entry.record?) (Group.keyOf record))
          record := by
    rw [List.filterMap_eq_flatMap_toList, List.flatMap_assoc]
  rw [hentries, List.map_flatMap,
    List.filterMap_eq_flatMap_toList (Entry.note? entries target.lines target.uri)]
  apply List.Perm.of_eq
  exact List.flatMap_congr fun entry _ => map_noteFindings_record? target entries entry

/-- The notes of a conversion are the ones that the report calls for. -/
theorem noteResults_ofReport_perm (target : Target) (report : Report) :
    ((ofReport target report).document.noteResults.map Result.mark).Perm
      (report.noteMarks target.ecosystem target.lines target.uri) := by
  have hfindings : (ofReport target report).document.noteResults.map Result.mark =
      report.analyses.flatMap fun analysis =>
        ((ofAnalysis target analysis.1 analysis.2).findings.toList.filter fun finding =>
          !finding.isIssue).map Finding.mark := by
    rw [noteResults_document, toList_ofReport, List.filter_flatMap, List.map_map,
      List.map_flatMap]
    rfl
  rw [hfindings, Report.noteMarks]
  exact List.Perm.flatMap_left _ fun analysis _ =>
    map_findings_ofAnalysis_notes_perm target analysis.1 analysis.2

end Conversion

/-- A report is converted against every manifest that can be read, and every result has its rule.
The results whose rule is a note are, as a multiset, one for each located entry that has no issues
of its own and recommends a version, unless an entry of its key has issues nearby.  The findings of
a key are all of issues, or all notes. -/
theorem notes_emitted_exactly_when_allowed {disk : Disk} {manifest content : String}
    (hread : disk.read manifest = .ok content) (cwd : String) (ecosystem : Ecosystem)
    (report : Report) :
    ∃ conversion, Run.convert disk cwd manifest ecosystem report = .ok conversion ∧
      conversion.document.rules.length = conversion.document.results.length ∧
      (conversion.document.noteResults.map fun result =>
          (result.ruleId, result.uri, result.line)).Perm
        (report.analyses.flatMap fun (image, analysis) =>
          (analysis.entries ecosystem image).filterMap fun entry =>
            if entry.dependency.issueList = [] ∧ entry.dependency.recommendedVersion ≠ "" ∧
                ∀ other ∈ analysis.entries ecosystem image, other.dependency.hasRef = true →
                  other.key = entry.key → other.dependency.nearIssues = [] then
              (entry.line? (Manifest.lines ecosystem content)).map fun line =>
                (entry.dependency.recommendedVersion, Path.uri cwd manifest, line)
            else none) ∧
      conversion.findings = .concat (report.analyses.flatMap fun (image, analysis) =>
        (Flattening.ofReport analysis ecosystem image).groups.map
          (Conversion.groupFindings
            ⟨ecosystem, Manifest.lines ecosystem content, Path.uri cwd manifest⟩)) ∧
      ∀ analysis ∈ report.analyses,
        ((Flattening.ofReport analysis.2 ecosystem analysis.1).groups.map (·.key)).Nodup ∧
        ∀ group ∈ (Flattening.ofReport analysis.2 ecosystem analysis.1).groups,
          (∀ record ∈ group.records, Group.keyOf record = group.key) ∧
          ((∀ rule ∈ (Conversion.groupFindings
              ⟨ecosystem, Manifest.lines ecosystem content, Path.uri cwd manifest⟩ group).rules,
                rule.level ≠ .note) ∨
            ∀ rule ∈ (Conversion.groupFindings
              ⟨ecosystem, Manifest.lines ecosystem content, Path.uri cwd manifest⟩ group).rules,
                rule.level = .note) := by
  refine ⟨_, Run.convert_of_read hread cwd ecosystem report,
    Conversion.length_rules_document _ report, Conversion.noteResults_ofReport_perm _ report,
    Conversion.findings_ofReport_groups _ report, ?_⟩
  intro analysis _
  have hkeyed := Group.keyed_collect (analysis.2.records ecosystem analysis.1)
  refine ⟨hkeyed.keys_nodup, fun group hgroup => ⟨hkeyed.keyOf_eq group hgroup, ?_⟩⟩
  exact Conversion.groupFindings_cases _ group

/-- The entry of the sample without issues gets its note, beside the entries with issues. -/
theorem sample_has_one_note :
    ∃ conversion,
      Run.convert Sample.disk "/work" "requirements.txt" .pypi (.single Sample.analysis) =
        .ok conversion ∧
      (conversion.document.noteResults.map fun result =>
          (result.ruleId, result.uri, result.line)).Perm
        [("2.0.0.redhat", "requirements.txt", 1)] := by
  have hread : Sample.disk.read "requirements.txt" = .ok Sample.content := by decide
  obtain ⟨conversion, hconvert, -, hnotes, -⟩ :=
    notes_emitted_exactly_when_allowed hread "/work" .pypi (.single Sample.analysis)
  exact ⟨conversion, hconvert, hnotes⟩

/-! ## Issues that silence nothing -/

namespace Sample

/-- The analysis of an image by one provider that succeeded and one that failed. -/
def imageAnalysis (asked failed : List Dependency) : AnalysisReport where
  providers := some (KeyMap.ofList [
    ("rhda", ⟨some ⟨some true⟩, some (KeyMap.ofList [("osv", ⟨none, some asked⟩)])⟩),
    ("trusted", ⟨some ⟨some false⟩, some (KeyMap.ofList [("osv", ⟨none, some failed⟩)])⟩)])

/-- An entry without issues of its own and with a replacement. -/
def openssl (transitive : List Dependency) : Dependency :=
  ⟨some "pkg:rpm/openssl@3.0.1", none, some transitive, some "pkg:rpm/openssl@3.0.7"⟩

/-- Three images with an issue each: right below the entry, beside it, and told by a provider that
failed.  The entries that have the first two lack a reference. -/
def images : Report :=
  .images (KeyMap.ofList [
    ("app:1", imageAnalysis [openssl [dependency none [issue "CVE-8" "HIGH"] []]] []),
    ("db:1", imageAnalysis [openssl [], dependency none [issue "CVE-9" "HIGH"] []] []),
    ("web:1", imageAnalysis [openssl []]
      [dependency (some "pkg:rpm/openssl@3.0.1") [issue "CVE-10" "HIGH"] []])])

def dockerfile : String := "FROM app:1\nFROM db:1\nFROM web:1\n"

def dockerDisk : Disk where
  cwd := ["work"]
  nodes := [(["work"], .directory), (["work", "Dockerfile"], .file (some dockerfile))]

end Sample

/-- Issues on an entry without a reference and issues told by a provider that failed silence no
note, although they stand among the entries of the image or right below them. -/
theorem unreferenced_and_failed_issues_silence_no_note :
    (∃ conversion,
      Run.convert Sample.dockerDisk "/work" "Dockerfile" .docker Sample.images =
        .ok conversion ∧
      (conversion.document.noteResults.map fun result =>
          (result.ruleId, result.uri, result.line)) =
        [("3.0.7", "Dockerfile", 1), ("3.0.7", "Dockerfile", 2), ("3.0.7", "Dockerfile", 3)]) ∧
    ∀ analysis ∈ Sample.images.analyses,
      ∃ provider ∈ analysis.2.providerList, ∃ source ∈ provider.2.sourceList,
        ∃ dependency ∈ source.2.dependencies.getD [],
          dependency.issueList ≠ [] ∨
            ∃ transitive ∈ dependency.transitiveList, transitive.issueList ≠ [] := by
  have hread : Sample.dockerDisk.read "Dockerfile" = .ok Sample.dockerfile := by decide
  refine ⟨⟨_, Run.convert_of_read hread _ _ _, ?_⟩, ?_⟩
  · decide
  · decide

end ManifestSarif
