import ManifestSarif.Proofs.EmittedFindings
import ManifestSarif.Proofs.ManifestLines

/-!
# Which lines are reported

A declaration is reported at the number of a line of the manifest, with one exception: Maven reports
the line after the one that names the artifact, and the last line has none after it.

* `IsFirstLine` is the first line with a property, and `line?_eq_some_iff` says that this is the one
  that is reported, but for Maven.
* `DeclaredLast` says that no line declares a record before the last one does.
* `le_length_iff_of_line?` is the exact condition under which a reported line exists.
* `line_of_mem_ofRecord` takes it to results, and `length_lines` from the lines that are searched to
  those of the manifest.
* `reported_line_exists_unless_declared_last` is the result.
-/

namespace ManifestSarif

namespace Declaration

variable {ecosystem : Ecosystem} {record : Record} {lines : List String} {n : Nat}

/-- The number of a line, from one on: it is the first line for which `P` holds. -/
def IsFirstLine (P : String → Prop) (lines : List String) (n : Nat) : Prop :=
  ∃ above line below, lines = above ++ line :: below ∧ n = above.length + 1 ∧ P line ∧
    ∀ other ∈ above, ¬P other

theorem isFirstLine_congr {P Q : String → Prop} (h : ∀ line, P line ↔ Q line) :
    IsFirstLine P lines n ↔ IsFirstLine Q lines n := by
  simp only [IsFirstLine, h]

theorem findIdx?_eq_some_iff {p : String → Bool} {position : Nat} :
    lines.findIdx? p = some position ↔ IsFirstLine (p · = true) lines (position + 1) := by
  rw [List.findIdx?_eq_some_iff_getElem]
  constructor
  · rintro ⟨hlt, hfound, hbefore⟩
    refine ⟨lines.take position, lines[position], lines.drop (position + 1), ?_, ?_, hfound, ?_⟩
    · rw [List.getElem_cons_drop, List.take_append_drop]
    · rw [List.length_take_of_le (Nat.le_of_lt hlt)]
    · intro other hother
      obtain ⟨index, hindex, rfl⟩ := List.mem_iff_getElem.1 hother
      rw [List.length_take_of_le (Nat.le_of_lt hlt)] at hindex
      rw [List.getElem_take]
      exact hbefore index hindex
  · rintro ⟨above, line, below, rfl, hposition, hline, habove⟩
    obtain rfl := Nat.succ.inj hposition
    refine ⟨by simp, by simpa using hline, fun index hindex => ?_⟩
    rw [List.getElem_append_left hindex]
    exact habove _ (List.getElem_mem hindex)

/-- Where declarations are reported at their own line, it is the first that declares the record. -/
theorem line?_eq_some_iff (hoffset : offset ecosystem = 1) :
    line? ecosystem record lines = some n ↔
      IsFirstLine (onLine ecosystem record · = true) lines n := by
  rw [line?, hoffset, Option.map_eq_some_iff]
  constructor
  · rintro ⟨position, hposition, rfl⟩
    exact findIdx?_eq_some_iff.1 hposition
  · intro hfirst
    obtain ⟨above, -, -, -, rfl, -⟩ := id hfirst
    exact ⟨above.length, findIdx?_eq_some_iff.2 hfirst, rfl⟩

theorem line?_eq_none_iff :
    line? ecosystem record lines = none ↔ ∀ line ∈ lines, ¬onLine ecosystem record line = true := by
  rw [line?, Option.map_eq_none_iff, List.findIdx?_eq_none_iff]
  simp only [Bool.not_eq_true]

/-- The last line declares the record, and it is the first to do so. -/
def DeclaredLast (ecosystem : Ecosystem) (record : Record) (lines : List String) : Prop :=
  ∃ above last, lines = above ++ [last] ∧ onLine ecosystem record last = true ∧
    ∀ line ∈ above, ¬onLine ecosystem record line = true

theorem declaredLast_iff_of_findIdx? {position : Nat}
    (h : lines.findIdx? (onLine ecosystem record) = some position) :
    DeclaredLast ecosystem record lines ↔ position + 1 = lines.length := by
  obtain ⟨hlt, hfound, hbefore⟩ := List.findIdx?_eq_some_iff_getElem.1 h
  constructor
  · intro hlast
    obtain ⟨above, last, rfl, -, habove⟩ := hlast
    have hnot : ¬position < above.length := by
      intro hposition
      rw [List.getElem_append_left hposition] at hfound
      exact habove _ (List.getElem_mem hposition) hfound
    simp only [List.length_append, List.length_singleton] at hlt ⊢
    omega
  · intro hposition
    have hne : lines ≠ [] := by
      rintro rfl
      simp at hlt
    refine ⟨lines.dropLast, lines.getLast hne, (List.dropLast_append_getLast hne).symm, ?_, ?_⟩
    · have hindex : lines.length - 1 = position := by omega
      simpa only [List.getLast_eq_getElem, hindex] using hfound
    · intro line hline
      obtain ⟨index, hindex, rfl⟩ := List.mem_iff_getElem.1 hline
      have hlen : index < position := by
        rw [List.length_dropLast] at hindex
        omega
      rw [List.getElem_dropLast]
      exact hbefore index hlen

/-- The reported line is one of the manifest's, unless Maven goes past the last one. -/
theorem le_length_iff_of_line? (h : line? ecosystem record lines = some n) :
    n ≤ lines.length + 1 ∧
      (n ≤ lines.length ↔ ¬(ecosystem = .maven ∧ DeclaredLast ecosystem record lines)) := by
  obtain ⟨position, hposition, rfl⟩ := Option.map_eq_some_iff.1 h
  obtain ⟨hlt, -, -⟩ := List.findIdx?_eq_some_iff_getElem.1 hposition
  rw [declaredLast_iff_of_findIdx? hposition]
  by_cases hmaven : ecosystem = .maven
  · subst hmaven
    have hoffset : offset .maven = 2 := rfl
    rw [hoffset]
    simp only [true_and]
    omega
  · have hoffset : offset ecosystem = 1 := by
      cases ecosystem <;> first | rfl | exact absurd rfl hmaven
    rw [hoffset]
    simp only [hmaven, false_and, not_false_eq_true, iff_true]
    omega

end Declaration

theorem Sarif.Findings.line_of_mem_ofRecord {place : Place} {hasIssues : Bool} {record : Record}
    {finding : Finding} (h : finding ∈ (ofRecord place hasIssues record).toList) :
    finding.result.line = place.line := by
  cases hasIssues with
  | true =>
    obtain ⟨_, _, _, issue, _, rfl⟩ := exists_issue_of_mem h
    rfl
  | false =>
    obtain ⟨version, -, rfl⟩ := exists_version_of_mem h
    rfl

/-- Every result points at the line that is reported for the record of an entry. -/
theorem Conversion.line?_of_mem_results {target : Target} {report : Report}
    {result : Sarif.Result} (h : result ∈ (ofReport target report).document.results) :
    ∃ entry ∈ report.entries target.ecosystem, ∃ record, entry.record? = some record ∧
      Declaration.line? entry.origin.ecosystem record target.lines = some result.line := by
  rw [results_document] at h
  obtain ⟨finding, hfinding, rfl⟩ := List.mem_map.1 h
  obtain ⟨entry, hentry, record, line, hasIssues, hrecord, hline, hmem⟩ :=
    mem_findings_ofReport hfinding
  rw [Entry.line?_of_record hrecord, Record.origin_of_ofDependency? hrecord] at hline
  rw [Sarif.Findings.line_of_mem_ofRecord hmem]
  exact ⟨entry, hentry, record, hrecord, hline⟩

theorem Report.ecosystem_of_mem_entries {report : Report} {ecosystem : Ecosystem} {entry : Entry}
    (h : entry ∈ report.entries ecosystem) : entry.origin.ecosystem = ecosystem := by
  obtain ⟨analysis, -, h⟩ := List.mem_flatMap.1 h
  obtain ⟨provider, -, h⟩ := List.mem_flatMap.1 h
  split at h
  · obtain ⟨source, -, h⟩ := List.mem_flatMap.1 h
    obtain ⟨dependency, -, rfl⟩ := List.mem_map.1 h
    rfl
  · simp at h

/-! ## A sample -/

namespace Sample

def log4j : Dependency :=
  dependency (some "pkg:maven/log4j/log4j@1.2.17") [issue "CVE-7" "HIGH"] []

def mavenAnalysis : AnalysisReport where
  providers := some (KeyMap.ofList [
    ("rhda", ⟨some ⟨some true⟩, some (KeyMap.ofList [("osv", ⟨none, some [log4j]⟩)])⟩)])

/-- A directory with a `pom.xml` of this content. -/
def pomDisk (content : String) : Disk where
  cwd := ["work"]
  nodes := [(["work"], .directory), (["work", "pom.xml"], .file (some content))]

end Sample

/-! ## The lines of a conversion -/

/-- A declaration is reported at a line that the manifest has, and so is every result, with one
exception: where the last line of a Maven manifest is the first to name the artifact, the line after
it is reported. -/
theorem reported_line_exists_unless_declared_last {disk : Disk} {manifest content : String}
    (hread : disk.read manifest = .ok content) (cwd : String) (ecosystem : Ecosystem)
    (report : Report) :
    (∀ kind record lines n, Declaration.line? kind record lines = some n →
      1 ≤ n ∧ n ≤ lines.length + 1 ∧
        (n ≤ lines.length ↔
          ¬(kind = .maven ∧ Declaration.DeclaredLast kind record lines))) ∧
    ∃ conversion, Run.convert disk cwd manifest ecosystem report = .ok conversion ∧
      ∀ result ∈ conversion.document.results, 1 ≤ result.line ∧
        (result.line ≤ content.toList.count '\n' + 1 ∨
          result.line = content.toList.count '\n' + 2 ∧ ecosystem = .maven ∧
            ∃ entry ∈ report.entries ecosystem, ∃ record, entry.record? = some record ∧
              Declaration.DeclaredLast .maven record (Manifest.lines .maven content)) := by
  refine ⟨fun _ _ _ _ h => ⟨Declaration.one_le_of_line? h, Declaration.le_length_iff_of_line? h⟩,
    _, Run.convert_of_read hread cwd ecosystem report, ?_⟩
  intro result hresult
  obtain ⟨entry, hentry, record, hrecord, hline⟩ := Conversion.line?_of_mem_results hresult
  rw [Report.ecosystem_of_mem_entries hentry] at hline
  obtain ⟨hbound, hiff⟩ := Declaration.le_length_iff_of_line? hline
  have hlength := Manifest.length_lines ecosystem content
  refine ⟨Declaration.one_le_of_line? hline, ?_⟩
  by_cases hlast : ecosystem = .maven ∧
      Declaration.DeclaredLast ecosystem record (Manifest.lines ecosystem content)
  · have hpast : ¬result.line ≤ (Manifest.lines ecosystem content).length :=
      fun hle => hiff.1 hle hlast
    obtain ⟨rfl, hlast⟩ := hlast
    dsimp only at hbound hpast
    exact Or.inr ⟨by omega, rfl, entry, hentry, record, hrecord, hlast⟩
  · have hle := hiff.2 hlast
    dsimp only at hle
    exact Or.inl (by omega)

/-- A line feed after the artifact is enough: the empty line behind it is reported. -/
theorem sample_line_after_artifact_exists :
    ∃ conversion,
      Run.convert (Sample.pomDisk "<artifactId>log4j</artifactId>\n") "/work" "pom.xml" .maven
        (.single Sample.mavenAnalysis) = .ok conversion ∧
      conversion.document.results.map (·.line) = [2] ∧
      ∀ result ∈ conversion.document.results, 1 ≤ result.line ∧ result.line ≤ 2 := by
  have hread : (Sample.pomDisk "<artifactId>log4j</artifactId>\n").read "pom.xml" =
      .ok "<artifactId>log4j</artifactId>\n" := by decide
  obtain ⟨-, conversion, hconvert, hlines⟩ :=
    reported_line_exists_unless_declared_last hread "/work" .maven (.single Sample.mavenAnalysis)
  have hresults : conversion.document.results.map (·.line) = [2] := by
    rw [Run.convert_of_read hread] at hconvert
    obtain rfl := Except.ok.inj hconvert
    decide
  refine ⟨conversion, hconvert, hresults, ?_⟩
  intro result hresult
  obtain ⟨hone, hle | ⟨hpast, -⟩⟩ := hlines result hresult
  · exact ⟨hone, hle⟩
  · have hline : result.line ∈ [2] := hresults ▸ List.mem_map_of_mem hresult
    rw [List.mem_singleton.1 hline] at hpast
    exact absurd hpast (by decide)

/-- Without it, a manifest of one line gets a result at its second line. -/
theorem line_after_final_artifact_is_reported :
    ∃ record, Record.ofDependency? ⟨none, .maven, "rhda", "osv"⟩ Sample.log4j = some record ∧
      Declaration.line? .maven record ["<artifactId>log4j</artifactId>"] = some 2 ∧
      ["<artifactId>log4j</artifactId>"].length < 2 ∧
      ∃ conversion,
        Run.convert (Sample.pomDisk "<artifactId>log4j</artifactId>") "/work" "pom.xml" .maven
          (.single Sample.mavenAnalysis) = .ok conversion ∧
        conversion.document.results.map (·.line) = [2] ∧
        "<artifactId>log4j</artifactId>".toList.count '\n' + 1 < 2 := by
  have hread : (Sample.pomDisk "<artifactId>log4j</artifactId>").read "pom.xml" =
      .ok "<artifactId>log4j</artifactId>" := by decide
  refine ⟨_, rfl, by decide, by decide, _, Run.convert_of_read hread _ _ _, by decide, by decide⟩

end ManifestSarif
