import ManifestSarif.Proofs.KeyOrder
import ManifestSarif.Proofs.Recommendations
import ManifestSarif.Proofs.ReportedLines
import ManifestSarif.Proofs.WorstSeverity

/-!
# Images are converted one by one

The conversion of a report about several images is made of the conversions of the images alone: no
image has a say in what is reported for another one.

* `Report.ofImage` is a report about one image.
* `findings_ofReport_images` and `severity_ofReport_images` compare the report about all images with
  these.
* `Conversion.AboutImage` is what holds of the conversion of one image: its rules name the image,
  and its results stand where the image is declared.
* `image_conversion_is_compositional` is the result.
-/

namespace ManifestSarif

open Sarif

/-- The report about one image. -/
def Report.ofImage (image : String) (analysis : AnalysisReport) : Report :=
  .images (KeyMap.ofList [(image, analysis)])

namespace Conversion

/-! ## All images and each alone -/

theorem findings_ofReport_ofImage (target : Target) (image : String) (analysis : AnalysisReport) :
    (ofReport target (.ofImage image analysis)).findings =
      (ofAnalysis target (some image) analysis).findings := by
  rw [findings_ofReport]
  rfl

theorem severity_ofReport_ofImage (target : Target) (image : String)
    (analysis : AnalysisReport) :
    (ofReport target (.ofImage image analysis)).severity = analysis.severity := by
  rw [severity_ofReport]
  exact Severity.none_max _

/-- The findings of several images are those of each image alone, in the order of the images. -/
theorem findings_ofReport_images (target : Target) (reports : KeyMap AnalysisReport) :
    (ofReport target (.images reports)).findings =
      .concat (reports.toList.map fun image =>
        (ofReport target (.ofImage image.1 image.2)).findings) := by
  rw [findings_ofReport, Report.analyses, List.map_map]
  refine congrArg _ (List.map_congr_left fun image _ => ?_)
  exact (findings_ofReport_ofImage target image.1 image.2).symm

theorem severity_ofReport_images (target : Target) (reports : KeyMap AnalysisReport) :
    (ofReport target (.images reports)).severity =
      Severity.worst (reports.toList.map fun image =>
        (ofReport target (.ofImage image.1 image.2)).severity) := by
  rw [severity_ofReport, Report.analyses, List.map_map]
  refine congrArg _ (List.map_congr_left fun image _ => ?_)
  exact (severity_ofReport_ofImage target image.1 image.2).symm

end Conversion

/-! ## What an image is named by, and where it stands -/

/-- A container file declares images, so all records of an image have one line. -/
theorem Declaration.line?_docker_eq {record other : Record} {lines : List String}
    (h : record.origin.image = other.origin.image) :
    line? .docker record lines = line? .docker other lines := by
  have honLine : onLine .docker record = onLine .docker other := by
    funext line
    rw [onLine, onLine, h]
  rw [line?, line?, honLine]

theorem Sarif.Findings.help_of_mem_ofRecord {place : Place} {hasIssues : Bool} {record : Record}
    {finding : Finding} (h : finding ∈ (ofRecord place hasIssues record).toList)
    (hlevel : finding.rule.level ≠ .note) :
    finding.rule.help = some ("Introduced through " ++ directRef record) := by
  cases hasIssues with
  | true =>
    obtain ⟨_, _, _, issue, _, rfl⟩ := exists_issue_of_mem h
    rfl
  | false =>
    obtain ⟨version, -, rfl⟩ := exists_version_of_mem h
    exact absurd rfl hlevel

namespace Conversion

/-- The rules of issues name the image, and the results stand at the line that declares it. -/
structure AboutImage (image : String) (lines : List String) (conversion : Conversion) : Prop where
  help_eq : ∀ rule ∈ conversion.document.rules, rule.level ≠ .note →
    rule.help = some ("Introduced through " ++ image)
  line_eq : ∀ result ∈ conversion.document.results, ∀ record : Record,
    record.origin.image = some image → Declaration.line? .docker record lines = some result.line

/-- A finding of an image names it and stands where it is declared. -/
theorem finding_about_image {lines : List String} {uri image : String} {analysis : AnalysisReport}
    {finding : Finding}
    (h : finding ∈ (ofAnalysis ⟨.docker, lines, uri⟩ (some image) analysis).findings.toList) :
    (finding.rule.level ≠ .note → finding.rule.help = some ("Introduced through " ++ image)) ∧
      ∀ record : Record, record.origin.image = some image →
        Declaration.line? .docker record lines = some finding.result.line := by
  obtain ⟨group, record, hrecord, h⟩ := mem_findings_ofAnalysis h
  obtain ⟨himage, hecosystem⟩ := AnalysisReport.origin_of_mem_records hrecord
  have hecosystem : record.origin.ecosystem = .docker := hecosystem
  have hdirect : Findings.directRef record = image := by rw [Findings.directRef, himage]; rfl
  rw [findingsOf, hecosystem] at h
  cases hline : Declaration.line? .docker record lines with
  | none =>
    rw [hline] at h
    cases h
  | some line =>
    rw [hline] at h
    constructor
    · intro hlevel
      rw [Findings.help_of_mem_ofRecord h hlevel, hdirect]
    · intro other hother
      rw [Declaration.line?_docker_eq (hother.trans himage.symm), hline,
        Findings.line_of_mem_ofRecord h]

theorem aboutImage_ofReport (lines : List String) (uri image : String)
    (analysis : AnalysisReport) :
    (ofReport ⟨.docker, lines, uri⟩ (.ofImage image analysis)).AboutImage image lines where
  help_eq := by
    intro rule hrule
    rw [rules_document] at hrule
    obtain ⟨finding, hfinding, rfl⟩ := List.mem_map.1 hrule
    rw [findings_ofReport_ofImage] at hfinding
    exact (finding_about_image hfinding).1
  line_eq := by
    intro result hresult
    rw [results_document] at hresult
    obtain ⟨finding, hfinding, rfl⟩ := List.mem_map.1 hresult
    rw [findings_ofReport_ofImage] at hfinding
    exact (finding_about_image hfinding).2

end Conversion

/-! ## The result -/

/-- A report about images is converted against every manifest that can be read, to the conversions
of the images alone, one after the other in the order of the bytes of their names: so are its
results and its rules, and the severity is the greatest of theirs.  In each of them the rules of
issues name the image, and the results stand at the line that declares it. -/
theorem image_conversion_is_compositional {disk : Disk} {manifest content : String}
    (hread : disk.read manifest = .ok content) (cwd : String) (reports : KeyMap AnalysisReport) :
    ∃ whole parts,
      Run.convert disk cwd manifest .docker (.images reports) = .ok whole ∧
      List.Forall₂ (fun (image : String × AnalysisReport) part =>
          Run.convert disk cwd manifest .docker (.ofImage image.1 image.2) = .ok part ∧
            part.AboutImage image.1 (Manifest.lines .docker content))
        reports.toList parts ∧
      (reports.toList.Pairwise fun image next => utf8 image.1 < utf8 next.1) ∧
      whole.document.results = parts.flatMap (·.document.results) ∧
      whole.document.rules = parts.flatMap (·.document.rules) ∧
      IsGreatest {level | level = .none ∨ ∃ part ∈ parts, part.severity = level}
        whole.severity := by
  let target : Conversion.Target :=
    ⟨.docker, Manifest.lines .docker content, Path.uri cwd manifest⟩
  let part (image : String × AnalysisReport) : Conversion :=
    .ofReport target (.ofImage image.1 image.2)
  have hfindings := Conversion.findings_ofReport_images target reports
  have hseverity := Conversion.severity_ofReport_images target reports
  refine ⟨_, reports.toList.map part, Run.convert_of_read hread _ _ _, ?_,
    reports.ascending_utf8, ?_, ?_, ?_⟩
  · rw [List.forall₂_map_right_iff, List.forall₂_same]
    intro image _
    exact ⟨Run.convert_of_read hread _ _ _, Conversion.aboutImage_ofReport _ _ _ _⟩
  · rw [Conversion.document, hfindings, Findings.results_concat, List.flatMap_map, List.flatMap_map]
    rfl
  · rw [Conversion.document, hfindings, Findings.rules_concat, List.flatMap_map, List.flatMap_map]
    rfl
  · have hgreatest := Severity.isGreatest_worst (reports.toList.map fun image =>
      (part image).severity)
    rw [hseverity]
    simpa [part] using hgreatest

namespace Sample

/-- Two images with the same dependency: one has an issue there, the other a replacement for it. -/
def sharedDependency : KeyMap AnalysisReport :=
  KeyMap.ofList [
    ("web:1", imageAnalysis [openssl []] []),
    ("app:1", imageAnalysis
      [dependency (some "pkg:rpm/openssl@3.0.1") [issue "CVE-8" "HIGH"] []] [])]

end Sample

/-- The issue of the first image does not keep the second one from its note. -/
theorem sample_images_keep_apart :
    Sample.dockerDisk.read "Dockerfile" = .ok Sample.dockerfile ∧
    ∃ whole parts,
      Run.convert Sample.dockerDisk "/work" "Dockerfile" .docker (.images Sample.sharedDependency) =
        .ok whole ∧
      (whole.document.results.map fun result => (result.ruleId, result.line)) =
        [("CVE-8", 1), ("3.0.7", 3)] ∧
      List.Forall₂ (fun (image : String × AnalysisReport) part =>
          Run.convert Sample.dockerDisk "/work" "Dockerfile" .docker (.ofImage image.1 image.2) =
            .ok part)
        Sample.sharedDependency.toList parts ∧
      whole.document.results = parts.flatMap (·.document.results) := by
  have hread : Sample.dockerDisk.read "Dockerfile" = .ok Sample.dockerfile := by decide
  obtain ⟨whole, parts, hconvert, hparts, -, hresults, -⟩ :=
    image_conversion_is_compositional hread "/work" Sample.sharedDependency
  refine ⟨hread, whole, parts, hconvert, ?_, hparts.imp fun _ _ h => h.1, hresults⟩
  rw [Run.convert_of_read hread] at hconvert
  obtain rfl := Except.ok.inj hconvert
  decide

end ManifestSarif
