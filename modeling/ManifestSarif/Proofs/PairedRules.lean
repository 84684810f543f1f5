import ManifestSarif.Proofs.Recommendations
import ManifestSarif.Proofs.SchemaConformance

/-!
# Rules and results go in pairs

A document has a list of results and a list of rules, and readers pair them by position or by
identifier.  Both ways lead to the rule of the result: the two lists have grown in step, so they are
as long as each other, and what stands at one position in both tells of one issue or of one
recommendation.

* `Finding.TellsOf` says which entry a finding is about, and whether it tells of an issue of it or
  of its recommendation; `tellsOf_of_mem_findings` says that every finding does.
* `Data.TellOfIssue` and `Data.TellOfRecommendation` say the same of a result and a rule as JSON.
* `rules_pair_with_results` is the result, for the JSON of the document of a run.
-/

namespace ManifestSarif

open Sarif Json

/-! ## What a finding is about -/

/-- What pulls in the issues of an entry: its image, or else its own dependency. -/
def Entry.directRef (entry : Entry) : String :=
  entry.origin.image.getD (PackageRef.dependency (entry.dependency.ref.getD ""))

theorem Entry.directRef_record {entry : Entry} {record : Record}
    (h : entry.record? = some record) : Findings.directRef record = entry.directRef := by
  obtain ⟨ref, href, -, rfl⟩ := Record.ofDependency?_eq_some_iff.1 h
  rw [Findings.directRef, directRef, href]
  rfl

/-- The finding is about the entry, at the line that declares it: about an issue on the entry or
right below it, or about what the entry recommends. -/
inductive Sarif.Finding.TellsOf (uri : String) (entry : Entry) (line : Nat) : Finding → Prop where
  | issue {issue : Issue} (hissue : issue ∈ entry.dependency.nearIssues) (record : Record)
      (direct : Bool) :
      TellsOf uri entry line (.ofIssue ⟨uri, line⟩ entry.directRef record direct issue)
  | recommendation (hnone : entry.dependency.issueList = [])
      (hversion : entry.dependency.recommendedVersion ≠ "") :
      TellsOf uri entry line
        (.ofRecommendation ⟨uri, line⟩ entry.dependency.recommendedVersion
          entry.origin.image.isSome)

/-- The findings of the record of an entry are about the entry. -/
theorem Sarif.Findings.tellsOf_of_mem_ofRecord {uri : String} {entry : Entry} {line : Nat}
    {record : Record} (hrecord : entry.record? = some record) {hasIssues : Bool}
    {finding : Finding} (h : finding ∈ (ofRecord ⟨uri, line⟩ hasIssues record).toList) :
    finding.TellsOf uri entry line := by
  cases hasIssues with
  | true =>
    obtain ⟨other, hother, direct, issue, hissue, rfl⟩ := exists_issue_of_mem h
    rw [Entry.directRef_record hrecord]
    exact .issue (Entry.mem_nearIssues hrecord hother hissue) other direct
  | false =>
    obtain ⟨version, hversion, rfl⟩ := exists_version_of_mem h
    rw [Record.recommendation_eq hrecord] at hversion
    split at hversion
    · next hrecommends =>
      obtain rfl := Option.some.inj hversion
      rw [Record.origin_of_ofDependency? hrecord]
      exact .recommendation hrecommends.1 hrecommends.2
    · cases hversion

/-- Every finding of a conversion is about an entry that a line declares. -/
theorem Conversion.tellsOf_of_mem_findings {target : Target} {report : Report} {finding : Finding}
    (h : finding ∈ (ofReport target report).findings.toList) :
    ∃ located ∈ report.located target.ecosystem target.lines,
      finding.TellsOf target.uri located.1 located.2 := by
  obtain ⟨entry, hentry, record, line, hasIssues, hrecord, hline, hfinding⟩ :=
    mem_findings_ofReport h
  have hlocated : (entry, line) ∈ report.located target.ecosystem target.lines :=
    List.mem_filterMap.2 ⟨entry, hentry, by rw [hline]; rfl⟩
  exact ⟨_, hlocated, Findings.tellsOf_of_mem_ofRecord hrecord hfinding⟩

/-! ## Results and rules as JSON -/

namespace Json.Data

/-- The value that a path of names leads to, from object to object. -/
def path? (value : Data) (names : List String) : Option Data :=
  names.foldlM at? value

theorem path?_cons (value : Data) (name : String) (names : List String) :
    value.path? (name :: names) = (value.at? name).bind (path? · names) := rfl

/-- The result has one location, at this line of the file. -/
def PointsAt (uri : String) (line : Nat) (result : Data) : Prop :=
  ∃ location, result.at? "locations" = some (.list [location]) ∧
    location.path? ["physicalLocation", "artifactLocation", "uri"] = some (.text uri) ∧
    location.path? ["physicalLocation", "region", "startLine"] = some (.ofNat line)

/-- The result and the rule tell of the issue, which comes in through `directRef`. -/
structure TellOfIssue (directRef : String) (issue : Issue) (result rule : Data) : Prop where
  ruleId_eq : result.at? "ruleId" = some (.text issue.id)
  id_eq : rule.at? "id" = some (.text issue.id)
  level_eq : rule.path? ["defaultConfiguration", "level"] =
    some (.text (Level.ofIssue issue.severity).name)
  help_eq : rule.path? ["help", "text"] = some (.text ("Introduced through " ++ directRef))
  shortDescription_eq : rule.path? ["shortDescription", "text"] =
    some (.text (issue.severity ++ " severity - " ++ issue.title ++ " vulnerability"))
  message_eq : ∃ rest, result.path? ["message", "text"] =
    some (.text ("This line introduces a \"" ++ issue.title ++ "\" vulnerability with " ++
      issue.severity ++ " severity.\nVulnerability data provider is " ++ rest))

/-- The result and the rule tell of the version that is recommended. -/
structure TellOfRecommendation (version : String) (result rule : Data) : Prop where
  ruleId_eq : result.at? "ruleId" = some (.text version)
  id_eq : rule.at? "id" = some (.text version)
  level_eq : rule.path? ["defaultConfiguration", "level"] = some (.text Level.note.name)
  help_eq : rule.at? "help" = none
  message_eq : ∃ before after, result.path? ["message", "text"] =
    some (.text (before ++ version ++ after))

end Json.Data

namespace Sarif

theorem exists_issueMessage_eq (issue : Issue) (record : Record) (direct : Bool) :
    ∃ rest, issueMessage issue record direct =
      "This line introduces a \"" ++ issue.title ++ "\" vulnerability with " ++
        issue.severity ++ " severity.\nVulnerability data provider is " ++ rest := by
  unfold issueMessage
  simp only [String.append_assoc]
  exact ⟨_, rfl⟩

theorem exists_recommendationMessage_eq (version : String) (forImage : Bool) :
    ∃ before after, recommendationMessage version forImage = before ++ version ++ after := by
  unfold recommendationMessage
  cases forImage with
  | true =>
    simp only [if_true, String.append_assoc]
    exact ⟨_, _, rfl⟩
  | false => exact ⟨_, _, rfl⟩

theorem Result.pointsAt_data (result : Result) : result.data.PointsAt result.uri result.line :=
  ⟨result.locationData, rfl, rfl, rfl⟩

theorem Rule.at?_data (rule : Rule) :
    rule.data.at? "id" = some (.text rule.id) ∧
      rule.data.at? "help" = rule.help.map messageData ∧
      rule.data.path? ["defaultConfiguration", "level"] = some (.text rule.level.name) ∧
      rule.data.path? ["shortDescription", "text"] = some (.text rule.shortDescription) := by
  obtain ⟨members, hdata, hid, hshort, -, hhelp, hconfiguration, -⟩ := rule.data_eq_object
  have hat : ∀ name, rule.data.at? name = Data.member? members name := by
    intro name
    rw [hdata, Data.at?]
  rw [Data.path?_cons, Data.path?_cons, hat, hat, hat, hat, hid, hhelp, hconfiguration, hshort]
  exact ⟨rfl, rfl, rfl, rfl⟩

/-- The result and the rule of a finding are written so that both tell of the same. -/
theorem Finding.TellsOf.data {uri : String} {entry : Entry} {line : Nat} {finding : Finding}
    (h : finding.TellsOf uri entry line) :
    finding.result.data.PointsAt uri line ∧
      ((∃ issue ∈ entry.dependency.nearIssues,
          Data.TellOfIssue entry.directRef issue finding.result.data finding.rule.data) ∨
        entry.dependency.issueList = [] ∧ entry.dependency.recommendedVersion ≠ "" ∧
          Data.TellOfRecommendation entry.dependency.recommendedVersion finding.result.data
            finding.rule.data) := by
  obtain ⟨hid, hhelp, hlevel, hshort⟩ := finding.rule.at?_data
  cases h with
  | issue hissue record direct =>
    refine ⟨Result.pointsAt_data _, Or.inl ⟨_, hissue, rfl, hid, hlevel, ?_, hshort, ?_⟩⟩
    · rw [Data.path?_cons, hhelp]
      rfl
    · obtain ⟨rest, hrest⟩ := exists_issueMessage_eq _ record direct
      exact ⟨rest, congrArg (fun message => some (Data.text message)) hrest⟩
  | recommendation hnone hversion =>
    refine ⟨Result.pointsAt_data _, Or.inr ⟨hnone, hversion, rfl, hid, hlevel, hhelp, ?_⟩⟩
    obtain ⟨before, after, hmessage⟩ := exists_recommendationMessage_eq
      entry.dependency.recommendedVersion entry.origin.image.isSome
    exact ⟨before, after, congrArg (fun message => some (Data.text message)) hmessage⟩

end Sarif

/-! ## The result -/

/-- A report is converted against every manifest that can be read.  The document lists as many rules
as results.  A result and the rule at its position have one identifier, the result has one location,
in the manifest, at the line that declares an entry, and both tell of one issue on the entry or
right below it, or both of what the entry recommends.  So every result also has a rule with its
identifier. -/
theorem rules_pair_with_results {disk : Disk} {manifest content : String}
    (hread : disk.read manifest = .ok content) (cwd : String) (ecosystem : Ecosystem)
    (report : Report) :
    ∃ conversion results rules,
      Run.convert disk cwd manifest ecosystem report = .ok conversion ∧
      (conversion.document.run?.bind (·.path? ["results"])) = some (.list results) ∧
      (conversion.document.run?.bind (·.path? ["tool", "driver", "rules"])) =
        some (.list rules) ∧
      rules.length = results.length ∧
      (∀ (position : Nat) result rule, results[position]? = some result →
        rules[position]? = some rule →
        rule.at? "id" = result.at? "ruleId" ∧
        ∃ located ∈ report.located ecosystem (Manifest.lines ecosystem content),
          result.PointsAt (Path.uri cwd manifest) located.2 ∧
          ((∃ issue ∈ located.1.dependency.nearIssues,
              Data.TellOfIssue located.1.directRef issue result rule) ∨
            located.1.dependency.issueList = [] ∧
              located.1.dependency.recommendedVersion ≠ "" ∧
              Data.TellOfRecommendation located.1.dependency.recommendedVersion result rule)) ∧
      ∀ result ∈ results, ∃ rule ∈ rules, rule.at? "id" = result.at? "ruleId" := by
  let target : Conversion.Target :=
    ⟨ecosystem, Manifest.lines ecosystem content, Path.uri cwd manifest⟩
  let conversion := Conversion.ofReport target report
  have hids : ∀ finding ∈ conversion.findings.toList,
      finding.rule.data.at? "id" = finding.result.data.at? "ruleId" := by
    intro finding hfinding
    rw [finding.rule.at?_data.1, (Conversion.anchored_of_mem_findings hfinding).rule_id]
    rfl
  refine ⟨conversion, conversion.document.results.map Result.data,
    conversion.document.rules.map Rule.data, Run.convert_of_read hread cwd ecosystem report,
    conversion.document.results_of_run?, conversion.document.rules_of_run?, ?_, ?_, ?_⟩
  · rw [List.length_map, List.length_map]
    exact Conversion.length_rules_document target report
  · intro position result rule hresult hrule
    rw [Conversion.results_document, List.map_map, List.getElem?_map] at hresult
    rw [Conversion.rules_document, List.map_map, List.getElem?_map] at hrule
    obtain ⟨finding, hfound, rfl⟩ := Option.map_eq_some_iff.1 hresult
    -- The lists have grown together, so the rule at the position is that of the same finding.
    rw [hfound] at hrule
    obtain rfl := Option.some.inj hrule
    have hfinding : finding ∈ conversion.findings.toList := List.mem_of_getElem? hfound
    obtain ⟨located, hlocated, htells⟩ := Conversion.tellsOf_of_mem_findings hfinding
    exact ⟨hids finding hfinding, located, hlocated, htells.data⟩
  · intro result hresult
    rw [Conversion.results_document, List.map_map] at hresult
    obtain ⟨finding, hfinding, rfl⟩ := List.mem_map.1 hresult
    refine ⟨finding.rule.data, ?_, hids finding hfinding⟩
    rw [Conversion.rules_document]
    exact List.mem_map_of_mem (List.mem_map_of_mem hfinding)

theorem sample_pairs_three_rules :
    ∃ conversion results rules,
      Run.convert Sample.disk "/work" "requirements.txt" .pypi (.single Sample.analysis) =
        .ok conversion ∧
      (conversion.document.run?.bind (·.path? ["results"])) = some (.list results) ∧
      (conversion.document.run?.bind (·.path? ["tool", "driver", "rules"])) =
        some (.list rules) ∧
      results.map (·.at? "ruleId") =
        ["2.0.0.redhat", "CVE-1", "CVE-2"].map (some ∘ Data.text) ∧
      rules.map (·.at? "id") = ["2.0.0.redhat", "CVE-1", "CVE-2"].map (some ∘ Data.text) := by
  have hread : Sample.disk.read "requirements.txt" = .ok Sample.content := by decide
  obtain ⟨conversion, results, rules, hconvert, hresults, hrules, hlength, hpairs, -⟩ :=
    rules_pair_with_results hread "/work" .pypi (.single Sample.analysis)
  have hids : results.map (·.at? "ruleId") =
      ["2.0.0.redhat", "CVE-1", "CVE-2"].map (some ∘ Data.text) := by
    rw [Run.convert_of_read hread] at hconvert
    obtain rfl := Except.ok.inj hconvert
    obtain rfl := Data.list.inj
      (Option.some.inj (hresults.symm.trans (Document.results_of_run? _)))
    have hruleIds : (Conversion.ofReport
        ⟨.pypi, Manifest.lines .pypi Sample.content, Path.uri "/work" "requirements.txt"⟩
        (.single Sample.analysis)).document.results.map (·.ruleId) =
          ["2.0.0.redhat", "CVE-1", "CVE-2"] := by decide
    rw [← hruleIds, List.map_map, List.map_map]
    rfl
  refine ⟨conversion, results, rules, hconvert, hresults, hrules, hids, hids ▸ ?_⟩
  refine List.ext_getElem (by simpa using hlength) fun position hrule hresult => ?_
  rw [List.length_map] at hrule hresult
  rw [List.getElem_map, List.getElem_map]
  exact (hpairs position _ _ (List.getElem?_eq_getElem hresult)
    (List.getElem?_eq_getElem hrule)).1

end ManifestSarif
