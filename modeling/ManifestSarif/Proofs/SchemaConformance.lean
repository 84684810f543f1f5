import ManifestSarif.Proofs.ReportedIssues
import ManifestSarif.Proofs.SchemaAgreement

/-!
# When a document has the shape of its schema

A document can break its schema in one way only: by an empty identifier of a rule.

* `Rule.violations_data`, `Result.violations_data` and `Document.violations_data` list all that is
  wrong with a part of a document, whatever texts it is made of.
* `Conversion.violations_document` does so for the document of a conversion.
* `accepted_iff_issue_ids_nonempty` is the result, for a run against a manifest on a disk.
-/

namespace ManifestSarif

open Sarif Json

namespace Json.Data

def at? (value : Data) (name : String) : Option Data :=
  match value with
  | object members => member? members name
  | _ => none

def first? : Data → Option Data
  | list (item :: _) => some item
  | _ => none

end Json.Data

namespace Sarif

/-! ## Members -/

namespace Schema

/-- What is wrong with a member, if it is there. -/
def optionalViolations (schema : Schema) (value : Option Data) : List Violation :=
  (value.map schema.violations).getD []

theorem memberViolations_cons (name : String) (schema : Schema)
    (rest : List (String × Schema)) (members : List (String × Data)) :
    memberViolations ((name, schema) :: rest) members =
      schema.optionalViolations (Data.member? members name) ++ memberViolations rest members := by
  rw [memberViolations, optionalViolations]
  cases Data.member? members name <;> rfl

theorem optionalViolations_eq_nil {schema : Schema} {value : Option Data}
    (h : ∀ data, value = some data → schema.violations data = []) :
    schema.optionalViolations value = [] := by
  unfold optionalViolations
  cases value with
  | none => rfl
  | some data => exact h data rfl

/-- A text of one character at least is one that is not empty. -/
theorem textViolations_one (s : String) :
    textViolations 1 (.text s) = if s = "" then [.tooShort (.text "") 1] else [] := by
  unfold textViolations
  by_cases hempty : s = ""
  · rw [hempty]
    rfl
  · have hlength : ¬s.length < 1 := by simpa using hempty
    rw [if_neg hempty]
    exact if_neg hlength

/-- A positive number stays positive when it is written with 64 bits. -/
theorem integerViolations_ofNat {n : Nat} (h : 1 ≤ n) :
    integerViolations 1 (Data.ofNat n) = [] := by
  have hnumber : Number.ofInt n = .natural (UInt64.ofNatClamp n) := by
    rw [Number.ofInt, if_neg (by omega), Int.toNat_natCast]
  have hpositive : 1 ≤ (UInt64.ofNatClamp n).toNat := by
    unfold UInt64.ofNatClamp
    by_cases hfits : n < UInt64.size
    · rw [dif_pos hfits, UInt64.toNat_ofNatLT]
      exact h
    · rw [dif_neg hfits]
      decide
  rw [Data.ofNat, integerViolations, hnumber, integerOf?]
  exact if_neg (by omega)

end Schema

theorem lookup_optionalMember (name key : String) (value : Option Data) :
    (optionalMember name value).lookup key = if key = name then value else none := by
  cases value with
  | none => simp [optionalMember]
  | some value =>
    by_cases hkey : key = name
    · simp [optionalMember, hkey]
    · have hbeq : (key == name) = false := by simpa using hkey
      simp [optionalMember, List.lookup_cons, hkey, hbeq]

/-! ## Rules -/

theorem violations_messageData (s : String) : messageShape.violations (messageData s) = [] :=
  rfl

/-- Tags are texts, and nothing else is asked of them. -/
theorem violations_tagsData {tags : List String} {data : Data} (h : tagsData tags = some data) :
    (Schema.object [] [("tags", .list 0 (.text 0))]).violations data = [] := by
  unfold tagsData at h
  by_cases hempty : tags.isEmpty
  · rw [if_pos hempty] at h
    cases h
  · rw [if_neg hempty] at h
    obtain rfl := Option.some.inj h
    simp [Schema.violations, Schema.memberViolations, Schema.missingNames, Data.member?,
      Schema.textViolations]

/-- The rule is written as an object with these members, of which three may be absent. -/
theorem Rule.data_eq_object (rule : Rule) :
    ∃ members, rule.data = .object members ∧
      Data.member? members "id" = some (.text rule.id) ∧
      Data.member? members "shortDescription" = some (messageData rule.shortDescription) ∧
      Data.member? members "fullDescription" = rule.fullDescription.map messageData ∧
      Data.member? members "help" = rule.help.map messageData ∧
      Data.member? members "defaultConfiguration" =
        some (.object [("level", .text rule.level.name)]) ∧
      Data.member? members "properties" = tagsData rule.tags := by
  refine ⟨_, rfl, ?_, ?_, ?_, ?_, ?_, ?_⟩ <;>
    simp [Data.member?, List.lookup_cons, List.lookup_append, lookup_optionalMember]

/-- All that can be wrong with a rule is its identifier. -/
theorem Rule.violations_data (rule : Rule) :
    ruleShape.violations rule.data = Schema.textViolations 1 (.text rule.id) := by
  obtain ⟨members, hdata, hid, hshort, hfull, hhelp, hconfiguration, hproperties⟩ :=
    rule.data_eq_object
  have hmessage : ∀ value : Option String,
      messageShape.optionalViolations (value.map messageData) = [] := by
    intro value
    apply Schema.optionalViolations_eq_nil
    intro data hdata
    obtain ⟨text, _, rfl⟩ := Option.map_eq_some_iff.1 hdata
    exact violations_messageData text
  have hlevel : configurationShape.optionalViolations
      (some (.object [("level", .text rule.level.name)])) = [] := by
    cases rule.level <;> decide
  have htags : (Schema.object [] [("tags", .list 0 (.text 0))]).optionalViolations
      (tagsData rule.tags) = [] :=
    Schema.optionalViolations_eq_nil fun _ h => violations_tagsData h
  have hmissing : Schema.missingNames ["id", "shortDescription"] members = [] := by
    simp [Schema.missingNames, hid, hshort]
  have hshortDescription : messageShape.optionalViolations
      (some (messageData rule.shortDescription)) = [] :=
    hmessage (some rule.shortDescription)
  rw [hdata, ruleShape, Schema.violations, hmissing]
  simp only [Schema.memberViolations_cons, hid, hshort, hfull, hhelp, hconfiguration, hproperties,
    hmessage, hlevel, htags, hshortDescription, List.nil_append]
  exact List.append_nil _

/-! ## Results -/

/-- A result at a line of a file is as it should be, up to its identifier. -/
theorem Result.violations_data {result : Result} (huri : result.uri ≠ "")
    (hline : 1 ≤ result.line) :
    resultShape.violations result.data = Schema.textViolations 1 (.text result.ruleId) := by
  have hartifact : artifactShape.violations (.object [("uri", .text result.uri)]) = [] := by
    have htext : Schema.textViolations 1 (.text result.uri) = [] := by
      rw [Schema.textViolations_one, if_neg huri]
    simp [artifactShape, Schema.violations, Schema.memberViolations, Schema.missingNames,
      Data.member?, htext]
  have hregion : regionShape.violations (.object [("startLine", .ofNat result.line)]) = [] := by
    simp [regionShape, Schema.violations, Schema.memberViolations, Schema.missingNames,
      Data.member?, Schema.integerViolations_ofNat hline]
  have hlocation : locationShape.violations result.locationData = [] := by
    simp [locationShape, Result.locationData, Schema.violations, Schema.memberViolations,
      Schema.missingNames, Data.member?, List.lookup_cons, hartifact, hregion]
  have hmessage : messageShape.violations (messageData result.message) = [] :=
    violations_messageData result.message
  simp [resultShape, Result.data, Schema.violations, Schema.memberViolations,
    Schema.missingNames, Data.member?, List.lookup_cons, hlocation, hmessage]

/-! ## Documents -/

/-- All that can be wrong with a document whose results are at lines of files are the identifiers
of its rules and results. -/
theorem Document.violations_data {document : Document}
    (huri : ∀ result ∈ document.results, result.uri ≠ "")
    (hline : ∀ result ∈ document.results, 1 ≤ result.line) :
    shape.violations document.data =
      (document.rules.flatMap fun rule => Schema.textViolations 1 (.text rule.id)) ++
        document.results.flatMap fun result => Schema.textViolations 1 (.text result.ruleId) := by
  have hrules : (document.rules.map Rule.data).flatMap ruleShape.violations =
      document.rules.flatMap fun rule => Schema.textViolations 1 (.text rule.id) := by
    rw [List.flatMap_map]
    exact List.flatMap_congr fun rule _ => rule.violations_data
  have hresults : (document.results.map Result.data).flatMap resultShape.violations =
      document.results.flatMap fun result => Schema.textViolations 1 (.text result.ruleId) := by
    rw [List.flatMap_map]
    exact List.flatMap_congr fun result hmem =>
      Result.violations_data (huri result hmem) (hline result hmem)
  have haddress : Schema.textViolations 1 (.text schemaAddress) = [] := by decide
  have hname : Schema.textViolations 1 (.text toolName) = [] := by decide
  have hversion : isText (.text formatVersion) formatVersion = true := by decide
  simp [shape, runShape, componentShape, Document.data, Schema.violations,
    Schema.memberViolations, Schema.missingNames, Data.member?, List.lookup_cons, haddress, hname,
    hversion, hrules, hresults]

theorem Document.schemaErrors_eq_nil_iff (document : Document) :
    document.schemaErrors = [] ↔ shape.Accepts document.data := by
  rw [Document.schemaErrors, Sarif.schemaErrors, List.map_eq_nil_iff,
    Schema.violations_eq_nil_iff]

/-- The check of a run accepts the documents that are what the schema asks for. -/
theorem Document.check_eq_ok_iff_accepts (document : Document) :
    Run.check true document = .ok () ↔ shape.Accepts document.data := by
  rw [Run.check_eq_ok_iff, ← document.schemaErrors_eq_nil_iff]
  exact forall_prop_of_true rfl

/-- The run that the document tells of, as JSON. -/
def Document.run? (document : Document) : Option Data :=
  (document.data.at? "runs").bind Data.first?

/-- The list of results is written even when it is empty. -/
theorem Document.results_of_run? (document : Document) :
    (document.run?.bind (·.at? "results")) =
      some (.list (document.results.map Result.data)) :=
  rfl

/-- The list of rules is written even when it is empty. -/
theorem Document.rules_of_run? (document : Document) :
    (((document.run?.bind (·.at? "tool")).bind (·.at? "driver")).bind (·.at? "rules")) =
      some (.list (document.rules.map Rule.data)) :=
  rfl

end Sarif

/-! ## Conversions -/

namespace Conversion

variable {target : Target} {report : Report}

/-- All that is wrong with the document of a conversion are the empty identifiers among those of its
findings, once for the rule and once for the result. -/
theorem violations_document (huri : target.uri ≠ "") (report : Report) :
    shape.violations (ofReport target report).document.data =
      ((ofReport target report).findings.toList ++ (ofReport target report).findings.toList).flatMap
        fun finding => Schema.textViolations 1 (.text finding.result.ruleId) := by
  have hanchored : ∀ finding ∈ (ofReport target report).findings.toList,
      finding.Anchored target.uri :=
    fun _ h => anchored_of_mem_findings h
  have huris : ∀ result ∈ (ofReport target report).document.results, result.uri ≠ "" := by
    intro result hresult
    rw [results_document] at hresult
    obtain ⟨finding, hfinding, rfl⟩ := List.mem_map.1 hresult
    rw [(hanchored finding hfinding).uri_eq]
    exact huri
  have hlines : ∀ result ∈ (ofReport target report).document.results, 1 ≤ result.line := by
    intro result hresult
    rw [results_document] at hresult
    obtain ⟨finding, hfinding, rfl⟩ := List.mem_map.1 hresult
    exact (hanchored finding hfinding).one_le_line
  -- A rule and its result have one identifier, so each empty one is told twice.
  rw [Document.violations_data huris hlines, rules_document, results_document, List.flatMap_map,
    List.flatMap_map, List.flatMap_append]
  refine congrArg (· ++ _) (List.flatMap_congr fun finding hfinding => ?_)
  rw [(hanchored finding hfinding).rule_id]

/-- Nothing is wrong with the document of a conversion exactly when no finding has an empty
identifier. -/
theorem violations_document_eq_nil_iff (huri : target.uri ≠ "") :
    shape.violations (ofReport target report).document.data = [] ↔
      ∀ finding ∈ (ofReport target report).findings.toList, finding.result.ruleId ≠ "" := by
  rw [violations_document huri, List.flatMap_eq_nil_iff]
  simp only [Schema.textViolations_one, List.mem_append, or_self]
  refine forall₂_congr fun finding _ => ?_
  by_cases hempty : finding.result.ruleId = ""
  · simp [hempty]
  · simp [hempty]

/-- Recommendations have no empty identifiers, so what counts are those of the issues that the
report calls for. -/
theorem ruleIds_ne_empty_iff :
    (∀ finding ∈ (ofReport target report).findings.toList, finding.result.ruleId ≠ "") ↔
      ∀ located ∈ report.located target.ecosystem target.lines,
        ∀ issue ∈ located.1.dependency.nearIssues, issue.id ≠ "" := by
  have hperm := issueResults_ofReport_perm target report
  constructor
  · intro hfindings located hlocated issue hissue hempty
    have hmark : (issue.id, target.uri, located.2) ∈
        report.issueMarks target.ecosystem target.lines target.uri :=
      List.mem_flatMap.2 ⟨located, hlocated, List.mem_map_of_mem hissue⟩
    obtain ⟨result, hresult, heq⟩ := List.mem_map.1 (hperm.mem_iff.2 hmark)
    rw [issueResults_document] at hresult
    obtain ⟨finding, hfinding, rfl⟩ := List.mem_map.1 hresult
    have hid : finding.result.ruleId = issue.id := congrArg Prod.fst heq
    exact hfindings finding (List.mem_of_mem_filter hfinding) (hid.trans hempty)
  · intro hissues finding hfinding
    by_cases hnote : finding.rule.level = .note
    · exact (anchored_of_mem_findings hfinding).recommended_ne_empty hnote
    · have hresult : finding.result ∈ (ofReport target report).document.issueResults := by
        rw [issueResults_document]
        refine List.mem_map_of_mem (List.mem_filter.2 ⟨hfinding, ?_⟩)
        simpa [Finding.isIssue] using hnote
      have hmark := hperm.mem_iff.1 (List.mem_map_of_mem hresult)
      obtain ⟨located, hlocated, hmark⟩ := List.mem_flatMap.1 hmark
      obtain ⟨issue, hissue, heq⟩ := List.mem_map.1 hmark
      have hid : issue.id = finding.result.ruleId := congrArg Prod.fst heq
      rw [← hid]
      exact hissues located hlocated issue hissue

/-- The document of a conversion is what the schema asks for exactly when no issue that the report
calls for has an empty identifier. -/
theorem accepts_document_iff (huri : target.uri ≠ "") :
    shape.Accepts (ofReport target report).document.data ↔
      ∀ located ∈ report.located target.ecosystem target.lines,
        ∀ issue ∈ located.1.dependency.nearIssues, issue.id ≠ "" := by
  rw [← Schema.violations_eq_nil_iff, violations_document_eq_nil_iff huri, ruleIds_ne_empty_iff]

theorem message_of_mem_schemaErrors (huri : target.uri ≠ "") {message : String}
    (h : message ∈ (ofReport target report).document.schemaErrors) :
    message = "\"\" is shorter than 1 character" := by
  obtain ⟨violation, hviolation, rfl⟩ := List.mem_map.1 h
  rw [violations_document huri] at hviolation
  obtain ⟨finding, _, hviolation⟩ := List.mem_flatMap.1 hviolation
  rw [Schema.textViolations_one] at hviolation
  by_cases hempty : finding.result.ruleId = ""
  · rw [if_pos hempty, List.mem_singleton] at hviolation
    rw [hviolation]
    decide
  · rw [if_neg hempty] at hviolation
    cases hviolation

end Conversion

/-- A document about a manifest with an address passes the check exactly when no issue that the
report calls for has an empty identifier, and it is then what the schema asks for.  Whatever else
the report and the manifest say, nothing but empty identifiers is complained about: recommendations
have identifiers, lines are counted from one, levels are those of the format, and the lists of
results and rules are there. -/
theorem accepted_iff_issue_ids_nonempty {disk : Disk} {manifest content : String}
    (hread : disk.read manifest = .ok content) {cwd : String} (huri : Path.uri cwd manifest ≠ "")
    (ecosystem : Ecosystem) (report : Report) :
    ∃ conversion, Run.convert disk cwd manifest ecosystem report = .ok conversion ∧
      (Run.check true conversion.document = .ok () ↔
        ∀ located ∈ report.located ecosystem (Manifest.lines ecosystem content),
          ∀ issue ∈ located.1.dependency.nearIssues, issue.id ≠ "") ∧
      (Run.check true conversion.document = .ok () ↔ shape.Accepts conversion.document.data) ∧
      (∀ message ∈ conversion.document.schemaErrors,
        message = "\"\" is shorter than 1 character") ∧
      conversion.document.rules.length = conversion.document.results.length ∧
      (∀ finding ∈ conversion.findings.toList,
        finding.rule.level = .note → finding.result.ruleId ≠ "") ∧
      (∀ rule ∈ conversion.document.rules, rule.level = .note → rule.id ≠ "") ∧
      (∀ result ∈ conversion.document.results, 1 ≤ result.line) ∧
      (∀ rule ∈ conversion.document.rules,
        rule.level.name ∈ ["none", "note", "warning", "error"]) ∧
      (conversion.document.run?.bind (·.at? "results")) =
        some (.list (conversion.document.results.map Result.data)) ∧
      (((conversion.document.run?.bind (·.at? "tool")).bind (·.at? "driver")).bind
        (·.at? "rules")) = some (.list (conversion.document.rules.map Rule.data)) := by
  refine ⟨_, Run.convert_of_read hread cwd ecosystem report, ?_,
    Document.check_eq_ok_iff_accepts _, ?_, Conversion.length_rules_document _ report,
    ?_, ?_, ?_, ?_, Document.results_of_run? _, Document.rules_of_run? _⟩
  · rw [Document.check_eq_ok_iff_accepts]
    exact Conversion.accepts_document_iff huri
  · intro message hmessage
    exact Conversion.message_of_mem_schemaErrors huri hmessage
  · intro finding hfinding hnote
    exact (Conversion.anchored_of_mem_findings hfinding).recommended_ne_empty hnote
  · intro rule hrule hnote
    rw [Conversion.rules_document] at hrule
    obtain ⟨finding, hfinding, rfl⟩ := List.mem_map.1 hrule
    have hanchored := Conversion.anchored_of_mem_findings hfinding
    rw [hanchored.rule_id]
    exact hanchored.recommended_ne_empty hnote
  · intro result hresult
    rw [Conversion.results_document] at hresult
    obtain ⟨finding, hfinding, rfl⟩ := List.mem_map.1 hresult
    exact (Conversion.anchored_of_mem_findings hfinding).one_le_line
  · intro rule _
    cases rule.level <;> decide

/-- The issues of the sample have identifiers; a sample of an issue without one is refused. -/
theorem sample_accepted_unless_unnamed :
    (∃ conversion,
      Run.convert Sample.disk "/work" "requirements.txt" .pypi (.single Sample.analysis) =
        .ok conversion ∧
      Run.check true conversion.document = .ok ()) ∧
    ∃ conversion,
      Run.convert Sample.disk "/work" "requirements.txt" .pypi (.single Sample.unnamed) =
        .ok conversion ∧
      Run.check true conversion.document ≠ .ok () := by
  have hread : Sample.disk.read "requirements.txt" = .ok Sample.content := by decide
  have huri : Path.uri "/work" "requirements.txt" ≠ "" := by decide
  constructor
  · obtain ⟨conversion, hconvert, hcheck, -⟩ :=
      accepted_iff_issue_ids_nonempty hread huri .pypi (.single Sample.analysis)
    refine ⟨conversion, hconvert, hcheck.2 ?_⟩
    decide
  · obtain ⟨conversion, hconvert, hcheck, -⟩ :=
      accepted_iff_issue_ids_nonempty hread huri .pypi (.single Sample.unnamed)
    refine ⟨conversion, hconvert, mt hcheck.1 ?_⟩
    decide

end ManifestSarif
