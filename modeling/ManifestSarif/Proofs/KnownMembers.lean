import ManifestSarif.Proofs.OverlookingReaders
import ManifestSarif.Proofs.ReportRoundTrip
import ManifestSarif.Run
import Mathlib.Logic.Relation

/-!
# Only known members count

A report is read from its known members, in whatever order they stand and whatever stands among
them.

* `overlooks_issue`, `overlooks_dependency`, `overlooks_provider` and their kin: each reader
  overlooks what the format leaves open.  Dependencies nest, so theirs is by induction on the
  nesting that is left.
* `Report.toOption_ofText` goes from texts to values.
* `known_members_decide_the_report` is the result.
-/

namespace ManifestSarif

namespace Report

open Json Json.Reader ReportFormat

/-! ## Issues -/

theorem overlooks_trustedContent (depth : Nat) :
    Overlooks (.record .trustedContent) (trustedContent depth) :=
  overlooks_record (fun _ _ => .cons (standsFor_field (overlooks_text _)) .nil) fun _ => by
    simp [trustedContentFields]

theorem overlooks_remediation (depth : Nat) :
    Overlooks (.record .remediation) (remediation depth) :=
  overlooks_record
    (fun below _ => .cons (standsFor_field (overlooks_trustedContent below).optional) .nil)
    fun _ => by simp [remediationFields]

theorem overlooks_cvss (depth : Nat) : Overlooks (.record .cvss) (cvss depth) :=
  overlooks_record (fun _ _ => .cons (standsFor_field (overlooks_text _).optional) .nil) fun _ => by
    simp [cvssFields]

theorem overlooks_issue (depth : Nat) : Overlooks (.record .issue) (issue depth) :=
  overlooks_record
    (fun below _ =>
      .cons (standsFor_field (overlooks_text _)) <|
      .cons (standsFor_field (overlooks_text _)) <|
      .cons (standsFor_field (overlooks_text _)) <|
      .cons (standsFor_field (overlooks_list fun _ _ => overlooks_text _).optional) <|
      .cons (standsFor_field (overlooks_cvss below).optional) <|
      .cons (standsFor_field (overlooks_remediation below).optional) .nil)
    fun _ => by simp [issueFields, independent_field]

/-! ## Dependencies -/

theorem overlooks_dependency (depth : Nat) :
    Overlooks (.record .dependency) (dependency depth) := by
  induction depth using Nat.strongRecOn with
  | ind depth ih =>
    rw [dependency_eq]
    refine overlooks_record (fun below hbelow => ?_) fun _ => by
      simp [dependencyFields, independent_field]
    have htransitive := overlooks_list fun deeper hdeeper => ih deeper (Nat.lt_trans hdeeper hbelow)
    exact
      .cons (standsFor_field (overlooks_text _).optional) <|
      .cons (standsFor_field (overlooks_list fun _ _ => overlooks_issue _).optional) <|
      .cons (standsFor_field htransitive.optional) <|
      .cons (standsFor_field (overlooks_text _).optional) .nil

/-! ## Providers -/

theorem overlooks_summary (depth : Nat) : Overlooks (.record .summary) (summary depth) :=
  overlooks_record
    (fun _ _ =>
      .cons (standsFor_field (overlooks_count _)) <|
      .cons (standsFor_field (overlooks_count _)) <|
      .cons (standsFor_field (overlooks_count _)) <|
      .cons (standsFor_field (overlooks_count _)) .nil)
    fun _ => by simp [summaryFields, independent_field]

theorem overlooks_source (depth : Nat) : Overlooks (.record .source) (source depth) :=
  overlooks_record
    (fun below _ =>
      .cons (standsFor_field (overlooks_summary below).optional) <|
      .cons (standsFor_field (overlooks_list fun _ _ => overlooks_dependency _).optional) .nil)
    fun _ => by simp [sourceFields, independent_field]

theorem overlooks_status (depth : Nat) : Overlooks (.record .status) (status depth) :=
  overlooks_record (fun _ _ => .cons (standsFor_field (overlooks_bool _).optional) .nil) fun _ => by
    simp [statusFields]

theorem overlooks_provider (depth : Nat) : Overlooks (.record .provider) (provider depth) :=
  overlooks_record
    (fun below _ =>
      .cons (standsFor_field (overlooks_status below).optional) <|
      .cons (standsFor_field (overlooks_keyed fun _ _ => overlooks_source _).optional) .nil)
    fun _ => by simp [providerFields, independent_field]

/-! ## Reports -/

theorem overlooks_analysis (depth : Nat) : Overlooks (.record .analysis) (analysis depth) :=
  overlooks_record
    (fun _ _ =>
      .cons (standsFor_field (overlooks_keyed fun _ _ => overlooks_provider _).optional) .nil)
    fun _ => by simp [analysisFields]

theorem overlooks_reader (ecosystem : Ecosystem) :
    Overlooks (Shape.ofReport ecosystem) (reader ecosystem) := by
  have himages : Overlooks (.map (.record .analysis)) (imageAnalyses maxDepth) :=
    overlooks_keyed fun _ _ => overlooks_analysis _
  cases ecosystem <;> first | exact himages.map _ | exact (overlooks_analysis maxDepth).map _

/-- The report that a text holds is what is made of the value of the text. -/
theorem toOption_ofText (ecosystem : Ecosystem) {value : Value} {text : String}
    (h : value.Written text.toList) :
    (ofText ecosystem text).toOption = (reader ecosystem).accepted value := by
  simp only [ofText, Document.ofText_of_written h, accepted]
  cases (reader ecosystem).complete value <;> rfl

end Report

open Json ReportFormat

/-- **Only known members count.**  Of two texts whose values differ only in the order of members, in
members with unknown names and in white space, both hold a report or neither does.  They hold the
same report, and it is converted to the same bytes with the same severity. -/
theorem known_members_decide_the_report {ecosystem : Ecosystem} {value other : Value}
    (h : Relation.EqvGen (Shape.ofReport ecosystem).Varies value other) {text text' : String}
    (htext : value.Written text.toList) (htext' : other.Written text'.toList) :
    (∀ report, Report.ofText ecosystem text = .ok report ↔
      Report.ofText ecosystem text' = .ok report) ∧
    ∀ disk cwd manifest,
      ((Report.ofText ecosystem text).toOption.map fun report =>
        (Run.convert disk cwd manifest ecosystem report).map fun conversion =>
          (conversion.document.write, conversion.severity)) =
      (Report.ofText ecosystem text').toOption.map fun report =>
        (Run.convert disk cwd manifest ecosystem report).map fun conversion =>
          (conversion.document.write, conversion.severity) := by
  have hread := (Report.overlooks_reader ecosystem).accepted_eq h
  have hsame : (Report.ofText ecosystem text).toOption =
      (Report.ofText ecosystem text').toOption := by
    rw [Report.toOption_ofText ecosystem htext, Report.toOption_ofText ecosystem htext', hread]
  refine ⟨fun report => ?_, fun disk cwd manifest => by rw [hsame]⟩
  rw [← toOption_eq_some_iff, hsame, toOption_eq_some_iff]

namespace Sample

def providerMembers : List (Quotation × Value) :=
  [(plain "status", .object [(plain "ok", .bool true)]), (plain "sources", .null)]

def reportMembers (members : List (Quotation × Value)) : List (Quotation × Value) :=
  [(plain "providers", .object [(plain "p", .object members)])]

/-- A member with a name that no record has, and a string in it that is no text. -/
def unknownMember : Quotation × Value :=
  (plain "x", .array [.array [.text [.unit 0xd800]]])

theorem eqvGen_reordered :
    Relation.EqvGen (Shape.ofReport .npm).Varies (.object (reportMembers providerMembers))
      (.object (unknownMember :: reportMembers providerMembers.reverse)) := by
  have hproviders : Shape.member (.record .analysis) (plain "providers") =
      .map (.record .provider) := by decide
  have hreordered : Shape.Varies (.record .provider) (.object providerMembers)
      (.object providerMembers.reverse) := .order providerMembers.reverse_perm.symm (by simp)
  have hmap : (Shape.map (.record .provider)).Varies
      (.object [(plain "p", .object providerMembers)])
      (.object [(plain "p", .object providerMembers.reverse)]) :=
    .member [] [] hreordered
  have hreport : (Shape.ofReport .npm).Varies (.object (reportMembers providerMembers))
      (.object (reportMembers providerMembers.reverse)) :=
    .member [] [] (hproviders ▸ hmap)
  have hextra : (Shape.ofReport .npm).Varies (.object (reportMembers providerMembers.reverse))
      (.object (unknownMember :: reportMembers providerMembers.reverse)) :=
    @Shape.Varies.extra .analysis [] _ (plain "x") "x" _ (by decide) (by decide)
  exact .trans _ _ _ (.rel _ _ hreport) (.rel _ _ hextra)

/-- A token without white space before it, and its spelling. -/
structure Spelled where
  token : Token
  text : List Char
  written : token.Written text

/-- A string of characters that need no escapes. -/
def quoted (s : String) (h : ∀ c ∈ s.toList, c ≠ '"' ∧ c ≠ '\\' ∧ 0x20 ≤ c.toNat) :
    Spelled :=
  ⟨_, _, .quotation (Quotation.written_map_char h)⟩

def opening : Spelled := ⟨_, _, .openObject⟩

def closing : Spelled := ⟨_, _, .closeObject⟩

def colon : Spelled := ⟨_, _, .colon⟩

def comma : Spelled := ⟨_, _, .comma⟩

def statusParts : List Spelled :=
  [quoted "status" (by simp), colon, opening, quoted "ok" (by simp), colon, ⟨_, _, .true⟩, closing]

def sourcesParts : List Spelled :=
  [quoted "sources" (by simp), colon, ⟨_, _, .null⟩]

def loneSurrogate : Spelled :=
  ⟨_, _, .quotation (.cons (@Piece.Written.unit 13 8 0 0 'd' '8' '0' '0' (.inl rfl) (.inl rfl)
    (.inl rfl) (.inl rfl)) .nil)⟩

def unknownParts : List Spelled :=
  [quoted "x" (by simp), colon, ⟨_, _, .openArray⟩, ⟨_, _, .openArray⟩, loneSurrogate,
    ⟨_, _, .closeArray⟩, ⟨_, _, .closeArray⟩, comma]

def reportParts (parts : List Spelled) : List Spelled :=
  [quoted "providers" (by simp), colon, opening, quoted "p" (by simp), colon, opening] ++ parts ++
    [closing, closing, closing]

theorem spaced_parts (parts : List Spelled) {blank : List Char} (h : IsBlank blank) :
    Spaced (parts.map (·.token)) (parts.flatMap (·.text) ++ blank) := by
  have hparts := @Spaced.of_parts (parts.map fun part => ([], part.token, part.text)) blank
    (by simp +contextual [IsBlank, Spelled.written]) h
  simpa [Function.comp_def, List.flatMap_map] using hparts

def sampleText : String :=
  "\x7b\"providers\":\x7b\"p\":\x7b\"status\":\x7b\"ok\":true\x7d,\"sources\":null\x7d\x7d\x7d"

theorem written_sampleText :
    (Value.object (reportMembers providerMembers)).Written sampleText.toList :=
  @spaced_parts (opening :: reportParts (statusParts ++ [comma] ++ sourcesParts)) []
    (by simp [IsBlank])

def reorderedText : String :=
  "\x7b\"x\":[[\"\\ud800\"]],\"providers\":\x7b\"p\":" ++
    "\x7b\"sources\":null,\"status\":\x7b\"ok\":true\x7d\x7d\x7d\x7d\n"

theorem written_reorderedText :
    (Value.object (unknownMember :: reportMembers providerMembers.reverse)).Written
      reorderedText.toList :=
  @spaced_parts (opening :: (unknownParts ++ reportParts (sourcesParts ++ [comma] ++ statusParts)))
    ['\n'] (by simp [IsBlank])

/-- What both texts hold. -/
def oneProvider : Report :=
  .single ⟨some (KeyMap.ofList [("p", ⟨some ⟨some true⟩, none⟩)])⟩

theorem ofText_sampleText : Report.ofText .npm sampleText = .ok oneProvider := by
  rw [← toOption_eq_some_iff, Report.toOption_ofText .npm written_sampleText]
  rfl

end Sample

/-- The sample is read alike with its members in another order and an unknown one before them. -/
theorem sample_read_alike :
    Report.ofText .npm Sample.sampleText = .ok Sample.oneProvider ∧
      Report.ofText .npm Sample.reorderedText = .ok Sample.oneProvider := by
  have hsame := known_members_decide_the_report Sample.eqvGen_reordered Sample.written_sampleText
    Sample.written_reorderedText
  exact ⟨Sample.ofText_sampleText, (hsame.1 Sample.oneProvider).1 Sample.ofText_sampleText⟩

end ManifestSarif
