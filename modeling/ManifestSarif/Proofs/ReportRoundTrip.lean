import ManifestSarif.Proofs.JsonParsing
import ManifestSarif.Proofs.RecordReading
import ManifestSarif.Proofs.ReportWriting

/-!
# Reading reports back

Whatever a report holds, at every depth of its dependencies, is read back from each text that it is
written as, and more text after it is refused.

* `accepts_issue`, `accepts_dependency`, `accepts_provider` and their kin: each part of a report is
  read back.  Dependencies nest, so theirs is by induction on the nesting that is left.
* `Report.ofText_of_written` puts this together with the reader of JSON, for a text and what stands
  after it.
* `report_read_back_from_any_text` is the result.
-/

namespace ManifestSarif

namespace Report

open Json Json.Reader

/-! ## Issues -/

theorem accepts_trustedContent (depth : Nat) :
    Accepts (trustedContent depth) Rendering.trustedContent depth :=
  accepts_record (fun _ => by simp [trustedContentFields]) fun below _ _ =>
    ⟨_, .cons (reads_member (accepts_text below)) .nil, by simp [AllCommute], rfl⟩

theorem accepts_remediation (depth : Nat) :
    Accepts (remediation depth) Rendering.remediation depth :=
  accepts_record (fun _ => by simp [remediationFields]) fun below _ _ =>
    ⟨_, .cons (reads_member? (accepts_trustedContent below) rfl) .nil, by simp [AllCommute], rfl⟩

theorem accepts_cvss (depth : Nat) : Accepts (cvss depth) Rendering.cvss depth :=
  accepts_record (fun _ => by simp [cvssFields]) fun below _ _ =>
    ⟨_, .cons (reads_member? (accepts_text below) rfl) .nil, by simp [AllCommute], rfl⟩

theorem accepts_issue (depth : Nat) : Accepts (issue depth) Rendering.issue depth :=
  accepts_record (fun _ => by simp [issueFields, field]) fun below _ _ =>
    ⟨_,
      .cons (reads_member (accepts_text below)) <|
      .cons (reads_member (accepts_text below)) <|
      .cons (reads_member (accepts_text below)) <|
      .cons (reads_member? (accepts_list fun _ _ => accepts_text _) rfl) <|
      .cons (reads_member? (accepts_cvss below) rfl) <|
      .cons (reads_member? (accepts_remediation below) rfl) .nil,
      by simp [AllCommute], rfl⟩

/-! ## Dependencies -/

/-- One array further down the dependencies are read like any other list. -/
theorem dependency_eq (depth : Nat) :
    dependency depth =
      record "RawDependency"
        (within (fun below => dependencyFields (within dependency below) below) depth)
        ⟨none, none, none, none⟩ := by
  match depth with
  | 0 => rfl
  | 1 => rfl
  | _ + 2 => rfl

theorem dependency_rendering_eq :
    Rendering.dependency = fun dependency =>
      Rendering.object
        [Rendering.member? "ref" (dependency.ref.map Rendering.text),
         Rendering.member? "issues" (dependency.issues.map (Rendering.list Rendering.issue)),
         Rendering.member? "transitive"
           (dependency.transitive.map (Rendering.list Rendering.dependency)),
         Rendering.member? "recommendation" (dependency.recommendation.map Rendering.text)] := by
  funext dependency
  obtain ⟨ref, issues, transitive, recommendation⟩ := dependency
  rw [Rendering.dependency, Rendering.below_eq]

theorem accepts_dependency (depth : Nat) :
    Accepts (dependency depth) Rendering.dependency depth := by
  induction depth using Nat.strongRecOn with
  | ind depth ih =>
    rw [dependency_eq, dependency_rendering_eq]
    refine accepts_record (fun _ => by simp [dependencyFields, field]) fun below hbelow target => ?_
    have htransitive := accepts_list fun deeper hdeeper => ih deeper (Nat.lt_trans hdeeper hbelow)
    cases target
    exact ⟨_,
      .cons (reads_member? (accepts_text below) rfl) <|
      .cons (reads_member? (accepts_list fun _ _ => accepts_issue _) rfl) <|
      .cons (reads_member? htransitive rfl) <|
      .cons (reads_member? (accepts_text below) rfl) .nil,
      by simp [AllCommute], rfl⟩

/-! ## Providers -/

theorem accepts_summary (depth : Nat) : Accepts (summary depth) Rendering.summary depth :=
  accepts_record (fun _ => by simp [summaryFields, field]) fun below _ _ =>
    ⟨_,
      .cons (reads_member (accepts_count below)) <|
      .cons (reads_member (accepts_count below)) <|
      .cons (reads_member (accepts_count below)) <|
      .cons (reads_member (accepts_count below)) .nil,
      by simp [AllCommute], rfl⟩

theorem accepts_source (depth : Nat) : Accepts (source depth) Rendering.source depth :=
  accepts_record (fun _ => by simp [sourceFields, field]) fun below _ _ =>
    ⟨_,
      .cons (reads_member? (accepts_summary below) rfl) <|
      .cons (reads_member? (accepts_list fun _ _ => accepts_dependency _) rfl) .nil,
      by simp [AllCommute], rfl⟩

theorem accepts_status (depth : Nat) : Accepts (status depth) Rendering.status depth :=
  accepts_record (fun _ => by simp [statusFields]) fun below _ _ =>
    ⟨_, .cons (reads_member? (accepts_bool below) rfl) .nil, by simp [AllCommute], rfl⟩

theorem accepts_provider (depth : Nat) : Accepts (provider depth) Rendering.provider depth :=
  accepts_record (fun _ => by simp [providerFields, field]) fun below _ _ =>
    ⟨_,
      .cons (reads_member? (accepts_status below) rfl) <|
      .cons (reads_member? (accepts_keyed fun _ _ => accepts_source _) rfl) .nil,
      by simp [AllCommute], rfl⟩

/-! ## Reports -/

theorem accepts_analysis (depth : Nat) : Accepts (analysis depth) Rendering.analysis depth :=
  accepts_record (fun _ => by simp [analysisFields]) fun below _ _ =>
    ⟨_, .cons (reads_member? (accepts_keyed fun _ _ => accepts_provider _) rfl) .nil,
      by simp [AllCommute], rfl⟩

theorem accepts_imageAnalyses (depth : Nat) :
    Accepts (imageAnalyses depth) (Rendering.keyed Rendering.analysis) depth :=
  accepts_keyed fun _ _ => accepts_analysis _

theorem complete_reader {ecosystem : Ecosystem} {report : Report} (hsuits : report.Suits ecosystem)
    {value : Value} (h : Rendering.report report value) (hdepth : value.depth ≤ maxDepth) :
    (reader ecosystem).complete value = .ok report := by
  cases report with
  | single report =>
    have hread := (accepts_analysis maxDepth report value h hdepth).2
    cases ecosystem <;> first | exact absurd rfl hsuits | simp [reader, map, hread, Except.map]
  | images reports =>
    have hread := (accepts_imageAnalyses maxDepth reports value h hdepth).2
    cases hsuits
    simp [reader, map, hread, Except.map]

/-- A report is written as an object. -/
theorem exists_members_of_rendering {report : Report} {value : Value}
    (h : Rendering.report report value) : ∃ members, value = .object members := by
  cases report with
  | single =>
    obtain ⟨_, _, members, rfl, _⟩ := h
    exact ⟨members, rfl⟩
  | images =>
    obtain ⟨_, members, rfl, _⟩ := h
    exact ⟨members, rfl⟩

/-- A text of the report, and what stands after it. -/
theorem ofText_of_written {ecosystem : Ecosystem} {report : Report}
    (hsuits : report.Suits ecosystem) {value : Value} (hvalue : Rendering.report report value)
    (hdepth : value.depth ≤ maxDepth) {text : String} (htext : value.Written text.toList)
    (more : String) :
    ofText ecosystem (text ++ more) =
      if IsBlank more.toList then .ok report else .error .trailing := by
  have hread := complete_reader hsuits hvalue hdepth
  obtain ⟨members, rfl⟩ := exists_members_of_rendering hvalue
  obtain ⟨trailing, hdocument, htrailing⟩ := Document.ofText_append_of_written htext more.toList
  rw [ofText, String.toList_append, hdocument]
  simp only [hread]
  by_cases hblank : IsBlank more.toList
  · rw [if_pos hblank, htrailing.2 hblank]
    rfl
  · have hmore : trailing = true := by
      rw [← Bool.not_eq_false, htrailing]
      exact hblank
    rw [if_neg hblank, hmore]
    rfl

end Report

open Json

/-- **Reading a report loses nothing.**  Every report can be written.  If it nests at most 127 arrays
and objects, it is read back from each of its texts: with any spelling of its strings, any order of
its members and any white space.  If anything but white space follows the text, it is refused for
that. -/
theorem report_read_back_from_any_text (ecosystem : Ecosystem) (report : Report)
    (hsuits : report.Suits ecosystem) :
    (∃ value, Rendering.report report value ∧ ∃ text : String, value.Written text.toList) ∧
    ∀ value, Rendering.report report value → value.depth ≤ 127 →
      ∀ text : String, value.Written text.toList →
        Report.ofText ecosystem text = .ok report ∧
        ∀ more : String, ¬ IsBlank more.toList →
          Report.ofText ecosystem (text ++ more) = .error .trailing := by
  refine ⟨Rendering.exists_text report, fun value hvalue hdepth text htext => ⟨?_, ?_⟩⟩
  · have hread := Report.ofText_of_written hsuits hvalue hdepth htext ""
    have hblank : IsBlank "".toList := by simp [IsBlank]
    rwa [String.append_empty, if_pos hblank] at hread
  · intro more hmore
    rw [Report.ofText_of_written hsuits hvalue hdepth htext more, if_neg hmore]

namespace Sample

/-- The string without escapes. -/
def plain (s : String) : Quotation := s.toList.map Piece.char

/-- A dependency with a line break in its reference. -/
def innermost : Dependency := ⟨some "a\n", none, none, none⟩

/-- A report with a dependency below another one. -/
def nested : AnalysisReport :=
  let source : Source := ⟨none, some [⟨none, none, some [innermost], none⟩]⟩
  ⟨some ⟨[("p", ⟨none, some ⟨[("s", source)], by simp⟩⟩)], by simp⟩⟩

/-- The key `ref` with its first letter escaped. -/
def escapedRef : Quotation := [.unit 0x72, .char 'e', .char 'f']

def innermostValue : Value := .object [(escapedRef, .text (plain "a\n"))]

/-- The report without its absent members. -/
def nestedValue : Value :=
  let dependency : Value := .object [(plain "transitive", .array [innermostValue])]
  let source : Value := .object [(plain "dependencies", .array [dependency])]
  let provider : Value := .object [(plain "sources", .object [(plain "s", source)])]
  .object [(plain "providers", .object [(plain "p", provider)])]

def nestedText : String :=
  " \x7b\"providers\":\x7b\"p\":\x7b\"sources\":\x7b\"s\":\x7b\"dependencies\":[\x7b\"transitive\":" ++
    "\n[\x7b\t\"\\u0072ef\" :\"a\\n\"\x7d]\x7d]\x7d\x7d\x7d\x7d\x7d\n"

theorem spells_plain (s : String) : (plain s).Spells s.toList :=
  Quotation.spells_map_char _

/-- A report whose one source lists the entry. -/
def listing (entry : Dependency) : AnalysisReport :=
  ⟨some ⟨[("p", ⟨none, some ⟨[("s", ⟨none, some [entry]⟩)], by simp⟩⟩)], by simp⟩⟩

def listingValue (entry : Value) : Value :=
  let source : Value := .object [(plain "dependencies", .array [entry])]
  let provider : Value := .object [(plain "sources", .object [(plain "s", source)])]
  .object [(plain "providers", .object [(plain "p", provider)])]

theorem rendering_listing {entry : Dependency} {value : Value}
    (h : Rendering.dependency entry value) :
    Rendering.analysis (listing entry) (listingValue value) := by
  have hsource : Rendering.source ⟨none, some [entry]⟩
      (.object [(plain "dependencies", .array [value])]) :=
    ⟨[_], [_], _, rfl, .swap .., by simp [Rendering.member?],
      .cons ⟨spells_plain _, _, rfl, .cons h .nil⟩ .nil⟩
  refine ⟨[_], [], _, rfl, .refl _, by simp, .cons ⟨spells_plain _, ?_⟩ .nil⟩
  refine ⟨_, _, rfl, .refl _, .cons ⟨spells_plain _, ?_⟩ .nil⟩
  refine ⟨[_], [_], _, rfl, .swap .., by simp [Rendering.member?], .cons ⟨spells_plain _, ?_⟩ .nil⟩
  exact ⟨_, _, rfl, .refl _, .cons ⟨spells_plain _, hsource⟩ .nil⟩

theorem rendering_nested : Rendering.analysis nested nestedValue := by
  have hkey : escapedRef.Spells "ref".toList :=
    @Quotation.Spells.unit 'r' _ _ (by decide) (.char (.char .nil))
  have hinnermost : Rendering.dependency innermost innermostValue :=
    ⟨[_], _, _, rfl, .refl _, by decide, .cons ⟨hkey, _, rfl, spells_plain _⟩ .nil⟩
  have hdependency : Rendering.dependency ⟨none, none, some [innermost], none⟩
      (.object [(plain "transitive", .array [innermostValue])]) :=
    ⟨[_], [_, _, _], _, rfl, (@List.perm_middle _ _ [_, _] [_]).symm, by simp [Rendering.member?],
      .cons ⟨spells_plain _, _, rfl, .cons hinnermost .nil⟩ .nil⟩
  exact rendering_listing hdependency

/-- The tokens of the text, each with the white space before it and its spelling. -/
def nestedParts : List (List Char × Token × List Char) :=
  let quoted (s : String) := ([], .quotation (plain s), '"' :: (s.toList ++ ['"']))
  let opening := ([], .openObject, ['\x7b'])
  let closing := ([], .closeObject, ['\x7d'])
  let colon := ([], .colon, [':'])
  [([' '], .openObject, ['\x7b']), quoted "providers", colon, opening, quoted "p", colon, opening,
    quoted "sources", colon, opening, quoted "s", colon, opening, quoted "dependencies", colon,
    ([], .openArray, ['[']), opening, quoted "transitive", colon, (['\n'], .openArray, ['[']),
    opening, (['\t'], .quotation escapedRef, "\"\\u0072ef\"".toList), ([' '], .colon, [':']),
    ([], .quotation (plain "a\n"), "\"a\\n\"".toList), closing, ([], .closeArray, [']']), closing,
    ([], .closeArray, [']']), closing, closing, closing, closing, closing]

theorem written_nested : nestedValue.Written nestedText.toList := by
  have htokens : nestedValue.tokens = nestedParts.map (·.2.1) := rfl
  have htext : nestedText.toList =
      nestedParts.flatMap (fun part => part.1 ++ part.2.2) ++ ['\n'] := by decide
  have hquoted (s : String) (h : ∀ c ∈ s.toList, c ≠ '"' ∧ c ≠ '\\' ∧ 0x20 ≤ c.toNat) :
      (Token.quotation (plain s)).Written ('"' :: (s.toList ++ ['"'])) :=
    .quotation (Quotation.written_map_char h)
  have hescaped : (Token.quotation escapedRef).Written "\"\\u0072ef\"".toList :=
    .quotation (.cons (@Piece.Written.unit 0 0 7 2 '0' '0' '7' '2' (.inl rfl) (.inl rfl) (.inl rfl)
      (.inl rfl)) (@Quotation.written_map_char ['e', 'f'] (by simp)))
  have hbreak : (Token.quotation (plain "a\n")).Written "\"a\\n\"".toList :=
    .quotation (.cons (.plain (by decide) (by decide) (by decide))
      (.cons (@Piece.Written.short 'n' '\n' (by decide)) .nil))
  have hblank : ∀ part ∈ nestedParts, ∀ c ∈ part.1, c ∈ [' ', '\n', '\t', '\r'] := by
    simp [nestedParts]
  have hwritten : ∀ part ∈ nestedParts, part.2.1.Written part.2.2 := by
    simp only [nestedParts, List.forall_mem_cons]
    exact ⟨.openObject, hquoted _ (by simp), .colon, .openObject, hquoted _ (by simp), .colon,
      .openObject, hquoted _ (by simp), .colon, .openObject, hquoted _ (by simp), .colon,
      .openObject, hquoted _ (by simp), .colon, .openArray, .openObject, hquoted _ (by simp),
      .colon, .openArray, .openObject, hescaped, .colon, hbreak, .closeObject, .closeArray,
      .closeObject, .closeArray, .closeObject, .closeObject, .closeObject, .closeObject,
      .closeObject, by simp⟩
  rw [Value.Written, htokens, htext]
  exact Spaced.of_parts (fun part hpart => ⟨hblank part hpart, hwritten part hpart⟩)
    (by simp [IsBlank])

end Sample

/-- The sample is read back, and refused with one brace more. -/
theorem sample_read_back :
    Report.ofText .npm Sample.nestedText = .ok (.single Sample.nested) ∧
      Report.ofText .npm (Sample.nestedText ++ "\x7d") = .error .trailing := by
  have h := (report_read_back_from_any_text .npm (.single Sample.nested)
    (show Ecosystem.npm ≠ .docker by decide)).2 Sample.nestedValue Sample.rendering_nested
      (by decide) Sample.nestedText Sample.written_nested
  exact ⟨h.1, h.2 "\x7d" (by simp [IsBlank])⟩

end ManifestSarif
