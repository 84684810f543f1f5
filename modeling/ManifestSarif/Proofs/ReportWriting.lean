import ManifestSarif.Proofs.ReportRendering

/-!
# Every report has a text

A string can be spelled whatever its characters are, a count has a numeral, and so each part of a
report is written as some value that has a text.

* `HasText` says that of a rendering of one piece of data; `hasText_list`, `hasText_keyed` and
  `hasText_object` hand it on from the parts of a container.
* `exists_text` is the result for reports.
-/

namespace ManifestSarif

namespace Json

/-! ## Strings and counts -/

theorem exists_isHexDigit {n : Nat} (h : n < 16) : ∃ c, IsHexDigit n c := by
  have hlength : n < "0123456789abcdef".toList.length := h
  exact ⟨_, .inl (List.getElem?_eq_getElem hlength)⟩

/-- Each character has a spelling: its short escape, its number, or itself. -/
theorem exists_spelling (chars : List Char) :
    ∃ pieces : Quotation, pieces.Spells chars ∧ ∃ text, pieces.Written text := by
  induction chars with
  | nil => exact ⟨[], .nil, [], .nil⟩
  | cons c rest ih =>
    obtain ⟨pieces, hspells, text, hwritten⟩ := ih
    by_cases hquote : c = '"'
    · have hescape : (c, c) ∈ shortEscapes := by simp [hquote, shortEscapes]
      exact ⟨.char c :: pieces, .char hspells, _, .cons (.short hescape) hwritten⟩
    by_cases hslash : c = '\\'
    · have hescape : (c, c) ∈ shortEscapes := by simp [hslash, shortEscapes]
      exact ⟨.char c :: pieces, .char hspells, _, .cons (.short hescape) hwritten⟩
    by_cases hcontrol : 0x20 ≤ c.toNat
    · exact ⟨.char c :: pieces, .char hspells, _, .cons (.plain hquote hslash hcontrol) hwritten⟩
    · obtain ⟨zero, hzero⟩ := @exists_isHexDigit 0 (by omega)
      obtain ⟨high, hhigh⟩ := @exists_isHexDigit (c.toNat / 16) (by omega)
      obtain ⟨low, hlow⟩ := @exists_isHexDigit (c.toNat % 16) (by omega)
      have hunit := Piece.Written.unit hzero hzero hhigh hlow
      have hnumber : ((0 * 16 + 0) * 16 + c.toNat / 16) * 16 + c.toNat % 16 = c.toNat := by omega
      rw [hnumber] at hunit
      exact ⟨.unit c.toNat :: pieces, .unit (by omega) hspells, _, .cons hunit hwritten⟩

theorem head?_toDigits_ne_zero (n : Nat) (hn : 0 < n) :
    (Nat.toDigits 10 n).head? ≠ some '0' := by
  induction n using Nat.strongRecOn with
  | ind n ih =>
    rw [Nat.toDigits_eq_if (by omega)]
    by_cases hsmall : n < 10
    · have hdigits : ∀ m < 10, 0 < m → Nat.digitChar m ≠ '0' := by decide
      simpa [hsmall] using hdigits n hsmall hn
    · rw [if_neg hsmall, List.head?_append_of_ne_nil _ Nat.toDigits_ne_nil]
      exact ih (n / 10) (by omega) (by omega)

/-- A count has a numeral: all its digits and no needless zero. -/
theorem written_toDigits (n : Nat) :
    Numeral.Written ⟨false, Nat.toDigits 10 n, none, none⟩ (Nat.toDigits 10 n) := by
  have hdigits : IsDigits (Nat.toDigits 10 n) :=
    ⟨Nat.toDigits_ne_nil, fun c hc => Nat.isDigit_of_mem_toDigits (by omega) (by omega) hc⟩
  have hzero : (Nat.toDigits 10 n).head? = some '0' → Nat.toDigits 10 n = ['0'] := by
    intro hhead
    rcases Nat.eq_zero_or_pos n with rfl | hn
    · rfl
    · exact absurd hhead (head?_toDigits_ne_zero n hn)
  simpa using @Numeral.Written.mk false _ _ _ _ _ hdigits hzero .absent .absent

/-- Tokens that can be written one by one can be written one after the other. -/
theorem exists_spaced {tokens : List Token} (h : ∀ token ∈ tokens, ∃ text, token.Written text) :
    ∃ text, Spaced tokens text := by
  induction tokens with
  | nil => exact ⟨[], .nil (by simp [IsBlank])⟩
  | cons token tokens ih =>
    obtain ⟨first, hfirst⟩ := h token List.mem_cons_self
    obtain ⟨rest, hrest⟩ := ih fun token htoken => h token (List.mem_cons_of_mem _ htoken)
    exact ⟨_, @Spaced.cons _ _ [] _ _ (by simp [IsBlank]) hfirst hrest⟩

theorem mem_intercalate {token : Token} {parts : List (List Token)}
    (h : token ∈ [.comma].intercalate parts) :
    token = .comma ∨ ∃ part ∈ parts, token ∈ part := by
  induction parts with
  | nil => simp at h
  | cons first parts ih =>
    cases parts with
    | nil => exact .inr ⟨first, List.mem_cons_self, by simpa using h⟩
    | cons second parts =>
      rw [List.intercalate_cons_cons] at h
      simp only [List.append_assoc, List.mem_append, List.mem_singleton] at h
      rcases h with hfirst | hcomma | hmore
      · exact .inr ⟨first, List.mem_cons_self, hfirst⟩
      · exact .inl hcomma
      · refine (ih hmore).imp_right ?_
        rintro ⟨part, hpart, hmem⟩
        exact ⟨part, List.mem_cons_of_mem _ hpart, hmem⟩

end Json

namespace Rendering

open Json

variable {α : Type}

/-! ## Data -/

/-- Each token of the value has a spelling. -/
def Writable (value : Value) : Prop :=
  ∀ token ∈ value.tokens, ∃ text, token.Written text

/-- Some value that can be written stands for the data. -/
def HasText (rendering : Value → Prop) : Prop :=
  ∃ value, rendering value ∧ Writable value

theorem hasText_null : HasText (· = .null) :=
  ⟨.null, rfl, by simpa [Writable, Value.tokens] using ⟨_, Token.Written.null⟩⟩

theorem hasText_text (s : String) : HasText (text s) := by
  obtain ⟨pieces, hspells, written, hwritten⟩ := exists_spelling s.toList
  exact ⟨.text pieces, ⟨pieces, rfl, hspells⟩,
    by simpa [Writable, Value.tokens] using ⟨_, Token.Written.quotation hwritten⟩⟩

theorem hasText_bool (b : Bool) : HasText (bool b) := by
  refine ⟨.bool b, rfl, ?_⟩
  cases b
  · simpa [Writable, Value.tokens] using ⟨_, Token.Written.false⟩
  · simpa [Writable, Value.tokens] using ⟨_, Token.Written.true⟩

theorem hasText_count (n : UInt64) : HasText (count n) :=
  ⟨_, rfl, by simpa [Writable, Value.tokens] using ⟨_, Token.Written.number (written_toDigits _)⟩⟩

theorem writable_array {values : List Value} (h : ∀ value ∈ values, Writable value) :
    Writable (.array values) := by
  intro token htoken
  simp only [Value.tokens, Value.itemTokens_eq, List.mem_cons, List.mem_append,
    List.not_mem_nil, or_false] at htoken
  rcases htoken with rfl | hitems | rfl
  · exact ⟨_, .openArray⟩
  · rcases mem_intercalate hitems with rfl | ⟨part, hpart, hmem⟩
    · exact ⟨_, .comma⟩
    · obtain ⟨value, hvalue, rfl⟩ := List.mem_map.1 hpart
      exact h value hvalue token hmem
  · exact ⟨_, .closeArray⟩

/-- A key and a value that can be written. -/
def WritableMember (member : Quotation × Value) : Prop :=
  (∃ text, member.1.Written text) ∧ Writable member.2

theorem writable_object {members : List (Quotation × Value)}
    (h : ∀ member ∈ members, WritableMember member) : Writable (.object members) := by
  intro token htoken
  simp only [Value.tokens, Value.memberTokens_eq, List.mem_cons, List.mem_append,
    List.not_mem_nil, or_false] at htoken
  rcases htoken with rfl | hmembers | rfl
  · exact ⟨_, .openObject⟩
  · rcases mem_intercalate hmembers with rfl | ⟨part, hpart, hmem⟩
    · exact ⟨_, .comma⟩
    · obtain ⟨member, hmember, rfl⟩ := List.mem_map.1 hpart
      obtain ⟨⟨key, hkey⟩, hvalue⟩ := h member hmember
      simp only [List.mem_cons] at hmem
      rcases hmem with rfl | rfl | hmem
      · exact ⟨_, .quotation hkey⟩
      · exact ⟨_, .colon⟩
      · exact hvalue token hmem
  · exact ⟨_, .closeObject⟩

/-! ## Containers -/

theorem exists_forall₂ {β : Type} {r : α → β → Prop} {p : β → Prop} {items : List α}
    (h : ∀ a ∈ items, ∃ b, r a b ∧ p b) :
    ∃ values, List.Forall₂ r items values ∧ ∀ b ∈ values, p b := by
  induction items with
  | nil => exact ⟨[], .nil, by simp⟩
  | cons a items ih =>
    obtain ⟨b, hr, hp⟩ := h a List.mem_cons_self
    obtain ⟨values, hrs, hps⟩ := ih fun a ha => h a (List.mem_cons_of_mem _ ha)
    exact ⟨b :: values, .cons hr hrs, List.forall_mem_cons.2 ⟨hp, hps⟩⟩

theorem hasText_list {item : α → Value → Prop} {items : List α}
    (h : ∀ a ∈ items, HasText (item a)) : HasText (list item items) := by
  obtain ⟨values, hitems, hvalues⟩ := exists_forall₂ h
  exact ⟨.array values, ⟨values, rfl, hitems⟩, writable_array hvalues⟩

/-- A member has a text if its value has one, whatever its name is. -/
theorem exists_member (name : String) {rendering : Value → Prop} (h : HasText rendering) :
    ∃ member : Quotation × Value, (member.1.Spells name.toList ∧ rendering member.2) ∧
      WritableMember member := by
  obtain ⟨value, hvalue, hwritable⟩ := h
  obtain ⟨key, hspells, hwritten⟩ := exists_spelling name.toList
  exact ⟨(key, value), ⟨hspells, hvalue⟩, hwritten, hwritable⟩

theorem hasText_keyed {item : α → Value → Prop} {m : KeyMap α}
    (h : ∀ entry ∈ m.toList, HasText (item entry.2)) : HasText (keyed item m) := by
  obtain ⟨members, hentries, hmembers⟩ :=
    exists_forall₂ fun entry hentry => exists_member entry.1 (h entry hentry)
  exact ⟨.object members, ⟨_, members, rfl, .refl _, hentries⟩, writable_object hmembers⟩

theorem hasText_object {members : List Member} (h : ∀ member ∈ members, HasText member.value) :
    HasText (object members) := by
  obtain ⟨values, hvalues, hwritable⟩ :=
    exists_forall₂ fun member hmember => exists_member member.name (h member hmember)
  exact ⟨.object values, ⟨members, [], values, rfl, by simp, by simp, hvalues⟩,
    writable_object hwritable⟩

theorem hasText_member? {name : String} {rendering : α → Value → Prop} {a? : Option α}
    (h : ∀ a, a? = some a → HasText (rendering a)) :
    HasText (member? name (a?.map rendering)).value := by
  cases a? with
  | none => exact hasText_null
  | some a => exact h a rfl

/-! ## Reports -/

theorem hasText_issue (issue : Issue) : HasText (Rendering.issue issue) := by
  have hcves : ∀ cves, issue.cves = some cves → HasText (list text cves) :=
    fun _ _ => hasText_list fun _ _ => hasText_text _
  have hcvss : ∀ cvss, issue.cvss = some cvss → HasText (Rendering.cvss cvss) :=
    fun _ _ => hasText_object
      (List.forall_mem_singleton.2 (hasText_member? fun _ _ => hasText_text _))
  have hremediation : ∀ remediation, issue.remediation = some remediation →
      HasText (Rendering.remediation remediation) := by
    intro remediation _
    refine hasText_object (List.forall_mem_singleton.2 (hasText_member? fun content _ => ?_))
    exact hasText_object (List.forall_mem_singleton.2 (hasText_text _))
  refine hasText_object ?_
  simp only [List.forall_mem_cons]
  exact ⟨hasText_text _, hasText_text _, hasText_text _, hasText_member? hcves,
    hasText_member? hcvss, hasText_member? hremediation, by simp⟩

theorem hasText_dependency (dependency : Dependency) :
    HasText (Rendering.dependency dependency) := by
  match dependency with
  | ⟨ref, issues, transitive, recommendation⟩ =>
    have htransitive : ∀ below, transitive = some below →
        HasText (list Rendering.dependency below) :=
      fun below _ => hasText_list fun lower _ => hasText_dependency lower
    rw [Rendering.dependency, below_eq]
    refine hasText_object ?_
    simp only [List.forall_mem_cons]
    exact ⟨hasText_member? fun _ _ => hasText_text _,
      hasText_member? fun _ _ => hasText_list fun issue _ => hasText_issue issue,
      hasText_member? htransitive, hasText_member? fun _ _ => hasText_text _, by simp⟩
termination_by sizeOf dependency
decreasing_by
  subst_vars
  have := List.sizeOf_lt_of_mem ‹lower ∈ below›
  simp
  omega

theorem hasText_source (source : Source) : HasText (Rendering.source source) := by
  have hsummary : ∀ summary, source.summary = some summary →
      HasText (Rendering.summary summary) := by
    intro summary _
    refine hasText_object ?_
    simp only [List.forall_mem_cons]
    exact ⟨hasText_count _, hasText_count _, hasText_count _, hasText_count _, by simp⟩
  refine hasText_object ?_
  simp only [List.forall_mem_cons]
  exact ⟨hasText_member? hsummary,
    hasText_member? fun _ _ => hasText_list fun dependency _ => hasText_dependency dependency,
    by simp⟩

theorem hasText_provider (provider : Provider) : HasText (Rendering.provider provider) := by
  have hstatus : ∀ status, provider.status = some status → HasText (Rendering.status status) :=
    fun _ _ => hasText_object
      (List.forall_mem_singleton.2 (hasText_member? fun _ _ => hasText_bool _))
  refine hasText_object ?_
  simp only [List.forall_mem_cons]
  exact ⟨hasText_member? hstatus,
    hasText_member? fun _ _ => hasText_keyed fun entry _ => hasText_source entry.2, by simp⟩

theorem hasText_analysis (report : AnalysisReport) : HasText (Rendering.analysis report) :=
  hasText_object (List.forall_mem_singleton.2
    (hasText_member? fun _ _ => hasText_keyed fun entry _ => hasText_provider entry.2))

/-- **Every report can be written.** -/
theorem exists_text (report : Report) :
    ∃ value, Rendering.report report value ∧ ∃ text : String, value.Written text.toList := by
  have hreport : HasText (Rendering.report report) := by
    cases report with
    | single report => exact hasText_analysis report
    | images reports => exact hasText_keyed fun entry _ => hasText_analysis entry.2
  obtain ⟨value, hvalue, hwritable⟩ := hreport
  obtain ⟨text, htext⟩ := exists_spaced hwritable
  exact ⟨value, hvalue, String.ofList text, by rwa [String.toList_ofList]⟩

end Rendering

end ManifestSarif
