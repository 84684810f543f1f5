import ManifestSarif.Proofs.JsonScanning

/-!
# Reading grammatical texts

What the grammar derives the reader accepts: every text of a value is read as that value, at any
depth of nesting, and whatever follows the text is noticed unless it is white space.

* `readValue_tokens`: the machine reads the tokens of a value and goes on after it.
* `separated_array`, `separated_object`: the numerals of containers end where they should.  A
  numeral that is all of the text ends there too (`scan_of_written`).
* `ofText_of_written` and `ofText_append_of_written` are the results about texts.
-/

namespace ManifestSarif.Json

/-- A value starts with a token that closes no array. -/
theorem tokens_eq_cons (value : Value) :
    ∃ token rest, value.tokens = token :: rest ∧ token ≠ .closeArray := by
  cases value <;> exact ⟨_, _, rfl, by simp⟩

/-- So do the items of an array that has some. -/
theorem items_eq_cons (first : Value) (items : List Value) (rest : List Token) :
    ∃ token tokens, [.comma].intercalate ((first :: items).map Value.tokens) ++ rest =
      token :: tokens ∧ token ≠ .closeArray := by
  obtain ⟨more, hmore⟩ : ∃ more,
      [.comma].intercalate ((first :: items).map Value.tokens) = first.tokens ++ more := by
    cases items with
    | nil => exact ⟨[], by simp⟩
    | cons second items => exact ⟨_, by simp [List.intercalate_cons_cons]; rfl⟩
  obtain ⟨token, tokens, hfirst, hopen⟩ := tokens_eq_cons first
  exact ⟨token, tokens ++ more ++ rest, by rw [hmore, hfirst]; simp, hopen⟩

/-- The members of an object that has some start with a key. -/
theorem members_eq_cons (key : Quotation) (value : Value) (members : List (Quotation × Value)) :
    [.comma].intercalate (Value.memberTokens ((key, value) :: members)) =
      .quotation key :: .colon ::
        [.comma].intercalate (value.tokens :: Value.memberTokens members) := by
  cases members <;> simp [Value.memberTokens, List.intercalate]

/-! ## Numerals -/

/-- The numerals of these tokens stand before marks if a mark follows. -/
def SeparatedBeforeMarks (tokens : List Token) : Prop :=
  ∀ mark ∈ marks, ∀ rest, Separated (mark :: rest) → Separated (tokens ++ mark :: rest)

theorem separated_intercalate {parts : List (List Token)}
    (h : ∀ part ∈ parts, SeparatedBeforeMarks part) :
    SeparatedBeforeMarks ([.comma].intercalate parts) := by
  intro mark hmark rest hrest
  induction parts with
  | nil => exact hrest
  | cons first parts ih =>
    have hfirst := h first List.mem_cons_self
    have hmore := ih fun part hpart => h part (List.mem_cons_of_mem _ hpart)
    cases parts with
    | nil => simpa using hfirst mark hmark rest hrest
    | cons second parts =>
      rw [List.intercalate_cons_cons, List.append_assoc, List.append_assoc]
      exact hfirst .comma (by simp [marks]) _ hmore

theorem separated_members {members : List (Quotation × Value)}
    (h : ∀ member ∈ members, SeparatedBeforeMarks member.2.tokens) :
    SeparatedBeforeMarks ([.comma].intercalate (Value.memberTokens members)) := by
  refine separated_intercalate fun part hpart => ?_
  rw [Value.memberTokens_eq] at hpart
  obtain ⟨member, hmember, rfl⟩ := List.mem_map.1 hpart
  exact h member hmember

theorem separated_items {items : List Value}
    (h : ∀ item ∈ items, SeparatedBeforeMarks item.tokens) :
    SeparatedBeforeMarks ([.comma].intercalate (Value.itemTokens items)) := by
  refine separated_intercalate fun part hpart => ?_
  rw [Value.itemTokens_eq] at hpart
  obtain ⟨item, hitem, rfl⟩ := List.mem_map.1 hpart
  exact h item hitem

theorem separated_tokens (value : Value) : SeparatedBeforeMarks value.tokens := by
  induction value using Value.inductionOn with
  | null | bool | text => exact fun _ _ _ hrest => hrest
  | number numeral => exact fun mark hmark _ hrest => ⟨⟨mark, hmark, rfl⟩, hrest⟩
  | array items ih =>
    intro mark _ rest hrest
    have := separated_items ih .closeArray (by simp [marks]) (mark :: rest) hrest
    simpa [Value.tokens, Separated] using this
  | object members ih =>
    intro mark _ rest hrest
    have := separated_members ih .closeObject (by simp [marks]) (mark :: rest) hrest
    simpa [Value.tokens, Separated] using this

/-- The numerals in an object stand before marks, its last one before the closing brace. -/
theorem separated_object (members : List (Quotation × Value)) :
    Separated (Value.object members).tokens :=
  separated_members (fun member _ => separated_tokens member.2) .closeObject (by simp [marks]) []
    trivial

/-- The numerals in an array stand before marks, its last one before the closing bracket. -/
theorem separated_array (items : List Value) : Separated (Value.array items).tokens :=
  separated_items (fun item _ => separated_tokens item) .closeArray (by simp [marks]) [] trivial

/-- The tokens of a text of a value are those of the value.  Nothing has to follow a numeral that
is all of the text. -/
theorem scan_of_written {value : Value} {text : List Char} (h : value.Written text) :
    scan text = ⟨value.tokens, none⟩ := by
  have hseparated (h : Separated value.tokens) : scan text = ⟨value.tokens, none⟩ := by
    simpa [scan] using scan_spaced (by assumption) h []
  cases value with
  | null | bool | text => exact hseparated trivial
  | array items => exact hseparated (separated_array items)
  | object members => exact hseparated (separated_object members)
  | number numeral =>
    cases h with
    | @cons _ _ blank text rest hblank htoken hrest =>
      cases hrest with
      | nil hrest =>
        have hends : EndsNumeral rest := by
          cases rest with
          | nil => simp [EndsNumeral]
          | cons c rest => exact endsNumeral_space (hrest c List.mem_cons_self) rest
        obtain ⟨htokens, hflaw⟩ := scan_eq_nil_iff.2 hrest
        rw [scan_blank hblank, scan_token htoken fun _ _ => hends, htokens, hflaw]
        rfl

/-! ## The machine -/

namespace Document

variable {flaw : Option Flaw} {stack : List Frame} {rest : List Token}

/-- Reads the value and goes on after it, in whatever containers it stands. -/
def Continues (value : Value) : Prop :=
  ∀ flaw stack rest, readValue flaw stack (value.tokens ++ rest) = resume flaw stack value rest

theorem readValue_openArray {tokens : List Token} {token : Token} (h : token ≠ .closeArray) :
    readValue flaw stack (.openArray :: token :: tokens) =
      readValue flaw (.array [] :: stack) (token :: tokens) := by
  cases token <;> simp_all [readValue]

theorem readValue_openObject {tokens : List Token} {key : Quotation} :
    readValue flaw stack (.openObject :: .quotation key :: .colon :: tokens) =
      readValue flaw (.object [] key :: stack) tokens := by
  simp [readValue, readMember]

theorem resume_comma_array {tokens : List Token} {token : Token} {items : List Value}
    {value : Value} (h : token ≠ .closeArray) :
    resume flaw (.array items :: stack) value (.comma :: token :: tokens) =
      readValue flaw (.array (value :: items) :: stack) (token :: tokens) := by
  simp [resume, h]

theorem resume_comma_object {tokens : List Token} {members : List (Quotation × Value)}
    {key next : Quotation} {value : Value} :
    resume flaw (.object members key :: stack) value
        (.comma :: .quotation next :: .colon :: tokens) =
      readValue flaw (.object ((key, value) :: members) next :: stack) tokens := by
  simp [resume, readMember]

/-- From the first item on, the items after those in `done` are read up to the end of the array. -/
theorem readValue_items (first : Value) (items : List Value)
    (h : ∀ item ∈ first :: items, Continues item) (done : List Value) :
    readValue flaw (.array done :: stack)
        ([.comma].intercalate ((first :: items).map Value.tokens) ++ .closeArray :: rest) =
      resume flaw stack (.array (done.reverse ++ first :: items)) rest := by
  induction items generalizing first done with
  | nil =>
    have hfirst := h first List.mem_cons_self
    simp [hfirst _ _ _, resume]
  | cons second items ih =>
    have hfirst := h first List.mem_cons_self
    have hmore := ih second (fun item hitem => h item (List.mem_cons_of_mem _ hitem))
      (first :: done)
    -- the second item shows that the array does not end after the comma
    obtain ⟨token, tokens, hsecond, hopen⟩ := items_eq_cons second items (.closeArray :: rest)
    rw [List.map_cons, List.map_cons, List.intercalate_cons_cons, List.append_assoc,
      List.append_assoc, hfirst, List.singleton_append, ← List.map_cons, hsecond,
      resume_comma_array hopen, ← hsecond, hmore]
    simp

/-- From the value of the first member on, the members after those in `done` are read up to the end
of the object. -/
theorem readValue_members (key : Quotation) (value : Value) (members : List (Quotation × Value))
    (h : ∀ member ∈ (key, value) :: members, Continues member.2)
    (done : List (Quotation × Value)) :
    readValue flaw (.object done key :: stack)
        (([.comma].intercalate (value.tokens :: Value.memberTokens members)) ++
          .closeObject :: rest) =
      resume flaw stack (.object (done.reverse ++ (key, value) :: members)) rest := by
  induction members generalizing key value done with
  | nil =>
    have hfirst : Continues value := h _ List.mem_cons_self
    simp [Value.memberTokens, hfirst _ _ _, resume]
  | cons second members ih =>
    obtain ⟨next, second⟩ := second
    have hfirst : Continues value := h _ List.mem_cons_self
    have hmore := ih next second (fun member hmember => h member (List.mem_cons_of_mem _ hmember))
      ((key, value) :: done)
    rw [Value.memberTokens, List.intercalate_cons_cons, List.append_assoc, List.append_assoc,
      hfirst, List.singleton_append, ← Value.memberTokens, members_eq_cons, List.cons_append,
      List.cons_append,
      resume_comma_object, hmore]
    simp

/-- **The machine reads the tokens of a value**, and goes on after it. -/
theorem readValue_tokens (value : Value) : Continues value := by
  induction value using Value.inductionOn with
  | null | bool | number | text => intro flaw stack rest; simp [Value.tokens, readValue]
  | array items ih =>
    intro flaw stack rest
    rw [Value.tokens, Value.itemTokens_eq, List.cons_append, List.append_assoc,
      List.singleton_append]
    cases items with
    | nil => simp [readValue]
    | cons first items =>
      obtain ⟨token, tokens, hitems, hopen⟩ := items_eq_cons first items (.closeArray :: rest)
      rw [hitems, readValue_openArray hopen, ← hitems, readValue_items first items ih]
      rfl
  | object members ih =>
    intro flaw stack rest
    rw [Value.tokens, List.cons_append, List.append_assoc, List.singleton_append]
    cases members with
    | nil => simp [Value.memberTokens, readValue]
    | cons first members =>
      obtain ⟨key, value⟩ := first
      rw [members_eq_cons, List.cons_append, List.cons_append, readValue_openObject,
        readValue_members key value members ih]
      rfl

/-! ## Texts -/

/-- **A whole text is read as the value that it is written for.** -/
theorem ofText_of_written {value : Value} {text : List Char} (h : value.Written text) :
    ofText text = .complete value false := by
  have hread := readValue_tokens value none [] []
  rw [List.append_nil] at hread
  rw [ofText, scan_of_written h, hread]
  rfl

/-- **A text of an object is read as that object.**  What follows is noticed unless it is white
space. -/
theorem ofText_append_of_written {members : List (Quotation × Value)} {text : List Char}
    (h : (Value.object members).Written text) (more : List Char) :
    ∃ trailing, ofText (text ++ more) = .complete (.object members) trailing ∧
      (trailing = false ↔ IsBlank more) := by
  have hscan := scan_spaced h (separated_object members) more
  have hread := readValue_tokens (.object members) (scan more).flaw [] (scan more).tokens
  simp only [ofText, hscan, hread, ← scan_eq_nil_iff]
  cases htokens : (scan more).tokens with
  | nil => exact ⟨_, rfl, by simp⟩
  | cons token tokens => exact ⟨_, rfl, by simp⟩

end Document

end ManifestSarif.Json
