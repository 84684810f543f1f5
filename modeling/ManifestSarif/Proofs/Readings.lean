import ManifestSarif.Proofs.Assignments
import ManifestSarif.Proofs.LineComments

/-!
# What is read from a line

Of a line of a script no more is read than whether it has the word `ext`, which braces it has, and
what it assigns first.

* `assignmentFrom?_append` splits the search for an assignment where two texts meet, and
  `assignmentIn?_congr` says what the first part of the search sees of the second text;
  `assignmentFrom?_append_stop`: nothing, if a character that stops assignments stands there.
* `ReadAlike` are two texts from which the same is read, `LinesAlike` two such lines, and
  `symbolsFrom_congr`: scripts whose lines read alike have the same table.
* `readAlike_blanks_append`, `readAlike_append_blanks` and `readAlike_insert_blanks` say where white
  space is not read.
-/

namespace ManifestSarif.Gradle

open Text

variable {text text' more more' front : List Char} {inWord : Bool} {c : Char}

/-! ## Values -/

/-- The value that a text without white space at its start gives to a name right before it. -/
def valueAfter? : List Char → Option (List Char)
  | '=' :: rest => quoted? (trimStart rest)
  | _ => none

theorem valueAfter?_of_ne (hc : c ≠ '=') (rest : List Char) : valueAfter? (c :: rest) = none := by
  rw [valueAfter?]
  rintro rest heq
  exact hc (List.cons.inj heq).1

theorem assignmentAt?_eq_map (text : List Char) :
    assignmentAt? text = (valueAfter? (trimStart (text.dropWhile isWord))).map
      fun value => (text.takeWhile isWord, value) := by
  rw [assignmentAt?]
  cases trimStart (text.dropWhile isWord) with
  | nil => rfl
  | cons c rest =>
    by_cases hc : c = '='
    · subst hc
      rfl
    · rw [valueAfter?_of_ne hc]
      split
      · next heq => exact absurd (List.cons.inj heq).1 hc
      · rfl

/-- A value is opened in the text, by a quote behind an `=`, and not closed in it. -/
def Pending (text : List Char) : Prop :=
  ∃ rest quote value, '=' :: rest <:+ text ∧ trimStart rest = quote :: value ∧
    (quote = '\'' ∨ quote = '"') ∧ quote ∉ value

theorem Pending.of_suffix (h : Pending text) (hsuffix : text <:+ text') : Pending text' := by
  obtain ⟨rest, quote, value, hrest, hvalue⟩ := h
  exact ⟨rest, quote, value, hrest.trans hsuffix, hvalue⟩

theorem not_pending_of_not_mem (h : '=' ∉ text) : ¬Pending text := by
  rintro ⟨rest, quote, value, hsuffix, -⟩
  exact h (hsuffix.subset List.mem_cons_self)

/-- Neither of two texts closes a value that is opened before it. -/
def ClosesNothing (text text' : List Char) : Prop :=
  ∀ quote, quote = '\'' ∨ quote = '"' → quote ∉ text ∧ quote ∉ text'

/-- From two texts the same value is read, behind a name and behind an `=`. -/
structure ValuesAlike (text text' : List Char) : Prop where
  value_eq : valueAfter? (trimStart text) = valueAfter? (trimStart text')
  quoted_eq : quoted? (trimStart text) = quoted? (trimStart text')

theorem quoted?_cons {quote : Char} (hquote : quote = '\'' ∨ quote = '"') (rest : List Char) :
    quoted? (quote :: rest) = (cutAt quote rest).map (·.1) := by
  rw [quoted?, if_pos hquote]

theorem quoted?_cons_of_not {quote : Char} (hquote : ¬(quote = '\'' ∨ quote = '"'))
    (rest : List Char) : quoted? (quote :: rest) = none := by
  rw [quoted?, if_neg hquote]

/-- Values that are closed, or cannot be closed, are read alike in front of two texts. -/
theorem quoted?_append_congr {quote : Char} {value : List Char}
    (hclosed : quote = '\'' ∨ quote = '"' → quote ∈ value ∨ quote ∉ more ∧ quote ∉ more') :
    quoted? (quote :: (value ++ more)) = quoted? (quote :: (value ++ more')) := by
  by_cases hquote : quote = '\'' ∨ quote = '"'
  · rw [quoted?_cons hquote, quoted?_cons hquote]
    by_cases hmem : quote ∈ value
    · obtain ⟨inner, after, rfl, hinner⟩ := List.eq_append_cons_of_mem hmem
      rw [List.append_assoc, List.append_assoc, List.cons_append, List.cons_append,
        cutAt_append hinner, cutAt_append hinner]
      rfl
    · obtain ⟨hmore, hmore'⟩ := (hclosed hquote).resolve_left hmem
      rw [cutAt_eq_none (by simp [hmem, hmore]), cutAt_eq_none (by simp [hmem, hmore'])]
  · rw [quoted?_cons_of_not hquote, quoted?_cons_of_not hquote]

theorem valueAfter?_append_congr (h : ValuesAlike more more')
    (hopen : ¬Pending text ∨ ClosesNothing more more') :
    valueAfter? (trimStart (text ++ more)) = valueAfter? (trimStart (text ++ more')) := by
  by_cases hblank : Blanks text
  · rw [trimStart_append hblank, trimStart_append hblank, h.value_eq]
  · rw [trimStart_append_of_not_blanks hblank, trimStart_append_of_not_blanks hblank]
    have hsuffix : trimStart text <:+ text := List.dropWhile_suffix _
    cases hstart : trimStart text with
    | nil => exact absurd (blanks_of_trimStart_eq_nil hstart) hblank
    | cons c rest =>
      by_cases hc : c = '='
      · subst hc
        show quoted? (trimStart (rest ++ more)) = quoted? (trimStart (rest ++ more'))
        by_cases hrest : Blanks rest
        · rw [trimStart_append hrest, trimStart_append hrest, h.quoted_eq]
        · rw [trimStart_append_of_not_blanks hrest, trimStart_append_of_not_blanks hrest]
          cases hvalue : trimStart rest with
          | nil => exact absurd (blanks_of_trimStart_eq_nil hvalue) hrest
          | cons quote value =>
            refine quoted?_append_congr fun hquote => or_iff_not_imp_left.2 fun hmem => ?_
            refine hopen.resolve_left (not_not_intro ?_) quote hquote
            exact ⟨rest, quote, value, hstart ▸ hsuffix, hvalue, hquote, hmem⟩
      · rw [List.cons_append, List.cons_append, valueAfter?_of_ne hc, valueAfter?_of_ne hc]

/-! ## Assignments where two texts meet -/

/-- Whether a text ends with a word character; `inWord` tells whether one comes before the text. -/
def wordAfter (inWord : Bool) (text : List Char) : Bool :=
  (text.getLast?.map isWord).getD inWord

theorem wordAfter_cons (inWord : Bool) (c : Char) (text : List Char) :
    wordAfter inWord (c :: text) = wordAfter (isWord c) text := by
  cases text with
  | nil => rfl
  | cons d text =>
    rw [wordAfter, wordAfter, List.getLast?_cons_cons, List.getLast?_cons]
    rfl

theorem wordAfter_eq_false_iff :
    wordAfter false text = false ↔ ∀ c ∈ text.getLast?, isWord c = false := by
  rw [wordAfter]
  cases text.getLast? <;> simp

/-- The first assignment that starts in a text in front of `more`. -/
def assignmentIn? (inWord : Bool) (more : List Char) : List Char → Option (List Char × List Char)
  | [] => none
  | c :: rest =>
    (if isWord c && !inWord then assignmentAt? (c :: rest ++ more) else none).or
      (assignmentIn? (isWord c) more rest)

/-- An assignment starts in the first of two texts, or in the second. -/
theorem assignmentFrom?_append (inWord : Bool) (text more : List Char) :
    assignmentFrom? inWord (text ++ more) =
      (assignmentIn? inWord more text).or (assignmentFrom? (wordAfter inWord text) more) := by
  induction text generalizing inWord with
  | nil => rfl
  | cons c text ih =>
    rw [List.cons_append, assignmentFrom?_cons, ih, assignmentIn?, wordAfter_cons, Option.or_assoc,
      List.cons_append]

theorem assignmentFrom?_eq_assignmentIn? (inWord : Bool) (text : List Char) :
    assignmentFrom? inWord text = assignmentIn? inWord [] text := by
  have h := assignmentFrom?_append inWord text []
  rwa [List.append_nil, assignmentFrom?, Option.or_none] at h

/-- Assignments that start in a text are the same in front of two texts from which the same value
is read, if no run of word characters goes on in them. -/
theorem assignmentIn?_congr (h : ValuesAlike more more')
    (hopen : ¬Pending text ∨ ClosesNothing more more')
    (hends : wordAfter inWord text = false ∨
      (∀ c ∈ more.head?, isWord c = false) ∧ ∀ c ∈ more'.head?, isWord c = false) :
    assignmentIn? inWord more text = assignmentIn? inWord more' text := by
  induction text generalizing inWord with
  | nil => rfl
  | cons c text ih =>
    rw [wordAfter_cons] at hends
    have hlater : ¬Pending text ∨ ClosesNothing more more' :=
      hopen.imp_left (mt fun hpending => hpending.of_suffix (List.suffix_cons c text))
    have hstops : (∃ d ∈ c :: text, isWord d = false) ∨
        (∀ c ∈ more.head?, isWord c = false) ∧ ∀ c ∈ more'.head?, isWord c = false := by
      refine hends.imp_left fun hword => ?_
      cases hlast : text.getLast? with
      | none =>
        rw [wordAfter, hlast] at hword
        exact ⟨c, List.mem_cons_self, hword⟩
      | some d =>
        rw [wordAfter, hlast] at hword
        exact ⟨d, List.mem_cons_of_mem c (List.mem_of_mem_getLast? hlast), hword⟩
    have hhere : assignmentAt? (c :: text ++ more) = assignmentAt? (c :: text ++ more') := by
      obtain ⟨htake, hdrop⟩ := takeWhile_append_of_ends (hstops.imp_right (·.1))
      obtain ⟨htake', hdrop'⟩ := takeWhile_append_of_ends (hstops.imp_right (·.2))
      rw [assignmentAt?_eq_map, assignmentAt?_eq_map, htake, hdrop, htake', hdrop']
      rw [valueAfter?_append_congr h (hopen.imp_left (mt fun hpending =>
        hpending.of_suffix (List.dropWhile_suffix _)))]
    rw [assignmentIn?, assignmentIn?, hhere, ih hlater hends]

/-! ## White space and marks between texts -/

theorem closesNothing_of_blanks (h : Blanks text) (h' : Blanks text') :
    ClosesNothing text text' := by
  rintro quote (rfl | rfl)
  · exact ⟨not_mem_of_blanks h (by decide), not_mem_of_blanks h' (by decide)⟩
  · exact ⟨not_mem_of_blanks h (by decide), not_mem_of_blanks h' (by decide)⟩

theorem valuesAlike_of_trimStart_eq (h : trimStart text = trimStart text') :
    ValuesAlike text text' :=
  ⟨by rw [h], by rw [h]⟩

/-- No assignment goes on over the character: it stands neither in a name nor between a name, the
`=` and the quote. -/
def Stops (c : Char) : Prop :=
  isWord c = false ∧ isBlank c = false ∧ c ≠ '=' ∧ ¬(c = '\'' ∨ c = '"')

instance : DecidablePred Stops := fun _ =>
  inferInstanceAs (Decidable (_ ∧ _ ∧ _ ∧ _))

theorem valuesAlike_of_stops (hc : Stops c) (text : List Char) : ValuesAlike (c :: text) [] := by
  have hstart : trimStart (c :: text) = c :: text :=
    trimStart_eq_self fun d hd => by cases hd; exact hc.2.1
  constructor
  · rw [hstart, valueAfter?_of_ne hc.2.2.1]
    rfl
  · rw [hstart, quoted?_cons_of_not hc.2.2.2]
    rfl

theorem assignmentFrom?_cons_of_not_isWord (hc : isWord c = false) (inWord : Bool)
    (text : List Char) : assignmentFrom? inWord (c :: text) = assignmentFrom? false text := by
  rw [assignmentFrom?_cons, hc, Bool.false_and, if_neg Bool.false_ne_true, Option.none_or]

theorem assignmentFrom?_of_head? (h : ∀ c ∈ text.head?, isWord c = false) (inWord : Bool) :
    assignmentFrom? inWord text = assignmentFrom? false text := by
  cases text with
  | nil => rfl
  | cons c text =>
    rw [assignmentFrom?_cons_of_not_isWord (h c rfl), assignmentFrom?_cons_of_not_isWord (h c rfl)]

theorem assignmentFrom?_blanks_append (h : Blanks front) (text : List Char) :
    assignmentFrom? false (front ++ text) = assignmentFrom? false text := by
  induction front with
  | nil => rfl
  | cons c front ih =>
    obtain ⟨hc, hfront⟩ := List.forall_mem_cons.1 h
    rw [List.cons_append, assignmentFrom?_cons_of_not_isWord (isWord_of_isBlank hc), ih hfront]

theorem assignmentFrom?_append_blanks (h : Blanks more) (text : List Char) :
    assignmentFrom? false (text ++ more) = assignmentFrom? false text := by
  have hnone : assignmentFrom? false more = none := by
    rw [← List.append_nil more, assignmentFrom?_blanks_append h]
    rfl
  have hhead := isWord_of_mem_head?_of_blanks h
  rw [assignmentFrom?_append, assignmentFrom?_of_head? hhead, hnone, Option.or_none,
    assignmentFrom?_eq_assignmentIn? false text]
  exact assignmentIn?_congr (valuesAlike_of_trimStart_eq (trimStart_of_blanks h))
    (Or.inr (closesNothing_of_blanks h blanks_nil)) (Or.inr ⟨hhead, by simp⟩)

/-- Behind a character over which no assignment goes on, assignments are looked for anew. -/
theorem assignmentFrom?_append_stop (hc : Stops c) (hopen : ¬Pending text) (more : List Char) :
    assignmentFrom? false (text ++ c :: more) =
      (assignmentFrom? false text).or (assignmentFrom? false more) := by
  rw [assignmentFrom?_append, assignmentFrom?_cons_of_not_isWord hc.1,
    assignmentFrom?_eq_assignmentIn? false text,
    assignmentIn?_congr (valuesAlike_of_stops hc more) (Or.inl hopen) (Or.inr ⟨?_, by simp⟩)]
  intro d hd
  cases hd
  exact hc.1

/-- Between two texts in which no word and no value meet, white space does not matter. -/
theorem assignmentFrom?_insert_blanks (hfront : Blanks front) (hapart : WordsApart text more)
    (hopen : ¬Pending text) :
    assignmentFrom? false (text ++ (front ++ more)) = assignmentFrom? false (text ++ more) := by
  by_cases hne : front = []
  · rw [hne, List.nil_append]
  have hhead := isWord_of_mem_head?_blanks_append hfront hne more
  have hlater : assignmentFrom? (wordAfter false text) (front ++ more) =
      assignmentFrom? (wordAfter false text) more := by
    rw [assignmentFrom?_of_head? hhead, assignmentFrom?_blanks_append hfront]
    rcases hapart with hlast | hfirst
    · rw [wordAfter_eq_false_iff.2 hlast]
    · rw [assignmentFrom?_of_head? hfirst (wordAfter false text)]
  rw [assignmentFrom?_append false text (front ++ more), assignmentFrom?_append false text more,
    hlater]
  rw [assignmentIn?_congr (valuesAlike_of_trimStart_eq (trimStart_append hfront more))
    (Or.inl hopen) (hapart.imp wordAfter_eq_false_iff.2 fun hfirst => ⟨hhead, hfirst⟩)]

/-! ## Readings -/

/-- The same is read from two texts: the word `ext`, the braces, a brace at the start, and the
first assignment. -/
structure ReadAlike (text text' : List Char) : Prop where
  names : NamesExt text ↔ NamesExt text'
  brace : '\x7b' ∈ text ↔ '\x7b' ∈ text'
  leads : (trimStart text).head? = some '\x7b' ↔ (trimStart text').head? = some '\x7b'
  balance : braceBalance text = braceBalance text'
  assigned : assignment? text = assignment? text'

theorem ReadAlike.refl (text : List Char) : ReadAlike text text :=
  ⟨Iff.rfl, Iff.rfl, Iff.rfl, rfl, rfl⟩

theorem ReadAlike.symm (h : ReadAlike text text') : ReadAlike text' text :=
  ⟨h.names.symm, h.brace.symm, h.leads.symm, h.balance.symm, h.assigned.symm⟩

theorem ReadAlike.trans {text'' : List Char} (h : ReadAlike text text')
    (h' : ReadAlike text' text'') : ReadAlike text text'' :=
  ⟨h.names.trans h'.names, h.brace.trans h'.brace, h.leads.trans h'.leads,
    h.balance.trans h'.balance, h.assigned.trans h'.assigned⟩

theorem braceBalance_append (text more : List Char) :
    braceBalance (text ++ more) = braceBalance text + braceBalance more := by
  simp only [braceBalance, List.count_append]
  omega

theorem braceBalance_eq_zero (hopen : '\x7b' ∉ text) (hclose : '\x7d' ∉ text) :
    braceBalance text = 0 := by
  rw [braceBalance, List.count_eq_zero.2 hopen, List.count_eq_zero.2 hclose]
  rfl

theorem namesExt_append_iff (hapart : WordsApart text more) :
    NamesExt (text ++ more) ↔ NamesExt text ∨ NamesExt more :=
  HasWord.append_iff (List.cons_ne_nil _ _) isWord_of_mem_ext hapart

theorem not_namesExt_of_blanks (h : Blanks text) : ¬NamesExt text :=
  not_hasWord_of_forall (fun c hc => isWord_of_isBlank (h c hc)) (List.cons_ne_nil _ _)
    isWord_of_mem_ext

theorem assignment?_congr (h : assignmentFrom? false text = assignmentFrom? false text') :
    assignment? text = assignment? text' := by
  rw [assignment?, h, assignment?]

/-- White space before a text is not read. -/
theorem readAlike_blanks_append (h : Blanks front) (text : List Char) :
    ReadAlike (front ++ text) text where
  names := by
    rw [namesExt_append_iff (.of_blanks_left h text), or_iff_right (not_namesExt_of_blanks h)]
  brace := by
    rw [List.mem_append, or_iff_right (not_mem_of_blanks h (by decide))]
  leads := by rw [trimStart_append h]
  balance := by
    rw [braceBalance_append, braceBalance_eq_zero (not_mem_of_blanks h (by decide))
      (not_mem_of_blanks h (by decide)), Int.zero_add]
  assigned := assignment?_congr (assignmentFrom?_blanks_append h text)

/-- White space behind a text is not read. -/
theorem readAlike_append_blanks (h : Blanks more) (text : List Char) :
    ReadAlike (text ++ more) text where
  names := by
    rw [namesExt_append_iff (.of_blanks_right text h), or_iff_left (not_namesExt_of_blanks h)]
  brace := by
    rw [List.mem_append, or_iff_left (not_mem_of_blanks h (by decide))]
  leads := by
    by_cases hblank : Blanks text
    · rw [trimStart_append hblank, trimStart_of_blanks h, trimStart_of_blanks hblank]
    · rw [head?_trimStart_append hblank]
  balance := by
    rw [braceBalance_append, braceBalance_eq_zero (not_mem_of_blanks h (by decide))
      (not_mem_of_blanks h (by decide)), Int.add_zero]
  assigned := assignment?_congr (assignmentFrom?_append_blanks h text)

theorem readAlike_trim (text : List Char) : ReadAlike (trim text) text := by
  obtain ⟨lead, trail, hlead, htrail, heq⟩ := exists_blanks_trim text
  have h := (readAlike_append_blanks htrail (lead ++ trim text)).trans
    (readAlike_blanks_append hlead (trim text))
  rw [← heq] at h
  exact h.symm

/-- White space between two texts in which no word and no value meet is not read. -/
theorem readAlike_insert_blanks (hfront : Blanks front) (hapart : WordsApart text more)
    (hopen : ¬Pending text) : ReadAlike (text ++ (front ++ more)) (text ++ more) := by
  by_cases hne : front = []
  · rw [hne, List.nil_append]
    exact .refl _
  have hapart' : WordsApart text (front ++ more) :=
    Or.inr (isWord_of_mem_head?_blanks_append hfront hne more)
  have hrest := readAlike_blanks_append hfront more
  refine ⟨?_, ?_, ?_, ?_, assignment?_congr (assignmentFrom?_insert_blanks hfront hapart hopen)⟩
  · rw [namesExt_append_iff hapart', hrest.names, namesExt_append_iff hapart]
  · rw [List.mem_append, hrest.brace, List.mem_append]
  · by_cases hblank : Blanks text
    · rw [trimStart_append hblank, hrest.leads, trimStart_append hblank]
    · rw [head?_trimStart_append hblank, head?_trimStart_append hblank]
  · rw [braceBalance_append, hrest.balance, braceBalance_append]

/-! ## Scripts -/

theorem ReadAlike.step_eq (h : ReadAlike text text') (region : Region) :
    region.step (trim text) = region.step (trim text') := by
  have hcode := (readAlike_trim text).trans (h.trans (readAlike_trim text').symm)
  have hnames : namesExt (trim text) = namesExt (trim text') :=
    Bool.eq_iff_iff.2 (by rw [namesExt_iff, namesExt_iff, hcode.names])
  have hbrace : (trim text).contains '\x7b' = (trim text').contains '\x7b' :=
    Bool.eq_iff_iff.2 (by rw [List.contains_iff_mem, List.contains_iff_mem, hcode.brace])
  have hleads : decide ((trim text).head? = some '\x7b') =
      decide ((trim text').head? = some '\x7b') := by
    have hleads := hcode.leads
    rw [trimStart_trim, trimStart_trim] at hleads
    exact decide_eq_decide.2 hleads
  have henters : region.entersBlock (trim text) = region.entersBlock (trim text') := by
    cases region with
    | block extra => rfl
    | outside => rw [Region.entersBlock, hnames, hbrace, Region.entersBlock]
    | announced => rw [Region.entersBlock, hleads, hnames, hbrace, Region.entersBlock]
  rw [Region.step, henters, hnames, hcode.balance, Region.step]

theorem ReadAlike.collect_eq (h : ReadAlike text text') (symbols : Symbols) :
    collect symbols (trim text) = collect symbols (trim text') := by
  rw [collect, (readAlike_trim text).assigned, h.assigned, ← (readAlike_trim text').assigned,
    ← collect]

/-- The same is read from two lines. -/
def LinesAlike (line line' : List Char) : Prop :=
  ReadAlike (uncommented line) (uncommented line')

theorem LinesAlike.refl (line : List Char) : LinesAlike line line :=
  ReadAlike.refl _

/-- Scripts whose lines read alike have the same table. -/
theorem symbolsFrom_congr {lines lines' : List (List Char)}
    (h : List.Forall₂ LinesAlike lines lines') (region : Region) (table : Symbols) :
    symbolsFrom region table (lines.map codeOf) = symbolsFrom region table (lines'.map codeOf) := by
  induction h generalizing region table with
  | nil => rfl
  | cons hline _ ih =>
    rw [List.map_cons, List.map_cons, symbolsFrom, symbolsFrom, codeOf_eq_trim, codeOf_eq_trim,
      ReadAlike.step_eq hline, ReadAlike.collect_eq hline]
    exact ih _ _

/-- Whether the end of a line is told by a carriage return too, and whether the last line is ended,
makes no difference. -/
theorem symbolsFrom_endLines (parts : List (List Char)) (region : Region) (table : Symbols) :
    symbolsFrom region table ((endLines parts).map codeOf) =
      symbolsFrom region table (parts.map codeOf) := by
  induction parts generalizing region table with
  | nil => rfl
  | cons part parts ih =>
    cases parts with
    | cons next parts =>
      rw [endLines_cons (List.cons_ne_nil _ _), List.map_cons, List.map_cons, symbolsFrom,
        symbolsFrom, codeOf_chomp]
      exact ih _ _
    | nil =>
      cases part with
      | cons c part => rfl
      | nil =>
        -- An empty line assigns nothing, wherever it stands.
        show table = symbolsFrom region table [codeOf []]
        rw [symbolsFrom]
        obtain ⟨next, belongs⟩ := region.step (codeOf [])
        cases belongs <;> rfl

theorem symbols_eq_symbolsFrom_pieces (script : List Char) :
    symbols script = symbolsFrom .outside .empty ((pieces '\n' script).map codeOf) := by
  rw [symbols, terminated, symbolsFrom_endLines]

end ManifestSarif.Gradle
