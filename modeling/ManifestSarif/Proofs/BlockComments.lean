import ManifestSarif.Proofs.JoinedLines
import ManifestSarif.Proofs.Readings
import Mathlib.Data.List.Forall2

/-!
# Block comments

A `/* ... */` that a line of a script closes is not read.  One that goes on over several lines is:
its marks mean nothing then, and the lines between them are lines of the script.

* `LeadsIn` says that a comment may start behind a text, and `Silent` that nothing is read from a
  text.
* `SpansLines` are comments over several lines of which the first and the last line are not read;
  `inner_lines_are_code`: the other lines are.
* `Harmless` are the comments that are not read, or read without effect;
  `harmless_comment_is_blank`: white space may stand in their place.
* `comment_is_blank_but_for_inner_lines` is the result for both.
-/

namespace ManifestSarif.Gradle

open Text

variable {text lead body trail code front back first last : List Char} {c : Char}
  {inner inner' init more : List (List Char)}

/-! ## Before a comment, and in one -/

/-- The text has no `//`, every comment in it is closed, no value is open at its end, and `code` is
what is left of it without the comments. -/
structure LeadsIn (text code : List Char) : Prop where
  strips : Strips text code
  no_slashes : ¬['/', '/'] <:+: text
  no_slash_last : text.getLast? ≠ some '/'
  not_pending : ¬Pending code

theorem LeadsIn.uncommented_append (h : LeadsIn lead code) (trail : List Char) :
    uncommented (lead ++ trail) = code ++ uncommented trail := by
  rw [uncommented, beforeLineComment_append h.no_slashes (Or.inl h.no_slash_last),
    h.strips.stripped_append (Or.inl h.no_slash_last), ← uncommented]

/-- A comment may start behind a text without any mark of a comment and without an `=`. -/
theorem leadsIn_self (hopens : ¬['/', '*'] <:+: text) (hslashes : ¬['/', '/'] <:+: text)
    (hlast : text.getLast? ≠ some '/') (hequals : '=' ∉ text) : LeadsIn text text :=
  ⟨strips_self hopens, hslashes, hlast, not_pending_of_not_mem hequals⟩

theorem leadsIn_blanks (h : Blanks text) : LeadsIn text text := by
  have hslash : '/' ∉ text := not_mem_of_blanks h (by decide)
  exact leadsIn_self (fun hopens => hslash (hopens.subset List.mem_cons_self))
    (fun hslashes => hslash (hslashes.subset List.mem_cons_self))
    (fun hlast => hslash (List.mem_of_getLast? hlast)) (not_mem_of_blanks h (by decide))

/-- No line defines anything with the text, or opens or closes a block with it. -/
structure Silent (text : List Char) : Prop where
  not_namesExt : ¬NamesExt text
  open_not_mem : '\x7b' ∉ text
  close_not_mem : '\x7d' ∉ text
  defines_nothing : Defines text none

instance : DecidablePred Silent := fun text =>
  decidable_of_iff (¬NamesExt text ∧ '\x7b' ∉ text ∧ '\x7d' ∉ text ∧ assignment? text = none)
    ⟨fun h => ⟨h.1, h.2.1, h.2.2.1, defines_iff.2 h.2.2.2⟩,
      fun h => ⟨h.1, h.2, h.3, defines_iff.1 h.4⟩⟩

theorem Silent.assignmentFrom?_eq (h : Silent text) : assignmentFrom? false text = none :=
  Option.map_eq_none_iff.1 (defines_iff.1 h.defines_nothing)

/-- A silent text is read like no text at all. -/
theorem Silent.readAlike_nil (h : Silent text) : ReadAlike text [] where
  names := iff_of_false h.not_namesExt (not_namesExt_of_blanks blanks_nil)
  brace := iff_of_false h.open_not_mem List.not_mem_nil
  leads := by
    refine iff_of_false (fun hhead => h.open_not_mem ?_) (by decide)
    exact (List.dropWhile_suffix _).subset (List.mem_of_head? hhead)
  balance := braceBalance_eq_zero h.open_not_mem h.close_not_mem
  assigned := assignment?_congr h.assignmentFrom?_eq

/-- What comes before a `//` in a silent text is silent. -/
theorem Silent.beforeLineComment (h : Silent text) : Silent (beforeLineComment text) := by
  obtain ⟨rest, heq, hrest⟩ := exists_beforeLineComment text
  have hsubset : Gradle.beforeLineComment text ⊆ text :=
    fun c hc => heq ▸ List.mem_append_left rest hc
  refine ⟨fun hnames => h.not_namesExt ?_, fun hmem => h.open_not_mem (hsubset hmem),
    fun hmem => h.close_not_mem (hsubset hmem), .nothing fun before name value hassigns => ?_⟩
  · have hapart : WordsApart (Gradle.beforeLineComment text) rest := by
      rcases hrest with rfl | ⟨after, rfl⟩
      · exact Or.inr (by simp)
      · exact Or.inr fun c hc => by cases hc; decide
    rw [heq]
    exact (namesExt_append_iff hapart).2 (Or.inl hnames)
  · obtain ⟨-⟩ | hnone := h.defines_nothing
    refine hnone before name value ?_
    rw [heq]
    exact hassigns.append rest

/-! ## Lines with a part of a comment -/

theorem uncommented_of_no_end (h : ¬['*', '/'] <:+: text) :
    uncommented text = beforeLineComment text := by
  refine stripped_eq_self fun hcloses => h ?_
  obtain ⟨rest, heq, -⟩ := exists_beforeLineComment text
  rw [heq]
  exact hcloses.trans ((List.drop_suffix 2 _).isInfix.trans (List.prefix_append _ rest).isInfix)

/-- A silent line without the end of a comment is read like no text at all. -/
theorem Silent.uncommented_readAlike_nil (h : Silent text) (hend : ¬['*', '/'] <:+: text) :
    ReadAlike (uncommented text) [] := by
  rw [uncommented_of_no_end hend]
  exact h.beforeLineComment.readAlike_nil

theorem uncommented_comment_append (hend : ¬['*', '/'] <:+: body) (hslashes : ¬['/', '/'] <:+: body)
    (htrail : trail.head? ≠ some '/') :
    uncommented (comment body ++ trail) = uncommented trail := by
  have hbefore : beforeLineComment (comment body ++ trail) =
      comment body ++ beforeLineComment trail := by
    show beforeLineComment (['/', '*'] ++ (body ++ ['*', '/']) ++ trail) = _
    rw [List.append_assoc, List.append_assoc, beforeLineComment_append (by decide)
      (Or.inl (by decide)), beforeLineComment_append hslashes (Or.inr (by simp)),
      beforeLineComment_append (by decide) (Or.inr htrail)]
    simp [comment]
  rw [uncommented, hbefore, stripped_comment_append hend, ← uncommented]

/-- What is read from two texts with a mark between them, of which the first opens no value. -/
theorem namesExt_append_mark (hc : Stops c) :
    NamesExt (text ++ c :: trail) ↔ NamesExt text ∨ NamesExt trail := by
  have halone : ¬NamesExt [c] :=
    not_hasWord_of_forall (by simpa using hc.1) (List.cons_ne_nil _ _) isWord_of_mem_ext
  have hrest : NamesExt (c :: trail) ↔ NamesExt trail := by
    rw [← List.singleton_append, namesExt_append_iff (Or.inl fun d hd => by cases hd; exact hc.1),
      or_iff_right halone]
  rw [namesExt_append_iff (Or.inr fun d hd => by cases hd; exact hc.1), hrest]

/-- Behind a text that opens no value, a mark and a silent text are not read. -/
theorem Silent.readAlike_append_mark (h : Silent trail) (hopen : ¬Pending text) (hc : Stops c)
    (hbrace : c ≠ '\x7b' ∧ c ≠ '\x7d') : ReadAlike (text ++ c :: trail) text where
  names := by rw [namesExt_append_mark hc, or_iff_left h.not_namesExt]
  brace := by simp [hbrace.1.symm, h.open_not_mem]
  leads := by
    by_cases hblank : Blanks text
    · rw [trimStart_append hblank, trimStart_of_blanks hblank,
        trimStart_eq_self fun d hd => by cases hd; exact hc.2.1]
      simp [hbrace.1]
    · rw [head?_trimStart_append hblank]
  balance := by
    have hzero : braceBalance (c :: trail) = 0 := braceBalance_eq_zero
      (by simp [hbrace.1.symm, h.open_not_mem]) (by simp [hbrace.2.symm, h.close_not_mem])
    rw [braceBalance_append, hzero, Int.add_zero]
  assigned := assignment?_congr (by
    rw [assignmentFrom?_append_stop hc hopen, h.assignmentFrom?_eq, Option.or_none])

/-- Before a text that does not start with a brace, a silent text and a mark are not read. -/
theorem Silent.readAlike_mark_append (h : Silent text) (hopen : ¬Pending text) (hc : Stops c)
    (hbrace : c ≠ '\x7b' ∧ c ≠ '\x7d') (hleads : (trimStart trail).head? ≠ some '\x7b') :
    ReadAlike (text ++ c :: trail) trail where
  names := by rw [namesExt_append_mark hc, or_iff_right h.not_namesExt]
  brace := by simp [hbrace.1.symm, h.open_not_mem]
  leads := by
    refine iff_of_false ?_ hleads
    by_cases hblank : Blanks text
    · rw [trimStart_append hblank, trimStart_eq_self fun d hd => by cases hd; exact hc.2.1]
      simp [hbrace.1]
    · rw [head?_trimStart_append hblank]
      exact mt h.readAlike_nil.leads.1 (by decide)
  balance := by
    have hzero : braceBalance [c] = 0 :=
      braceBalance_eq_zero (by simp [hbrace.1.symm]) (by simp [hbrace.2.symm])
    have hrest : braceBalance ([c] ++ trail) = braceBalance trail := by
      rw [braceBalance_append, hzero, Int.zero_add]
    rw [braceBalance_append, braceBalance_eq_zero h.open_not_mem h.close_not_mem, Int.zero_add,
      ← hrest, List.singleton_append]
  assigned := assignment?_congr (by
    rw [assignmentFrom?_append_stop hc hopen, h.assignmentFrom?_eq, Option.none_or])

theorem silent_nil : Silent [] :=
  ⟨not_namesExt_of_blanks blanks_nil, List.not_mem_nil, List.not_mem_nil, defines_iff.2 rfl⟩

theorem Silent.mark_cons (h : Silent text) (hc : Stops c) (hbrace : c ≠ '\x7b' ∧ c ≠ '\x7d') :
    Silent (c :: text) where
  not_namesExt := by
    rw [← List.nil_append (c :: text), namesExt_append_mark hc]
    exact not_or_intro silent_nil.not_namesExt h.not_namesExt
  open_not_mem := by simp [hbrace.1.symm, h.open_not_mem]
  close_not_mem := by simp [hbrace.2.symm, h.close_not_mem]
  defines_nothing := by
    rw [defines_iff, assignment?, assignmentFrom?_cons_of_not_isWord hc.1, h.assignmentFrom?_eq]
    rfl

/-- The first line of a comment: its part of the comment is not read, if it is silent. -/
theorem readAlike_append_opening (hlead : LeadsIn lead code) (hsilent : Silent first)
    (hend : ¬['*', '/'] <:+: first) :
    ReadAlike (uncommented (lead ++ '/' :: '*' :: first)) code := by
  have hread : uncommented ('/' :: '*' :: first) = '/' :: '*' :: beforeLineComment first := by
    obtain ⟨rest, heq, -⟩ := exists_beforeLineComment first
    have hbefore :
        beforeLineComment ('/' :: '*' :: first) = '/' :: '*' :: beforeLineComment first :=
      @beforeLineComment_append ['/', '*'] first (by decide) (Or.inl (by decide))
    rw [uncommented, hbefore]
    refine stripped_eq_self fun hcloses => hend ?_
    rw [heq]
    exact hcloses.trans (List.prefix_append _ rest).isInfix
  rw [hlead.uncommented_append, hread]
  exact (hsilent.beforeLineComment.mark_cons (by decide) (by decide)).readAlike_append_mark
    hlead.not_pending (by decide) (by decide)

/-- The last line of a comment: its part of the comment is not read, if it is silent. -/
theorem readAlike_closing_append (hlast : LeadsIn last last) (hsilent : Silent last)
    (htrail : trail.head? ≠ some '/' ∧ trail.head? ≠ some '*')
    (hleads : (trimStart (uncommented trail)).head? ≠ some '\x7b') :
    ReadAlike (uncommented (last ++ '*' :: '/' :: trail)) (uncommented trail) := by
  have hread : uncommented ('*' :: '/' :: trail) = '*' :: '/' :: uncommented trail := by
    have hbefore :
        beforeLineComment ('*' :: '/' :: trail) = '*' :: '/' :: beforeLineComment trail :=
      @beforeLineComment_append ['*', '/'] trail (by decide) (Or.inr htrail.1)
    have hhead : (beforeLineComment trail).head? ≠ some '*' := by
      obtain ⟨rest, heq, -⟩ := exists_beforeLineComment trail
      refine fun hstar => htrail.2 ?_
      rw [heq, List.head?_append, hstar, Option.some_or]
    rw [uncommented, hbefore]
    exact (@strips_self ['*', '/'] (by decide)).stripped_append (Or.inr hhead)
  rw [hlast.uncommented_append, hread]
  have hslash : (trimStart ('/' :: uncommented trail)).head? ≠ some '\x7b' := by
    rw [trimStart_eq_self fun d hd => by cases hd; decide]
    exact fun heq => absurd (Option.some.inj heq) (by decide)
  refine (hsilent.readAlike_mark_append hlast.not_pending (by decide) (by decide) hslash).trans ?_
  exact silent_nil.readAlike_mark_append (not_pending_of_not_mem List.not_mem_nil) (by decide)
    (by decide) hleads

theorem uncommented_append_of_slashes (h : ['/', '/'] <:+: lead) (trail : List Char) :
    uncommented (lead ++ trail) = uncommented lead := by
  rw [uncommented, beforeLineComment_append_of_slashes h, ← uncommented]

theorem uncommented_of_blanks (h : Blanks text) : uncommented text = text := by
  rw [← List.append_nil text, (leadsIn_blanks h).uncommented_append]
  rfl

/-! ## White space in the place of a comment -/

/-- White space in the place of the character, unless it ends a line. -/
def blanked (c : Char) : Char :=
  if c = '\n' ∨ c = '\r' then c else ' '

theorem blanked_eq_newline_iff (c : Char) : blanked c = '\n' ↔ c = '\n' := by
  rw [blanked]
  split
  · rfl
  · next h => simp_all

theorem blanks_map_blanked (text : List Char) : Blanks (text.map blanked) := by
  intro c hc
  obtain ⟨d, -, rfl⟩ := List.mem_map.1 hc
  rw [blanked]
  split
  · next h => rcases h with rfl | rfl <;> decide
  · decide

theorem not_mem_map_blanked (h : '\n' ∉ text) : '\n' ∉ text.map blanked := by
  intro hmem
  obtain ⟨c, hc, heq⟩ := List.mem_map.1 hmem
  exact h ((blanked_eq_newline_iff c).1 heq ▸ hc)

theorem not_mem_comment (h : '\n' ∉ body) : '\n' ∉ comment body := by
  simpa [comment] using h

/-! ## Comments in a script -/

/-- A text in the place of another one on one line does not matter, if the line reads alike. -/
theorem symbols_congr_line {mid mid' : List Char} (hmid : '\n' ∉ mid) (hmid' : '\n' ∉ mid')
    (h : LinesAlike (lastLine front ++ mid ++ firstLine back)
      (lastLine front ++ mid' ++ firstLine back)) :
    symbols (front ++ mid ++ back) = symbols (front ++ mid' ++ back) := by
  obtain ⟨init, hfront⟩ := exists_pieces_lastLine front
  obtain ⟨more, hback⟩ := exists_pieces_firstLine back
  rw [symbols_eq_symbolsFrom_pieces, symbols_eq_symbolsFrom_pieces,
    pieces_append (pieces_append hfront (pieces_eq_singleton hmid)) hback,
    pieces_append (pieces_append hfront (pieces_eq_singleton hmid')) hback]
  refine symbolsFrom_congr (List.rel_append ?_ (.cons h ?_)) _ _
  · exact List.forall₂_same.2 fun line _ => .refl _
  · exact List.forall₂_same.2 fun line _ => .refl _

/-- A text in the place of another one on several lines does not matter, if the lines read alike. -/
theorem symbols_congr_lines {mid mid' first' last' : List Char}
    (hmid : pieces '\n' mid = first :: inner ++ [last])
    (hmid' : pieces '\n' mid' = first' :: inner' ++ [last'])
    (hfirst : LinesAlike (lastLine front ++ first) (lastLine front ++ first'))
    (hinner : List.Forall₂ LinesAlike inner inner')
    (hlast : LinesAlike (last ++ firstLine back) (last' ++ firstLine back)) :
    symbols (front ++ mid ++ back) = symbols (front ++ mid' ++ back) := by
  obtain ⟨init, hfront⟩ := exists_pieces_lastLine front
  obtain ⟨more, hback⟩ := exists_pieces_firstLine back
  have hopens : ∀ {mid first inner last}, pieces '\n' mid = first :: inner ++ [last] →
      pieces '\n' (front ++ mid) = (init ++ (lastLine front ++ first) :: inner) ++ [last] :=
    fun hmid => by rw [pieces_append hfront hmid]; simp
  rw [symbols_eq_symbolsFrom_pieces, symbols_eq_symbolsFrom_pieces,
    pieces_append (hopens hmid) hback, pieces_append (hopens hmid') hback]
  refine symbolsFrom_congr (List.rel_append (List.rel_append ?_ (.cons hfirst hinner))
    (.cons hlast ?_)) _ _
  · exact List.forall₂_same.2 fun line _ => .refl _
  · exact List.forall₂_same.2 fun line _ => .refl _

/-- The lines of a comment that starts and ends on different lines. -/
theorem exists_pieces_of_mem (h : '\n' ∈ body) :
    ∃ inner, pieces '\n' body = firstLine body :: inner ++ [lastLine body] ∧
      pieces '\n' (comment body) =
        ('/' :: '*' :: firstLine body) :: inner ++ [lastLine body ++ ['*', '/']] := by
  obtain ⟨init, hinit⟩ := exists_pieces_lastLine body
  cases init with
  | nil =>
    have hlength := length_pieces '\n' body
    rw [hinit, List.length_append, List.length_nil, List.length_singleton] at hlength
    have hpos := List.count_pos_iff.2 h
    omega
  | cons first inner =>
    have hopening : pieces '\n' ['/', '*'] = [] ++ [['/', '*']] := pieces_eq_singleton (by decide)
    have hclosing : pieces '\n' ['*', '/'] = [['*', '/']] := pieces_eq_singleton (by decide)
    have hbody : pieces '\n' ('/' :: '*' :: body) =
        ('/' :: '*' :: first) :: inner ++ [lastLine body] := pieces_append hopening hinit
    rw [firstLine_eq hinit]
    exact ⟨inner, hinit, pieces_append hbody hclosing⟩

/-- A comment over several lines, between the text of its first line before it and the text of its
last line behind it: it starts in code or behind a `//`, its first and its last line are silent, it
ends in code, makes no `//` or `/*` with what follows, and no brace follows first. -/
structure SpansLines (lead body trail : List Char) : Prop where
  leads_in : ['/', '/'] <:+: lead ∨ ∃ code, LeadsIn lead code
  silent_first : Silent (firstLine body)
  silent_last : Silent (lastLine body)
  last_leads_in : LeadsIn (lastLine body) (lastLine body)
  no_mark_behind : trail.head? ≠ some '/' ∧ trail.head? ≠ some '*'
  no_brace_behind : (trimStart (uncommented trail)).head? ≠ some '\x7b'

/-- A comment that is not read, or from which nothing is read:
* it stands on one line behind a `//`,
* it stands on one line in code, holds no `//`, makes none with what follows, and keeps no words
  apart,
* or it goes on over several lines, of which each is silent. -/
inductive Harmless (lead body trail : List Char) : Prop where
  | behindSlashes (hline : '\n' ∉ body) (hslashes : ['/', '/'] <:+: lead)
  | onLine {code : List Char} (hline : '\n' ∉ body) (hlead : LeadsIn lead code)
      (hslashes : ¬['/', '/'] <:+: body) (htrail : trail.head? ≠ some '/')
      (hapart : WordsApart code (uncommented trail))
  | overLines (hlines : '\n' ∈ body) (hspans : SpansLines lead body trail)
      (hsilent : ∀ line ∈ pieces '\n' body, Silent line)

theorem SpansLines.linesAlike_first (h : SpansLines lead body trail)
    (hend : ¬['*', '/'] <:+: firstLine body) :
    LinesAlike (lead ++ '/' :: '*' :: firstLine body)
      (lead ++ ('/' :: '*' :: firstLine body).map blanked) := by
  have hblanks := blanks_map_blanked ('/' :: '*' :: firstLine body)
  rcases h.leads_in with hslashes | ⟨code, hlead⟩
  · rw [LinesAlike, uncommented_append_of_slashes hslashes, uncommented_append_of_slashes hslashes]
    exact .refl _
  · rw [LinesAlike, hlead.uncommented_append (List.map _ _), uncommented_of_blanks hblanks]
    exact (readAlike_append_opening hlead h.silent_first hend).trans
      (readAlike_append_blanks hblanks code).symm

theorem SpansLines.linesAlike_last (h : SpansLines lead body trail) :
    LinesAlike (lastLine body ++ ['*', '/'] ++ trail)
      ((lastLine body ++ ['*', '/']).map blanked ++ trail) := by
  have hblanks := blanks_map_blanked (lastLine body ++ ['*', '/'])
  rw [LinesAlike, (leadsIn_blanks hblanks).uncommented_append, List.append_assoc]
  exact (readAlike_closing_append h.last_leads_in h.silent_last h.no_mark_behind
    h.no_brace_behind).trans (readAlike_blanks_append hblanks _).symm

/-- Of a comment over several lines only the first and the last line are not read.  The lines
between them are read like those of any script. -/
theorem inner_lines_are_code {inner : List Char} (hfirst : '\n' ∉ first) (hlast : '\n' ∉ last)
    (hbody : body = first ++ '\n' :: (inner ++ '\n' :: last)) (hend : ¬['*', '/'] <:+: body)
    (h : SpansLines (lastLine front) body (firstLine back)) :
    symbols (front ++ comment body ++ back) =
      symbols (front ++ (('/' :: '*' :: first).map blanked ++
        '\n' :: (inner ++ '\n' :: (last ++ ['*', '/']).map blanked)) ++ back) := by
  have hpieces := pieces_of_lines hfirst hlast inner
  rw [← hbody] at hpieces
  have hclosing : '\n' ∉ last ++ ['*', '/'] := by simpa using hlast
  have hopening : '\n' ∉ '/' :: '*' :: first := by simpa using hfirst
  have hcomment : comment body =
      '/' :: '*' :: first ++ '\n' :: (inner ++ '\n' :: (last ++ ['*', '/'])) := by
    simp [comment, hbody]
  have halike := h.linesAlike_first fun hcloses =>
    hend (hcloses.trans (infix_of_mem_pieces (firstLine_mem body)))
  have halike' := h.linesAlike_last
  rw [firstLine_eq hpieces] at halike
  rw [lastLine_eq hpieces] at halike'
  rw [hcomment]
  exact symbols_congr_lines (pieces_of_lines hopening hclosing inner)
    (pieces_of_lines (not_mem_map_blanked hopening) (not_mem_map_blanked hclosing) inner)
    halike (List.forall₂_same.2 fun line _ => .refl line) halike'

/-- White space in the place of a harmless comment, with line ends as they are, leaves the table
of a script as it is. -/
theorem harmless_comment_is_blank (hend : ¬['*', '/'] <:+: body)
    (h : Harmless (lastLine front) body (firstLine back)) :
    symbols (front ++ comment body ++ back) =
      symbols (front ++ (comment body).map blanked ++ back) := by
  have hblanks := blanks_map_blanked (comment body)
  cases h with
  | behindSlashes hline hslashes =>
    have hfeed := not_mem_comment hline
    refine symbols_congr_line hfeed (not_mem_map_blanked hfeed) ?_
    rw [List.append_assoc, List.append_assoc, LinesAlike, uncommented_append_of_slashes hslashes,
      uncommented_append_of_slashes hslashes]
    exact .refl _
  | onLine hline hlead hslashes htrail hapart =>
    have hfeed := not_mem_comment hline
    refine symbols_congr_line hfeed (not_mem_map_blanked hfeed) ?_
    rw [List.append_assoc, List.append_assoc, LinesAlike, hlead.uncommented_append,
      hlead.uncommented_append, uncommented_comment_append hend hslashes htrail,
      (leadsIn_blanks hblanks).uncommented_append]
    exact (readAlike_insert_blanks hblanks hapart hlead.not_pending).symm
  | overLines hlines hspans hsilent =>
    obtain ⟨inner, hbody, hcomment⟩ := exists_pieces_of_mem hlines
    have hpiece : ∀ line ∈ firstLine body :: inner, line ∈ pieces '\n' body :=
      fun line hmem => hbody ▸ List.mem_append_left _ hmem
    have hends : ∀ line ∈ firstLine body :: inner, ¬['*', '/'] <:+: line :=
      fun line hmem hcloses => hend (hcloses.trans (infix_of_mem_pieces (hpiece line hmem)))
    have hblanked := pieces_map blanked_eq_newline_iff (comment body)
    rw [hcomment, List.map_append, List.map_cons, List.map_singleton] at hblanked
    refine symbols_congr_lines hcomment hblanked
      (hspans.linesAlike_first (hends _ List.mem_cons_self)) ?_ hspans.linesAlike_last
    refine List.forall₂_map_right_iff.2 (List.forall₂_same.2 fun line hmem => ?_)
    have hline := List.mem_cons_of_mem (firstLine body) hmem
    have hblank := blanks_map_blanked line
    rw [LinesAlike, uncommented_of_blanks hblank]
    exact ((hsilent line (hpiece line hline)).uncommented_readAlike_nil (hends line hline)).trans
      (readAlike_append_blanks hblank []).symm

/-- White space in the place of a comment, with line ends as they are, leaves the table of a script
as it is, if the comment is harmless.  Of any other comment over several lines, whose first and last
line are not read, it does so only in the place of these two lines: the lines between them are read
like those of any script. -/
theorem comment_is_blank_but_for_inner_lines (hend : ¬['*', '/'] <:+: body) :
    (Harmless (lastLine front) body (firstLine back) →
      symbols (front ++ comment body ++ back) =
        symbols (front ++ (comment body).map blanked ++ back)) ∧
    ∀ first inner last, '\n' ∉ first → '\n' ∉ last →
      body = first ++ '\n' :: (inner ++ '\n' :: last) →
      SpansLines (lastLine front) body (firstLine back) →
      symbols (front ++ comment body ++ back) =
        symbols (front ++ (('/' :: '*' :: first).map blanked ++
          '\n' :: (inner ++ '\n' :: (last ++ ['*', '/']).map blanked)) ++ back) :=
  ⟨harmless_comment_is_blank hend, fun _ _ _ hfirst hlast hbody =>
    inner_lines_are_code hfirst hlast hbody hend⟩

/-- A block on lines of its own in a comment defines what it says, and so does a statement before a
`//` in a comment on one line. -/
theorem commented_text_defines :
    ¬['*', '/'] <:+: "\next \x7b a = 'x' \x7d\n".toList ∧
    symbols ([] ++ comment "\next \x7b a = 'x' \x7d\n".toList ++ ['\n']) =
      ⟨[("a".toList, "x".toList)]⟩ ∧
    symbols ([] ++ (comment "\next \x7b a = 'x' \x7d\n".toList).map blanked ++ ['\n']) = ⟨[]⟩ ∧
    ¬['*', '/'] <:+: "ext a = 'x' // ".toList ∧
    symbols ([] ++ comment "ext a = 'x' // ".toList ++ ['\n']) = ⟨[("a".toList, "x".toList)]⟩ ∧
    symbols ([] ++ (comment "ext a = 'x' // ".toList).map blanked ++ ['\n']) = ⟨[]⟩ := by
  decide +kernel

/-! ## A sample -/

namespace Sample

/-- A script up to a comment. -/
def codeFront : List Char :=
  "ext \x7b\n  a = 'one'\n  ".toList

/-- The text of a comment over three lines, with nothing to read. -/
def silentBody : List Char :=
  " don't use\n  b = two // or three\n  here ".toList

/-- The text of a comment over three lines, of which the second has an assignment. -/
def codeBody : List Char :=
  " before:\n  b = 'two'\n ".toList

/-- The script behind the comment. -/
def codeBack : List Char :=
  " c = 'four'\n\x7d\n".toList

theorem spansLines_silentBody :
    SpansLines (lastLine codeFront) silentBody (firstLine codeBack) where
  leads_in := Or.inr ⟨_, leadsIn_self (by decide) (by decide) (by decide) (by decide)⟩
  silent_first := by decide +kernel
  silent_last := by decide +kernel
  last_leads_in := leadsIn_self (by decide) (by decide) (by decide) (by decide)
  no_mark_behind := by decide
  no_brace_behind := by decide

theorem spansLines_codeBody : SpansLines (lastLine codeFront) codeBody (firstLine codeBack) where
  leads_in := Or.inr ⟨_, leadsIn_self (by decide) (by decide) (by decide) (by decide)⟩
  silent_first := by decide +kernel
  silent_last := by decide +kernel
  last_leads_in := leadsIn_self (by decide) (by decide) (by decide) (by decide)
  no_mark_behind := by decide
  no_brace_behind := by decide

end Sample

/-- Nothing is read from the one comment, and the second line is from the other. -/
theorem sample_comments_are_blank_but_for_inner_line :
    symbols (Sample.codeFront ++ comment Sample.silentBody ++ Sample.codeBack) =
      symbols (Sample.codeFront ++ (comment Sample.silentBody).map blanked ++ Sample.codeBack) ∧
    symbols (Sample.codeFront ++ comment Sample.silentBody ++ Sample.codeBack) =
      ⟨[("a".toList, "one".toList), ("c".toList, "four".toList)]⟩ ∧
    symbols (Sample.codeFront ++ comment Sample.codeBody ++ Sample.codeBack) =
      symbols (Sample.codeFront ++ (List.replicate 10 ' ' ++
        '\n' :: ("  b = 'two'".toList ++ '\n' :: List.replicate 3 ' ')) ++ Sample.codeBack) ∧
    symbols (Sample.codeFront ++ comment Sample.codeBody ++ Sample.codeBack) =
      ⟨[("a".toList, "one".toList), ("b".toList, "two".toList), ("c".toList, "four".toList)]⟩ := by
  refine ⟨?_, by decide +kernel, ?_, by decide +kernel⟩
  · exact (comment_is_blank_but_for_inner_lines (by decide)).1
      (.overLines (by decide) Sample.spansLines_silentBody (by decide +kernel))
  · exact (comment_is_blank_but_for_inner_lines (by decide)).2 " before:".toList _ [' '] (by decide)
      (by decide) rfl Sample.spansLines_codeBody

end ManifestSarif.Gradle
