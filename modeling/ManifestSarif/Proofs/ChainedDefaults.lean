import ManifestSarif.Proofs.Expansion
import ManifestSarif.Proofs.LineNumbers
import ManifestSarif.Proofs.VariableTables

/-!
# Defaults that refer to other defaults

The default of a variable may refer to other variables.  The variables are replaced in the order in
which they were first given a default, each of them once.  So a reference that a default brings into
the text is replaced if it is to a later variable, and stays there if it is to an earlier one or to
the variable itself.

* `Closed` is the invariant of a pass under which no reference in braces comes into being but as a
  part of a value; `Closed.cases_of_suffix` says where a `$` of the result has its reference from.
* `Closed.replaceAll` carries it through a pass, and `Closed.mem_within_replaceAll` says which
  references in braces are there after the pass.
* `not_mem_within_substitute` and `mem_within_substitute` are the two sides for a table: which
  references in braces are gone after all passes, and which are left by a default that refers back.
* `Dockerfile.declarations` are the defaults as they are declared, and `backReferences_of_inOrder`
  that defaults that only refer to earlier ones refer back.
* `chained_defaults_resolve_unless_referring_back` is the result for the lines of a container file.
-/

namespace ManifestSarif

open Text

/-! ## Where references in braces come from -/

namespace Reference

/-- No value comes into a reference in braces that is not closed yet: a `$` that no word character
follows, or the brace and the word that it opens, has no other `$` right behind it. -/
def Closed (text : List Char) : Prop :=
  ∀ rest, '$' :: rest <:+ text → rest.head?.any isWord = false →
    (Opening.of rest).after.head? ≠ some '$'

variable {value? : Reference → Option (List Char)} {text : List Char} {r : Reference}

instance : Decidable (Closed text) :=
  decidableBehindDollars text

/-- A pass keeps word characters, so if none follows a `$` afterwards, none did before. -/
theorem Closed.head?_after_ne (h : Closed text) {rest : List Char} (hrest : '$' :: rest <:+ text)
    (hhead : (replaceAll value? 0 rest).head?.any isWord = false) :
    (Opening.of rest).after.head? ≠ some '$' := by
  refine h rest hrest ?_
  cases rest with
  | nil => rfl
  | cons c rest =>
    by_cases hc : c = '$'
    · rw [hc, List.head?_cons, Option.any_some]
      decide
    · rwa [replaceAll_cons (by rw [at?_cons_of_ne hc, Option.bind_none])] at hhead

/-- A `$` after a pass that no word character follows makes a reference that it made in the text
before and that has no value, or one that it makes in a value. -/
theorem Closed.cases_of_suffix (h : Closed text)
    (hvalues : ∀ r value, value? r = some value → Closed (value ++ ['$'])) {inner : List Char}
    (hinner : '$' :: inner <:+ replaceAll value? 0 text)
    (hhead : inner.head?.any isWord = false) :
    (Opening.of inner).after.head? ≠ some '$' ∧
    ((∃ rest, '$' :: rest <:+ text ∧ at? ('$' :: rest) = at? ('$' :: inner) ∧
        (at? ('$' :: inner)).bind value? = none) ∨
      ∃ r value rest, value? r = some value ∧ '$' :: rest <:+ value ∧
        at? ('$' :: rest) = at? ('$' :: inner)) := by
  rcases of_suffix_replaceAll hinner with
    ⟨rest, hrest, hkept, rfl⟩ | ⟨r, head, tail, after, hvalue, rfl⟩
  · obtain ⟨hne, hsame⟩ := of_replaceAll_of_ne (h.head?_after_ne hrest hhead)
    exact ⟨hne, Or.inl ⟨rest, hrest, hsame.symm, by rwa [hsame]⟩⟩
  · have hstart : (tail ++ ['$']).head?.any isWord = false := by
      cases tail with
      | nil => decide
      | cons c tail => exact hhead
    have hends := hvalues r _ hvalue (tail ++ ['$']) ⟨head, by simp⟩ hstart
    have hsame : at? ('$' :: tail ++ replaceAll value? 0 after) = at? ('$' :: tail) :=
      at?_append (fun _ => Opening.after_ne_nil hends) _
    exact ⟨Opening.head?_after_append hends _,
      Or.inr ⟨r, _, tail, hvalue, List.suffix_append _ _, hsame.symm⟩⟩

/-- A text that is closed is so after a pass whose values are closed, also before a `$`. -/
theorem Closed.replaceAll (h : Closed text)
    (hvalues : ∀ r value, value? r = some value → Closed (value ++ ['$'])) :
    Closed (replaceAll value? 0 text) :=
  fun _ hinner hhead => (h.cases_of_suffix hvalues hinner hhead).1

/-- A reference in braces after a pass was there before and has no value, or is part of a value. -/
theorem Closed.mem_within_replaceAll (h : Closed text)
    (hvalues : ∀ r value, value? r = some value → Closed (value ++ ['$']))
    (hbraces : r.inBraces = true) (hr : r ∈ within (Reference.replaceAll value? 0 text)) :
    (r ∈ within text ∧ value? r = none) ∨
      ∃ other value, value? other = some value ∧ r ∈ within value := by
  obtain ⟨inBraces, name⟩ := r
  obtain rfl : inBraces = true := hbraces
  obtain ⟨_, hsuffix, hat⟩ := mem_within_iff.1 hr
  obtain ⟨-, after, rfl, -⟩ := at?_eq_some hat
  have hhead : isWord '\x7b' = false := by decide
  rcases (h.cases_of_suffix hvalues hsuffix hhead).2 with
    ⟨rest, hrest, hsame, hnone⟩ | ⟨other, value, rest, hvalue, hrest, hsame⟩
  · have hkept : (at? (written ⟨true, name⟩ ++ after)).bind value? = none := hnone
    rw [hat, Option.bind_some] at hkept
    exact Or.inl ⟨mem_within_iff.2 ⟨_, hrest, hsame.trans hat⟩, hkept⟩
  · exact Or.inr ⟨other, value, hvalue, mem_within_iff.2 ⟨_, hrest, hsame.trans hat⟩⟩

/-- A pass keeps a reference in braces that has no value, whatever is around it. -/
theorem mem_within_replaceAll_of_kept (hbraces : r.inBraces = true) (h : r ∈ within text)
    (hnone : value? r = none) : r ∈ within (replaceAll value? 0 text) := by
  obtain ⟨rest, hrest, hat⟩ := mem_within_iff.1 h
  have hsuffix := replaceAll_suffix_of_at? value? hat hrest
  obtain ⟨hname, after, rfl, -⟩ := at?_eq_some hat
  rw [replaceAll_kept hat hnone] at hsuffix
  obtain ⟨inBraces, name⟩ := r
  obtain rfl : inBraces = true := hbraces
  exact mem_within_iff.2 ⟨_, hsuffix, at?_braced hname _⟩

/-- A pass puts the value of a reference where this was. -/
theorem value_infix_replaceAll (h : r ∈ within text) {value : List Char}
    (hvalue : value? r = some value) : value <:+: replaceAll value? 0 text := by
  obtain ⟨rest, hrest, hat⟩ := mem_within_iff.1 h
  have hsuffix := replaceAll_suffix_of_at? value? hat hrest
  obtain ⟨-, after, rfl, -⟩ := at?_eq_some hat
  rw [replaceAll_written hat hvalue] at hsuffix
  exact (List.prefix_append _ _).isInfix.trans hsuffix.isInfix

end Reference

/-! ## Tables of variables -/

namespace Symbols

open Reference

variable {text : List Char} {r : Reference} {entry : List Char × List Char}
  {entries : List (List Char × List Char)}

theorem closed_of_only {r : Reference} {value : List Char} (h : Closed (value ++ ['$'])) :
    ∀ other new, only r value other = some new → Closed (new ++ ['$']) := by
  intro other new hnew
  rwa [eq_of_only_eq_some hnew]

/-- A value that is closed keeps the text closed around it. -/
theorem closed_substituteOne (hentry : IsName entry.1)
    (hvalue : Closed (entry.2 ++ ['$'])) (h : Closed text) : Closed (substituteOne text entry) := by
  rw [substituteOne_eq hentry]
  exact (h.replaceAll (closed_of_only hvalue)).replaceAll (closed_of_only hvalue)

/-- After its own passes a variable is not referred to in braces, and no other one is that was not
before, except in the value. -/
theorem not_mem_within_substituteOne (hentry : IsName entry.1)
    (hvalue : Closed (entry.2 ++ ['$'])) (h : Closed text) (hbraces : r.inBraces = true)
    (habsent : r ∉ within entry.2) (hbefore : r = ⟨true, entry.1⟩ ∨ r ∉ within text) :
    r ∉ within (substituteOne text entry) := by
  rw [substituteOne_eq hentry]
  intro hr
  have hfirst := h.replaceAll (closed_of_only (r := ⟨true, entry.1⟩) hvalue)
  rcases hfirst.mem_within_replaceAll (closed_of_only hvalue) hbraces hr with
    ⟨hr, -⟩ | ⟨other, value, hnew, hr⟩
  · rcases h.mem_within_replaceAll (closed_of_only hvalue) hbraces hr with
      ⟨hr, hnone⟩ | ⟨other, value, hnew, hr⟩
    · rcases hbefore with rfl | hbefore
      · simp [only] at hnone
      · exact hbefore hr
    · exact habsent (eq_of_only_eq_some hnew ▸ hr)
  · exact habsent (eq_of_only_eq_some hnew ▸ hr)

/-- What is not referred to in braces stays so while values are put in that do not refer to it. -/
theorem not_mem_within_foldl
    (hnames : ∀ entry ∈ entries, IsName entry.1)
    (hvalues : ∀ entry ∈ entries, Closed (entry.2 ++ ['$'])) (h : Closed text)
    (hbraces : r.inBraces = true) (habsent : ∀ entry ∈ entries, r ∉ within entry.2)
    (hbefore : r ∉ within text) : r ∉ within (entries.foldl substituteOne text) := by
  induction entries generalizing text with
  | nil => exact hbefore
  | cons entry entries ih =>
    obtain ⟨hentry, hnames⟩ := List.forall_mem_cons.1 hnames
    obtain ⟨hvalue, hvalues⟩ := List.forall_mem_cons.1 hvalues
    obtain ⟨hhere, habsent⟩ := List.forall_mem_cons.1 habsent
    exact ih hnames hvalues (closed_substituteOne hentry hvalue h) habsent
      (not_mem_within_substituteOne hentry hvalue h hbraces hhere (Or.inr hbefore))

/-- Where no default refers back in braces, no variable of the table is referred to in braces after
all are replaced. -/
theorem not_mem_within_substitute {symbols : Symbols}
    (hnames : ∀ entry ∈ symbols.entries, IsName entry.1)
    (hvalues : ∀ entry ∈ symbols.entries, Closed (entry.2 ++ ['$'])) (h : Closed text)
    (hback : ∀ i, ∀ r ∈ symbols.backReferences i, r.inBraces = false) :
    ∀ entry ∈ symbols.entries, ⟨true, entry.1⟩ ∉ within (symbols.substitute text) := by
  obtain ⟨hlater, hself⟩ := forall_backReferences hback
  clear hback
  obtain ⟨entries⟩ := symbols
  rw [substitute]
  induction entries generalizing text with
  | nil => exact List.forall_mem_nil _
  | cons entry entries ih =>
    obtain ⟨hentry, hnames⟩ := List.forall_mem_cons.1 hnames
    obtain ⟨hvalue, hvalues⟩ := List.forall_mem_cons.1 hvalues
    obtain ⟨hown, hself⟩ := List.forall_mem_cons.1 hself
    obtain ⟨hahead, hlater⟩ := List.pairwise_cons.1 hlater
    have hclosed := closed_substituteOne hentry hvalue h
    have hgone : ⟨true, entry.1⟩ ∉ within (substituteOne text entry) := by
      refine not_mem_within_substituteOne hentry hvalue h rfl (fun hr => ?_) (Or.inl rfl)
      exact Bool.noConfusion (hown _ hr rfl)
    rw [List.foldl_cons]
    refine List.forall_mem_cons.2 ⟨?_, ih hclosed hnames hvalues hlater hself⟩
    refine not_mem_within_foldl hnames hvalues hclosed rfl (fun later hmem hr => ?_) hgone
    exact Bool.noConfusion (hahead later hmem _ hr rfl)

/-- The passes for other variables keep a reference in braces. -/
theorem mem_within_foldl
    (hnames : ∀ entry ∈ entries, IsName entry.1)
    (hbraces : r.inBraces = true) (hother : r.name ∉ entries.map (·.1)) (h : r ∈ within text) :
    r ∈ within (entries.foldl substituteOne text) := by
  induction entries generalizing text with
  | nil => exact h
  | cons entry entries ih =>
    obtain ⟨hentry, hnames⟩ := List.forall_mem_cons.1 hnames
    rw [List.map_cons, List.mem_cons, not_or] at hother
    have hnone : ∀ b, only ⟨b, entry.1⟩ entry.2 r = none := fun b =>
      if_neg fun heq => hother.1 (congrArg Reference.name heq)
    refine ih hnames hother.2 ?_
    rw [substituteOne_eq hentry]
    exact mem_within_replaceAll_of_kept hbraces
      (mem_within_replaceAll_of_kept hbraces h (hnone true)) (hnone false)

theorem mem_within_substituteOne (hentry : IsName entry.1)
    (hbraces : r.inBraces = true) (hr : r ∈ within entry.2) (h : ⟨true, entry.1⟩ ∈ within text) :
    r ∈ within (substituteOne text entry) := by
  rw [substituteOne_eq hentry]
  have hfirst : entry.2 <:+: replaceAll (only ⟨true, entry.1⟩ entry.2) 0 text :=
    value_infix_replaceAll h (if_pos rfl)
  refine mem_within_replaceAll_of_kept hbraces (mem_within_of_part hbraces hr hfirst) ?_
  exact if_neg fun heq => Bool.noConfusion (hbraces.symm.trans (congrArg Reference.inBraces heq))

/-- A reference that the default of a variable brings in is kept by the passes for this variable and
later ones, and the reference to this variable by those for earlier ones. -/
theorem mem_within_foldl_append {before after : List (List Char × List Char)}
    (hdistinct : ((before ++ entry :: after).map (·.1)).Nodup)
    (hnames : ∀ other ∈ before ++ entry :: after, IsName other.1)
    (hbraces : r.inBraces = true) (hr : r ∈ within entry.2)
    (hearlier : r.name ∈ (before ++ [entry]).map (·.1)) (h : ⟨true, entry.1⟩ ∈ within text) :
    r ∈ within ((before ++ entry :: after).foldl substituteOne text) := by
  obtain ⟨hbefore, hrest⟩ := List.forall_mem_append.1 hnames
  obtain ⟨hentry, hafter⟩ := List.forall_mem_cons.1 hrest
  have hsplit : before ++ entry :: after = (before ++ [entry]) ++ after := by simp
  obtain ⟨hfront, -, hapart⟩ : ((before ++ [entry]).map (·.1)).Nodup ∧ (after.map (·.1)).Nodup ∧
      ∀ first ∈ (before ++ [entry]).map (·.1), ∀ last ∈ after.map (·.1), first ≠ last := by
    rwa [hsplit, List.map_append, List.nodup_append] at hdistinct
  have hlater : r.name ∉ after.map (·.1) := fun hmem => hapart _ hearlier _ hmem rfl
  have hown : entry.1 ∉ before.map (·.1) := by
    rw [List.map_append, List.nodup_append] at hfront
    exact fun hmem => hfront.2.2 _ hmem _ (List.mem_singleton_self _) rfl
  have hused := mem_within_foldl (r := ⟨true, entry.1⟩) hbefore rfl hown h
  have hthere := mem_within_substituteOne hentry hbraces hr hused
  rw [List.foldl_append, List.foldl_cons]
  exact mem_within_foldl hafter hbraces hlater hthere

/-- Where a variable is referred to in braces whose default refers back in braces, the reference in
the default is there after all variables are replaced. -/
theorem mem_within_substitute {symbols : Symbols} (hdistinct : (symbols.entries.map (·.1)).Nodup)
    (hnames : ∀ entry ∈ symbols.entries, IsName entry.1)
    {i : Fin symbols.entries.length} (hr : r ∈ symbols.backReferences i)
    (hbraces : r.inBraces = true) (h : ⟨true, (symbols.entries.get i).1⟩ ∈ within text) :
    r ∈ within (symbols.substitute text) := by
  obtain ⟨entries⟩ := symbols
  obtain ⟨i, hi⟩ := i
  obtain ⟨hr, hback⟩ := List.mem_filter.1 hr
  have hsplit : entries = entries.take i ++ entries[i] :: entries.drop (i + 1) := by
    rw [List.getElem_cons_drop, List.take_append_drop]
  have hearlier : r.name ∈ (entries.take i ++ [entries[i]]).map (·.1) := by
    rw [List.take_concat_get']
    exact of_decide_eq_true hback
  rw [substitute]
  rw [hsplit] at hdistinct hnames
  have hthere := mem_within_foldl_append hdistinct hnames hbraces hr hearlier h
  rwa [← hsplit] at hthere

end Symbols

/-! ## Container files -/

namespace Dockerfile

/-- The variables that lines of the file give a default, each with it, from the first line to the
last. -/
def declarations (file : List Char) : List (List Char × List Char) :=
  (terminated file).filterMap declaration?

/-- Every default refers only to variables that an earlier declaration gives a default. -/
def InOrder (declared : List (List Char × List Char)) : Prop :=
  ∀ i : Fin declared.length, ∀ r ∈ Reference.within (declared.get i).2,
    r.name ∈ (declared.take i).map (·.1)

instance (declared : List (List Char × List Char)) : Decidable (InOrder declared) :=
  inferInstanceAs (Decidable (∀ _ : Fin _, _))

theorem symbols_eq_ofDefinitions (file : List Char) :
    symbols file = Symbols.ofDefinitions (declarations file) := by
  rw [symbols, declarations, Symbols.ofDefinitions, List.foldl_filterMap]
  congr 1
  funext table line
  rw [collect]
  cases declaration? line <;> rfl

/-- The names of the table are those that the lines declare, each of them once. -/
theorem names_symbols (file : List Char) :
    ((symbols file).entries.map (·.1)).Nodup ∧
      ∀ name, name ∈ (symbols file).entries.map (·.1) ↔ name ∈ (declarations file).map (·.1) := by
  rw [symbols_eq_ofDefinitions]
  have htable := Symbols.tabulates_ofDefinitions (declarations file)
  exact ⟨htable.names_nodup, fun _ => htable.mem_names_iff⟩

/-- Names that are declared once each are in the table as they are declared. -/
theorem entries_symbols {file : List Char} (h : ((declarations file).map (·.1)).Nodup) :
    (symbols file).entries = declarations file := by
  rw [symbols_eq_ofDefinitions, Symbols.ofDefinitions_of_nodup h]

/-- Where all defaults refer to earlier variables, and each is declared once, they all
refer back. -/
theorem backReferences_of_inOrder {file : List Char} (horder : InOrder (declarations file))
    (hdistinct : ((declarations file).map (·.1)).Nodup) (i : Fin (symbols file).entries.length) :
    (symbols file).backReferences i = Reference.within ((symbols file).entries.get i).2 := by
  rw [← entries_symbols hdistinct] at horder
  refine List.filter_eq_self.2 fun r hr => decide_eq_true ?_
  exact ((List.take_sublist_take_left (Nat.le_succ i)).map _).subset (horder i r hr)

end Dockerfile

/-! ## The result -/

/-- A container file whose variables are named by words, and what becomes of defaults that refer to
other variables.

If no default in force refers back in braces, to a variable that is replaced no later than its own,
and no `$` of the file or of such a default may get its brace or the name in it from what is put
behind it, then no line that is looked up in refers in braces to a variable that has a default.  If
no default refers back at all and no `$` stands right behind what another one opens, then each such
line is what the line of the file stands for.  But wherever a line of the file refers in braces to a
variable whose default refers back in braces, that reference is still on the line.  And in a file
that declares each variable once, and before a default refers to it, every reference in a default is
one back. -/
theorem chained_defaults_resolve_unless_referring_back (content : String)
    (hnames : ∀ declared ∈ Dockerfile.declarations content.toList,
      Reference.IsName declared.1) :
    (Reference.Closed content.toList →
      (∀ entry ∈ (Dockerfile.symbols content.toList).entries, Reference.Closed (entry.2 ++ ['$'])) →
      (∀ i, ∀ r ∈ (Dockerfile.symbols content.toList).backReferences i, r.inBraces = false) →
      ∀ line ∈ Manifest.lines .docker content,
        ∀ declared ∈ Dockerfile.declarations content.toList,
          ¬ Symbols.braced declared.1 <:+: line.toList) ∧
    (Reference.Sealed content.toList →
      (∀ entry ∈ (Dockerfile.symbols content.toList).entries, Reference.Sealed (entry.2 ++ ['$'])) →
      (∀ i, (Dockerfile.symbols content.toList).backReferences i = []) →
      ∀ (n : Nat) raw, (pieces '\n' content.toList)[n]? = some raw →
        (∃ out, Reference.Expands (Dockerfile.symbols content.toList).valueOf raw out) ∧
        ∀ out, Reference.Expands (Dockerfile.symbols content.toList).valueOf raw out →
          (Manifest.lines .docker content)[n]? = some (String.ofList (chomp out))) ∧
    (∀ i, ∀ r ∈ (Dockerfile.symbols content.toList).backReferences i, r.inBraces = true →
      ∀ (n : Nat) raw, (pieces '\n' content.toList)[n]? = some raw →
        Symbols.braced ((Dockerfile.symbols content.toList).entries.get i).1 <:+: raw →
          ∃ line, (Manifest.lines .docker content)[n]? = some line ∧ r.written <:+: line.toList) ∧
    (((Dockerfile.declarations content.toList).map (·.1)).Nodup →
      Dockerfile.InOrder (Dockerfile.declarations content.toList) →
      ∀ i, (Dockerfile.symbols content.toList).backReferences i =
        Reference.within ((Dockerfile.symbols content.toList).entries.get i).2) := by
  obtain ⟨hdistinct, hdeclared⟩ := Dockerfile.names_symbols content.toList
  have htable : ∀ entry ∈ (Dockerfile.symbols content.toList).entries,
      Reference.IsName entry.1 := by
    intro entry hentry
    obtain ⟨declared, hmem, hname⟩ :=
      List.mem_map.1 ((hdeclared entry.1).1 (List.mem_map_of_mem hentry))
    rw [← hname]
    exact hnames declared hmem
  have hline : ∀ (n : Nat) raw, (pieces '\n' content.toList)[n]? = some raw →
      (Manifest.lines .docker content)[n]? =
        some (String.ofList (chomp ((Dockerfile.symbols content.toList).substitute raw))) := by
    intro n raw hraw
    rw [Manifest.lines_eq_map, List.getElem?_map, hraw]
    rfl
  refine ⟨?gone, ?expanded, ?left, fun hnodup horder =>
    Dockerfile.backReferences_of_inOrder horder hnodup⟩
  case gone =>
    intro hclosed hvalues hback line hmem declared hdecl hfound
    obtain ⟨entry, hentry, hname⟩ :=
      List.mem_map.1 ((hdeclared declared.1).2 (List.mem_map_of_mem hdecl))
    rw [Manifest.lines, Manifest.splitLines, List.map_map] at hmem
    obtain ⟨piece, hpiece, rfl⟩ := List.mem_map.1 hmem
    have hgone := Symbols.not_mem_within_substitute htable hvalues hclosed hback entry hentry
    rw [hname, Reference.mem_within_braced_iff (hnames declared hdecl).isWord_of_mem] at hgone
    rw [Function.comp_apply, String.toList_ofList] at hfound
    exact hgone
      (hfound.trans ((chomp_prefix_self piece).isInfix.trans (infix_of_mem_pieces hpiece)))
  case expanded =>
    intro hsealed hvalues hback n raw hraw
    have hrawSealed := hsealed.of_part (infix_of_mem_pieces (List.mem_of_getElem? hraw))
    have hexpands := Symbols.expands_substitute htable hvalues hrawSealed hback
    refine ⟨⟨_, hexpands⟩, fun out hout => ?_⟩
    rw [hline n raw hraw, hexpands.unique hout]
  case left =>
    intro i r hr hbraces n raw hraw hused
    have hused :=
      (Reference.mem_within_braced_iff (htable _ (List.get_mem _ i)).isWord_of_mem).2 hused
    have hthere := Symbols.mem_within_substitute hdistinct htable hr hbraces hused
    refine ⟨_, hline n raw hraw, ?_⟩
    rw [String.toList_ofList]
    obtain ⟨inBraces, name⟩ := r
    obtain rfl : inBraces = true := hbraces
    obtain ⟨rest, hrest, hat⟩ := Reference.mem_within_iff.1 hthere
    refine infix_chomp ((Reference.mem_within_braced_iff (Reference.at?_eq_some hat).1).1 hthere) ?_
    show (Symbols.braced name).getLast? ≠ some '\r'
    rw [Symbols.braced, List.getLast?_concat]
    decide

namespace Sample

/-- The tag is declared before the version that it refers to. -/
def forwardFile : String := "ARG TAG=${VERSION}-alpine\nARG VERSION=14\nFROM node:${TAG}\n"

/-- The version is declared before the tag that refers to it. -/
def backwardFile : String := "ARG VERSION=14\nARG TAG=${VERSION}-alpine\nFROM node:${TAG}\n"

end Sample

/-- A default that refers to a variable declared later resolves on each line, to what the line
stands for; one that refers to a variable declared before is left on the line of the image. -/
theorem sample_chained_defaults :
    (∀ line ∈ Manifest.lines .docker Sample.forwardFile,
      ∀ declared ∈ Dockerfile.declarations Sample.forwardFile.toList,
        ¬ Symbols.braced declared.1 <:+: line.toList) ∧
    (∃ out, Reference.Expands (Dockerfile.symbols Sample.forwardFile.toList).valueOf
        "FROM node:${TAG}".toList out ∧
      (Manifest.lines .docker Sample.forwardFile)[2]? = some (String.ofList (chomp out))) ∧
    (Manifest.lines .docker Sample.forwardFile)[2]? = some "FROM node:14-alpine" ∧
    (∃ line, (Manifest.lines .docker Sample.backwardFile)[2]? = some line ∧
      Symbols.braced "VERSION".toList <:+: line.toList) ∧
    (Dockerfile.symbols Sample.backwardFile.toList).backReferences ⟨1, by decide⟩ =
      Reference.within "${VERSION}-alpine".toList := by
  obtain ⟨hgone, hexpanded, -⟩ :=
    chained_defaults_resolve_unless_referring_back Sample.forwardFile (by decide)
  obtain ⟨-, -, hleft, horder⟩ :=
    chained_defaults_resolve_unless_referring_back Sample.backwardFile (by decide)
  obtain ⟨⟨out, hout⟩, hline⟩ := hexpanded (by decide) (by decide) (by decide) 2
    "FROM node:${TAG}".toList (by decide)
  refine ⟨hgone (by decide) (by decide) (by decide), ⟨out, hout, hline out hout⟩, by decide, ?_, ?_⟩
  · exact hleft ⟨1, by decide⟩ ⟨true, "VERSION".toList⟩ (by decide) rfl 2
      "FROM node:${TAG}".toList (by decide) (by decide)
  · exact horder (by decide) (by decide) ⟨1, by decide⟩

/-- A tag that refers to the version on the line before, and an image that is written with it.  All
names are words and each default refers only to variables that an earlier line gives a default; but
the line of the image refers to the version still. -/
theorem default_referring_to_earlier_one_stays :
    (∀ declared ∈ Dockerfile.declarations Sample.backwardFile.toList,
      Reference.IsName declared.1) ∧
    Dockerfile.InOrder (Dockerfile.declarations Sample.backwardFile.toList) ∧
    Dockerfile.declarations Sample.backwardFile.toList =
      [("VERSION".toList, "14".toList), ("TAG".toList, "${VERSION}-alpine".toList)] ∧
    Manifest.lines .docker Sample.backwardFile =
      ["ARG VERSION=14", "ARG TAG=14-alpine", "FROM node:${VERSION}-alpine", ""] ∧
    ¬ ∀ line ∈ Manifest.lines .docker Sample.backwardFile,
      ∀ declared ∈ Dockerfile.declarations Sample.backwardFile.toList,
        ¬ Symbols.braced declared.1 <:+: line.toList := by
  decide

end ManifestSarif
