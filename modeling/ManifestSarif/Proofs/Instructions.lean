import ManifestSarif.Manifest.Dockerfile
import ManifestSarif.Proofs.Occurrences
import ManifestSarif.Proofs.WhiteSpace

/-!
# Instructions of container files

A line of a container file is an instruction if it starts, perhaps after white space, with a keyword
and white space.  What follows is the argument of the instruction.

* `Dockerfile.Instructs` says how a line is made up of white space, keyword and argument.
* `argument?_eq_some_iff`: this is the argument that is found, and `isSome_argument?_iff` says on
  which lines there is one.
-/

namespace ManifestSarif.Dockerfile

open Text

/-- White space, perhaps none, then the keyword, white space and the argument, which starts with
something else and goes on to a line feed or to the end. -/
def Instructs (keyword argument line : List Char) : Prop :=
  ∃ lead gap rest, line = lead ++ keyword ++ gap ++ argument ++ rest ∧ Blanks lead ∧ Blanks gap ∧
    gap ≠ [] ∧ (∀ c ∈ (argument ++ rest).head?, isBlank c = false) ∧ '\n' ∉ argument ∧
    (∀ c ∈ rest.head?, c = '\n')

/-- The line starts with white space, perhaps none, the keyword and more white space. -/
def Opens (keyword line : List Char) : Prop :=
  ∃ lead c rest, line = lead ++ keyword ++ c :: rest ∧ Blanks lead ∧ isBlank c = true

variable {keyword argument line : List Char}

/-- What follows the keyword, if the line starts with it. -/
theorem argument?_eq_some_iff (hkeyword : ∃ c ∈ keyword.head?, isBlank c = false) :
    argument? keyword line = some argument ↔ Instructs keyword argument line := by
  obtain ⟨first, hfirst, hsolid⟩ := hkeyword
  obtain ⟨keyword, rfl⟩ := List.head?_eq_some_iff.1 (Option.mem_def.1 hfirst)
  constructor
  · intro h
    rw [argument?] at h
    split at h
    · next c rest hstart =>
      split at h
      · next hc =>
        obtain rfl := Option.some.inj h
        obtain ⟨lead, hlead, hline⟩ := exists_blanks_trimStart line
        obtain ⟨gap, hgap, hrest⟩ := exists_blanks_trimStart rest
        obtain ⟨more, hmore, hfeed, hends⟩ := exists_upTo '\n' (trimStart rest)
        refine ⟨lead, c :: gap, more, ?_, hlead, List.forall_mem_cons.2 ⟨hc, hgap⟩,
          List.cons_ne_nil c gap, ?_, hfeed, hends⟩
        · rw [hline, ← List.isPrefixOf?_eq_some_iff_append_eq.1 hstart]
          simp only [List.append_assoc, List.cons_append, ← hmore, ← hrest]
        · rw [← hmore]
          exact isBlank_of_mem_head?_trimStart
      · cases h
    · cases h
  · rintro ⟨lead, gap, rest, rfl, hlead, hgap, hne, hargument, hfeed, hrest⟩
    obtain ⟨c, gap, rfl⟩ := List.exists_cons_of_ne_nil hne
    obtain ⟨hc, hgap⟩ := List.forall_mem_cons.1 hgap
    have hstart : trimStart (lead ++ first :: keyword ++ c :: gap ++ argument ++ rest) =
        first :: keyword ++ c :: (gap ++ (argument ++ rest)) := by
      simp only [List.append_assoc, List.cons_append]
      rw [trimStart_append hlead]
      exact trimStart_eq_self (by simpa using hsolid)
    rw [argument?, hstart, List.isPrefixOf?_eq_some_iff_append_eq.2 rfl]
    dsimp only
    rw [if_pos hc, trimStart_append hgap, trimStart_eq_self hargument, upTo_append hfeed hrest]

/-- There is an argument, perhaps an empty one, on every line that starts so. -/
theorem isSome_argument?_iff (hkeyword : ∃ c ∈ keyword.head?, isBlank c = false) :
    (argument? keyword line).isSome = true ↔ Opens keyword line := by
  constructor
  · intro h
    obtain ⟨argument, hargument⟩ := Option.isSome_iff_exists.1 h
    obtain ⟨lead, gap, rest, rfl, hlead, hgap, hne, -⟩ :=
      (argument?_eq_some_iff hkeyword).1 hargument
    obtain ⟨c, gap, rfl⟩ := List.exists_cons_of_ne_nil hne
    exact ⟨lead, c, gap ++ argument ++ rest, by simp, hlead, hgap c List.mem_cons_self⟩
  · rintro ⟨lead, c, more, rfl, hlead, hc⟩
    obtain ⟨gap, hgap, hmore⟩ := exists_blanks_trimStart more
    obtain ⟨rest, hrest, hfeed, hends⟩ := exists_upTo '\n' (trimStart more)
    refine Option.isSome_iff_exists.2 ⟨upTo '\n' (trimStart more),
      (argument?_eq_some_iff hkeyword).2 ⟨lead, c :: gap, rest, ?_, hlead,
        List.forall_mem_cons.2 ⟨hc, hgap⟩, List.cons_ne_nil c gap, ?_, hfeed, hends⟩⟩
    · simp only [List.append_assoc, List.cons_append, ← hrest, ← hmore]
    · rw [← hrest]
      exact isBlank_of_mem_head?_trimStart

theorem Opens.append (h : Opens keyword line) (more : List Char) :
    Opens keyword (line ++ more) := by
  obtain ⟨lead, c, rest, rfl, hlead, hc⟩ := h
  exact ⟨lead, c, rest ++ more, by simp, hlead, hc⟩

end ManifestSarif.Dockerfile
