import ManifestSarif.Proofs.Instructions
import ManifestSarif.Proofs.Occurrences
import ManifestSarif.Proofs.ReportedLines

/-!
# Lines that build on an image

A container file declares an image on a line `FROM image`.  A reference that ends in `:latest` means
the same image as the reference without it, so the tag may be missing on the line.  What is looked
for besides the reference is the reference without its first `:latest`, wherever that stands.

* `Declaration.NamesImage` is the rule: the argument holds the reference, or what stands before the
  tag at its end.
* `onLine_docker_iff` says on which lines a reference is found.
* `LatestEnds` are the references in which `:latest` stands at the end only;
  `declaresImage_iff_namesImage`: for them the lines are those of the rule, and
  `exists_line_of_not_latestEnds`: for others they are not.
* `image_line_is_first_if_latest_ends` is the result for the line that is reported.
-/

namespace ManifestSarif

open Text

namespace Declaration

/-! ## The rule and what is looked for -/

/-- The tag that may be left out. -/
def latest : List Char := ':' :: "latest".toList

/-- The line is a `FROM` instruction whose argument holds the reference, or what stands before
`:latest` if the reference ends in it. -/
def NamesImage (image line : List Char) : Prop :=
  ∃ argument, Dockerfile.Instructs ['F', 'R', 'O', 'M'] argument line ∧
    (image <:+: argument ∨ ∃ name, image = name ++ latest ∧ name <:+: argument)

/-- The line is a `FROM` instruction whose argument holds the reference, or what is left of it
without the first `:latest` in it. -/
def DeclaresImage (image line : List Char) : Prop :=
  ∃ argument, Dockerfile.Instructs ['F', 'R', 'O', 'M'] argument line ∧
    (image <:+: argument ∨ ∃ before after, image = before ++ latest ++ after ∧
      ¬latest <:+: before ∧ before ++ after <:+: argument)

/-- Behind the first `:latest` of the reference there is nothing, or more of the same. -/
def LatestEnds (image : List Char) : Prop :=
  ∀ before after, image = before ++ latest ++ after → ¬latest <:+: before →
    ∃ count, after = (List.replicate count latest).flatten

variable {image line before after : List Char}

theorem isBlank_from : ∃ c ∈ ['F', 'R', 'O', 'M'].head?, isBlank c = false :=
  ⟨'F', rfl, by decide⟩

theorem colon_not_mem : ':' ∉ "latest".toList := by decide

theorem untagged_append (h : ¬latest <:+: before) :
    untagged (before ++ latest ++ after) = before ++ after := by
  have hcut : cutAtPiece latest (before ++ latest ++ after) = some (before, after) :=
    (cutAtPiece_eq_some_iff colon_not_mem).2 ⟨rfl, h⟩
  show replaceFirst latest [] _ = _
  rw [replaceFirst, hcut]
  exact congrArg (· ++ after) (List.append_nil before)

theorem untagged_eq_self (h : ¬latest <:+: image) : untagged image = image := by
  show replaceFirst latest [] image = image
  rw [replaceFirst, cutAtPiece_eq_none_iff.2 h]

/-- A reference is cut at its first `:latest`, if it has one. -/
theorem exists_of_latest_infix (h : latest <:+: image) :
    ∃ before after, image = before ++ latest ++ after ∧ ¬latest <:+: before := by
  cases hcut : cutAtPiece latest image with
  | none => exact absurd h (cutAtPiece_eq_none_iff.1 hcut)
  | some parts => exact ⟨parts.1, parts.2, (cutAtPiece_eq_some_iff colon_not_mem).1 hcut⟩

theorem occurs_untagged_iff {argument : List Char} :
    (occurs image argument || occurs (untagged image) argument) = true ↔
      image <:+: argument ∨ ∃ before after, image = before ++ latest ++ after ∧
        ¬latest <:+: before ∧ before ++ after <:+: argument := by
  rw [Bool.or_eq_true, occurs_iff, occurs_iff]
  constructor
  · rintro (himage | huntagged)
    · exact Or.inl himage
    · by_cases hlatest : latest <:+: image
      · obtain ⟨before, after, rfl, hbefore⟩ := exists_of_latest_infix hlatest
        rw [untagged_append hbefore] at huntagged
        exact Or.inr ⟨before, after, rfl, hbefore, huntagged⟩
      · rw [untagged_eq_self hlatest] at huntagged
        exact Or.inl huntagged
  · rintro (himage | ⟨before, after, rfl, hbefore, huntagged⟩)
    · exact Or.inl himage
    · rw [untagged_append hbefore]
      exact Or.inr huntagged

/-- The lines that declare a record of an image. -/
theorem onLine_docker_iff {record : Record} {image : String}
    (himage : record.origin.image = some image) (line : String) :
    onLine .docker record line = true ↔ DeclaresImage image.toList line.toList := by
  rw [onLine, himage, Option.any_some, dockerDeclares, Option.any_eq_true]
  constructor
  · rintro ⟨argument, hargument, hfound⟩
    exact ⟨argument, (Dockerfile.argument?_eq_some_iff isBlank_from).1 hargument,
      occurs_untagged_iff.1 hfound⟩
  · rintro ⟨argument, hargument, hfound⟩
    exact ⟨argument, (Dockerfile.argument?_eq_some_iff isBlank_from).2 hargument,
      occurs_untagged_iff.2 hfound⟩

/-! ## References that end in the tag -/

theorem flatten_replicate_concat (count : Nat) :
    latest ++ (List.replicate count latest).flatten =
      (List.replicate count latest).flatten ++ latest := by
  rw [← List.flatten_cons, ← List.replicate_succ, List.replicate_succ', List.flatten_concat]

theorem latestEnds_append {name : List Char} (h : ¬latest <:+: name) :
    LatestEnds (name ++ latest) := by
  intro before after heq hbefore
  have hname : cutAtPiece latest (name ++ latest ++ []) = some (name, []) :=
    (cutAtPiece_eq_some_iff colon_not_mem).2 ⟨rfl, h⟩
  have hcut := (cutAtPiece_eq_some_iff colon_not_mem).2 ⟨heq, hbefore⟩
  rw [← List.append_nil (name ++ latest)] at hcut
  obtain ⟨-, rfl⟩ := Prod.mk.inj (Option.some.inj (hname.symm.trans hcut))
  exact ⟨0, rfl⟩

/-- What is left without the first tag is what is left without the last one. -/
theorem declaresImage_iff_namesImage (h : LatestEnds image) :
    DeclaresImage image line ↔ NamesImage image line := by
  refine exists_congr fun argument => and_congr_right fun _ => or_congr_right ?_
  constructor
  · rintro ⟨before, after, himage, hbefore, hfound⟩
    obtain ⟨count, hafter⟩ := h before after himage hbefore
    refine ⟨before ++ after, ?_, hfound⟩
    rw [himage, hafter, List.append_assoc, List.append_assoc, flatten_replicate_concat]
  · rintro ⟨name, himage, hfound⟩
    obtain ⟨before, after, hcut, hbefore⟩ :=
      exists_of_latest_infix (himage ▸ (List.suffix_append name latest).isInfix)
    obtain ⟨count, hafter⟩ := h before after hcut hbefore
    have hname : name = before ++ after := by
      refine @List.append_cancel_right _ name latest (before ++ after) ?_
      rw [← himage, hcut, hafter, List.append_assoc, List.append_assoc, flatten_replicate_concat]
    exact ⟨before, after, hcut, hbefore, hname ▸ hfound⟩

/-- A line has one argument, so what it names is in this one. -/
theorem namesImage_iff_of_instructs {argument : List Char}
    (h : Dockerfile.Instructs ['F', 'R', 'O', 'M'] argument line) :
    NamesImage image line ↔
      image <:+: argument ∨ ∃ name, image = name ++ latest ∧ name <:+: argument := by
  refine ⟨fun ⟨other, hother, hfound⟩ => ?_, fun hfound => ⟨argument, h, hfound⟩⟩
  rw [← Dockerfile.argument?_eq_some_iff isBlank_from] at h hother
  rwa [Option.some.inj (h.symm.trans hother)]

theorem instructs_from {argument : List Char} (hfirst : ∀ c ∈ argument.head?, isBlank c = false)
    (hfeed : '\n' ∉ argument) :
    Dockerfile.Instructs ['F', 'R', 'O', 'M'] argument ("FROM ".toList ++ argument) :=
  ⟨[], [' '], [], by simp, blanks_nil, by decide, by simp, by simpa using hfirst, hfeed, by simp⟩

/-- No text of the length of the rest of the reference, but this rest, is in it behind a character
that the text does not start with. -/
theorem eq_of_infix_cons {c : Char} {name rest : List Char} (hne : name ≠ [])
    (hhead : name.head? ≠ some c) (hlength : name.length = rest.length) (h : name <:+: c :: rest) :
    name = rest := by
  rcases List.infix_cons_iff.1 h with ⟨more, hprefix⟩ | hinfix
  · obtain ⟨first, name, rfl⟩ := List.exists_cons_of_ne_nil hne
    obtain ⟨rfl, -⟩ := List.cons.inj hprefix
    exact absurd rfl hhead
  · exact hinfix.eq_of_length hlength

/-- Where something else follows the first tag, what is left without it is found on a line that
names neither the reference nor what stands before a tag at its end. -/
theorem exists_line_of_not_latestEnds (hfeed : '\n' ∉ image) (h : ¬LatestEnds image) :
    ∃ line, DeclaresImage image line ∧ ¬NamesImage image line := by
  simp only [LatestEnds, not_forall] at h
  obtain ⟨before, after, rfl, hbefore, hcopies⟩ := h
  obtain ⟨c, hblank, hhead⟩ : ∃ c, (isBlank c = false ∧ c ≠ '\n') ∧
      (before ++ latest ++ after).head? ≠ some c := by
    by_cases ha : (before ++ latest ++ after).head? = some 'a'
    · exact ⟨'b', by decide, by rw [ha]; decide⟩
    · exact ⟨'a', by decide, ha⟩
  have hrest : '\n' ∉ before ++ after := fun hmem => hfeed (by grind)
  have hargument := @instructs_from (c :: (before ++ after))
    (by simpa using hblank.1) (by simp [Ne.symm hblank.2, hrest])
  refine ⟨_, ⟨_, hargument, Or.inr ⟨before, after, rfl, hbefore, ?_⟩⟩, ?_⟩
  · exact List.infix_cons List.infix_rfl
  rw [namesImage_iff_of_instructs hargument]
  have hlatest : latest.length = 7 := rfl
  rintro (hfound | ⟨name, himage, hfound⟩)
  · have hlength := hfound.length_le
    simp only [List.length_cons, List.length_append, hlatest] at hlength
    omega
  · have hlength := congrArg List.length himage
    simp only [List.length_append, hlatest] at hlength
    have hne : name ≠ [] := by
      rintro rfl
      exact hcopies ⟨0, List.eq_nil_of_length_eq_zero (by rw [List.length_nil] at hlength; omega)⟩
    rw [himage, List.head?_append_of_ne_nil name hne] at hhead
    have hname : name = before ++ after :=
      eq_of_infix_cons hne hhead (by rw [List.length_append]; omega) hfound
    rw [hname, List.append_assoc, List.append_assoc] at himage
    exact hcopies (eq_replicate_of_append_comm colon_not_mem (List.append_cancel_left himage).symm)

end Declaration

/-! ## The result -/

/-- The line that is reported for a record of an image is the first `FROM` line whose argument holds
the reference, or the reference without the first `:latest` in it.  For references in which
`:latest` stands nowhere but at the end, this is the first line that names the image, with the tag
or without it, and there is none if no line does.  But for every other reference that fits on a
line there is a line that is reported and does not name the image. -/
theorem image_line_is_first_if_latest_ends {record : Record} {image : String}
    (himage : record.origin.image = some image) :
    (∀ lines n, Declaration.line? .docker record lines = some n ↔
      Declaration.IsFirstLine (fun line => Declaration.DeclaresImage image.toList line.toList)
        lines n) ∧
    (Declaration.LatestEnds image.toList → ∀ lines,
      (∀ n, Declaration.line? .docker record lines = some n ↔
        Declaration.IsFirstLine (fun line => Declaration.NamesImage image.toList line.toList)
          lines n) ∧
      (Declaration.line? .docker record lines = none ↔
        ∀ line ∈ lines, ¬Declaration.NamesImage image.toList line.toList)) ∧
    ('\n' ∉ image.toList → ¬Declaration.LatestEnds image.toList →
      ∃ line, Declaration.line? .docker record [line] = some 1 ∧
        ¬Declaration.NamesImage image.toList line.toList) := by
  have honLine := Declaration.onLine_docker_iff himage
  have hline : ∀ lines n, Declaration.line? .docker record lines = some n ↔
      Declaration.IsFirstLine (fun line => Declaration.DeclaresImage image.toList line.toList)
        lines n := fun lines n =>
    (Declaration.line?_eq_some_iff rfl).trans (Declaration.isFirstLine_congr honLine)
  refine ⟨hline, fun hends lines => ?_, fun hfeed hinside => ?_⟩
  · have hnames : ∀ line : String, Declaration.DeclaresImage image.toList line.toList ↔
        Declaration.NamesImage image.toList line.toList := fun line =>
      Declaration.declaresImage_iff_namesImage hends
    refine ⟨fun n => (hline lines n).trans (Declaration.isFirstLine_congr hnames), ?_⟩
    simp only [Declaration.line?_eq_none_iff, honLine, hnames]
  · obtain ⟨line, hdeclares, hnot⟩ := Declaration.exists_line_of_not_latestEnds hfeed hinside
    refine ⟨String.ofList line, (hline _ _).2 ⟨[], _, [], rfl, rfl, ?_, List.forall_mem_nil _⟩, ?_⟩
    · show Declaration.DeclaresImage image.toList (String.ofList line).toList
      rwa [String.toList_ofList]
    · rwa [String.toList_ofList]

namespace Sample

/-- A record of an image. -/
def recordOf (image : String) : Record :=
  ⟨⟨some image, .docker, "rhda", "osv"⟩, "pkg:rpm/openssl@3.0.1",
    PackageRef.coordinates "pkg:rpm/openssl@3.0.1", none, none, none⟩

end Sample

/-- The tag is missing on the line, and the port of the registry is no tag.  Of a tag that starts
with `latest`, the rest is found on some line. -/
theorem sample_image_without_tag :
    Declaration.LatestEnds "quay.io:5000/app:latest".toList ∧
    Declaration.line? .docker (Sample.recordOf "quay.io:5000/app:latest")
      ["FROM app AS base", "\tFROM  quay.io:5000/app"] = some 2 ∧
    Declaration.IsFirstLine
      (fun line => Declaration.NamesImage "quay.io:5000/app:latest".toList line.toList)
      ["FROM app AS base", "\tFROM  quay.io:5000/app"] 2 ∧
    ∃ line, Declaration.line? .docker (Sample.recordOf "node:latest-alpine") [line] = some 1 ∧
      ¬Declaration.NamesImage "node:latest-alpine".toList line.toList := by
  have hends : Declaration.LatestEnds "quay.io:5000/app:latest".toList :=
    @Declaration.latestEnds_append "quay.io:5000/app".toList (by decide)
  have hinside : ¬Declaration.LatestEnds "node:latest-alpine".toList := by
    intro h
    obtain ⟨count, hcount⟩ := h "node".toList "-alpine".toList rfl (by decide)
    cases count with
    | zero => exact absurd hcount (by decide)
    | succ count => exact absurd (List.cons.inj hcount).1 (by decide)
  obtain ⟨-, hnames, -⟩ := image_line_is_first_if_latest_ends
    (rfl : (Sample.recordOf "quay.io:5000/app:latest").origin.image = some _)
  obtain ⟨-, -, hother⟩ := image_line_is_first_if_latest_ends
    (rfl : (Sample.recordOf "node:latest-alpine").origin.image = some _)
  have hline : Declaration.line? .docker (Sample.recordOf "quay.io:5000/app:latest")
      ["FROM app AS base", "\tFROM  quay.io:5000/app"] = some 2 := by decide
  exact ⟨hends, hline, ((hnames hends _).1 2).1 hline, hother (by decide) hinside⟩

/-- The line of an image is reported for another one, whose tag starts with `latest`: it names
neither that image nor what stands before a tag at the end of its reference, which has none. -/
theorem other_image_is_found_without_inner_latest :
    (Sample.recordOf "node:latest-alpine").origin.image = some "node:latest-alpine" ∧
    Declaration.line? .docker (Sample.recordOf "node:latest-alpine") ["FROM node-alpine"] = some 1 ∧
    ¬Declaration.NamesImage "node:latest-alpine".toList "FROM node-alpine".toList := by
  refine ⟨rfl, by decide, ?_⟩
  have hargument := @Declaration.instructs_from "node-alpine".toList
    (fun c hc => by cases hc; decide) (by decide)
  rw [show "FROM node-alpine".toList = "FROM ".toList ++ "node-alpine".toList by decide,
    Declaration.namesImage_iff_of_instructs hargument]
  rintro (hfound | ⟨name, himage, -⟩)
  · exact absurd hfound (by decide)
  · have hsuffix : Declaration.latest <:+ "node:latest-alpine".toList := ⟨name, himage.symm⟩
    exact absurd hsuffix (by decide)

end ManifestSarif
