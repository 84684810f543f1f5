import ManifestSarif.Text.Search
import ManifestSarif.Text.Word

/-!
# Variables of a manifest

A manifest may give names to texts and refer to them as `${name}` or `$name`.

* `Symbols.define` records a value; the latest one counts, in the place of the first,
* `Symbols.substitute` replaces the references in a text, one name after the other.

A name may have any length.  The failure of a substitution whose name is too long for a compiled
pattern is left out, so that a substitution always has a result.
-/

namespace ManifestSarif

/-- A table from names to values, in the order in which the names were first defined. -/
structure Symbols where
  entries : List (List Char × List Char)
deriving DecidableEq, Repr

namespace Symbols

open Text

/-- The table without names. -/
def empty : Symbols := ⟨[]⟩

/-- The entries with the value of `name` replaced, or with a new entry at the end. -/
def defineIn (name value : List Char) : List (List Char × List Char) → List (List Char × List Char)
  | [] => [(name, value)]
  | entry :: rest =>
    if entry.1 = name then (name, value) :: rest else entry :: defineIn name value rest

/-- Gives `name` the value; a name defined before keeps its place. -/
def define (symbols : Symbols) (name value : List Char) : Symbols :=
  ⟨defineIn name value symbols.entries⟩

/-- The value of a name. -/
def get? (symbols : Symbols) (name : List Char) : Option (List Char) :=
  symbols.entries.lookup name

/-- The reference to a name in braces. -/
def braced (name : List Char) : List Char :=
  '$' :: '\x7b' :: name ++ ['\x7d']

/-- The reference to a name without braces. -/
def bare (name : List Char) : List Char :=
  '$' :: name

/-- Whether a bare reference to `name` ends before `after`: a word boundary must lie between. -/
def bareEnds (name after : List Char) : Bool :=
  boundary (((bare name).getLast?).any isWord) after

/-- The text with the references to one name replaced, those in braces first. -/
def substituteOne (text : List Char) (entry : List Char × List Char) : List Char :=
  let text := replaceWhere (braced entry.1) (fun _ => true) entry.2 text
  replaceWhere (bare entry.1) (bareEnds entry.1) entry.2 text

/-- The text with the references to each name replaced, in the order of the table. -/
def substitute (symbols : Symbols) (text : List Char) : List Char :=
  symbols.entries.foldl substituteOne text

end Symbols

end ManifestSarif
