import ManifestSarif.Manifest.Symbols
import ManifestSarif.Text.Blank
import ManifestSarif.Text.Lines

/-!
# Container files

A container file is a sequence of instructions, one a line.  `ARG name=value` gives a variable its
default, `FROM image` names a base image.

* `Dockerfile.argument?` is what follows the keyword of an instruction,
* `Dockerfile.declaration?` is the variable and the default that an `ARG` line declares,
* `Dockerfile.symbols` collects them.
-/

namespace ManifestSarif.Dockerfile

open Text

/-- What follows `keyword` and white space, up to the end of the line, in a text that starts with
the keyword or with white space before it. -/
def argument? (keyword line : List Char) : Option (List Char) :=
  match keyword.isPrefixOf? (trimStart line) with
  | some (c :: rest) => if isBlank c then some (upTo '\n' (trimStart rest)) else none
  | _ => none

/-- What stands between two equal quotes `quote` at the ends of the text. -/
def between? (quote : Char) (text : List Char) : Option (List Char) :=
  match text with
  | [] => none
  | c :: rest => if c = quote ∧ rest.getLast? = some quote then some rest.dropLast else none

/-- The value without the pair of equal quotes around it, if there is one. -/
def unquote (value : List Char) : List Char :=
  ((between? '"' value).orElse fun _ => between? '\'' value).getD value

/-- The name and the default of an `ARG` line that gives one. -/
def declaration? (line : List Char) : Option (List Char × List Char) :=
  (argument? ['A', 'R', 'G'] line).bind fun argument =>
    (cutAt '=' (trim argument)).map fun (name, value) => (name, unquote value)

/-- The table with the declaration of a line, if it has one. -/
def collect (symbols : Symbols) (line : List Char) : Symbols :=
  match declaration? line with
  | some (name, value) => symbols.define name value
  | none => symbols

/-- The variables to which the file gives defaults. -/
def symbols (file : List Char) : Symbols :=
  (terminated file).foldl collect .empty

end ManifestSarif.Dockerfile
