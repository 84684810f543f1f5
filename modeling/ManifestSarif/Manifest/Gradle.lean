import ManifestSarif.Manifest.Symbols
import ManifestSarif.Text.Blank
import ManifestSarif.Text.Lines

/-!
# Extra properties of Gradle scripts

A script defines properties in statements `ext name = 'value'` and in blocks `ext { ... }`, which
may hold further braces.  It is read line by line.

* `Gradle.codeOf` is a line without its comments,
* `Region` says where in the script a line stands, and `Region.step` moves over one line,
* `Gradle.assignment?` is the first assignment of a quoted value on a line,
* `Gradle.symbols` collects the assignments of the lines that belong to `ext`.
-/

namespace ManifestSarif.Gradle

open Text

/-! ## Comments -/

/-- The length of the comment `/* ... */` at the start of the text, if one starts and ends there. -/
def commentSize? (text : List Char) : Option Nat :=
  (['/', '*'].isPrefixOf? text).bind fun inner =>
    (cutAtPiece ['*', '/'] inner).map fun (body, _) => body.length + 4

/-- The line up to its first `//`. -/
def beforeLineComment (line : List Char) : List Char :=
  match cutAtPiece ['/', '/'] line with
  | some (code, _) => code
  | none => line

/-- The line without comments and without white space at its ends: a `//` ends it, then every
`/* ... */` that is complete on the line is cut. -/
def codeOf (line : List Char) : List Char :=
  trim (replaceFrom commentSize? [] 0 (beforeLineComment line))

/-! ## Words and assignments -/

/-- Whether the text holds `word` between two word boundaries; `inWord` tells whether the character
before the text is a word character. -/
def hasWord (word : List Char) (inWord : Bool) : List Char → Bool
  | [] => false
  | c :: rest =>
    let starts := boundary inWord (c :: rest) &&
      ((word.isPrefixOf? (c :: rest)).any (boundary true))
    starts || hasWord word (isWord c) rest

/-- Whether the line has the word `ext`. -/
def namesExt (code : List Char) : Bool :=
  hasWord ['e', 'x', 't'] false code

/-- The text between two equal quotes at the start of a text. -/
def quoted? : List Char → Option (List Char)
  | [] => none
  | quote :: rest =>
    if quote = '\'' ∨ quote = '"' then (cutAt quote rest).map (·.1) else none

/-- The name and the value of an assignment `name = 'value'` or `name = "value"` that starts with
the text. -/
def assignmentAt? (text : List Char) : Option (List Char × List Char) :=
  let name := text.takeWhile isWord
  match trimStart (text.dropWhile isWord) with
  | '=' :: rest => (quoted? (trimStart rest)).map fun value => (name, value)
  | _ => none

/-- The first assignment that starts at the beginning of a word; `inWord` tells whether the
character before the text is a word character. -/
def assignmentFrom? (inWord : Bool) : List Char → Option (List Char × List Char)
  | [] => none
  | c :: rest =>
    let here := if isWord c && !inWord then assignmentAt? (c :: rest) else none
    here.orElse fun _ => assignmentFrom? (isWord c) rest

/-- The first assignment of a quoted value on a line, the value without white space at its ends. -/
def assignment? (code : List Char) : Option (List Char × List Char) :=
  (assignmentFrom? false code).map fun (name, value) => (name, trim value)

/-! ## Regions -/

/-- The opening braces less the closing ones. -/
def braceBalance (code : List Char) : Int :=
  (code.count '\x7b' : Int) - code.count '\x7d'

/-- Where the script stands between two lines. -/
inductive Region where
  /-- Outside of `ext`. -/
  | outside
  /-- After a line that names `ext` and has no brace: the next line may open the block. -/
  | announced
  /-- In a block whose opening braces outnumber the closing ones by one more than `extra`. -/
  | block (extra : Nat)
deriving DecidableEq, Repr

namespace Region

/-- The number of braces that are open. -/
def depth : Region → Nat
  | block extra => extra + 1
  | _ => 0

/-- The region with `depth` open braces. -/
def ofDepth : Nat → Region
  | 0 => outside
  | extra + 1 => block extra

/-- Whether the line `code` belongs to the block that is open or that it opens. -/
def entersBlock (region : Region) (code : List Char) : Bool :=
  match region with
  | block _ => true
  | announced => code.head? = some '\x7b' || (namesExt code && code.contains '\x7b')
  | outside => namesExt code && code.contains '\x7b'

/-- The region after the line `code`, and whether the line belongs to `ext`. -/
def step (region : Region) (code : List Char) : Region × Bool :=
  if region.entersBlock code then (ofDepth (region.depth + braceBalance code).toNat, true)
  else if namesExt code then (announced, true)
  else (outside, false)

end Region

/-! ## Collection -/

/-- The table with the assignment of a line, if it has one. -/
def collect (symbols : Symbols) (code : List Char) : Symbols :=
  match assignment? code with
  | some (name, value) => symbols.define name value
  | none => symbols

/-- The table after the lines `codes` of a script that stands at `region`. -/
def symbolsFrom (region : Region) (symbols : Symbols) : List (List Char) → Symbols
  | [] => symbols
  | code :: rest =>
    let (next, belongs) := region.step code
    symbolsFrom next (if belongs then collect symbols code else symbols) rest

/-- The extra properties that the script defines. -/
def symbols (script : List Char) : Symbols :=
  symbolsFrom .outside .empty ((terminated script).map codeOf)

end ManifestSarif.Gradle
