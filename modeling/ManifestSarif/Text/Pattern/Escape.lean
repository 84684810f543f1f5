import ManifestSarif.Text.Hexadecimal
import ManifestSarif.Text.Pattern.Flags

/-!
# Escapes of patterns

What a backslash and the characters after it stand for: a character, a set or an anchor.

Without the flag `unicode` a pattern is compared with bytes, and all that could match a part of a
character is refused.  With it, the word boundaries of all scripts are refused.
-/

namespace ManifestSarif.Text.Pattern

/-- What one character, or one escape, stands for. -/
inductive Primitive where
  | literal (c : Char)
  | set (set : CharSet)
  | anchor (anchor : Anchor)

/-- So many hexadecimal digits, with the text after them. -/
def readHex? (flags : Flags) : Nat → Nat → List Char → Option (Nat × List Char)
  | 0, value, text => some (value, skip flags text)
  | count + 1, value, text =>
    match skip flags text with
    | c :: rest => do
      let digit ← hexValue? c
      readHex? flags count (16 * value + digit) rest
    | [] => none

/-- The character with a number that so many hexadecimal digits give.  Without `unicode` two digits
stand for a byte, which has to be an ASCII character. -/
def readNumbered? (flags : Flags) (count : Nat) (text : List Char) :
    Option (Primitive × List Char) := do
  let (value, rest) ← readHex? flags count 0 text
  if !decide value.isValidChar then none
  else if count = 2 && 0x80 ≤ value && !flags.contains .unicode then none
  else some (.literal (Char.ofNat value), rest)

/-- A set, or what it leaves.  Without `unicode` there is no rest of a set, as it would have bytes
that are no characters. -/
def complement? (flags : Flags) (negated : Bool) (set : CharSet) : Option CharSet :=
  if !negated then some set
  else if flags.contains .unicode then some (.compl set)
  else none

/-- The set of a general category, which exists only with `unicode`. -/
def readCategory? (flags : Flags) (negated : Bool) (text : List Char) :
    Option (Primitive × List Char) :=
  match skip flags text with
  | c :: rest => do
    let set ← CharSet.category? c.toUpper
    if flags.contains .unicode then
      some (.set (if negated then .compl set else set), skip flags rest)
    else none
  | [] => none

/-- The characters that a backslash and a letter stand for. -/
def controlEscape? (c : Char) : Option Char :=
  [('a', '\x07'), ('f', '\x0c'), ('t', '\t'), ('n', '\n'), ('r', '\r'), ('v', '\x0b')].lookup c

/-- The anchors that a backslash and a character stand for.  Word boundaries are those of ASCII, and
exist only without `unicode`. -/
def anchorEscape? (flags : Flags) (c : Char) : Option Anchor :=
  match c with
  | 'A' => some .textStart
  | 'z' => some .textEnd
  | c =>
    if flags.contains .unicode then none
    else
      [('b', Anchor.wordBoundary), ('B', .notWordBoundary), ('<', .wordStart),
        ('>', .wordEnd)].lookup c

/-- Whether a backslash before the character makes it stand for itself: the ASCII characters that
are neither letters, digits nor angle brackets. -/
def escapesItself (c : Char) : Bool :=
  c.toNat < 0x80 && !c.isAlphanum && c != '<' && c != '>'

/-- What a backslash and the text after it stand for. -/
def readEscape? (flags : Flags) : List Char → Option (Primitive × List Char)
  | [] => none
  | 'x' :: rest => readNumbered? flags 2 rest
  | 'u' :: rest => readNumbered? flags 4 rest
  | 'U' :: rest => readNumbered? flags 8 rest
  | 'p' :: rest => readCategory? flags false rest
  | 'P' :: rest => readCategory? flags true rest
  | c :: rest =>
    if escapesItself c then some (.literal c, rest)
    else
      match controlEscape? c, anchorEscape? flags c, CharSet.shorthand? c.toLower with
      | some control, _, _ => some (.literal control, rest)
      | none, some place, _ => some (.anchor place, rest)
      | none, none, some set =>
        (complement? flags (c != c.toLower) set).map fun set => (.set set, rest)
      | none, none, none => none

end ManifestSarif.Text.Pattern
