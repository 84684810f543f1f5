/-!
# Sets of characters

The sets that a pattern can write: listed ranges, and what set operations make of them.

* `CharSet.contains` decides membership,
* `CharSet.shorthand?`, `CharSet.category?` and `CharSet.class?` are the sets with a name.

Patterns are compared with names in ASCII.  So the sets with a name list their ASCII members only,
and only letters of ASCII have counterparts of the other case.
-/

namespace ManifestSarif.Text

/-- A set of characters. -/
inductive CharSet where
  /-- The characters of some closed ranges. -/
  | ranges (list : List (Char × Char))
  | union (a b : CharSet)
  | inter (a b : CharSet)
  | diff (a b : CharSet)
  | symmDiff (a b : CharSet)
  | compl (a : CharSet)
  /-- The set with the counterparts of its members in the other case. -/
  | anyCase (a : CharSet)
deriving DecidableEq, Repr

/-- The other characters that differ from an ASCII letter in case only.  The long s and the Kelvin
sign are further forms of `s` and `k`. -/
def caseVariants (c : Char) : List Char :=
  match c with
  | 'S' | 's' => ['S', 's', 'ſ']
  | 'K' | 'k' => ['K', 'k', '\u212a']
  | c => if c.isAlpha then [c.toUpper, c.toLower] else []

namespace CharSet

/-- Whether a character is in the set. -/
def contains : CharSet → Char → Bool
  | ranges list, c => list.any fun range => range.1 ≤ c && c ≤ range.2
  | union a b, c => a.contains c || b.contains c
  | inter a b, c => a.contains c && b.contains c
  | diff a b, c => a.contains c && !b.contains c
  | symmDiff a b, c => a.contains c != b.contains c
  | compl a, c => !a.contains c
  | anyCase a, c => a.contains c || (caseVariants c).any a.contains

/-- The set of one character. -/
def single (c : Char) : CharSet := .ranges [(c, c)]

/-- The set of all characters. -/
def full : CharSet := .compl (.ranges [])

/-- The union of some sets. -/
def unions : List CharSet → CharSet
  | [] => .ranges []
  | [set] => set
  | set :: more => .union set (unions more)

/-! ## Sets with a name -/

/-- The set that a backslash and a small letter stand for. -/
def shorthand? : Char → Option CharSet
  | 'd' => some (.ranges [('0', '9')])
  | 's' => some (.ranges [('\t', '\r'), (' ', ' ')])
  | 'w' => some (.ranges [('0', '9'), ('A', 'Z'), ('_', '_'), ('a', 'z')])
  | _ => none

/-- The general category whose name is one letter: letters, marks, numbers, punctuation, symbols,
separators and others. -/
def category? : Char → Option CharSet
  | 'L' => some (.ranges [('A', 'Z'), ('a', 'z')])
  | 'M' => some (.ranges [])
  | 'N' => some (.ranges [('0', '9')])
  | 'P' =>
    some (.ranges [('!', '#'), ('%', '*'), (',', '/'), (':', ';'), ('?', '@'), ('[', ']'),
      ('_', '_'), ('\x7b', '\x7b'), ('\x7d', '\x7d')])
  | 'S' => some (.ranges [('$', '$'), ('+', '+'), ('<', '>'), ('^', '^'), ('\x60', '\x60'),
      ('|', '|'), ('~', '~')])
  | 'Z' => some (.ranges [(' ', ' ')])
  | 'C' => some (.ranges [('\x00', '\x1f'), ('\x7f', '\x7f')])
  | _ => none

/-- The set that has a name between `[:` and `:]`. -/
def class? (name : String) : Option CharSet :=
  [("alnum", ranges [('0', '9'), ('A', 'Z'), ('a', 'z')]),
    ("alpha", ranges [('A', 'Z'), ('a', 'z')]),
    ("ascii", ranges [('\x00', '\x7f')]),
    ("blank", ranges [('\t', '\t'), (' ', ' ')]),
    ("cntrl", ranges [('\x00', '\x1f'), ('\x7f', '\x7f')]),
    ("digit", ranges [('0', '9')]),
    ("graph", ranges [('!', '~')]),
    ("lower", ranges [('a', 'z')]),
    ("print", ranges [(' ', '~')]),
    ("punct", ranges [('!', '/'), (':', '@'), ('[', '\x60'), ('\x7b', '~')]),
    ("space", ranges [('\t', '\r'), (' ', ' ')]),
    ("upper", ranges [('A', 'Z')]),
    ("word", ranges [('0', '9'), ('A', 'Z'), ('_', '_'), ('a', 'z')]),
    ("xdigit", ranges [('0', '9'), ('A', 'F'), ('a', 'f')])].lookup name

end CharSet

end ManifestSarif.Text
