import ManifestSarif.Text.CharSet

/-!
# Patterns

Regular expressions whose choices have an order: the matches of a pattern at a place are a list,
the preferred one first.

* `Pattern` is the type, `Pattern.ends` lists where its matches end,
* `Pattern.accepts` tells whether the preferred match of a pattern at the start of a text is the
  whole text.
-/

namespace ManifestSarif.Text

/-- A condition on the place between two characters. -/
inductive Anchor where
  | textStart
  | textEnd
  /-- The start of a line.  Lines end with a line feed, and with `crlf` also with a carriage return
  or with both. -/
  | lineStart (crlf : Bool)
  | lineEnd (crlf : Bool)
  | wordBoundary
  | notWordBoundary
  | wordStart
  | wordEnd
deriving DecidableEq, Repr

/-- A place in a text: the character before it, if there is one, and the text after it. -/
structure Place where
  before : Option Char
  after : List Char
deriving DecidableEq, Repr

/-- An ASCII letter, a digit or the low line. -/
def isAsciiWord (c : Char) : Bool :=
  c.isAlphanum || c == '_'

/-- Whether the place meets the condition. -/
def Anchor.holds (anchor : Anchor) (place : Place) : Bool :=
  let before := place.before
  let after := place.after.head?
  let wordBefore := before.any isAsciiWord
  let wordAfter := after.any isAsciiWord
  match anchor with
  | textStart => before = none
  | textEnd => after = none
  | lineStart false => before = none || before = some '\n'
  | lineStart true =>
    before = none || before = some '\n' || (before = some '\r' && after ≠ some '\n')
  | lineEnd false => after = none || after = some '\n'
  | lineEnd true =>
    after = none || after = some '\r' || (after = some '\n' && before ≠ some '\r')
  | wordBoundary => wordBefore != wordAfter
  | notWordBoundary => wordBefore == wordAfter
  | wordStart => !wordBefore && wordAfter
  | wordEnd => wordBefore && !wordAfter

/-- A regular expression. -/
inductive Pattern where
  | empty
  /-- One character of a set. -/
  | one (set : CharSet)
  | anchor (anchor : Anchor)
  | seq (p q : Pattern)
  /-- The first pattern, or else the second one. -/
  | alt (p q : Pattern)
  /-- The pattern or nothing; a greedy one prefers the pattern. -/
  | optional (greedy : Bool) (p : Pattern)
  /-- The pattern once or several times; a greedy one prefers more times. -/
  | repeated (greedy : Bool) (p : Pattern)
deriving DecidableEq, Repr

namespace Pattern

/-- The places of `more` and a last one, which a greedy choice prefers least. -/
def choose (greedy : Bool) (more : List Place) (place : Place) : List Place :=
  if greedy then more ++ [place] else place :: more

/-- Where repetitions of `step` end that have come to a place after at least one step.  A step that
does not move on is no repetition.  Every step that counts shortens the text, so that as many steps
as it has characters are enough. -/
def repetitions (step : Place → List Place) (greedy : Bool) : Nat → Place → List Place
  | 0, place => [place]
  | bound + 1, place =>
    choose greedy
      ((step place).flatMap fun next =>
        if next = place then [] else repetitions step greedy bound next)
      place

/-- Where the matches of the pattern from a place end, each end once, the preferred one first. -/
def ends : Pattern → Place → List Place
  | empty, place => [place]
  | one set, place =>
    match place.after with
    | c :: rest => if set.contains c then [⟨some c, rest⟩] else []
    | [] => []
  | anchor a, place => if a.holds place then [place] else []
  | seq p q, place => ((p.ends place).flatMap q.ends).eraseDups
  | alt p q, place => (p.ends place ++ q.ends place).eraseDups
  | optional greedy p, place => (choose greedy (p.ends place) place).eraseDups
  | repeated greedy p, place =>
    ((p.ends place).flatMap fun next =>
      if next = place then [place]
      else repetitions p.ends greedy next.after.length next).eraseDups

/-- Whether the preferred match of the pattern at the start of the text is the whole text. -/
def accepts (pattern : Pattern) (text : List Char) : Bool :=
  (pattern.ends ⟨none, text⟩).head?.any fun place => place.after.isEmpty

end Pattern

end ManifestSarif.Text
