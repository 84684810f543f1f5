import ManifestSarif.Text.Pattern.Escape

/-!
# Sets in brackets

A set is written between brackets as a list of characters, ranges, escapes, names and further sets,
with operations between such lists.  All operations bind alike, the list binds tighter.

* `Bracket` is what is read of a set whose bracket is still open,
* `readClass?` reads a set.
-/

namespace ManifestSarif.Text.Pattern

/-- Something that was read, and how many levels of nesting it has. -/
structure Nested (α : Type) where
  value : α
  height : Nat

/-- How many levels a list has: what holds several things is a level of its own. -/
def listHeight {α : Type} (items : List (Nested α)) : Nat :=
  let height := (items.map (·.height)).foldl max 0
  if items.length ≤ 1 then height else height + 1

/-- The operations on sets. -/
inductive SetOperation where
  | inter
  | diff
  | symmDiff

/-- The set that an operation makes. -/
def SetOperation.apply : SetOperation → CharSet → CharSet → CharSet
  | inter => .inter
  | diff => .diff
  | symmDiff => .symmDiff

/-- An open bracket: whether its set is negated, whether it has only hyphens so far, the operation
whose right side is being read with its left side, and what was read since, the last first. -/
structure Bracket where
  negated : Bool
  fresh : Bool
  left : Option (SetOperation × Nested CharSet)
  items : List (Nested CharSet)

/-- The set with both cases of its members, if case means nothing. -/
def caseSet (flags : Flags) (set : CharSet) : CharSet :=
  if flags.contains .anyCase then .anyCase set else set

/-- What was read in the bracket. -/
def Bracket.content (flags : Flags) (bracket : Bracket) : Nested CharSet :=
  let right : Nested CharSet :=
    ⟨.unions (bracket.items.reverse.map (·.value)), listHeight bracket.items⟩
  match bracket.left with
  | none => right
  | some (operation, left) =>
    ⟨operation.apply (caseSet flags left.value) (caseSet flags right.value),
      max left.height right.height + 1⟩

/-- The set of the bracket when it is closed. -/
def Bracket.close? (flags : Flags) (bracket : Bracket) : Option (Nested CharSet) :=
  let content := bracket.content flags
  (complement? flags bracket.negated (caseSet flags content.value)).map (⟨·, content.height + 1⟩)

/-- The bracket with one more item. -/
def Bracket.add (bracket : Bracket) (item : Nested CharSet) : Bracket :=
  { bracket with fresh := false, items := item :: bracket.items }

/-- The bracket with one more of the hyphens that it starts with. -/
def Bracket.addHyphen (bracket : Bracket) : Bracket :=
  { bracket with items := ⟨.single '-', 0⟩ :: bracket.items }

/-- The bracket after the mark of an operation. -/
def Bracket.operate (flags : Flags) (operation : SetOperation) (bracket : Bracket) : Bracket :=
  { bracket with
    fresh := false
    left := some (operation, bracket.content flags)
    items := [] }

/-- A bracket that is opened, and the text after the mark that negates it. -/
def openBracket (flags : Flags) (text : List Char) : Bracket × List Char :=
  match skip flags text with
  | '^' :: rest => (⟨true, true, none, []⟩, rest)
  | rest => (⟨false, true, none, []⟩, rest)

/-- A set that is named between `[:` and `:]`; the text starts after the bracket. -/
def readNamed? (flags : Flags) (text : List Char) : Option (Option CharSet × List Char) :=
  match text with
  | ':' :: rest =>
    let (negated, rest) :=
      match rest with
      | '^' :: rest => (true, rest)
      | rest => (false, rest)
    match rest.dropWhile (· != ':') with
    | ':' :: ']' :: after =>
      (CharSet.class? (String.ofList (rest.takeWhile (· != ':')))).map fun set =>
        (complement? flags negated (caseSet flags set), after)
    | _ => none
  | _ => none

/-- One end of a range, or a set of its own. -/
def readSetItem? (flags : Flags) : List Char → Option (Primitive × List Char)
  | [] => none
  | '\\' :: rest => readEscape? flags rest
  | c :: rest => some (.literal c, rest)

/-- The character that may stand in a set.  Without `unicode` it is in ASCII. -/
def setLiteral? (flags : Flags) : Primitive → Option Char
  | .literal c => if flags.contains .unicode || c.toNat < 0x80 then some c else none
  | _ => none

/-- The set that a single item stands for. -/
def itemSet? (flags : Flags) (item : Primitive) : Option CharSet :=
  match item with
  | .set set => some set
  | item => (setLiteral? flags item).map .single

/-- A range or a single item.  A hyphen makes no range before another hyphen or before the end of
the set. -/
def readRange? (flags : Flags) (text : List Char) : Option (CharSet × List Char) := do
  let (first, rest) ← readSetItem? flags text
  match skip flags rest with
  | [] => none
  | '-' :: more =>
    if afterHyphen? flags more = some ']' || afterHyphen? flags more = some '-' then
      (itemSet? flags first).map (·, '-' :: more)
    else
      let (last, rest) ← readSetItem? flags (skip flags more)
      let first ← setLiteral? flags first
      let last ← setLiteral? flags last
      if first ≤ last then some (.ranges [(first, last)], rest) else none
  | rest => (itemSet? flags first).map (·, rest)

/-- What the text in a bracket goes on with. -/
inductive BracketToken where
  | hyphen
  | item (set : CharSet)
  | opening (inner : Bracket)
  | closing
  | operation (operation : SetOperation)

/-- The next token in a bracket.  At the start of a bracket, hyphens stand for themselves, and so
does a closing bracket that comes first. -/
def readBracketToken? (flags : Flags) (bracket : Bracket) (text : List Char) :
    Option (BracketToken × List Char) :=
  match text with
  | '-' :: rest =>
    if bracket.fresh then some (.hyphen, rest)
    else
      match rest with
      | '-' :: rest => some (.operation .diff, rest)
      | _ => (readRange? flags text).map fun (set, rest) => (.item set, rest)
  | ']' :: rest =>
    some (if bracket.fresh && bracket.items.isEmpty then .item (.single ']') else .closing, rest)
  | '[' :: rest =>
    match readNamed? flags rest with
    | some (set, rest) => set.map (.item ·, rest)
    | none =>
      let (inner, rest) := openBracket flags rest
      some (.opening inner, rest)
  | '&' :: '&' :: rest => some (.operation .inter, rest)
  | '~' :: '~' :: rest => some (.operation .symmDiff, rest)
  | text => (readRange? flags text).map fun (set, rest) => (.item set, rest)

/-- The set of an open bracket with the brackets around it, and the text after the outermost one.
Every step reads a character, so that as many steps as there are characters are enough. -/
def readBrackets? (flags : Flags) :
    Nat → Bracket → List Bracket → List Char → Option (Nested CharSet × List Char)
  | 0, _, _, _ => none
  | bound + 1, bracket, outer, text => do
    let (token, rest) ← readBracketToken? flags bracket (skip flags text)
    match token with
    | .hyphen => readBrackets? flags bound bracket.addHyphen outer rest
    | .item set => readBrackets? flags bound (bracket.add ⟨set, 0⟩) outer rest
    | .operation operation =>
      readBrackets? flags bound (bracket.operate flags operation) outer rest
    | .opening inner => readBrackets? flags bound inner (bracket :: outer) rest
    | .closing =>
      let set ← bracket.close? flags
      match outer with
      | [] => some (set, rest)
      | around :: outer => readBrackets? flags bound (around.add set) outer rest

/-- A set in brackets; the text starts after the opening one. -/
def readClass? (flags : Flags) (text : List Char) : Option (Nested CharSet × List Char) :=
  let (bracket, rest) := openBracket flags text
  readBrackets? flags rest.length bracket [] rest

end ManifestSarif.Text.Pattern
