import ManifestSarif.Text.Alphanumeric
import ManifestSarif.Text.Pattern.Bracket

/-!
# Reading patterns

The written form of patterns.  A text that breaks the rules is no pattern, and neither is one that
nests too deep.

* `Progress` is what is known of a pattern after a part of its text,
* `ofText?` reads a pattern.

Counted repetitions are not part of the language: a brace outside brackets and escapes is refused.
-/

namespace ManifestSarif.Text.Pattern

/-- A part of a sequence.  A switch of flags cannot be repeated. -/
structure Part extends Nested Pattern where
  repeatable : Bool

/-- An open group: the flags around it, the alternatives before the one that is being read, and the
parts of that one, each the last first. -/
structure OpenGroup where
  around : Flags
  alternatives : List (Nested Pattern)
  parts : List Part

/-- What is known after a part of the text: the innermost open group and those around it, the flags,
and the names of groups. -/
structure Progress where
  group : OpenGroup
  outer : List OpenGroup
  flags : Flags
  names : List (List Char)

/-- The patterns one after the other. -/
def sequence : List Pattern → Pattern
  | [] => .empty
  | [p] => p
  | p :: more => .seq p (sequence more)

/-- The patterns as alternatives. -/
def alternatives : List Pattern → Pattern
  | [] => .empty
  | [p] => p
  | p :: more => .alt p (alternatives more)

namespace OpenGroup

/-- The alternative that is being read. -/
def alternative (group : OpenGroup) : Nested Pattern :=
  let parts := group.parts.map Part.toNested
  ⟨.sequence (parts.reverse.map (·.value)), listHeight parts⟩

/-- What was read in the group. -/
def content (group : OpenGroup) : Nested Pattern :=
  let alternatives := group.alternative :: group.alternatives
  ⟨.alternatives (alternatives.reverse.map (·.value)), listHeight alternatives⟩

/-- The group at the start of its next alternative. -/
def next (group : OpenGroup) : OpenGroup :=
  { group with alternatives := group.alternative :: group.alternatives, parts := [] }

/-- The group with its last part repeated. -/
def repeatLast? (group : OpenGroup) (again : Pattern → Pattern) : Option OpenGroup :=
  match group.parts with
  | [] => none
  | part :: parts =>
    if part.repeatable then
      some { group with parts := ⟨⟨again part.value, part.height + 1⟩, true⟩ :: parts }
    else none

end OpenGroup

namespace Progress

/-- What is known before the first character. -/
def start : Progress := ⟨⟨[.unicode], [], []⟩, [], [.unicode], []⟩

/-- One more part. -/
def add (progress : Progress) (part : Part) : Progress :=
  { progress with group := { progress.group with parts := part :: progress.group.parts } }

/-- One more part, which has no level of its own. -/
def addPattern (progress : Progress) (pattern : Pattern) : Progress :=
  progress.add ⟨⟨pattern, 0⟩, true⟩

/-- A group that is opened under some flags. -/
def openGroup (progress : Progress) (flags : Flags) : Progress :=
  { progress with
    group := ⟨progress.flags, [], []⟩
    outer := progress.group :: progress.outer
    flags := flags }

/-- The innermost group is closed, and its flags end. -/
def closeGroup? (progress : Progress) : Option Progress :=
  match progress.outer with
  | [] => none
  | around :: outer =>
    let content := progress.group.content
    some (add
      { progress with group := around, outer := outer, flags := progress.group.around }
      ⟨⟨content.value, content.height + 1⟩, true⟩)

/-- The last part becomes a repetition, which is lazy if a question mark follows. -/
def repeat? (progress : Progress) (again : Bool → Pattern → Pattern) (text : List Char) :
    Option (Progress × List Char) := do
  let (isLazy, rest) :=
    match text with
    | '?' :: rest => (true, rest)
    | text => (false, text)
  let greedy := isLazy == progress.flags.contains .swapGreed
  let group ← progress.group.repeatLast? (again greedy)
  return ({ progress with group := group }, rest)

end Progress

/-- Whether the name of a group may start with the character. -/
def startsGroupName (c : Char) : Bool :=
  c == '_' || isAlphabetic c

/-- Whether the name of a group may go on with the character. -/
def continuesGroupName (c : Char) : Bool :=
  c == '_' || c == '.' || c == '[' || c == ']' || isAlphanumeric c

/-- A group with a name, which no other group has; the text starts with the name. -/
def readNamedGroup? (progress : Progress) (text : List Char) : Option (Progress × List Char) :=
  let name := text.takeWhile (· != '>')
  match text.dropWhile (· != '>') with
  | '>' :: rest =>
    if name.head?.any startsGroupName && name.tail.all continuesGroupName &&
        !progress.names.contains name then
      some ({ progress.openGroup progress.flags with names := name :: progress.names }, rest)
    else none
  | _ => none

/-- A switch of flags, for the rest of the group around it or for a group that starts with it; the
text starts after the question mark. -/
def readFlagGroup? (progress : Progress) (text : List Char) : Option (Progress × List Char) := do
  let (switches, rest) ← readSwitches? [] text
  let flags := progress.flags.switch switches
  match rest with
  | ':' :: rest => some (progress.openGroup flags, rest)
  | ')' :: rest =>
    if switches.isEmpty then none
    else some ({ progress.add ⟨⟨.empty, 0⟩, false⟩ with flags := flags }, rest)
  | _ => none

/-- The start of a group; the text starts after the parenthesis.  There is no looking ahead or
behind. -/
def readGroup? (progress : Progress) (text : List Char) : Option (Progress × List Char) :=
  match skip progress.flags text with
  | '?' :: 'P' :: '<' :: rest => readNamedGroup? progress rest
  | '?' :: '<' :: rest => readNamedGroup? progress rest
  | '?' :: rest => readFlagGroup? progress rest
  | rest => some (progress.openGroup progress.flags, rest)

/-- The pattern of one character that stands for itself. -/
def literalPattern (flags : Flags) (c : Char) : Pattern :=
  .one (if flags.contains .unicode || c.toNat < 0x80 then caseSet flags (.single c) else .single c)

/-- The pattern of a character or an escape. -/
def primitivePattern (flags : Flags) : Primitive → Pattern
  | .literal c => literalPattern flags c
  | .set set => .one set
  | .anchor place => .anchor place

/-- The characters that a dot stands for, which exist only with `unicode`. -/
def dotSet? (flags : Flags) : Option CharSet :=
  if !flags.contains .unicode then none
  else if flags.contains .dotAll then some .full
  else if flags.contains .crlf then some (.compl (.ranges [('\n', '\n'), ('\r', '\r')]))
  else some (.compl (.single '\n'))

/-- What a circumflex stands for. -/
def startAnchor (flags : Flags) : Anchor :=
  if flags.contains .multiLine then .lineStart (flags.contains .crlf) else .textStart

/-- What a dollar sign stands for. -/
def endAnchor (flags : Flags) : Anchor :=
  if flags.contains .multiLine then .lineEnd (flags.contains .crlf) else .textEnd

/-- The progress after the next construct of a text. -/
def Progress.step? (progress : Progress) (c : Char) (rest : List Char) :
    Option (Progress × List Char) :=
  let flags := progress.flags
  match c with
  | '(' => readGroup? progress rest
  | ')' => progress.closeGroup?.map (·, rest)
  | '|' => some ({ progress with group := progress.group.next }, rest)
  | '[' => do
    let (set, rest) ← readClass? flags rest
    return (progress.add ⟨⟨.one set.value, set.height⟩, true⟩, rest)
  | '?' => progress.repeat? .optional rest
  | '*' => progress.repeat? (fun greedy p => .optional greedy (.repeated greedy p)) rest
  | '+' => progress.repeat? .repeated rest
  | '\x7b' => none
  | '.' => (dotSet? flags).map fun set => (progress.addPattern (.one set), rest)
  | '^' => some (progress.addPattern (.anchor (startAnchor flags)), rest)
  | '$' => some (progress.addPattern (.anchor (endAnchor flags)), rest)
  | '\\' => do
    let (primitive, rest) ← readEscape? flags rest
    return (progress.addPattern (primitivePattern flags primitive), rest)
  | c => some (progress.addPattern (literalPattern flags c), rest)

/-- The progress at the end of a text.  Every step reads a character, so that as many steps as there
are characters are enough. -/
def Progress.finish? : Nat → Progress → List Char → Option Progress
  | 0, progress, text => if text.isEmpty then some progress else none
  | bound + 1, progress, text =>
    match skip progress.flags text with
    | [] => some progress
    | c :: rest => do
      let (progress, rest) ← progress.step? c rest
      finish? bound progress rest

/-- How many levels of nesting a pattern may have. -/
def heightLimit : Nat := 250

/-- The pattern that a text is. -/
def ofText? (text : List Char) : Option Pattern := do
  let progress ← Progress.start.finish? text.length text
  let content := progress.group.content
  if progress.outer.isEmpty && content.height ≤ heightLimit then some content.value else none

end ManifestSarif.Text.Pattern
