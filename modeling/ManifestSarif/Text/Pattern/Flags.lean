import ManifestSarif.Text.Blank
import ManifestSarif.Text.Pattern

/-!
# Flags of patterns

A pattern can switch the meaning of a part of itself.

* `Flag` is such a switch, `Flags` are those that are set at some place,
* `readSwitches?` reads a list of switches,
* `skip` passes over what means nothing under some flags.
-/

namespace ManifestSarif.Text.Pattern

/-- A switch for the meaning of what follows it. -/
inductive Flag where
  /-- Letters stand for both of their cases. -/
  | anyCase
  /-- `^` and `$` stand for the ends of lines. -/
  | multiLine
  /-- `.` includes the ends of lines. -/
  | dotAll
  /-- Repetitions are lazy unless a question mark follows. -/
  | swapGreed
  /-- Characters are those of all scripts. -/
  | unicode
  /-- A carriage return ends a line, too. -/
  | crlf
  /-- Blanks and comments mean nothing. -/
  | verbose
deriving DecidableEq, Repr

/-- The flag that a letter stands for. -/
def Flag.ofChar? (c : Char) : Option Flag :=
  [('i', anyCase), ('m', multiLine), ('s', dotAll), ('U', swapGreed), ('u', unicode), ('R', crlf),
    ('x', verbose)].lookup c

/-- The flags that are set. -/
abbrev Flags := List Flag

/-- The flags after a list of switches; those after a hyphen, which is written as `none`, are
cleared. -/
def Flags.switch (flags : Flags) (switches : List (Option Flag)) : Flags :=
  let set := (switches.takeWhile (·.isSome)).filterMap id
  let clear := (switches.dropWhile (·.isSome)).filterMap id
  (flags ++ set).filter (!clear.contains ·)

/-- The switches up to a colon or a closing parenthesis, which is left in the rest.  Each is written
at most once, and a hyphen is not the last one. -/
def readSwitches? : List (Option Flag) → List Char → Option (List (Option Flag) × List Char)
  | _, [] => none
  | switches, c :: rest =>
    if c = ':' || c = ')' then
      if switches.getLast? = some none then none else some (switches, c :: rest)
    else do
      let switch ← if c = '-' then some none else (Flag.ofChar? c).map some
      if switches.contains switch then none else readSwitches? (switches ++ [switch]) rest

/-! ## Blanks -/

/-- The text after blanks and comments; `inComment` tells whether it starts within a comment. -/
def dropComments (inComment : Bool) : List Char → List Char
  | [] => []
  | c :: rest =>
    if inComment then dropComments (c != '\n') rest
    else if isBlank c then dropComments false rest
    else if c = '#' then dropComments true rest
    else c :: rest

/-- The text after what means nothing. -/
def skip (flags : Flags) (text : List Char) : List Char :=
  if flags.contains .verbose then dropComments false text else text

/-- The character after a hyphen that decides whether the hyphen makes a range.  Of a comment only
the mark that opens it is passed over. -/
def afterHyphen? (flags : Flags) (text : List Char) : Option Char :=
  if flags.contains .verbose then
    match trimStart text with
    | '#' :: rest => (trimStart rest).head?
    | rest => rest.head?
  else text.head?

end ManifestSarif.Text.Pattern
