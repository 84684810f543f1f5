/-!
# Searching a text

Cutting a text at the first occurrence of a character or of a longer piece, and replacing pieces.
Every search runs from left to right and takes the first occurrence.

* `cutAt`, `cutAtPiece`: the parts before and after the first occurrence,
* `occurs`: whether a piece occurs at all,
* `replaceFirst`, `replaceWhere`: the text with one or all occurrences replaced,
* `replaceFrom`: the same for pieces that a function finds.
-/

namespace ManifestSarif.Text

/-- The parts before and after the first `mark`; `none` when there is no `mark`. -/
def cutAt (mark : Char) : List Char → Option (List Char × List Char)
  | [] => none
  | c :: rest =>
    if c = mark then some ([], rest)
    else (cutAt mark rest).map fun (before, after) => (c :: before, after)

/-- The parts before and after the first occurrence of `piece`; `none` when it does not occur. -/
def cutAtPiece (piece : List Char) : List Char → Option (List Char × List Char)
  | [] => if piece.isEmpty then some ([], []) else none
  | c :: rest =>
    match piece.isPrefixOf? (c :: rest) with
    | some after => some ([], after)
    | none => (cutAtPiece piece rest).map fun (before, after) => (c :: before, after)

/-- Whether `piece` occurs in the text. -/
def occurs (piece : List Char) : List Char → Bool
  | [] => piece.isEmpty
  | c :: rest => piece.isPrefixOf (c :: rest) || occurs piece rest

/-- The text before the first `mark`, or all of it. -/
def upTo (mark : Char) (text : List Char) : List Char :=
  text.takeWhile (· ≠ mark)

/-- The text with the first occurrence of `piece` replaced by `new`. -/
def replaceFirst (piece new text : List Char) : List Char :=
  match cutAtPiece piece text with
  | some (before, after) => before ++ new ++ after
  | none => text

/-- The text with, from left to right, the pieces that `size?` finds replaced by `new`: it answers
the length of the piece that stands at the start of its argument, if one does.  `skip` characters
still belong to the piece replaced last. -/
def replaceFrom (size? : List Char → Option Nat) (new : List Char) : Nat → List Char → List Char
  | _, [] => []
  | skip + 1, _ :: rest => replaceFrom size? new skip rest
  | 0, c :: rest =>
    match size? (c :: rest) with
    | some size => new ++ replaceFrom size? new (size - 1) rest
    | none => c :: replaceFrom size? new 0 rest

/-- The length of `piece` if it stands at the start of the text and `fits` accepts what follows. -/
def sizeWhere? (piece : List Char) (fits : List Char → Bool) (text : List Char) : Option Nat :=
  (piece.isPrefixOf? text).bind fun after => if fits after then some piece.length else none

/-- The text with every occurrence of `piece` that `fits` accepts, given what follows it, replaced
by `new`; occurrences do not overlap, and `new` is not searched again. -/
def replaceWhere (piece : List Char) (fits : List Char → Bool) (new text : List Char) : List Char :=
  replaceFrom (sizeWhere? piece fits) new 0 text

end ManifestSarif.Text
