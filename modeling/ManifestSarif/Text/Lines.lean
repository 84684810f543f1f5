/-!
# Lines

Cutting a text at every occurrence of a mark, and two ways to cut it into lines.  `pieces` of line
feeds are one more than there are line feeds; `terminated` treats a line feed as the end of a line,
so a final one opens no further line.  A carriage return before a line feed belongs to the line end.
-/

namespace ManifestSarif.Text

/-- The parts of the text between the marks. -/
def pieces (mark : Char) : List Char → List (List Char)
  | [] => [[]]
  | c :: rest =>
    if c = mark then [] :: pieces mark rest
    else
      match pieces mark rest with
      | [] => [[c]]
      | piece :: more => (c :: piece) :: more

/-- The line without one carriage return at its end. -/
def chomp (line : List Char) : List Char :=
  if line.getLast? = some '\r' then line.dropLast else line

/-- The pieces as lines that a line feed ends, and a last one, if it is not empty, that the end of
the text ends. -/
def endLines : List (List Char) → List (List Char)
  | [] => []
  | [last] => if last.isEmpty then [] else [last]
  | piece :: more => chomp piece :: endLines more

/-- The lines of the text, each without its line end. -/
def terminated (text : List Char) : List (List Char) :=
  endLines (pieces '\n' text)

end ManifestSarif.Text
