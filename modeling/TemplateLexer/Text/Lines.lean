/-!
# Texts and their lines

A text that is written out is a sequence of lines, each of which a line feed ends. A line that is
put together from other texts may itself hold line feeds, and then is more than one line of the
whole. A carriage return right before a line feed ends the line together with it; any other one is
part of its line.
-/

namespace TemplateLexer.Text

/-- Lines, each ended by a line feed. -/
def unlines (lines : List (List Char)) : List Char := lines.flatMap (· ++ ['\n'])

/-- The lines of a text; its last line need not be ended. -/
def lines : List Char → List (List Char)
  | [] => []
  | '\n' :: cs => [] :: lines cs
  | '\r' :: '\n' :: cs => [] :: lines cs
  | c :: cs =>
    match lines cs with
    | [] => [[c]]
    | line :: rest => (c :: line) :: rest

end TemplateLexer.Text
