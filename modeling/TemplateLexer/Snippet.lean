import TemplateLexer.Diagnostic
import TemplateLexer.Text.Blank
import TemplateLexer.Text.Lines
import TemplateLexer.Text.Width

/-!
# Reports that point into a template

A report shows an error with the lines on which it stands, and underlines what scanning had taken
when it stopped. Spans and columns are in characters here. A line ends with any line end that a
display may follow, so lines can be more than those that a diagnostic counts.

`Token.span` is what is underlined; `Diagnostic.report` is the whole text.
-/

namespace TemplateLexer

open Text

/-! ### Lines -/

/-- A character that ends a line by itself. -/
def endsLine (c : Char) : Bool :=
  c == '\n' || c == '\r' || c == '\x0b' || c == '\x0c' || c == '\u0085' || c == '\u2028' ||
    c == '\u2029'

/-- The lines of a text, each with its line end; a final line end opens no further line. -/
def splitLines : List Char → List (List Char)
  | [] => []
  | '\r' :: '\n' :: cs => ['\r', '\n'] :: splitLines cs
  | c :: cs =>
    if endsLine c then [c] :: splitLines cs
    else
      match splitLines cs with
      | [] => [[c]]
      | line :: lines => (c :: line) :: lines

/-- A line at its place in a text. -/
structure SourceLine where
  /-- The number of the line, counted from one. -/
  number : Nat
  /-- How many characters stand before the line. -/
  start : Nat
  /-- The characters of the line, its end included. -/
  chars : List Char
deriving DecidableEq, Repr

namespace SourceLine

/-- The lines of a text at their places, where `number` and `start` are those of the first one. -/
def place (number start : Nat) : List (List Char) → List SourceLine
  | [] => []
  | chars :: lines => ⟨number, start, chars⟩ :: place (number + 1) (start + chars.length) lines

/-- The lines of a template at their places. -/
def ofSource (source : List Char) : List SourceLine := place 1 0 (splitLines source)

/-- The line of an offset: the last that starts at or before it. -/
def find? (lines : List SourceLine) (offset : Nat) : Option SourceLine :=
  (lines.takeWhile (·.start ≤ offset)).getLast?

/-- The place of an offset in a line. -/
def position (line : SourceLine) (offset : Nat) : Position where
  line := line.number
  column := offset - line.start + 1

/-- A line without its end and without white space before that. -/
def shown (line : SourceLine) : List Char :=
  (line.chars.reverse.dropWhile isBlank).reverse

end SourceLine

/-! ### What is underlined -/

/-- A run of characters of a template. -/
structure Span where
  /-- How many characters stand before the run. -/
  start : Nat
  /-- How many characters stand before the end of the run. -/
  stop : Nat
deriving DecidableEq, Repr

namespace Span

/-- How many characters stand before a byte offset. -/
def charOffset (source : List Char) (offset : Nat) : Except Fault Nat := do
  return (← upTo source offset).length

/-- The characters between two byte offsets: one at least, unless the template ends there. -/
def ofOffsets (source : List Char) (start stop : Nat) : Except Fault Span := do
  let first ← charOffset source start
  let last ← charOffset source stop
  return { start := first, stop := min (max last (first + 1)) source.length }

end Span

namespace Snippet

/-! ### Drawing a line -/

/-- The columns of a tab stop. -/
def tabStop : Nat := 4

/-- The columns that a character takes as character `col` of a line. -/
def columns (col : Nat) (c : Char) : Nat :=
  if c = '\t' then (col / tabStop + 1) * tabStop - col
  else if isBlank c then 1
  else width c

/-- A character as it is drawn as character `col` of a line. -/
def draw (col : Nat) (c : Char) : List Char :=
  if isBlank c then List.replicate (columns col c) ' ' else [c]

/-- The text of a line as it is drawn. -/
def drawLine (line : List Char) : List Char :=
  (line.zipIdx.map fun (c, col) => draw col c).flatten

/-- A mark under a character: how it begins, and how it goes on under a wide character. -/
structure Mark where
  head : Char
  tail : Char

/-- No mark. -/
def blank : Mark := ⟨' ', ' '⟩

/-- A mark as wide as the `count` columns above it. -/
def Mark.draw (m : Mark) : Nat → List Char
  | 0 => []
  | count + 1 => m.head :: List.replicate count m.tail

/-- The marks under the first `count` characters of the line above; characters behind its end take
one column each. -/
def drawMarks (above : List Char) (count : Nat) (mark : Nat → Mark) : List Char :=
  (List.range count).flatMap fun col => (mark col).draw ((above[col]?).elim 1 (columns col))

/-! ### The lines of a report -/

/-- What the underlined characters are said to be. -/
def label : List Char := " scanning stopped here".toList

/-- A number with blanks before it, `digits` characters wide. -/
def alignRight (digits n : Nat) : List Char :=
  let shown := Nat.toDigits 10 n
  List.replicate (digits - shown.length) ' ' ++ shown

/-- The margin before a numbered line. -/
def numbered (digits n : Nat) : List Char := ' ' :: alignRight digits n ++ " │ ".toList

/-- The margin before a line that is not numbered. -/
def margin (digits : Nat) : List Char := List.replicate (digits + 2) ' '

/-- An underlined run within one line: the line, the run below it, and the label below that. -/
def within (digits : Nat) (line : SourceLine) (span : Span) : List (List Char) :=
  let first := span.start - line.start
  let last := span.stop - line.start
  let middle := max ((span.start + span.stop) / 2) span.start - line.start
  let under (col : Nat) : Bool := first ≤ col && col < last
  let underline (col : Nat) : Mark :=
    if col = middle then (if under col then ⟨'┬', '─'⟩ else ⟨'│', ' '⟩)
    else if under col then ⟨'─', '─'⟩
    else blank
  let arrow (col : Nat) : Mark :=
    if col = middle then ⟨'╰', '─'⟩
    else if middle < col then ⟨'─', '─'⟩
    else blank
  let marks := drawMarks line.shown (last + 2)
  [numbered digits line.number ++ drawLine line.shown,
    margin digits ++ "│ ".toList ++ marks underline,
    margin digits ++ "│ ".toList ++ marks arrow ++ label]

/-- A run over several lines: its first and its last line, joined at the left. -/
def across (digits : Nat) (first last : SourceLine) : List (List Char) :=
  let marks := drawMarks last.shown (last.chars.length + 2)
  [numbered digits first.number ++ "╭─▶ ".toList ++ drawLine first.shown] ++
    (if first.number + 1 < last.number then [margin digits ++ "┆ ┆   ".toList] else []) ++
    [numbered digits last.number ++ "├─▶ ".toList ++ drawLine last.shown,
      margin digits ++ "│ │   ".toList ++ marks fun _ => blank,
      margin digits ++ "│ ╰───".toList ++ marks (fun _ => ⟨'─', '─'⟩) ++ label]

/-- The line above all others, which names the template and the place. -/
def header (digits : Nat) (name : String) (p : Position) : List Char :=
  margin digits ++ "╭─[".toList ++ name.toList ++ ':' :: Nat.toDigits 10 p.line ++
    ':' :: Nat.toDigits 10 p.column ++ [']']

/-- The lines around a span, with the place at which it starts above them. -/
def body (name : String) (source : List Char) (span : Span) : List (List Char) :=
  let lines := SourceLine.ofSource source
  let last := if span.start < span.stop then span.stop - 1 else span.start
  match SourceLine.find? lines span.start, SourceLine.find? lines last with
  | some a, some b =>
    let digits := (Nat.toDigits 10 b.number).length
    [header digits name (a.position span.start), margin digits ++ ['│']] ++
      (if a.number = b.number then within digits a span else across digits a b) ++
      [List.replicate (digits + 2) '─' ++ ['╯']]
  | _, _ => []

end Snippet

/-- The report on an error that stopped at the given span. -/
def Diagnostic.report (d : Diagnostic) (source : List Char) (span : Span) : List Char :=
  unlines (("Error: " ++ d.error.message).toList :: Snippet.body d.name source span)

/-- The characters that a report on a token underlines. The offset behind the token has to be one
that can be held in a machine word. -/
def Token.span (t : Token) (source : List Char) : Except Fault Span := do
  Span.ofOffsets source t.offset (← t.stopWord)

/-- The report on a token, if it is an error. -/
def Token.report? (t : Token) (name : String) (source : List Char) :
    Except Fault (Option (List Char)) :=
  match Diagnostic.ofToken? name source t with
  | none => .ok none
  | some d => do return some (d.report source (← t.span source))

end TemplateLexer
