import TemplateLexer.Lexer.Text

/-!
# Actions and comments

Behind a left delimiter stands a comment or an action. A comment is read to its closing mark, which
the right delimiter must follow at once, and leaves no token. In an action the next character, and
sometimes the one after it, decides which token begins; `ActionStart.of` is that decision, and the
token then runs as far as it can.
-/

namespace TemplateLexer

open Text

/-- White space in an action. -/
def isActionSpace (c : Char) : Bool := c == ' ' || c == '\t' || c == '\r' || c == '\n'

/-- A character that may go on a number: a letter or digit of ASCII, an underscore or a dot. -/
def isNumberChar (c : Char) : Bool := c.isAlphanum || c == '_' || c == '.'

/-- A punctuation character of ASCII. -/
def isPunctuation (c : Char) : Bool :=
  ('!' ≤ c && c ≤ '/') || (':' ≤ c && c ≤ '@') || ('[' ≤ c && c ≤ '\x60') ||
    ('\x7b' ≤ c && c ≤ '~')

/-- What a character of an action begins. -/
inductive ActionStart where
  | space
  | quote
  | leftParen
  | rightParen
  | pipe
  | colonEquals
  | var
  | number
  | field
  | dot
  | word
  | char
  | unrecognized
deriving DecidableEq, Repr

/-- What `c` begins in an action where `next` follows it. -/
def ActionStart.of (c : Char) (next : Option Char) : ActionStart :=
  if isActionSpace c then .space
  else if c = '"' then .quote
  else if c = '(' then .leftParen
  else if c = ')' then .rightParen
  else if c = '|' then .pipe
  else if c = ':' ∧ next = some '=' then .colonEquals
  else if c = '$' then .var
  else if c = '.' then
    if next.any Char.isDigit then .number
    else if next.any isWordChar then .field
    else .dot
  else if c.isDigit then .number
  else if (c = '+' ∨ c = '-') ∧ next.any Char.isDigit then .number
  else if isWordChar c then .word
  else if isPunctuation c then .char
  else .unrecognized

namespace Lexer

/-- Opens a comment behind a left delimiter. -/
def commentOpen : List Char := ['/', '*']

/-- Closes a comment. -/
def commentClose : List Char := ['*', '/']

/-- At a left delimiter. -/
def stepLeftDelim (l : Lexer) : Except Fault Lexer := do
  let cursor ← l.cursor.advanceBy (size l.delims.left)
  let l ← (l.moveTo cursor).emit .leftDelim
  if ← cursor.startsWith commentOpen then return l.enter .comment
  else return { l with openParens := 0, state := some .action }

/-- At the opening mark of a comment. -/
def stepComment (l : Lexer) : Except Fault Lexer := do
  let inside ← l.cursor.advanceBy (size commentOpen)
  match ← inside.find commentClose with
  | none => (l.moveTo inside).fail .unclosedComment
  | some body =>
    let behind ← inside.advanceBy (body + size commentClose)
    if ← behind.startsWith l.delims.right then
      let cursor ← behind.advanceBy (size l.delims.right)
      return (l.moveTo cursor).discard.enter .text
    else (l.moveTo behind).fail .commentEndsBeforeDelimiter

/-- Opens a parenthesis; their number is counted in 32 bits. -/
def countParen (l : Lexer) : Except Fault Lexer :=
  if l.openParens + 1 < depthBound then .ok { l with openParens := l.openParens + 1 }
  else .error .overflow

/-- Forward over the characters that pass the test, then a token of the given kind. -/
def emitRun (l : Lexer) (p : Char → Bool) (kind : TokenKind) : Except Fault Lexer := do
  (l.moveTo (← l.cursor.eatWhile p)).emitAndEnter kind .action

/-- Behind a character of an action that begins a token. -/
def stepActionToken (l : Lexer) (c : Char) : ActionStart → Except Fault Lexer
  | .space => l.emitRun isActionSpace .space
  | .quote => return l.enter (.quote .action)
  | .leftParen => do (← l.countParen).emitAndEnter .leftParen .action
  | .rightParen =>
    match l.openParens with
    | 0 => l.fail .unexpectedRightParen
    | depth + 1 => { l with openParens := depth }.emitAndEnter .rightParen .action
  | .pipe => l.emitAndEnter .pipe .action
  | .colonEquals => do (l.moveTo (← l.cursor.bump).2).emitAndEnter .colonEquals .action
  | .var => l.emitRun isWordChar .var
  | .number => l.emitRun isNumberChar .number
  | .field => l.emitRun isWordChar .field
  | .dot => l.emitAndEnter (.keyword .dot) .action
  | .word => return (l.moveTo (← l.cursor.backUp)).enter (.identifier .action)
  | .char => l.emitAndEnter .char .action
  | .unrecognized => l.fail (.unrecognizedInAction c)

/-- In an action. -/
def stepAction (l : Lexer) : Except Fault Lexer := do
  if ← l.cursor.startsWith l.delims.right then
    if 0 < l.openParens then l.fail .unclosedLeftParen
    else
      let cursor ← l.cursor.advanceBy (size l.delims.right)
      (l.moveTo cursor).emitAndEnter .rightDelim .text
  else
    match ← l.cursor.bump with
    | (none, cursor) => (l.moveTo cursor).fail .unclosedAction
    | (some c, cursor) => (l.moveTo cursor).stepActionToken c (.of c (← cursor.peek))

end Lexer

end TemplateLexer
