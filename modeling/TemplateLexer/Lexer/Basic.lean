import TemplateLexer.Cursor
import TemplateLexer.Options
import TemplateLexer.Token.Basic

/-!
# The lexer and its states

A lexer is a cursor, the start of the token in progress, the state to run next, and a slot for one
finished token. Each state is one place in the grammar of templates. A step of a state moves the
cursor, finishes at most one token, and says which state follows; without a following state the
lexer has halted.
-/

namespace TemplateLexer

/-- Where scanning goes on after a word or a quoted string. -/
inductive Resume where
  | insideDirective
  /-- Behind the parameter of an extends directive. -/
  | closeDirective
  | action
deriving DecidableEq, Repr

/-- A place in the grammar of templates. -/
inductive State where
  | text
  | leftDelim
  /-- At the opening mark of a comment, behind a left delimiter. -/
  | comment
  | action
  /-- At the marker of a directive whose name takes `nameLen` bytes. -/
  | directive (directive : Directive) (nameLen : Nat)
  /-- At the opening parenthesis of a directive; `extends` says of which kind. -/
  | openDirective (extends_ : Bool)
  | insideDirective
  /-- Where the parameter of an extends directive must be. -/
  | extendsParam
  /-- Behind the parameter of an extends directive. -/
  | closeDirective
  /-- At the first character of a word. -/
  | identifier (resume : Resume)
  /-- Behind the opening quote of a string. -/
  | quote (resume : Resume)
  | eof
deriving DecidableEq, Repr

/-- The state in which scanning goes on. -/
def Resume.state : Resume → State
  | insideDirective => .insideDirective
  | closeDirective => .closeDirective
  | action => .action

/-- A template in the middle of being scanned. -/
structure Lexer where
  /-- The name of the template, for messages. -/
  name : String
  delims : Delimiters
  /-- The position in the template. -/
  cursor : Cursor
  /-- The byte offset at which the token in progress starts. -/
  start : Nat := 0
  /-- The state to run next, `none` after the lexer has halted. -/
  state : Option State := some .text
  /-- How many parentheses of the current action are open. -/
  openParens : Nat := 0
  /-- Whether an extends directive was seen. -/
  sawExtends : Bool := false
  /-- The token that is finished and not yet handed out. -/
  pending : Option Token := none
  /-- The offset of the last token handed out. -/
  lastOffset : Nat := 0

namespace Lexer

open Text

/-- A lexer at the start of a template. -/
def ofSource (name : String) (source : List Char) (options : Options) : Lexer where
  name := name
  delims := options.normalized
  cursor := { source }

def source (l : Lexer) : List Char := l.cursor.source

/-- The line of the last token handed out, counted from one. -/
def lineNumber (l : Lexer) : Except Fault Nat :=
  if l.lastOffset ≤ size l.source then
    .ok (1 + ((bytes l.source).take l.lastOffset).count 10)
  else .error .notBoundary

/-! ### Finishing tokens -/

/-- Finishes the token in progress, which ends at the cursor, and starts the next one there. -/
def emit (l : Lexer) (kind : TokenKind) : Except Fault Lexer :=
  match l.pending with
  | some _ => .error .slotFull
  | none => do
    let text ← l.cursor.sliceFrom l.start
    return { l with pending := some ⟨kind, l.start, text⟩, start := l.cursor.pos }

/-- Drops what was read since the last token. -/
def discard (l : Lexer) : Lexer := { l with start := l.cursor.pos }

/-- The same lexer with its cursor elsewhere. -/
def moveTo (l : Lexer) (cursor : Cursor) : Lexer := { l with cursor }

/-- The same lexer in another state. -/
def enter (l : Lexer) (state : State) : Lexer := { l with state := some state }

/-- Finishes an error token and halts. -/
def fail (l : Lexer) (e : LexicalError) : Except Fault Lexer := do
  let l ← l.emit (.error e)
  return { l with state := none }

/-- Finishes a token and goes on in `state`. -/
def emitAndEnter (l : Lexer) (kind : TokenKind) (state : State) : Except Fault Lexer := do
  return (← l.emit kind).enter state

end Lexer

end TemplateLexer
