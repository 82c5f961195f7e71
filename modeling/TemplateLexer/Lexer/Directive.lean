import TemplateLexer.Lexer.Text

/-!
# Directives

A directive is its name behind the marker, an opening parenthesis, a body and a closing parenthesis.
The body of most directives is any sequence of words, quoted strings and line ends, with blanks
between them that leave no token. An extends directive has one quoted string for a body, and is
allowed only once and only at the very start of a template.
-/

namespace TemplateLexer

open Text

/-- A blank inside a line. -/
def isInlineBlank (c : Char) : Bool := c == ' ' || c == '\t'

namespace Lexer

/-- At the marker of a directive. -/
def stepDirective (l : Lexer) (directive : Directive) (nameLen : Nat) : Except Fault Lexer :=
  if directive.isExtends ∧ l.sawExtends then l.fail .duplicateExtends
  else if directive.isExtends ∧ 0 < l.start then l.fail .misplacedExtends
  else do
    let cursor ← l.cursor.advanceBy (size l.delims.marker + nameLen)
    let l := { l with sawExtends := l.sawExtends || directive.isExtends }
    (l.moveTo cursor).emitAndEnter (.directive directive) (.openDirective directive.isExtends)

/-- At the opening parenthesis of a directive. -/
def stepOpenDirective (l : Lexer) (extends_ : Bool) : Except Fault Lexer := do
  let cursor ← l.cursor.advanceBy 1
  (l.moveTo cursor).emitAndEnter .openDirective
    (if extends_ then .extendsParam else .insideDirective)

/-- Behind a carriage return: the line feed that belongs to it. -/
def eatLineFeed (c : Cursor) : Except Fault Cursor := do
  if (← c.peek) = some '\n' then return (← c.bump).2 else return c

/-- In the body of a directive. -/
def stepInsideDirective (l : Lexer) : Except Fault Lexer := do
  match ← l.cursor.peek with
  | none => l.fail .unclosedDirective
  | some c =>
    if isInlineBlank c then
      return (l.moveTo (← l.cursor.eatWhile isInlineBlank)).discard.enter .insideDirective
    else if c = '"' then
      return (l.moveTo (← l.cursor.bump).2).enter (.quote .insideDirective)
    else if isWordChar c then
      return l.enter (.identifier .insideDirective)
    else if c = '\r' then
      (l.moveTo (← eatLineFeed (← l.cursor.bump).2)).emitAndEnter .endOfLine .insideDirective
    else if c = '\n' then
      (l.moveTo (← l.cursor.bump).2).emitAndEnter .endOfLine .insideDirective
    else if c = ')' then
      (l.moveTo (← l.cursor.bump).2).emitAndEnter .closeDirective .text
    else l.fail (.unexpectedInDirective c)

/-- Where the parameter of an extends directive must be. -/
def stepExtendsParam (l : Lexer) : Except Fault Lexer := do
  match ← l.cursor.bump with
  | (some '"', cursor) => return (l.moveTo cursor).enter (.quote .closeDirective)
  | (found, cursor) => (l.moveTo (← cursor.backUp)).fail (.expectedQuote found)

/-- Behind the parameter of an extends directive. -/
def stepCloseDirective (l : Lexer) : Except Fault Lexer := do
  match ← l.cursor.bump with
  | (some ')', cursor) => (l.moveTo cursor).emitAndEnter .closeDirective .text
  | (found, cursor) => (l.moveTo (← cursor.backUp)).fail (.expectedCloseDirective found)

end Lexer

end TemplateLexer
