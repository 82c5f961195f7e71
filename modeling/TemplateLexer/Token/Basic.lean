import TemplateLexer.Fault
import TemplateLexer.Text.Utf8
import TemplateLexer.Token.Error
import TemplateLexer.Token.Word

/-!
# Tokens

A token is a kind, the byte offset at which it starts, and its exact text. A stream ends with one
terminal token: the end of the template, or an error.
-/

namespace TemplateLexer

/-- What a token is. -/
inductive TokenKind where
  /-- Scanning stopped. -/
  | error (error : LexicalError)
  /-- Literal text, outside of actions and directives. -/
  | text
  | eof
  /-- A line end inside a directive. -/
  | endOfLine
  /-- Opens an action or a comment. -/
  | leftDelim
  | rightDelim
  /-- A word that is not reserved. -/
  | identifier
  /-- A quoted string, with its quotes. -/
  | string
  /-- White space inside an action. -/
  | space
  | leftParen
  | rightParen
  | pipe
  /-- The sign of a declaration. -/
  | colonEquals
  /-- A dollar sign and the word after it. -/
  | var
  /-- A dot and the word after it. -/
  | field
  /-- A number, checked only for the characters that it may hold. -/
  | number
  /-- Another punctuation character of ASCII inside an action. -/
  | char
  | openDirective
  /-- The marker and the name of a directive. -/
  | directive (directive : Directive)
  | closeDirective
  | keyword (keyword : Keyword)
deriving DecidableEq, Repr

namespace TokenKind

/-- A reserved word, the dot included. -/
def isKeyword : TokenKind → Bool
  | keyword _ => true
  | _ => false

def isDirective : TokenKind → Bool
  | directive _ => true
  | _ => false

def isError : TokenKind → Bool
  | error _ => true
  | _ => false

/-- A kind that ends a stream. -/
def isTerminal : TokenKind → Bool
  | eof => true
  | error _ => true
  | _ => false

def error? : TokenKind → Option LexicalError
  | error e => some e
  | _ => none

end TokenKind

/-- A piece of a template. -/
structure Token where
  kind : TokenKind
  /-- The byte offset of its first character. -/
  offset : Nat
  /-- Its characters; for an error, those that the failing construct took. -/
  text : List Char
deriving DecidableEq, Repr

namespace Token

/-- The byte offset just behind a token. -/
def stop (t : Token) : Nat := t.offset + Text.size t.text

/-- The byte offset just behind a token, where it can be held in a machine word. -/
def stopWord (t : Token) : Except Fault Nat :=
  if t.stop < wordBound then .ok t.stop else .error .overflow

/-- The sentence for an error token. -/
def message? (t : Token) : Option String := t.kind.error?.map LexicalError.message

end Token

end TemplateLexer
