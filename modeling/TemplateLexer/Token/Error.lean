import TemplateLexer.Text.Quoted

/-!
# What can be wrong with a template

Scanning ends at the first thing that is wrong, and these are the things. Some carry the character
that stood where another was expected; `none` there means that the template ended.
-/

namespace TemplateLexer

/-- Why scanning stopped. -/
inductive LexicalError where
  | unclosedComment
  /-- A closed comment that the right delimiter does not follow at once. -/
  | commentEndsBeforeDelimiter
  /-- A line or the template ended inside a quoted string. -/
  | unterminatedString
  | unclosedDirective
  /-- The parameter of an extends directive is not a quoted string. -/
  | expectedQuote (found : Option Char)
  /-- Something other than a closing parenthesis follows the parameter of an extends directive. -/
  | expectedCloseDirective (found : Option Char)
  | unclosedAction
  /-- An action ended with an open parenthesis. -/
  | unclosedLeftParen
  /-- An action closes a parenthesis that it did not open. -/
  | unexpectedRightParen
  | duplicateExtends
  /-- An extends directive that is not at the start of the template. -/
  | misplacedExtends
  /-- A character that begins nothing in a directive. -/
  | unexpectedInDirective (found : Char)
  /-- A character that begins nothing in an action. -/
  | unrecognizedInAction (found : Char)
deriving DecidableEq, Repr

namespace LexicalError

open Text

/-- The character found, in apostrophes, or the end of the template. -/
def foundText : Option Char → String
  | some c => String.ofList (quotedChar isHidden c)
  | none => "end of input"

/-- The sentence that is shown for an error. -/
def message : LexicalError → String
  | unclosedComment => "unclosed comment"
  | commentEndsBeforeDelimiter => "comment ends before closing delimiter"
  | unterminatedString => "unterminated quoted string"
  | unclosedDirective => "unclosed directive"
  | expectedQuote found => "expected `\"` after @extends(, got " ++ foundText found
  | expectedCloseDirective found => "unclosed directive: expected `)`, got " ++ foundText found
  | unclosedAction => "unclosed action"
  | unclosedLeftParen => "unclosed left paren"
  | unexpectedRightParen => "unexpected right paren"
  | duplicateExtends => "duplicate @extends"
  | misplacedExtends => "@extends should be the first thing in a template"
  | unexpectedInDirective found => "unexpected token in directive: " ++ foundText (some found)
  | unrecognizedInAction found => "unrecognized character in action: " ++ foundText (some found)

/-- The name of an error in listings. -/
def label : LexicalError → String
  | unclosedComment => "UnclosedComment"
  | commentEndsBeforeDelimiter => "CommentEndsBeforeDelimiter"
  | unterminatedString => "UnterminatedString"
  | unclosedDirective => "UnclosedDirective"
  | expectedQuote _ => "ExpectedQuote"
  | expectedCloseDirective _ => "ExpectedCloseDirective"
  | unclosedAction => "UnclosedAction"
  | unclosedLeftParen => "UnclosedLeftParen"
  | unexpectedRightParen => "UnexpectedRightParen"
  | duplicateExtends => "DuplicateExtends"
  | misplacedExtends => "MisplacedExtends"
  | unexpectedInDirective _ => "UnexpectedInDirective"
  | unrecognizedInAction _ => "UnrecognizedInAction"

end LexicalError

end TemplateLexer
