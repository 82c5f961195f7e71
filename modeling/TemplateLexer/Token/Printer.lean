import TemplateLexer.Token.Basic

/-!
# Texts for tokens

Three texts stand for a token or its kind. `TokenKind.term` is the exact form that listings use, in
which an error shows what it carries; `TokenKind.title` is a short name in plain words; and
`Token.display` is a token as one would mention it, cut after ten characters. The first and the
last take the set of characters that literals spell by code point.
-/

namespace TemplateLexer

open Text

/-- An error with what it carries. -/
def LexicalError.term (hidden : Char → Bool) : LexicalError → List Char
  | e@(expectedQuote found) => withFound e (maybe found)
  | e@(expectedCloseDirective found) => withFound e (maybe found)
  | e@(unexpectedInDirective found) => withFound e (quotedChar hidden found)
  | e@(unrecognizedInAction found) => withFound e (quotedChar hidden found)
  | e => e.label.toList
where
  /-- A character that may be missing. -/
  maybe : Option Char → List Char
    | some c => "Some(".toList ++ quotedChar hidden c ++ [')']
    | none => "None".toList
  /-- The name of an error before the character that it carries. -/
  withFound (e : LexicalError) (found : List Char) : List Char :=
    e.label.toList ++ " \x7b found: ".toList ++ found ++ " \x7d".toList

namespace TokenKind

/-- The name of a kind in listings. -/
def label : TokenKind → String
  | error _ => "Error"
  | text => "Text"
  | eof => "Eof"
  | endOfLine => "EndOfLine"
  | leftDelim => "LeftDelim"
  | rightDelim => "RightDelim"
  | identifier => "Identifier"
  | string => "String"
  | space => "Space"
  | leftParen => "LeftParen"
  | rightParen => "RightParen"
  | pipe => "Pipe"
  | colonEquals => "ColonEquals"
  | var => "Variable"
  | field => "Field"
  | number => "Number"
  | char => "Char"
  | openDirective => "OpenDirective"
  | directive d => d.label
  | closeDirective => "CloseDirective"
  | keyword k => k.label

/-- A kind with what it carries. -/
def term (hidden : Char → Bool) : TokenKind → List Char
  | error e => "Error(".toList ++ e.term hidden ++ [')']
  | kind => kind.label.toList

/-- A kind in plain words. -/
def title : TokenKind → String
  | error _ => "error"
  | text => "text"
  | eof => "end of input"
  | endOfLine => "end of line"
  | leftDelim => "left delimiter"
  | rightDelim => "right delimiter"
  | identifier => "identifier"
  | string => "string"
  | space => "space"
  | leftParen => "("
  | rightParen => ")"
  | pipe => "|"
  | colonEquals => ":="
  | var => "variable"
  | field => "field"
  | number => "number"
  | char => "character"
  | openDirective => "directive ("
  | directive d => "@" ++ d.spelling
  | closeDirective => "directive )"
  | keyword k => k.spelling

end TokenKind

namespace Token

/-- How many characters of a token are shown when it is mentioned. -/
def displayLimit : Nat := 10

/-- A token as it is mentioned. -/
def display (hidden : Char → Bool) (t : Token) : List Char :=
  match t.kind with
  | .eof => "EOF".toList
  | .error e => e.message.toList
  | .keyword _ => '<' :: (t.text ++ ['>'])
  | .directive _ => '<' :: (t.text ++ ['>'])
  | kind =>
    let shown := quotedText hidden (t.text.take displayLimit)
    kind.term hidden ++ ':' :: shown ++ if displayLimit < t.text.length then "...".toList else []

end Token

end TemplateLexer
