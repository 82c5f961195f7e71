import TemplateLexer.Text.Alphanumeric

/-!
# Words of the template language

Keywords are reserved wherever a word may stand; directive names have a meaning only after the
directive marker. Each has one spelling, and a word is one of them exactly when it is spelled so.
-/

namespace TemplateLexer

/-- A character of a word: a letter, a digit or an underscore. -/
def isWordChar (c : Char) : Bool := c == '_' || Text.isAlphanumeric c

/-- The reserved words of actions. The dot, which names the current value, is one of them though it
is not spelled with word characters. -/
inductive Keyword where
  | dot
  | block
  | define
  | else_
  | end_
  | if_
  | nil
  | range
  | template
  | with_
deriving DecidableEq, Repr

namespace Keyword

/-- How a keyword is written. -/
def spelling : Keyword → String
  | dot => "."
  | block => "block"
  | define => "define"
  | else_ => "else"
  | end_ => "end"
  | if_ => "if"
  | nil => "nil"
  | range => "range"
  | template => "template"
  | with_ => "with"

/-- The keywords that are words. -/
def words : List Keyword := [block, define, else_, end_, if_, nil, range, template, with_]

/-- The keyword that a word is, if it is one. -/
def ofWord? (word : List Char) : Option Keyword := words.find? (·.spelling.toList == word)

/-- The name of a keyword in listings. -/
def label : Keyword → String
  | dot => "Dot"
  | block => "Block"
  | define => "Define"
  | else_ => "Else"
  | end_ => "End"
  | if_ => "If"
  | nil => "Nil"
  | range => "Range"
  | template => "Template"
  | with_ => "With"

end Keyword

inductive Directive where
  /-- Names the template that this one extends. -/
  | extends_
  | import_
  /-- Declares the parameters of the template. -/
  | params
  | include_
deriving DecidableEq, Repr

namespace Directive

/-- How a directive is written after the marker. -/
def spelling : Directive → String
  | extends_ => "extends"
  | import_ => "import"
  | params => "params"
  | include_ => "include"

def all : List Directive := [extends_, import_, params, include_]

/-- The directive that a word names, if it names one. -/
def ofWord? (word : List Char) : Option Directive := all.find? (·.spelling.toList == word)

def isExtends : Directive → Bool
  | extends_ => true
  | _ => false

/-- The name of a directive in listings. -/
def label : Directive → String
  | extends_ => "Extends"
  | import_ => "Import"
  | params => "Params"
  | include_ => "Include"

end Directive

end TemplateLexer
