import TemplateLexer.Json.Basic
import TemplateLexer.Token.Printer

/-!
# Listings of tokens

A stream is listed in one of two forms: a headline and one line a token, or one JSON array with an
object a token. Both show all of a token, so that a stream can be told from its listing.
-/

namespace TemplateLexer

open Text

/-- The form of a listing. -/
inductive ListingFormat where
  | lines
  | json
deriving DecidableEq, Repr

namespace Listing

/-! ### Lines -/

/-- The headline over a listing of `count` tokens. -/
def headline (name : String) (count : Nat) : List Char :=
  "Tokens for '".toList ++ name.toList ++ "' (".toList ++ Nat.toDigits 10 count ++
    " tokens):\n".toList

/-- The line for a token. -/
def line (hidden : Char → Bool) (t : Token) : List Char :=
  ' ' :: ' ' :: t.kind.term hidden ++ " @ ".toList ++ Nat.toDigits 10 t.offset ++ ": ".toList ++
    quotedText hidden t.text ++ ['\n']

/-- A headline and one line a token, where `hidden` characters are spelled by code point. -/
def linesWith (hidden : Char → Bool) (name : String) (tokens : List Token) : List Char :=
  headline name tokens.length ++ tokens.flatMap (line hidden)

/-- A headline and one line a token. -/
def lines (name : String) (tokens : List Token) : List Char := linesWith isHidden name tokens

/-! ### JSON -/

/-- The character that an error carries. -/
def foundRecord (found : Option Char) : Json :=
  .record [("found", found.elim .null fun c => .text [c])]

/-- An error: its name, and under it what it carries. -/
def errorValue : LexicalError → Json
  | e@(.expectedQuote found) => .record [(e.label, foundRecord found)]
  | e@(.expectedCloseDirective found) => .record [(e.label, foundRecord found)]
  | e@(.unexpectedInDirective found) => .record [(e.label, foundRecord (some found))]
  | e@(.unrecognizedInAction found) => .record [(e.label, foundRecord (some found))]
  | e => .text e.label.toList

/-- A kind: its name, and under it the error. -/
def kindValue : TokenKind → Json
  | .error e => .record [("Error", errorValue e)]
  | kind => .text kind.label.toList

/-- A token. -/
def tokenValue (t : Token) : Json :=
  .record [("kind", kindValue t.kind), ("offset", .number t.offset), ("text", .text t.text)]

/-- One JSON array with an object a token. -/
def json (tokens : List Token) : List Char :=
  (Json.list (tokens.map tokenValue)).pretty 0 ++ ['\n']

/-- The listing of a stream in the given form. -/
def render (format : ListingFormat) (name : String) (tokens : List Token) : List Char :=
  match format with
  | .lines => lines name tokens
  | .json => json tokens

end Listing

end TemplateLexer
