import TemplateLexer.Text.Hidden

/-!
# Quoted literals

A literal shows a text between two quotes on one line. The five controls and signs that have a
short name are written by it, the surrounding quote is marked by a backslash, and a character that
does not show by itself is written by its code point. Which characters those are is a parameter:
`isHidden` is the set in use, and what makes a literal readable does not depend on it.
-/

namespace TemplateLexer.Text

/-- A character spelled by its code point, in hexadecimal and without leading zeros. -/
def codePoint (c : Char) : List Char :=
  '\\' :: 'u' :: '\x7b' :: (Nat.toDigits 16 c.toNat ++ ['\x7d'])

/-- A character as it stands in a literal between two `quote`s. -/
def escape (hidden : Char → Bool) (quote c : Char) : List Char :=
  if c = '\x00' then ['\\', '0']
  else if c = '\t' then ['\\', 't']
  else if c = '\r' then ['\\', 'r']
  else if c = '\n' then ['\\', 'n']
  else if c = '\\' ∨ c = quote then ['\\', c]
  else if hidden c then codePoint c
  else [c]

/-- A text between two `quote`s. -/
def quoted (hidden : Char → Bool) (quote : Char) (cs : List Char) : List Char :=
  quote :: (cs.flatMap (escape hidden quote) ++ [quote])

/-- A text in double quotes; an apostrophe stands for itself. -/
def quotedText (hidden : Char → Bool) (cs : List Char) : List Char := quoted hidden '"' cs

/-- A character in apostrophes; a double quote stands for itself. -/
def quotedChar (hidden : Char → Bool) (c : Char) : List Char := quoted hidden '\'' [c]

end TemplateLexer.Text
