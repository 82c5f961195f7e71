/-!
# JSON values and their printed form

The values that a listing of tokens is made of, and their printed form: one member a line, indented
by two blanks a level, with strings in which only the quote, the backslash and the controls below
the space are escaped.
-/

namespace TemplateLexer

/-- A JSON value. -/
inductive Json where
  | null
  | number (n : Nat)
  | text (cs : List Char)
  | list (items : List Json)
  | record (members : List (String × Json))

namespace Json

/-- A control character by the two lowest of its four hexadecimal digits. -/
def hexEscape (c : Char) : List Char :=
  ['\\', 'u', '0', '0', Nat.digitChar (c.toNat / 16), Nat.digitChar (c.toNat % 16)]

/-- A character inside a string. -/
def escape (c : Char) : List Char :=
  if c = '"' then ['\\', '"']
  else if c = '\\' then ['\\', '\\']
  else if c = '\x08' then ['\\', 'b']
  else if c = '\x0c' then ['\\', 'f']
  else if c = '\n' then ['\\', 'n']
  else if c = '\r' then ['\\', 'r']
  else if c = '\t' then ['\\', 't']
  else if c.toNat < 0x20 then hexEscape c
  else [c]

/-- A string in quotes. -/
def quoted (cs : List Char) : List Char := '"' :: (cs.flatMap escape ++ ['"'])

/-- A new line at a level of indentation. -/
def newline (level : Nat) : List Char := '\n' :: List.replicate (2 * level) ' '

mutual

/-- A value whose lines after the first are indented by `level`. -/
def pretty (level : Nat) : Json → List Char
  | null => "null".toList
  | number n => Nat.toDigits 10 n
  | text cs => quoted cs
  | list items => '[' :: (prettyItems level items ++ [']'])
  | record members => '\x7b' :: (prettyMembers level members ++ ['\x7d'])

/-- The items of a list whose brackets are indented by `level`. -/
def prettyItems (level : Nat) : List Json → List Char
  | [] => []
  | [item] => newline (level + 1) ++ pretty (level + 1) item ++ newline level
  | item :: items =>
    newline (level + 1) ++ pretty (level + 1) item ++ ',' :: prettyItems level items

/-- The members of a record whose braces are indented by `level`. -/
def prettyMembers (level : Nat) : List (String × Json) → List Char
  | [] => []
  | [(key, value)] =>
    newline (level + 1) ++ quoted key.toList ++ ':' :: ' ' :: pretty (level + 1) value ++
      newline level
  | (key, value) :: members =>
    newline (level + 1) ++ quoted key.toList ++ ':' :: ' ' :: pretty (level + 1) value ++
      ',' :: prettyMembers level members

end

end Json

end TemplateLexer
