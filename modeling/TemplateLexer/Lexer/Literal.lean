import TemplateLexer.Lexer.Basic

/-!
# Words and quoted strings

Words and quoted strings occur in actions and in directives alike; their states carry the place in
which scanning goes on afterwards. A word is the longest run of word characters, and is a keyword
exactly when it is spelled like one. A string runs to the next quote that no backslash marks; a
line end, marked or not, may not stand in it.
-/

namespace TemplateLexer

open Text

namespace Cursor

/-- Forward over the rest of a quoted string whose opening quote is behind the cursor; gives whether
the closing quote was found. Where it was not, the cursor stops at the end of the template, at a
line end, or behind a line end that a backslash marks. -/
def skipString (c : Cursor) : Except Fault (Bool × Cursor) :=
  match _h : c.skipToStringDelim with
  | .error f => .error f
  | .ok (some 34, c₁) => do return (true, ← c₁.advanceBy 1)
  | .ok (some 92, c₁) =>
    match _h₁ : c₁.advanceBy 1 with
    | .error f => .error f
    | .ok c₂ =>
      match _h₂ : c₂.bump with
      | .error f => .error f
      | .ok (none, c₃) => .ok (false, c₃)
      | .ok (some '\n', c₃) => .ok (false, c₃)
      | .ok (some _, c₃) => skipString c₃
  | .ok (_, c₁) => .ok (false, c₁)
termination_by c.remaining
decreasing_by
  have hb := (before_of_skipToStringDelim _h).remaining_le
  have h₁ := remaining_lt_of_advanceBy Nat.one_pos _h₁
  have h₂ := (before_of_bump _h₂).remaining_le
  omega

end Cursor

namespace Lexer

/-- At the first character of a word. -/
def stepIdentifier (l : Lexer) (resume : Resume) : Except Fault Lexer := do
  let cursor ← l.cursor.eatWhile isWordChar
  let word ← cursor.sliceFrom l.start
  let kind := (Keyword.ofWord? word).elim .identifier .keyword
  (l.moveTo cursor).emitAndEnter kind resume.state

/-- Behind the opening quote of a string, which belongs to the token. -/
def stepQuote (l : Lexer) (resume : Resume) : Except Fault Lexer := do
  match ← l.cursor.skipString with
  | (true, cursor) => (l.moveTo cursor).emitAndEnter .string resume.state
  | (false, cursor) => (l.moveTo cursor).fail .unterminatedString

end Lexer

end TemplateLexer
