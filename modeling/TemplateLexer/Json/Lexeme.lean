import TemplateLexer.Json.Number
import TemplateLexer.Text.Utf8

/-!
# The pieces of a JSON text

A JSON text is a sequence of marks, strings, numbers and words, with white space between them. What
is wrong with a piece depends on what it is read for: a string or number that is only passed over is
read loosely, one that is taken as a value is read exactly. A piece carries what both need, so that
whoever meets it decides. A piece whose end cannot be found is the last one.
-/

namespace TemplateLexer.Json

/-- White space between the pieces. -/
def isBlank (c : Char) : Bool := c == ' ' || c == '\t' || c == '\n' || c == '\r'

/-- A piece of a JSON text. -/
inductive Lexeme where
  /-- A brace, a bracket, a comma or a colon. -/
  | mark (c : Char)
  /-- A string: its text, and whether it can be passed over. -/
  | text (exact : Except Failure (List Char)) (loose : Except Failure Unit)
  /-- A number: whether it has a minus sign, and its parts. -/
  | number (negative : Bool) (parts : Except Failure Number)
  /-- One of the three words, or what begins like one. -/
  | word (word : String) (exact : Except Failure Unit)
  /-- A character with which nothing begins. -/
  | stray

/-! ### Strings -/

/-- The value of a hexadecimal digit. -/
def hexDigit? (c : Char) : Option Nat :=
  if '0' ≤ c ∧ c ≤ '9' then some (c.toNat - '0'.toNat)
  else if 'a' ≤ c ∧ c ≤ 'f' then some (c.toNat - 'a'.toNat + 10)
  else if 'A' ≤ c ∧ c ≤ 'F' then some (c.toNat - 'A'.toNat + 10)
  else none

/-- The number that four hexadecimal digits stand for. -/
def hexNumber? (a b c d : Char) : Option Nat := do
  return (((← hexDigit? a) * 16 + (← hexDigit? b)) * 16 + (← hexDigit? c)) * 16 + (← hexDigit? d)

/-- What is wrong where four hexadecimal digits should be: too few bytes, or other characters. -/
def hexFailure (cs : List Char) : Failure :=
  if Text.size cs < 4 then .truncated else .malformed

/-- The character that a backslash and another character stand for. -/
def shortEscape? (c : Char) : Option Char :=
  match c with
  | '"' => some '"'
  | '\\' => some '\\'
  | '/' => some '/'
  | 'b' => some '\x08'
  | 'f' => some '\x0c'
  | 'n' => some '\n'
  | 'r' => some '\r'
  | 't' => some '\t'
  | _ => none

/-- A control character, which may not stand in a string as it is. -/
def isControl (c : Char) : Bool := c.toNat < 0x20

/-- Passes over a string behind its opening quote; gives what follows it. -/
def passString : List Char → Except Failure (List Char)
  | [] => .error .truncated
  | '"' :: cs => .ok cs
  | ['\\'] => .error .truncated
  | '\\' :: 'u' :: a :: b :: c :: d :: cs =>
    if (hexNumber? a b c d).isSome then passString cs else .error .malformed
  | '\\' :: 'u' :: cs => .error (hexFailure cs)
  | '\\' :: c :: cs => if (shortEscape? c).isSome then passString cs else .error .malformed
  | c :: cs => if isControl c then .error .malformed else passString cs

/-- The first half of a character beyond the basic plane. -/
def isHighSurrogate (n : Nat) : Bool := 0xd800 ≤ n && n ≤ 0xdbff

/-- The second half of a character beyond the basic plane. -/
def isLowSurrogate (n : Nat) : Bool := 0xdc00 ≤ n && n ≤ 0xdfff

/-- The character of two halves. -/
def joinSurrogates (high low : Nat) : Char :=
  .ofNat ((high - 0xd800) * 0x400 + (low - 0xdc00) + 0x10000)

/-- The text of a string behind its opening quote. Halves of characters have to stand in pairs. -/
def stringText : List Char → Except Failure (List Char)
  | [] => .error .truncated
  | '"' :: _ => .ok []
  | ['\\'] => .error .truncated
  | '\\' :: 'u' :: a :: b :: c :: d :: cs =>
    match hexNumber? a b c d with
    | none => .error .malformed
    | some n =>
      if isLowSurrogate n then .error .malformed
      else if isHighSurrogate n then
        match cs with
        | '\\' :: 'u' :: a :: b :: c :: d :: cs =>
          match hexNumber? a b c d with
          | none => .error .malformed
          | some m =>
            if isLowSurrogate m then (joinSurrogates n m :: ·) <$> stringText cs
            else .error .malformed
        | '\\' :: 'u' :: cs => .error (hexFailure cs)
        | ['\\'] => .error .truncated
        | [] => .error .truncated
        | _ => .error .malformed
      else (Char.ofNat n :: ·) <$> stringText cs
  | '\\' :: 'u' :: cs => .error (hexFailure cs)
  | '\\' :: c :: cs =>
    match shortEscape? c with
    | some x => (x :: ·) <$> stringText cs
    | none => .error .malformed
  | c :: cs => if isControl c then .error .malformed else (c :: ·) <$> stringText cs

/-! ### Words and numbers -/

/-- What follows the letters that are expected. -/
def expect : List Char → List Char → Except Failure (List Char)
  | [], cs => .ok cs
  | _ :: _, [] => .error .truncated
  | e :: es, c :: cs => if c = e then expect es cs else .error .malformed

/-- The result of taking a number as a value. -/
def exactNumber (parts : Except Failure Number) : Except Failure Unit := do
  let n ← parts
  if n.inRange then return else throw .malformed

/-- The result of passing over a number; whatever is wrong with it, it is malformed. -/
def looseNumber (parts : Except Failure Number) : Except Failure Unit :=
  match parts with
  | .ok _ => .ok ()
  | .error _ => .error .malformed

namespace Lexeme

/-! ### Cutting a text into pieces -/

/-- A number whose sign, if it has one, was read; and what follows it. -/
def readNumber (negative : Bool) (cs : List Char) : Lexeme × Option (List Char) :=
  let r := Number.read cs
  (number negative (r.map (·.1)), r.toOption.map (·.2))

/-- A word whose first letter was read, and what follows it. -/
def readWord (expected : String) (rest : List Char) : Lexeme × Option (List Char) :=
  let r := expect expected.toList.tail rest
  (word expected (r.map fun _ => ()), r.toOption)

/-- A string whose opening quote was read, and what follows it. -/
def readString (rest : List Char) : Lexeme × Option (List Char) :=
  let r := passString rest
  (text (stringText rest) (r.map fun _ => ()), r.toOption)

/-- The braces, the brackets, the comma and the colon. -/
def isMark (c : Char) : Bool :=
  c == '\x7b' || c == '\x7d' || c == '[' || c == ']' || c == ',' || c == ':'

/-- The piece that `c` begins, and what follows it, unless its end cannot be found. -/
def read (c : Char) (rest : List Char) : Lexeme × Option (List Char) :=
  if isMark c then (mark c, some rest)
  else if c = '"' then readString rest
  else if c = '-' then readNumber true rest
  else if c.isDigit then readNumber false (c :: rest)
  else if c = 'n' then readWord "null" rest
  else if c = 't' then readWord "true" rest
  else if c = 'f' then readWord "false" rest
  else (stray, some rest)

theorem length_passString_le {cs rest : List Char} (h : passString cs = .ok rest) :
    rest.length ≤ cs.length := by
  fun_induction passString cs with
  | case2 cs => cases h; exact Nat.le_succ _
  | case4 a b c d cs _ ih => have := ih h; simp only [List.length_cons]; omega
  | case7 c cs _ _ _ ih => have := ih h; simp only [List.length_cons]; omega
  | case10 c cs _ _ _ _ _ _ ih => have := ih h; simp only [List.length_cons]; omega
  | _ => cases h

theorem length_expect_le {es cs rest : List Char} (h : expect es cs = .ok rest) :
    rest.length ≤ cs.length := by
  fun_induction expect es cs with
  | case1 cs => cases h; exact Nat.le_refl _
  | case2 | case4 => cases h
  | case3 e es cs ih => exact Nat.le_succ_of_le (ih h)

theorem eq_ok_of_toOption_eq_some {ε α : Type} {r : Except ε α} {a : α}
    (h : r.toOption = some a) : r = .ok a := by
  cases r <;> simp_all [Except.toOption]

theorem length_readNumber_lt {negative : Bool} {cs tail : List Char} {x : Lexeme}
    (h : readNumber negative cs = (x, some tail)) : tail.length < cs.length := by
  simp only [readNumber, Prod.mk.injEq, Option.map_eq_some_iff] at h
  obtain ⟨-, ⟨n, rest⟩, hr, rfl⟩ := h
  exact Number.length_read_lt (eq_ok_of_toOption_eq_some hr)

/-- What follows a piece is shorter than the text in which it was read. -/
theorem length_read_le {c : Char} {rest tail : List Char} {x : Lexeme}
    (h : read c rest = (x, some tail)) : tail.length ≤ rest.length := by
  have hw : ∀ {expected : String}, readWord expected rest = (x, some tail) →
      tail.length ≤ rest.length := by
    intro expected h
    simp only [readWord, Prod.mk.injEq] at h
    exact length_expect_le (eq_ok_of_toOption_eq_some h.2)
  unfold read at h
  split at h
  · simp only [Prod.mk.injEq, Option.some.injEq] at h
    exact Nat.le_of_eq (congrArg List.length h.2.symm)
  split at h
  · simp only [readString, Prod.mk.injEq] at h
    exact length_passString_le (eq_ok_of_toOption_eq_some h.2)
  split at h
  · have := length_readNumber_lt h; omega
  split at h
  · have := length_readNumber_lt h
    simp only [List.length_cons] at this; omega
  split at h
  · exact hw h
  split at h
  · exact hw h
  split at h
  · exact hw h
  · simp only [Prod.mk.injEq, Option.some.injEq] at h
    exact Nat.le_of_eq (congrArg List.length h.2.symm)

/-- The pieces of a text. -/
def scan (cs : List Char) : List Lexeme :=
  match _h : cs.dropWhile isBlank with
  | [] => []
  | c :: rest =>
    match _h' : read c rest with
    | (x, none) => [x]
    | (x, some tail) => x :: scan tail
termination_by cs.length
decreasing_by
  have h₁ := length_read_le _h'
  have h₂ := (List.dropWhile_suffix isBlank (l := cs)).length_le
  rw [_h, List.length_cons] at h₂
  omega

end Lexeme

end TemplateLexer.Json
