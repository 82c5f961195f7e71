import TemplateLexer.Fault
import TemplateLexer.Text.Search

/-!
# A position that moves through a template

A cursor stands at a byte position of a template. It moves forward by one character (`bump`), by a
known number of bytes (`advanceBy`), over a run of characters (`eatWhile`), or to a byte that it
searches for (`skipToEither`, `skipToStringDelim`); and it can take back a step, but only the last
move, and only once (`backUp`). Every operation that needs whole characters faults when the position
is inside one, which only a search for bytes that do not begin a character can bring about.

No move forward ever goes back or changes the template: `Before` says so for each of them, and
`remaining`, the bytes still ahead, is what a scan that moves on uses up.
-/

namespace TemplateLexer

open Text

/-- A byte position in a template. -/
structure Cursor where
  source : List Char
  pos : Nat := 0
  /-- The size of the character that the last step forward took, zero at the end. -/
  width : Nat := 0
  /-- Whether the last move was a step forward, so that it can be taken back. -/
  canBackUp : Bool := false
deriving DecidableEq, Repr

namespace Cursor

/-! ### Looking -/

/-- The size of the template. -/
def sourceLen (c : Cursor) : Nat := size c.source

/-- Whether nothing is ahead. -/
def isEof (c : Cursor) : Bool := c.sourceLen ≤ c.pos

/-- The template from the position on. -/
def rest (c : Cursor) : Except Fault (List Char) :=
  match drop? c.source c.pos with
  | some rest => .ok rest
  | none => .error .notBoundary

/-- The next character, `none` at the end. -/
def peek (c : Cursor) : Except Fault (Option Char) := do
  return (← c.rest).head?

/-- Whether the template goes on with `text`. -/
def startsWith (c : Cursor) (text : List Char) : Except Fault Bool := do
  return text.isPrefixOf (← c.rest)

/-- How many bytes ahead `needle` occurs first. -/
def find (c : Cursor) (needle : List Char) : Except Fault (Option Nat) := do
  return findInfix? (bytes needle) (bytes (← c.rest))

/-- The template from `start` up to the position. -/
def sliceFrom (c : Cursor) (start : Nat) : Except Fault (List Char) :=
  if c.pos < start then .error (.sliceStartExceeds start c.pos)
  else
    match slice? c.source start c.pos with
    | some text => .ok text
    | none => .error .notBoundary

/-! ### Moving -/

/-- One character forward; it is given back, `none` at the end. -/
def bump (c : Cursor) : Except Fault (Option Char × Cursor) := do
  let next := (← c.rest).head?
  let width := next.elim 0 Char.utf8Size
  return (next, { c with pos := c.pos + width, width, canBackUp := true })

/-- Takes the last step forward back. -/
def backUp (c : Cursor) : Except Fault Cursor :=
  if c.canBackUp then
    if c.width ≤ c.pos then .ok { c with pos := c.pos - c.width, canBackUp := false }
    else .error .overflow
  else .error .backUpWithoutBump

/-- `n` bytes forward, to a boundary within the template. -/
def advanceBy (c : Cursor) (n : Nat) : Except Fault Cursor :=
  if isBoundary c.source (c.pos + n) then .ok { c with pos := c.pos + n, canBackUp := false }
  else if c.pos + n < wordBound then .error (.splitsChar n c.pos)
  else .error .overflow

/-- Forward over the characters that pass the test, up to the first that does not. -/
def eatWhile (c : Cursor) (p : Char → Bool) : Except Fault Cursor := do
  let run := (← c.rest).takeWhile p
  return { c with pos := c.pos + size run, canBackUp := false }

/-- Forward to the next byte that passes the test, or to the end; gives the distance, if such a
byte is there. -/
def skipToByte (c : Cursor) (p : UInt8 → Bool) : Except Fault (Option Nat × Cursor) := do
  let distance := findByte? p (← c.rest)
  let pos := distance.elim c.sourceLen (c.pos + ·)
  return (distance, { c with pos, canBackUp := false })

/-- Forward to the next of two bytes, or to the end; gives whether one of them is there. -/
def skipToEither (c : Cursor) (a b : UInt8) : Except Fault (Bool × Cursor) := do
  let (distance, c) ← c.skipToByte fun x => x == a || x == b
  return (distance.isSome, c)

/-- A byte that means something inside a quoted string: the quote, the backslash, the line end. -/
def isStringDelim (b : UInt8) : Bool := b == 34 || b == 92 || b == 10

/-- Forward to the next byte that means something inside a quoted string, or to the end; gives the
byte. -/
def skipToStringDelim (c : Cursor) : Except Fault (Option UInt8 × Cursor) := do
  let (distance, c) ← c.skipToByte isStringDelim
  return (distance.bind fun _ => byteAt? c.source c.pos, c)

/-! ### Moves go forward -/

/-- The bytes that are still ahead. -/
def remaining (c : Cursor) : Nat := size c.source - c.pos

/-- The same template, at the same position or further on. -/
structure Before (c c' : Cursor) : Prop where
  source_eq : c'.source = c.source
  pos_le : c.pos ≤ c'.pos

theorem Before.trans {a b c : Cursor} (h : Before a b) (h' : Before b c) : Before a c :=
  ⟨h'.source_eq.trans h.source_eq, Nat.le_trans h.pos_le h'.pos_le⟩

theorem Before.remaining_le {c c' : Cursor} (h : Before c c') : c'.remaining ≤ c.remaining := by
  have := h.pos_le
  simp only [remaining, h.source_eq]; omega

theorem Before.remaining_lt {c c' : Cursor} (h : Before c c') (hlt : c.pos < c'.pos)
    (hle : c'.pos ≤ size c'.source) : c'.remaining < c.remaining := by
  rw [h.source_eq] at hle
  simp only [remaining, h.source_eq]; omega

theorem rest_eq_ok_iff {c : Cursor} {rest : List Char} :
    c.rest = .ok rest ↔ drop? c.source c.pos = some rest := by
  unfold Cursor.rest
  split <;> simp_all

theorem size_rest {c : Cursor} {rest : List Char} (h : c.rest = .ok rest) :
    c.pos + size rest = size c.source :=
  size_of_drop?_eq_some (rest_eq_ok_iff.mp h)

theorem before_of_bump {c c' : Cursor} {next : Option Char} (h : c.bump = .ok (next, c')) :
    Before c c' := by
  unfold bump at h
  cases hr : c.rest with
  | error f => simp [hr, bind, Except.bind] at h
  | ok rest =>
    simp only [hr, bind, Except.bind, pure, Except.pure, Except.ok.injEq, Prod.mk.injEq] at h
    obtain ⟨-, rfl⟩ := h
    exact ⟨rfl, by simp⟩

theorem remaining_lt_of_bump {c c' : Cursor} {x : Char} (h : c.bump = .ok (some x, c')) :
    c'.remaining < c.remaining := by
  unfold bump at h
  cases hr : c.rest with
  | error f => simp [hr, bind, Except.bind] at h
  | ok rest =>
    have hs := size_rest hr
    simp only [hr, bind, Except.bind, pure, Except.pure, Except.ok.injEq, Prod.mk.injEq] at h
    obtain ⟨hx, rfl⟩ := h
    have := x.utf8Size_pos
    cases rest with
    | nil => simp at hx
    | cons y rest =>
      simp only [List.head?_cons, Option.some.injEq] at hx
      subst hx
      simp only [remaining, List.head?_cons, Option.elim_some, size_cons] at hs ⊢
      omega

theorem before_of_advanceBy {c c' : Cursor} {n : Nat} (h : c.advanceBy n = .ok c') :
    Before c c' ∧ c'.pos = c.pos + n ∧ c'.pos ≤ size c'.source := by
  unfold advanceBy at h
  split at h
  · next hb =>
    simp only [Except.ok.injEq] at h
    subst h
    exact ⟨⟨rfl, by simp⟩, rfl, le_size_of_isBoundary hb⟩
  · split at h <;> simp at h

theorem remaining_lt_of_advanceBy {c c' : Cursor} {n : Nat} (hn : 0 < n)
    (h : c.advanceBy n = .ok c') : c'.remaining < c.remaining := by
  obtain ⟨hb, hp, hle⟩ := before_of_advanceBy h
  exact hb.remaining_lt (by omega) hle

theorem remaining_lt_of_eatWhile {c c' : Cursor} {p : Char → Bool} {x : Char}
    (hx : c.peek = .ok (some x)) (hp : p x = true) (h : c.eatWhile p = .ok c') :
    c'.remaining < c.remaining := by
  unfold eatWhile at h
  unfold peek at hx
  cases hr : c.rest with
  | error f => simp [hr, bind, Except.bind] at h
  | ok rest =>
    have hs := size_rest hr
    simp only [hr, bind, Except.bind, pure, Except.pure, Except.ok.injEq] at h hx
    subst h
    cases rest with
    | nil => simp at hx
    | cons y rest =>
      simp only [List.head?_cons, Option.some.injEq] at hx
      subst hx
      have := y.utf8Size_pos
      simp only [remaining, List.takeWhile_cons, hp, if_true, size_cons] at hs ⊢
      omega

theorem before_of_skipToByte {c c' : Cursor} {p : UInt8 → Bool} {distance : Option Nat}
    (h : c.skipToByte p = .ok (distance, c')) :
    Before c c' ∧ (distance.isSome → c'.pos < size c'.source) := by
  unfold skipToByte at h
  cases hr : c.rest with
  | error f => simp [hr, bind, Except.bind] at h
  | ok rest =>
    have hs := size_rest hr
    simp only [hr, bind, Except.bind, pure, Except.pure, Except.ok.injEq, Prod.mk.injEq] at h
    obtain ⟨rfl, rfl⟩ := h
    cases hf : findByte? p rest with
    | none => exact ⟨⟨rfl, by simp [sourceLen]; omega⟩, by simp⟩
    | some i =>
      have := lt_size_of_findByte?_eq_some hf
      exact ⟨⟨rfl, Nat.le_add_right _ _⟩, fun _ => by simp only [Option.elim_some]; omega⟩

theorem before_of_skipToEither {c c' : Cursor} {a b : UInt8} {found : Bool}
    (h : c.skipToEither a b = .ok (found, c')) :
    Before c c' ∧ (found = true → c'.pos < size c'.source) := by
  unfold skipToEither at h
  cases hs : c.skipToByte fun x => x == a || x == b with
  | error f => simp [hs, bind, Except.bind] at h
  | ok r =>
    simp only [hs, bind, Except.bind, pure, Except.pure, Except.ok.injEq, Prod.mk.injEq] at h
    obtain ⟨rfl, rfl⟩ := h
    exact before_of_skipToByte hs

theorem before_of_skipToStringDelim {c c' : Cursor} {found : Option UInt8}
    (h : c.skipToStringDelim = .ok (found, c')) : Before c c' := by
  unfold skipToStringDelim at h
  cases hs : c.skipToByte isStringDelim with
  | error f => simp [hs, bind, Except.bind] at h
  | ok r =>
    simp only [hs, bind, Except.bind, pure, Except.pure, Except.ok.injEq, Prod.mk.injEq] at h
    obtain ⟨-, rfl⟩ := h
    exact (before_of_skipToByte hs).1

/-- A step back after a step forward ends where both began. -/
theorem backUp_of_bump {c c' c'' : Cursor} {next : Option Char} (h : c.bump = .ok (next, c'))
    (hb : c'.backUp = .ok c'') : c''.source = c.source ∧ c''.pos = c.pos := by
  unfold bump at h
  cases hr : c.rest with
  | error f => simp [hr, bind, Except.bind] at h
  | ok rest =>
    simp only [hr, bind, Except.bind, pure, Except.pure, Except.ok.injEq, Prod.mk.injEq] at h
    obtain ⟨-, rfl⟩ := h
    simp [backUp] at hb
    subst hb
    simp

end Cursor

end TemplateLexer
