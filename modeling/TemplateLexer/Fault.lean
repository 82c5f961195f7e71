/-!
# Faults

A fault is a broken promise between parts of the lexer: an operation was asked for where it makes no
sense. Faults are no part of what a template can do wrong, and a lexer that starts on a template
never meets one; the operations name them so that this can be stated.
-/

namespace TemplateLexer

/-- Offsets are held in machine words of 64 bits and stay below this bound. -/
def wordBound : Nat := 0x10000000000000000

/-- The depth of parentheses is counted in 32 bits and stays below this bound. -/
def depthBound : Nat := 0x100000000

/-- Which promise was broken. -/
inductive Fault where
  /-- A step back, though the last move was not a step forward. -/
  | backUpWithoutBump
  /-- A move of `count` bytes from `pos` that ends inside a character or beyond the end. -/
  | splitsChar (count pos : Nat)
  /-- A slice that starts at `start`, beyond the position `pos` where it is to end. -/
  | sliceStartExceeds (start pos : Nat)
  /-- A cut inside a character or beyond the end of a text. -/
  | notBoundary
  /-- A token was finished before the last one was handed out. -/
  | slotFull
  /-- A count left the range of its machine word. -/
  | overflow
deriving DecidableEq, Repr

namespace Fault

/-- The sentence for a fault, where it has one. -/
def message? : Fault → Option String
  | backUpWithoutBump => some "back_up without a preceding bump"
  | splitsChar count pos =>
    some ("advance_by(" ++ toString count ++ ") from " ++ toString pos ++ " splits a char")
  | sliceStartExceeds start pos =>
    some ("slice start " ++ toString start ++ " exceeds " ++ toString pos)
  | notBoundary => none
  | slotFull => none
  | overflow => none

end Fault

/-- A sequence succeeds exactly when its first part does and the second does on its result. -/
theorem bind_eq_ok_iff {ε α β : Type} {x : Except ε α} {f : α → Except ε β} {b : β} :
    (x >>= f) = .ok b ↔ ∃ a, x = .ok a ∧ f a = .ok b := by
  cases x <;> simp [bind, Except.bind]

/-- A result that is made of another one succeeds exactly when that one does. -/
theorem map_eq_ok_iff {ε α β : Type} {x : Except ε α} {f : α → β} {b : β} :
    x.map f = .ok b ↔ ∃ a, x = .ok a ∧ f a = b := by
  cases x <;> simp [Except.map]

theorem exists_map_eq_ok_iff {ε α β : Type} {x : Except ε α} {f : α → β} :
    (∃ b, x.map f = .ok b) ↔ ∃ a, x = .ok a := by
  cases x <;> simp [Except.map]

theorem pure_eq_ok_iff {ε α : Type} {a b : α} : (pure a : Except ε α) = .ok b ↔ a = b := by
  simp [pure, Except.pure]

end TemplateLexer
