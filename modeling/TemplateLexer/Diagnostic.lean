import TemplateLexer.Proofs.Encoding
import TemplateLexer.Token.Basic

/-!
# Errors at their place in a template

A diagnostic is an error with the line and the column at which it stands. Lines are ended by line
feeds alone and columns are counted in characters, both from one. An offset beyond the end counts as
the end, and one inside a character as the start of that character.

The place of an offset is computed on bytes: `Position.locate` counts the line feeds before the
offset, looks for the last of them, and cuts the template behind it. Its cuts could fail if they
were not at boundaries; `Position.locate_eq` says that they are and what comes out, so that every
offset has a place (`Position.ofOffset`).
-/

namespace TemplateLexer

open Text

/-- A place in a template as one reads it. -/
structure Position where
  /-- The line, counted from one. -/
  line : Nat
  /-- The column, counted in characters from one. -/
  column : Nat
deriving DecidableEq, Repr

/-- The template before an offset, which stands for the boundary that it is clamped to. -/
def upTo (source : List Char) (offset : Nat) : Except Fault (List Char) :=
  match take? source (clamp source offset) with
  | some before => .ok before
  | none => .error .notBoundary

theorem upTo_eq {source before rest : List Char} {offset : Nat} (hsource : source = before ++ rest)
    (hsize : size before = clamp source offset) : upTo source offset = .ok before := by
  rw [upTo, take?_eq_some_iff.mpr ⟨rest, hsource, hsize⟩]

namespace Position

/-- Where the last line of `before` starts: behind its last line feed. -/
def lineStart (before : List Char) : Nat := (findLast? (· == 10) (bytes before)).elim 0 (· + 1)

/-- The place of a byte offset, where the cuts for it can be made. -/
def locate (source : List Char) (offset : Nat) : Except Fault Position := do
  let before ← upTo source offset
  match drop? before (lineStart before) with
  | none => throw .notBoundary
  | some line => return { line := 1 + (bytes before).count 10, column := 1 + line.length }

/-- The last line of what is before the offset gives the column, and the lines before it the line. -/
theorem locate_eq {source front line rest : List Char} {offset : Nat}
    (hsource : source = front ++ line ++ rest) (hlast : LastLine front line)
    (hsize : size (front ++ line) = clamp source offset) :
    locate source offset = .ok ⟨1 + front.count '\n', 1 + line.length⟩ := by
  have hline : line.count '\n' = 0 := List.count_eq_zero.mpr hlast.not_mem
  have hcount : (bytes (front ++ line)).count 10 = front.count '\n' := by
    rw [count_bytes_lineFeed, List.count_append, hline, Nat.add_zero]
  have hstart : lineStart (front ++ line) = size front := hlast.findLast?_eq
  rw [locate, upTo_eq hsource hsize]
  simp only [bind, Except.bind, hstart, drop?_append, hcount]
  rfl

theorem exists_locate (source : List Char) (offset : Nat) : ∃ p, locate source offset = .ok p := by
  obtain ⟨before, rest, hsource, hsize⟩ := exists_of_isBoundary (isBoundary_clamp source offset)
  obtain ⟨front, line, rfl, hlast⟩ := exists_lastLine before
  exact ⟨_, locate_eq hsource hlast hsize⟩

/-- The place of a byte offset. -/
def ofOffset (source : List Char) (offset : Nat) : Position :=
  match h : locate source offset with
  | .ok p => p
  | .error _ => absurd h (by obtain ⟨p, hp⟩ := exists_locate source offset; simp [hp])

theorem locate_eq_ofOffset (source : List Char) (offset : Nat) :
    locate source offset = .ok (ofOffset source offset) := by
  obtain ⟨p, hp⟩ := exists_locate source offset
  rw [ofOffset]
  split
  · next h => exact h
  · next h => cases hp.symm.trans h

end Position

/-- An error at its place. -/
structure Diagnostic where
  name : String
  /-- The byte offset of the error. -/
  offset : Nat
  /-- The place of that offset. -/
  position : Position
  error : LexicalError
deriving DecidableEq, Repr

namespace Diagnostic

/-- An error at a byte offset of a template. -/
def ofError (name : String) (source : List Char) (offset : Nat) (error : LexicalError) :
    Diagnostic where
  name := name
  offset := offset
  position := .ofOffset source offset
  error := error

/-- The diagnostic for a token, if it is an error. -/
def ofToken? (name : String) (source : List Char) (t : Token) : Option Diagnostic :=
  t.kind.error?.map (ofError name source t.offset)

/-- A diagnostic on one line. -/
def message (d : Diagnostic) : String :=
  d.name ++ ":" ++ toString d.position.line ++ ":" ++ toString d.position.column ++ ": " ++
    d.error.message

end Diagnostic

end TemplateLexer
