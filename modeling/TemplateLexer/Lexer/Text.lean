import TemplateLexer.Lexer.Basic

/-!
# Literal text

Literal text runs up to the next opener: the left delimiter, or the marker of a directive with a
directive name and an opening parenthesis. The scan hops to the next place where the first byte of
one of the two stands. A marker that no directive follows is text, and is passed as a whole.
-/

namespace TemplateLexer

open Text

/-- What ends a run of literal text. -/
inductive Opener where
  | delimiter
  /-- A directive whose name takes `nameLen` bytes. -/
  | directive (directive : Directive) (nameLen : Nat)
deriving DecidableEq, Repr

namespace Delimiters

/-- The first byte of the left delimiter. -/
def leftLead (d : Delimiters) : UInt8 := leadByte (d.left.head d.left_ne)

/-- The first byte of the marker. -/
def markerLead (d : Delimiters) : UInt8 := leadByte (d.marker.head d.marker_ne)

/-- The directive at the cursor, where the marker is known to stand: the longest run of word
characters behind the marker names it, and an opening parenthesis follows. -/
def directiveAt (d : Delimiters) (c : Cursor) : Except Fault (Option Opener) := do
  match drop? (← c.rest) (size d.marker) with
  | none => throw .notBoundary
  | some after =>
    let word := after.takeWhile isWordChar
    match Directive.ofWord? word, (after.dropWhile isWordChar).head? with
    | some directive, some '(' => return some (.directive directive (size word))
    | _, _ => return none

/-- The opener at the cursor. -/
def openerAt (d : Delimiters) (c : Cursor) : Except Fault (Option Opener) := do
  if ← c.startsWith d.left then return some .delimiter
  else if ← c.startsWith d.marker then d.directiveAt c
  else return none

/-- Forward over what is no opener: a whole marker, or one character. -/
def pass (d : Delimiters) (c : Cursor) : Except Fault Cursor := do
  if ← c.startsWith d.marker then c.advanceBy (size d.marker)
  else return (← c.bump).2

theorem size_marker_pos (d : Delimiters) : 0 < size d.marker := size_pos_of_ne_nil d.marker_ne

/-- Passing on goes forward. -/
theorem before_of_pass {d : Delimiters} {c c' : Cursor} (h : d.pass c = .ok c') :
    Cursor.Before c c' := by
  unfold pass at h
  cases hs : c.startsWith d.marker with
  | error f => simp [hs, bind, Except.bind] at h
  | ok found =>
    cases found with
    | true =>
      simp only [hs, bind, Except.bind, if_true] at h
      exact (Cursor.before_of_advanceBy h).1
    | false =>
      simp only [hs, bind, Except.bind, Bool.false_eq_true, if_false] at h
      cases hb : c.bump with
      | error f => simp [hb] at h
      | ok r =>
        simp only [hb, pure, Except.pure, Except.ok.injEq] at h
        subst h
        exact Cursor.before_of_bump hb

/-- Short of the end, passing on uses up some of the template. -/
theorem remaining_lt_of_pass {d : Delimiters} {c c' : Cursor} (hc : c.pos < size c.source)
    (h : d.pass c = .ok c') : c'.remaining < c.remaining := by
  unfold pass at h
  cases hs : c.startsWith d.marker with
  | error f => simp [hs, bind, Except.bind] at h
  | ok found =>
    cases found with
    | true =>
      simp only [hs, bind, Except.bind, if_true] at h
      exact Cursor.remaining_lt_of_advanceBy d.size_marker_pos h
    | false =>
      simp only [hs, bind, Except.bind, Bool.false_eq_true, if_false] at h
      cases hb : c.bump with
      | error f => simp [hb] at h
      | ok r =>
        obtain ⟨next, c₁⟩ := r
        simp only [hb, pure, Except.pure, Except.ok.injEq] at h
        subst h
        cases next with
        | some x => exact Cursor.remaining_lt_of_bump hb
        | none =>
          unfold Cursor.bump at hb
          cases hr : c.rest with
          | error f => simp [hr, bind, Except.bind] at hb
          | ok rest =>
            have hsz := Cursor.size_rest hr
            simp only [hr, bind, Except.bind, pure, Except.pure, Except.ok.injEq, Prod.mk.injEq,
              List.head?_eq_none_iff] at hb
            simp [hb.1] at hsz
            omega

/-- Forward to the next opener, or to the end. -/
def seekOpener (d : Delimiters) (c : Cursor) : Except Fault (Option Opener × Cursor) :=
  match _h : c.skipToEither d.leftLead d.markerLead with
  | .error f => .error f
  | .ok (false, c₁) => .ok (none, c₁)
  | .ok (true, c₁) =>
    match d.openerAt c₁ with
    | .error f => .error f
    | .ok (some opener) => .ok (some opener, c₁)
    | .ok none =>
      match _h' : d.pass c₁ with
      | .error f => .error f
      | .ok c₂ => seekOpener d c₂
termination_by c.remaining
decreasing_by
  obtain ⟨hb, hlt⟩ := Cursor.before_of_skipToEither _h
  exact Nat.lt_of_lt_of_le (remaining_lt_of_pass (hlt rfl) _h') hb.remaining_le

/-- The search for an opener goes forward. -/
theorem before_of_seekOpener {d : Delimiters} {c c' : Cursor} {opener : Option Opener}
    (h : d.seekOpener c = .ok (opener, c')) : Cursor.Before c c' := by
  fun_induction seekOpener d c with
  | case1 | case3 | case5 => simp at h
  | case2 c c₁ hs =>
    simp only [Except.ok.injEq, Prod.mk.injEq] at h
    obtain ⟨-, rfl⟩ := h
    exact (Cursor.before_of_skipToEither hs).1
  | case4 c c₁ hs opener' ho =>
    simp only [Except.ok.injEq, Prod.mk.injEq] at h
    obtain ⟨-, rfl⟩ := h
    exact (Cursor.before_of_skipToEither hs).1
  | case6 c c₁ hs ho c₂ hp ih =>
    refine (Cursor.before_of_skipToEither hs).1.trans (Cursor.Before.trans ?_ (ih h))
    exact before_of_pass hp

end Delimiters

namespace Lexer

/-- Finishes the literal text before the cursor, if there is any. -/
def emitText (l : Lexer) : Except Fault Lexer :=
  if l.start < l.cursor.pos then l.emit .text else return l

/-- In literal text: up to the next opener, or to the end. -/
def stepText (l : Lexer) : Except Fault Lexer := do
  let (opener, cursor) ← l.delims.seekOpener l.cursor
  let l ← (l.moveTo cursor).emitText
  return l.enter (match opener with
    | some .delimiter => .leftDelim
    | some (.directive directive nameLen) => .directive directive nameLen
    | none => .eof)

/-- At the end of the template. -/
def stepEof (l : Lexer) : Except Fault Lexer := do
  return { ← l.emit .eof with state := none }

end Lexer

end TemplateLexer
