import TemplateLexer.Lexer.Literal
import TemplateLexer.Proofs.Cursor

/-!
# Quoted strings

Behind the opening quote a string has contents, `Contents`: characters that mean nothing special,
and characters marked by a backslash, line ends excepted. The contents go on until one of five
things ends them, `Ending`, of which only the first, a quote, closes the string. Every text is
contents and an ending in one way or another (`exists_contents`), and `skipString_eq` says that the
scan of a string goes over both.
-/

namespace TemplateLexer

open Text

/-- What may stand between the quotes of a string. -/
inductive Contents : List Char → Prop
  | nil : Contents []
  | plain {x : Char} {cs : List Char} : isStringMark x = false → Contents cs → Contents (x :: cs)
  | escaped {x : Char} {cs : List Char} : x ≠ '\n' → Contents cs → Contents ('\\' :: x :: cs)

/-- What ends the contents of a string: whether it closes the string, the characters that belong to
the end, and what follows them. -/
inductive Ending : Bool → List Char → List Char → Prop
  /-- The closing quote. -/
  | quote {rest : List Char} : Ending true ['"'] rest
  /-- The end of the template. -/
  | eof : Ending false [] []
  /-- A line end, which does not belong to the string. -/
  | line {rest : List Char} : Ending false [] ('\n' :: rest)
  /-- A backslash at the end of the template. -/
  | escapedEof : Ending false ['\\'] []
  /-- A line end that a backslash marks. -/
  | escapedLine {rest : List Char} : Ending false ['\\', '\n'] rest

/-- Every text is contents and an ending. -/
theorem exists_contents (text : List Char) :
    ∃ cs closed last rest, text = cs ++ last ++ rest ∧ Contents cs ∧ Ending closed last rest := by
  -- A backslash takes a character with it, so that the induction is on the length.
  induction hn : text.length using Nat.strongRecOn generalizing text with
  | _ n ih =>
    subst hn
    cases text with
    | nil => exact ⟨[], _, _, _, rfl, .nil, .eof⟩
    | cons x tail =>
      by_cases hquote : x = '"'
      · subst hquote
        exact ⟨[], _, _, tail, rfl, .nil, .quote⟩
      by_cases hline : x = '\n'
      · subst hline
        exact ⟨[], _, _, _, rfl, .nil, .line⟩
      by_cases hslash : x = '\\'
      · subst hslash
        cases tail with
        | nil => exact ⟨[], _, _, _, rfl, .nil, .escapedEof⟩
        | cons y tail =>
          by_cases hy : y = '\n'
          · subst hy
            exact ⟨[], _, _, tail, rfl, .nil, .escapedLine⟩
          · obtain ⟨cs, closed, last, rest, rfl, hcs, hlast⟩ :=
              ih tail.length (by simp only [List.length_cons]; omega) tail rfl
            exact ⟨'\\' :: y :: cs, closed, last, rest, rfl, .escaped hy hcs, hlast⟩
      · obtain ⟨cs, closed, last, rest, rfl, hcs, hlast⟩ := ih tail.length (by simp) tail rfl
        have hx : isStringMark x = false := by simp [isStringMark, hquote, hline, hslash]
        exact ⟨x :: cs, closed, last, rest, rfl, .plain hx hcs, hlast⟩

namespace Cursor

variable {c : Cursor} {front rest : List Char}

/-! ### One round of the scan -/

/-- Over a character that means nothing special, the scan goes without stopping. -/
theorem skipString_plain {x : Char} (h : c.Between front (x :: rest))
    (hx : isStringMark x = false) :
    ∃ c' : Cursor, c'.Between (front ++ [x]) rest ∧ c.skipString = c'.skipString := by
  obtain ⟨c', hc', hskip⟩ := h.skipToStringDelim_neg hx
  refine ⟨c', hc', ?_⟩
  rw [skipString, skipString, hskip]

/-- What the scan does at a backslash, after the backslash itself. -/
theorem skipString_backslash (h : c.Between front ('\\' :: rest)) :
    ∃ c' : Cursor, c'.Between (front ++ ['\\']) rest ∧
      c.skipString =
        match c'.bump with
        | .error f => .error f
        | .ok (none, c'') => .ok (false, c'')
        | .ok (some '\n', c'') => .ok (false, c'')
        | .ok (some _, c'') => c''.skipString := by
  obtain ⟨c₁, hskip, hc₁⟩ := h.skipToStringDelim_pos (by decide)
  obtain ⟨c₂, hadv, hc₂⟩ := Between.advanceBy_eq ['\\'] hc₁
  refine ⟨c₂, hc₂, ?_⟩
  have hlead : leadByte '\\' = 92 := by decide
  rw [hlead] at hskip
  have hadv' : c₁.advanceBy 1 = .ok c₂ := hadv
  rw [skipString]
  split
  · next heq => rw [hskip] at heq; cases heq
  · next heq => rw [hskip] at heq; cases heq
  · next heq =>
    rw [hskip] at heq
    cases heq
    split
    · next heq => rw [hadv'] at heq; cases heq
    · next heq =>
      rw [hadv'] at heq
      cases heq
      split <;> simp_all
  · next hno heq => rw [hskip] at heq; cases heq; exact (hno rfl).elim

theorem skipString_quote (h : c.Between front ('"' :: rest)) :
    ∃ c', c.skipString = .ok (true, c') ∧ c'.Between (front ++ ['"']) rest := by
  obtain ⟨c₁, hskip, hc₁⟩ := h.skipToStringDelim_pos (by decide)
  obtain ⟨c₂, hadv, hc₂⟩ := Between.advanceBy_eq ['"'] hc₁
  refine ⟨c₂, ?_, hc₂⟩
  have hlead : leadByte '"' = 34 := by decide
  rw [hlead] at hskip
  have hadv' : c₁.advanceBy 1 = .ok c₂ := hadv
  rw [skipString]
  split <;> simp_all [bind, Except.bind, pure, Except.pure]

/-- At a line end or at the end of the template, the scan gives up without moving. -/
theorem skipString_stop (h : c.Between front rest) (hrest : rest.head? = none ∨
    rest.head? = some '\n') :
    ∃ c', c.skipString = .ok (false, c') ∧ c'.Between front rest := by
  cases rest with
  | nil =>
    obtain ⟨c', hskip, hc'⟩ := h.skipToStringDelim_nil
    refine ⟨c', ?_, hc'⟩
    rw [skipString]
    split <;> simp_all
  | cons x rest =>
    obtain rfl : x = '\n' := by simpa using hrest
    obtain ⟨c', hskip, hc'⟩ := h.skipToStringDelim_pos (by decide)
    have hlead : leadByte '\n' = 10 := by decide
    rw [hlead] at hskip
    refine ⟨c', ?_, hc'⟩
    rw [skipString]
    split <;> simp_all

/-! ### The whole scan -/

/-- Contents are passed: the scan from their beginning is the scan from their end. -/
theorem skipString_contents {cs : List Char} (hcs : Contents cs)
    (h : c.Between front (cs ++ rest)) :
    ∃ c' : Cursor, c'.Between (front ++ cs) rest ∧ c.skipString = c'.skipString := by
  induction hcs generalizing c front with
  | nil => exact ⟨c, by simpa using h, rfl⟩
  | @plain x cs hx hcs ih =>
    obtain ⟨c₁, hc₁, hskip⟩ := skipString_plain h hx
    obtain ⟨c₂, hc₂, hskip'⟩ := ih hc₁
    exact ⟨c₂, by simpa using hc₂, hskip.trans hskip'⟩
  | @escaped x cs hx hcs ih =>
    obtain ⟨c₁, hc₁, hskip⟩ := skipString_backslash h
    obtain ⟨c₂, hbump, hc₂, -⟩ := Between.bump_cons hc₁
    obtain ⟨c₃, hc₃, hskip'⟩ := ih hc₂
    refine ⟨c₃, by simpa using hc₃, ?_⟩
    rw [hskip, hbump, ← hskip']
    split <;> simp_all

/-- The scan of a string goes over its contents and what ends them. -/
theorem skipString_eq {cs last : List Char} {closed : Bool} (hcs : Contents cs)
    (hlast : Ending closed last rest) (h : c.Between front (cs ++ last ++ rest)) :
    ∃ c', c.skipString = .ok (closed, c') ∧ c'.Between (front ++ (cs ++ last)) rest := by
  rw [List.append_assoc] at h
  obtain ⟨c₁, hc₁, hskip⟩ := skipString_contents hcs h
  rw [hskip, ← List.append_assoc]
  cases hlast with
  | quote => exact skipString_quote hc₁
  | eof => simpa using skipString_stop hc₁ (.inl rfl)
  | line => simpa using skipString_stop hc₁ (.inr rfl)
  | escapedEof =>
    obtain ⟨c₂, hc₂, hskip'⟩ := skipString_backslash hc₁
    obtain ⟨c₃, hbump, hc₃, -⟩ := Between.bump_nil hc₂
    refine ⟨c₃, ?_, hc₃⟩
    rw [hskip', hbump]
  | escapedLine =>
    obtain ⟨c₂, hc₂, hskip'⟩ := skipString_backslash hc₁
    obtain ⟨c₃, hbump, hc₃, -⟩ := Between.bump_cons hc₂
    refine ⟨c₃, ?_, by simpa using hc₃⟩
    rw [hskip', hbump]
    rfl

end Cursor

end TemplateLexer
