import TemplateLexer.Proofs.Trivia

/-!
# Quoted strings are literals

A literal is a quote, contents, and a quote, where a backslash in the contents takes the character
behind it with it. No literal is the beginning of another one (`Literal.unique`), so that a text has
one way at most to begin with a literal. Where it does, the scan of a string takes just this
literal; where it does not, the scan fails, at the end of the template or at a line end
(`Lexer.literals_taken`). The kinds of ends are those of `Ending`.
-/

namespace TemplateLexer

open Text
open Delimiters (standard)

/-- A quoted string as it is written. -/
def Literal (text : List Char) : Prop := ∃ cs, Contents cs ∧ text = '"' :: (cs ++ ['"'])

variable {d : Delimiters} {source rest rest' cs cs' last last' tail : List Char}
  {closed closed' : Bool} {ts : List Token} {p : Place} {resume : Resume}

/-! ### Contents -/

/-- A line end can not even be marked by a backslash. -/
theorem Contents.lineFeed_not_mem (h : Contents cs) : '\n' ∉ cs := by
  induction h with
  | nil => simp
  | @plain x cs hx _ ih =>
    have hne : '\n' ≠ x := by
      rintro rfl
      exact absurd hx (by decide)
    simp [hne, ih]
  | @escaped x cs hx _ ih => simp [Ne.symm hx, ih]

theorem Ending.isStringMark {x : Char} (h : Ending closed last rest)
    (heq : last ++ rest = x :: tail) : isStringMark x = true := by
  cases h <;> cases heq <;> decide

/-- An ending is not contents. -/
theorem Ending.ne_append {x : Char} (h : Ending closed last rest) (hcs : Contents (x :: cs)) :
    last ++ rest ≠ x :: (cs ++ tail) := by
  intro heq
  cases hcs with
  | plain hx => simp [h.isStringMark heq] at hx
  | escaped hx => cases h <;> simp [Ne.symm hx] at heq

/-- Contents are followed by an ending in one way only. -/
theorem Contents.unique (h : Contents cs) (h' : Contents cs') (hend : Ending closed last rest)
    (hend' : Ending closed' last' rest') (heq : cs ++ (last ++ rest) = cs' ++ (last' ++ rest')) :
    cs = cs' ∧ last ++ rest = last' ++ rest' := by
  induction h generalizing cs' with
  | nil =>
    cases cs' with
    | nil => exact ⟨rfl, heq⟩
    | cons => exact absurd heq (hend.ne_append h')
  | @plain x cs hx hcs ih =>
    cases h' with
    | nil => exact absurd heq.symm (hend'.ne_append (.plain hx hcs))
    | plain _ hcs' =>
      obtain ⟨rfl, htail⟩ := List.cons.inj heq
      obtain ⟨rfl, hlast⟩ := ih hcs' htail
      exact ⟨rfl, hlast⟩
    | escaped =>
      cases (List.cons.inj heq).1
      exact absurd hx (by decide)
  | @escaped x cs hx hcs ih =>
    cases h' with
    | nil => exact absurd heq.symm (hend'.ne_append (.escaped hx hcs))
    | plain hx' =>
      cases (List.cons.inj heq).1
      exact absurd hx' (by decide)
    | escaped _ hcs' =>
      obtain ⟨rfl, htail⟩ := List.cons.inj (List.cons.inj heq).2
      obtain ⟨rfl, hlast⟩ := ih hcs' htail
      exact ⟨rfl, hlast⟩

/-- A text begins with one literal at most. -/
theorem Literal.unique {text text' cs : List Char} (h : Literal text) (h' : Literal text')
    (hpre : text <+: cs) (hpre' : text' <+: cs) : text = text' := by
  obtain ⟨inner, hinner, rfl⟩ := h
  obtain ⟨inner', hinner', rfl⟩ := h'
  obtain ⟨rest, rfl⟩ := hpre
  obtain ⟨rest', heq⟩ := hpre'
  simp only [List.cons_append, List.cons.injEq, List.append_assoc, true_and] at heq
  rw [(hinner.unique hinner' .quote .quote heq.symm).1]

/-- Where contents end otherwise than with a quote, there is no literal. -/
theorem Contents.not_literal {text : List Char} (h : Contents cs) (hend : Ending false last rest)
    (htext : Literal text) : ¬ text <+: '"' :: (cs ++ (last ++ rest)) := by
  rintro ⟨after, heq⟩
  obtain ⟨inner, hinner, rfl⟩ := htext
  simp only [List.cons_append, List.cons.injEq, List.append_assoc, true_and] at heq
  have hquote := (hinner.unique h .quote hend heq).2
  cases hend <;> cases hquote

/-! ### Strings of a run -/

/-- The template goes on with a literal, and the scan takes it. -/
theorem Run.take_literal {text : List Char} (h : Run d source ts p)
    (hs : p.state = some (.quote resume)) (htext : Literal text) (hpre : text <+: '"' :: p.rest) :
    ∃ q, Step d p (some ⟨.string, size p.front, text⟩) q ∧ q.state = some resume.state := by
  have hheld := h.ready.held_of_state hs
  obtain ⟨state, front, held, rest, m⟩ := p
  cases hs
  cases hheld
  obtain ⟨cs, hcs, rfl⟩ := htext
  obtain ⟨after, hafter⟩ := hpre
  obtain rfl : cs ++ ['"'] ++ after = rest := (List.cons.inj hafter).2
  exact ⟨_, .finish (.string hcs), rfl⟩

/-- The template goes on with no literal, and the scan takes what there is of one. -/
theorem Run.take_unterminated (h : Run d source ts p) (hs : p.state = some (.quote resume))
    (hno : ∀ text, Literal text → ¬ text <+: '"' :: p.rest) :
    ∃ cs last rest q, p.rest = cs ++ last ++ rest ∧ Contents cs ∧ Ending false last rest ∧
      Step d p (some ⟨.error .unterminatedString, size p.front, '"' :: (cs ++ last)⟩) q ∧
      q.state = none := by
  have hheld := h.ready.held_of_state hs
  obtain ⟨state, front, held, rest, m⟩ := p
  cases hs
  cases hheld
  obtain ⟨cs, closed, last, after, rfl, hcs, hend⟩ := exists_contents rest
  cases closed with
  | true =>
    cases hend
    exact absurd (List.prefix_append ('"' :: (cs ++ ['"'])) after) (hno _ ⟨cs, hcs, rfl⟩)
  | false => exact ⟨cs, last, after, _, rfl, hcs, hend, .finish (.unterminated hcs hend), rfl⟩

namespace Lexer

/-- Behind an opening quote, wherever it stands, the lexer takes the literal that begins with this
quote, if there is one, and goes on in the state from which it came. If there is none, it stops with
an error that takes everything up to the end of the template, to a line end, or through a line end
that a backslash marks. -/
theorem literals_taken {name : String} {options : Options} {l : Lexer}
    (h : (ofSource name source options).Stepped ts l) (hs : l.state = some (.quote resume)) :
    (State.quote resume).Within (ts.map Token.kind) l.openParens ∧
    ∃ cs, drop? source l.start = some ('"' :: cs) ∧
      (∀ text, Literal text → text <+: '"' :: cs →
        (∀ text', Literal text' → text' <+: '"' :: cs → text' = text) ∧
        ∃ l', l.pull = .ok (some ⟨.string, l.start, text⟩, l') ∧ l'.state = some resume.state) ∧
      ((∀ text, Literal text → ¬ text <+: '"' :: cs) →
        ∃ inner last rest l', cs = inner ++ last ++ rest ∧ Contents inner ∧ '\n' ∉ inner ∧
          Ending false last rest ∧
          l.pull =
            .ok (some ⟨.error .unterminatedString, l.start, '"' :: (inner ++ last)⟩, l') ∧
          l'.state = none) := by
  obtain ⟨p, hrun, hstands⟩ := h.exists_run
  have hstate : p.state = some (.quote resume) := hstands.state_eq.symm.trans hs
  have hentered := hstands.entered hrun hs
  have hstart := hstands.holds.start_eq
  refine ⟨hentered.within, p.rest, (hentered.quote resume rfl).2, ?_, ?_⟩
  · intro text htext hpre
    refine ⟨fun text' htext' hpre' => htext'.unique htext hpre' hpre, ?_⟩
    obtain ⟨q, hstep, hq⟩ := hrun.take_literal hstate htext hpre
    obtain ⟨l', hpull, hstands', -⟩ := hstands.pull_eq hrun.ready hstep
    rw [hstart]
    exact ⟨l', hpull, hstands'.state_eq.trans hq⟩
  · intro hno
    obtain ⟨inner, last, rest, q, hrest, hinner, hend, hstep, hq⟩ :=
      hrun.take_unterminated hstate hno
    obtain ⟨l', hpull, hstands', -⟩ := hstands.pull_eq hrun.ready hstep
    rw [hstart]
    exact ⟨inner, last, rest, l', hrest, hinner, hinner.lineFeed_not_mem, hend, hpull,
      hstands'.state_eq.trans hq⟩

end Lexer

/-- An import leads to the string that is its first part. -/
theorem Run.quote_of_import (cs : List Char) :
    Run standard (standard.head .import_ ++ '"' :: cs)
      [⟨.directive .import_, 0, "@import".toList⟩, ⟨.openDirective, 7, ['(']⟩]
      ⟨some (.quote .insideDirective), standard.head .import_, ['"'], cs, ⟨0, false⟩⟩ :=
  (Run.body_of_head .import_ rfl ('"' :: cs)).silent (.hold .bodyQuote)

/-- A literal with a quote and with a backslash in it, each marked; and a string that a marked quote
leaves open up to the end of the line. -/
theorem literals_taken_import :
    (∃ ts l l', (Lexer.ofSource "t" "@import(\"\\\"é\\\\\")".toList .default).Stepped ts l ∧
      l.pull = .ok (some ⟨.string, 8, "\"\\\"é\\\\\"".toList⟩, l') ∧
      l'.state = some .insideDirective) ∧
    ∃ ts l l' text, (Lexer.ofSource "t" "@import(\"é\\\"\n)".toList .default).Stepped ts l ∧
      l.pull = .ok (some ⟨.error .unterminatedString, 8, text⟩, l') ∧ l'.state = none := by
  refine ⟨?_, ?_⟩
  · obtain ⟨l, hstepped, hstands⟩ :=
      Lexer.exists_stepped "t" (Run.quote_of_import ['\\', '"', 'é', '\\', '\\', '"', ')'])
    obtain ⟨-, cs, hcs, htaken, -⟩ := Lexer.literals_taken hstepped hstands.state_eq
    rw [hstands.holds.start_eq] at hcs htaken
    cases Option.some.inj hcs
    have hliteral : Literal ['"', '\\', '"', 'é', '\\', '\\', '"'] :=
      ⟨['\\', '"', 'é', '\\', '\\'],
        .escaped (by decide) (.plain (by decide) (.escaped (by decide) .nil)), rfl⟩
    obtain ⟨-, l', hpull, hstate⟩ := htaken _ hliteral ⟨[')'], rfl⟩
    exact ⟨_, l, l', hstepped, hpull, hstate⟩
  · obtain ⟨l, hstepped, hstands⟩ :=
      Lexer.exists_stepped "t" (Run.quote_of_import ['é', '\\', '"', '\n', ')'])
    obtain ⟨-, cs, hcs, -, hleft⟩ := Lexer.literals_taken hstepped hstands.state_eq
    rw [hstands.holds.start_eq] at hcs hleft
    cases Option.some.inj hcs
    have hinner : Contents ['é', '\\', '"'] := .plain (by decide) (.escaped (by decide) .nil)
    obtain ⟨inner, last, rest, l', -, -, -, -, hpull, hstate⟩ :=
      hleft fun text htext => hinner.not_literal .line htext
    exact ⟨_, l, l', _, hstepped, hpull, hstate⟩

end TemplateLexer
