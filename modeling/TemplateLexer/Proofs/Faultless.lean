import TemplateLexer.Proofs.Runs

/-!
# No promise is broken

A lexer that starts on a template never meets a fault, however often tokens are pulled from it and
lines are asked for in between. There is one exception, which takes a template of four gigabytes:
the number of open parentheses can leave its range.
-/

namespace TemplateLexer

open Text

theorem count_le_size (c : Char) (cs : List Char) : cs.count c ≤ size cs := by
  induction cs with
  | nil => exact Nat.le_refl _
  | cons x cs ih =>
    have hx := x.utf8Size_pos
    rw [List.count_cons, size_cons]
    split <;> omega

namespace Lexer

variable {name : String} {source : List Char} {options : Options} {ts : List Token} {l : Lexer}

/-- The token in progress starts before the cursor, and both stay inside the template. -/
theorem Pulled.pos_le (h : (ofSource name source options).Pulled ts l) :
    l.start ≤ l.cursor.pos ∧ l.cursor.pos ≤ size source ∧ l.source = source := by
  obtain ⟨p, hrun, hstands, -, -⟩ := h.exists_run
  have hholds := hstands.holds
  refine ⟨?_, ?_, ?_⟩
  · rw [hholds.start_eq, hholds.between.pos_eq, size_append]
    exact Nat.le_add_right _ _
  · rw [hholds.between.pos_eq, ← hrun.source_eq, size_append _ p.rest]
    exact Nat.le_add_right _ _
  · show l.cursor.source = source
    rw [hholds.between.source_eq, hrun.source_eq]

theorem Pulled.lineNumber_eq (h : (ofSource name source options).Pulled ts l) :
    l.lineNumber = .ok (1 + ((bytes source).take l.lastOffset).count 10) := by
  obtain ⟨p, -, -, -, hlast⟩ := h.exists_run
  rw [lineNumber, h.pos_le.2.2, if_pos hlast]

/-- A pull succeeds, or there are too many parentheses open. -/
theorem Pulled.pull_ok (h : (ofSource name source options).Pulled ts l) :
    (∃ r, l.pull = .ok r) ∨ l.pull = .error .overflow ∧
      ∃ p, Run options.normalized source ts p ∧ p.AtLimit options.normalized := by
  obtain ⟨p, hrun, hstands, -, -⟩ := h.exists_run
  by_cases hs : p.state = none
  · exact .inl ⟨_, pull_of_halted hstands.holds.pending_eq (hstands.state_eq.trans hs)⟩
  have hout := pull_outcome hrun hstands hs
  revert hout
  generalize l.pull = result
  intro hout
  cases hout with
  | token => exact .inl ⟨_, rfl⟩
  | overflow hrun hlimit => exact .inr ⟨rfl, _, hrun, hlimit⟩

/-- After any number of pulls, the line of the last token can be asked for and another token can be
pulled. The only fault is that of the count of parentheses, at the last of `2 ^ 32` of them. -/
theorem pulled_faultless (h : (ofSource name source options).Pulled ts l) :
    (∃ line, l.lineNumber = .ok line) ∧
    ((∃ r, l.pull = .ok r) ∨
      l.pull = .error .overflow ∧
        (∃ p, Run options.normalized source ts p ∧ p.state = some .action ∧
          p.rest.head? = some '(' ∧ 2 ^ 32 ≤ p.memory.openParens + 1) ∧
        2 ^ 32 ≤ source.count '(' ∧ 2 ^ 32 ≤ size source) ∧
    l.start ≤ l.cursor.pos ∧ l.cursor.pos ≤ size source ∧ ts.length ≤ size source + 1 := by
  obtain ⟨hstart, hpos, -⟩ := h.pos_le
  refine ⟨⟨_, h.lineNumber_eq⟩, ?_, hstart, hpos, ?_⟩
  · rcases h.pull_ok with hok | ⟨hover, p, hrun, hlimit⟩
    · exact .inl hok
    · have hcount : 2 ^ 32 ≤ source.count '(' := hrun.depthBound_le hlimit
      refine .inr ⟨hover, ?_, hcount, Nat.le_trans hcount (count_le_size '(' source)⟩
      exact ⟨p, hrun, hlimit.state_eq, hlimit.head_eq, hlimit.limit_le⟩
  · obtain ⟨p, hrun, -⟩ := h.exists_run
    exact hrun.length_le_size

/-- Three tokens into a template whose action is not closed. -/
theorem pulled_faultless_parens :
    ∃ ts l, (ofSource "t" "a\x7b\x7b(".toList .default).Pulled ts l ∧ ts.length = 3 ∧
      (∃ line, l.lineNumber = .ok line) ∧ ∃ r, l.pull = .ok r := by
  have hlen : (((ofSource "t" "a\x7b\x7b(".toList .default).pullUpTo 3).toOption.map
      fun r => r.1.length) = some 3 := by decide +kernel
  generalize hr : (ofSource "t" "a\x7b\x7b(".toList .default).pullUpTo 3 = result at hlen
  cases result with
  | error f => cases hlen
  | ok r =>
    have hpulled := Pulled.fresh.pullUpTo hr
    obtain ⟨hline, hpull, -⟩ := pulled_faultless hpulled
    refine ⟨r.1, r.2, hpulled, Option.some.inj hlen, hline, ?_⟩
    rcases hpull with hok | ⟨-, -, hcount, -⟩
    · exact hok
    · exact absurd hcount (by decide)

end Lexer

end TemplateLexer
