import TemplateLexer.Proofs.Context
import TemplateLexer.Proofs.Faultless

/-!
# Pulls come to an end

A pull runs states until a token is finished. Steps that finish none come at most two in a row: the
blanks of a body before a word or a string, a comment before the opener that follows it.
`Place.stepsLeft` counts them down (`Step.stepsLeft_lt`), so that three steps are enough for a pull
(`Lexer.Pulled.exists_pullsIn`).

A token that ends the stream is finished by the step that halts the lexer, and by no other
(`Rule.isTerminal_iff`). All other tokens take some of the template, and there can be no more of
them than the template has bytes.
-/

namespace TemplateLexer

open Text

variable {d : Delimiters} {source : List Char} {ts : List Token} {p p' : Place} {s : State}
  {t : Token} {slot : Option Token}

/-! ### Steps to the next token -/

/-- How many steps the next token takes at most. -/
def Place.stepsLeft (p : Place) : Nat :=
  match p.state with
  | none => 0
  | some .text | some .action | some .extendsParam => 2
  | some .comment => 3
  | some .insideDirective => if p.rest.head?.any isInlineBlank then 3 else 2
  | some _ => 1

theorem Place.stepsLeft_le (p : Place) : p.stepsLeft ≤ 3 := by
  unfold Place.stepsLeft
  split <;> try omega
  split <;> omega

theorem Place.stepsLeft_pos (hs : p.state = some s) : 0 < p.stepsLeft := by
  unfold Place.stepsLeft
  rw [hs]
  cases s with
  | insideDirective =>
    dsimp only
    split <;> omega
  | _ => exact Nat.succ_pos _

/-- A step that finishes no token brings one closer. -/
theorem Step.stepsLeft_lt (h : Step d p none p') : p'.stepsLeft < p.stepsLeft := by
  have hinside : ∀ p : Place, p.state = some .insideDirective → 2 ≤ p.stepsLeft := by
    intro p hs
    unfold Place.stepsLeft
    rw [hs]
    dsimp only
    split <;> omega
  cases h with
  | @drop _ _ _ _ _ rest _ _ hr =>
    cases hr with
    | comment => exact Nat.lt_succ_self 2
    | blanks hne hrun =>
      -- The run of blanks was the longest one, so that the next step drops nothing.
      obtain ⟨c, run, rfl⟩ := List.exists_cons_of_ne_nil hne
      have hbefore : isInlineBlank c = true := hrun.all c (by simp)
      have hbehind : rest.head?.any isInlineBlank = false := by
        cases rest with
        | nil => rfl
        | cons x rest => exact hrun.stops x rfl
      simp [Place.stepsLeft, hbefore, hbehind]
  | hold hr =>
    cases hr with
    | opener hcalls => cases hcalls <;> exact Nat.lt_succ_self 1
    | actionQuote | actionWord | extendsQuote => exact Nat.lt_succ_self 1
    | bodyQuote | bodyWord => exact hinside _ rfl

namespace Lexer

variable {l l' : Lexer}

/-- A pull whose steps are counted: it gives its result after `n` of them. -/
inductive PullsIn : Nat → Lexer → Except Fault (Option Token × Lexer) → Prop
  /-- A finished token is handed out. -/
  | token {l : Lexer} {t : Token} : l.pending = some t →
      PullsIn 0 l (.ok (some t, { l with pending := none, lastOffset := t.offset }))
  | halted {l : Lexer} : l.pending = none → l.state = none → PullsIn 0 l (.ok (none, l))
  | fault {l : Lexer} {s : State} {f : Fault} : l.pending = none → l.state = some s →
      l.step s = .error f → PullsIn 1 l (.error f)
  | step {n : Nat} {l l' : Lexer} {s : State} {result : Except Fault (Option Token × Lexer)} :
      l.pending = none → l.state = some s → l.step s = .ok l' → PullsIn n l' result →
      PullsIn (n + 1) l result

/-- What is counted is a pull. -/
theorem PullsIn.pull_eq {n : Nat} {result : Except Fault (Option Token × Lexer)}
    (h : PullsIn n l result) : l.pull = result := by
  induction h with
  | token hp => exact pull_of_pending hp
  | halted hp hs => exact pull_of_halted hp hs
  | fault hp hs hf =>
    rw [pull_of_running hp hs, hf]
    rfl
  | step hp hs hl' _ ih =>
    rw [pull_of_running hp hs, hl']
    exact ih

/-- Where a lexer stands, its step follows a rule, unless it is at the limit on parentheses. -/
theorem Stands.exists_step (h : l.Stands d p) (hready : p.Ready d) (hs : l.state = some s) :
    (∃ slot p' l', Step d p slot p' ∧ l.step s = .ok l' ∧ l'.pending = slot ∧
      l'.emptied.Stands d p') ∨ (l.step s = .error .overflow ∧ p.AtLimit d) := by
  have hstate : p.state = some s := h.state_eq.symm.trans hs
  rcases hready.exists_step hstate with ⟨slot, p', hstep⟩ | hlimit
  · obtain ⟨l', hl', hslot, hstands⟩ := step_reaches h hstate (hready.held_of_state hstate) hstep
    exact .inl ⟨slot, p', l', hstep, hl', hslot, hstands⟩
  · cases hstate.symm.trans hlimit.state_eq
    exact .inr ⟨step_overflow h hlimit, hlimit⟩

theorem Stands.exists_pullsIn (hrun : Run d source ts p) (h : l.Stands d p) :
    ∃ n result, n ≤ p.stepsLeft ∧ PullsIn n l result := by
  -- Every silent step leaves fewer to take.
  induction hn : p.stepsLeft using Nat.strongRecOn generalizing l p with
  | _ n ih =>
    subst hn
    cases hs : l.state with
    | none => exact ⟨0, _, Nat.zero_le _, .halted h.holds.pending_eq hs⟩
    | some s =>
      have hpos := Place.stepsLeft_pos (h.state_eq.symm.trans hs)
      rcases h.exists_step hrun.ready hs with ⟨slot, p', l', hstep, hl', hslot, hstands⟩ | hlimit
      · cases slot with
        | none =>
          rw [emptied_eq hslot] at hstands
          have hlt := hstep.stepsLeft_lt
          obtain ⟨n, result, hle, hpulls⟩ := ih _ hlt (hrun.silent hstep) hstands rfl
          exact ⟨n + 1, result, by omega, .step h.holds.pending_eq hs hl' hpulls⟩
        | some t => exact ⟨1, _, hpos, .step h.holds.pending_eq hs hl' (.token hslot)⟩
      · exact ⟨1, _, hpos, .fault h.holds.pending_eq hs hlimit.1⟩

/-- Three steps are enough for a pull. -/
theorem Pulled.exists_pullsIn {name : String} {options : Options}
    (h : (ofSource name source options).Pulled ts l) : ∃ n ≤ 3, PullsIn n l l.pull := by
  obtain ⟨p, hrun, hstands, -, -⟩ := h.exists_run
  obtain ⟨n, result, hle, hpulls⟩ := Stands.exists_pullsIn hrun hstands
  refine ⟨n, Nat.le_trans hle p.stepsLeft_le, ?_⟩
  rw [hpulls.pull_eq]
  exact hpulls

end Lexer

/-! ### The token that ends a stream -/

theorem not_isTerminal_wordKind (word : List Char) : (wordKind word).isTerminal = false := by
  rcases wordKind_cases word with hw | ⟨k, hw, -⟩
  · rw [hw]
    rfl
  · rw [hw]
    rfl

/-- A lexer halts with a token that ends the stream, and with no other. -/
theorem Rule.isTerminal_iff {front taken rest : List Char} {m m' : Memory} {kind : TokenKind}
    {next : Option State} (h : Rule d front s m taken rest (.finish kind next) m') :
    kind.isTerminal = true ↔ next = none := by
  cases h with
  | run _ _ hruns => cases hruns <;> simp [TokenKind.isTerminal]
  | word => simp [not_isTerminal_wordKind]
  | _ => simp [TokenKind.isTerminal]

/-- The last token ends the stream, and no other does. -/
def Ended (ts : List Token) : Prop :=
  ∃ before t, ts = before ++ [t] ∧ t.kind.isTerminal = true ∧
    ∀ u ∈ before, u.kind.isTerminal = false

theorem Step.isTerminal_iff (h : Step d p (some t) p') :
    t.kind.isTerminal = true ↔ p'.state = none := by
  cases h with
  | finish hr => exact hr.isTerminal_iff

namespace Run

/-- While a scan goes on, no token has ended the stream. -/
theorem not_isTerminal (h : Run d source ts p) (hs : p.state ≠ none) :
    ∀ t ∈ ts, t.kind.isTerminal = false := by
  induction h with
  | start => simp
  | @step ts p p' slot _ hstep ih =>
    obtain ⟨s, -, -, hstate, -⟩ := hstep.exists_rule
    have hts := ih (by simp [hstate])
    intro t ht
    rcases List.mem_append.mp ht with ht | ht
    · exact hts t ht
    · rw [Option.mem_toList] at ht
      cases ht
      rw [Bool.eq_false_iff]
      intro hterminal
      exact hs (hstep.isTerminal_iff.mp hterminal)

theorem ended (h : Run d source ts p) (hs : p.state = none) : Ended ts := by
  cases h with
  | start => cases hs
  | @step ts p _ slot hrun hstep =>
    cases slot with
    | none => exact absurd hs hstep.state_ne_none
    | some t =>
      obtain ⟨s, -, -, hstate, -⟩ := hstep.exists_rule
      refine ⟨ts, t, rfl, hstep.isTerminal_iff.mpr hs, ?_⟩
      exact hrun.not_isTerminal (by simp [hstate])

/-- A scan has halted exactly when a token that ends the stream was finished. -/
theorem state_eq_none_iff (h : Run d source ts p) :
    p.state = none ↔ ∃ t ∈ ts, t.kind.isTerminal = true := by
  constructor
  · intro hs
    obtain ⟨before, t, rfl, hterminal, -⟩ := h.ended hs
    exact ⟨t, by simp, hterminal⟩
  · intro hterminal
    obtain ⟨t, ht, hterminal⟩ := hterminal
    apply Classical.byContradiction
    intro hs
    exact absurd ((h.not_isTerminal hs t ht).symm.trans hterminal) (by decide)

/-- Only the token that ends a stream can be empty. -/
theorem text_ne_nil (h : Run d source ts p) (ht : t ∈ ts) (hk : t.kind.isTerminal = false) :
    t.text ≠ [] := by
  obtain ⟨before, after, hts⟩ := List.append_of_mem ht
  obtain ⟨s, front, m, taken, rest, next, m', -, hr, -, htext, -⟩ := h.exists_rule_of_split hts
  rw [htext]
  apply List.append_ne_nil_of_right_ne_nil
  cases next with
  | none => exact absurd (hk.symm.trans (hr.isTerminal_iff.mpr rfl)) (by decide)
  | some s' => exact hr.taken_ne_nil

end Run

/-! ### Streams come to an end -/

namespace Lexer

variable {name : String} {options : Options} {l : Lexer}

/-- What can be said of a lexer from which the tokens `ts` were pulled. -/
structure Progress (source : List Char) (ts : List Token) (l : Lexer) : Prop where
  steps : ∃ n ≤ 3, PullsIn n l l.pull
  returns : (∃ r, l.pull = .ok r) ∨ (l.pull = .error .overflow ∧ 2 ^ 32 ≤ source.count '(')
  length_le : ts.length ≤ size source + 1
  text_ne_nil : ∀ t ∈ ts, t.kind.isTerminal = false → t.text ≠ []
  halted_iff : l.state = none ↔ ∃ t ∈ ts, t.kind.isTerminal = true
  gives : l.state ≠ none → ∀ t? l', l.pull = .ok (t?, l') → ∃ t, t? = some t
  stays : l.state = none → l.pull = .ok (none, l)

theorem Pulled.progress (h : (ofSource name source options).Pulled ts l) :
    l.Progress source ts := by
  obtain ⟨p, hrun, hstands, -, -⟩ := h.exists_run
  refine ⟨h.exists_pullsIn, ?_, hrun.length_le_size, fun t => hrun.text_ne_nil, ?_, ?_, ?_⟩
  · rcases h.pull_ok with hok | ⟨hover, p, hrun, hlimit⟩
    · exact .inl hok
    · exact .inr ⟨hover, hrun.depthBound_le hlimit⟩
  · rw [hstands.state_eq]
    exact hrun.state_eq_none_iff
  · intro hs t? l' hpull
    rw [hstands.state_eq] at hs
    have hout := pull_outcome hrun hstands hs
    rw [hpull] at hout
    cases hout with
    | token => exact ⟨_, rfl⟩
  · intro hs
    exact pull_of_halted hstands.holds.pending_eq hs

theorem drain_ofSource (name : String) (source : List Char) (options : Options) :
    (∃ ts l, (ofSource name source options).drain = .ok (ts, l) ∧
      (ofSource name source options).Pulled ts l ∧ Ended ts) ∨
    ((ofSource name source options).drain = .error .overflow ∧ 2 ^ 32 ≤ source.count '(') := by
  cases hdrain : (ofSource name source options).drain with
  | error f =>
    rcases tokens_ofSource name source options with ⟨ts, p, htokens, -⟩ | ⟨hover, hcount⟩
    · rw [tokens, hdrain] at htokens
      cases htokens
    · rw [tokens, hdrain] at hover
      cases hover
      exact .inr ⟨rfl, hcount⟩
  | ok r =>
    obtain ⟨us, l⟩ := r
    rcases tokens_ofSource name source options with ⟨ts, p, htokens, hrun, hend⟩ | ⟨hover, -⟩
    · rw [tokens, hdrain] at htokens
      cases htokens
      exact .inl ⟨us, l, rfl, Pulled.fresh.pullUpTo hdrain, hrun.ended hend⟩
    · rw [tokens, hdrain] at hover
      cases hover

/-- A pull takes at most three steps. It gives a token until one has ended the stream, and after
that nothing, and leaves the lexer as it is. The whole stream has one token more than the template
has bytes, at most; only its last token ends it, and only this one can be empty. -/
theorem pulls_terminate (name : String) (source : List Char) (options : Options) :
    (∀ ts l, (ofSource name source options).Pulled ts l → l.Progress source ts) ∧
    ((∃ ts l, (ofSource name source options).drain = .ok (ts, l) ∧ Ended ts ∧
        ts.length ≤ size source + 1 ∧ l.state = none) ∨
      ((ofSource name source options).drain = .error .overflow ∧ 2 ^ 32 ≤ source.count '(')) := by
  constructor
  · intro ts l hpulled
    exact hpulled.progress
  · rcases drain_ofSource name source options with ⟨ts, l, hdrain, hpulled, hended⟩ | hover
    · have hprogress := hpulled.progress
      refine .inl ⟨ts, l, hdrain, hended, hprogress.length_le, ?_⟩
      obtain ⟨before, t, rfl, hterminal, -⟩ := hended
      exact hprogress.halted_iff.mpr ⟨t, by simp, hterminal⟩
    · exact .inr hover

end Lexer

end TemplateLexer
