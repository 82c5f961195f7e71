import TemplateLexer.Proofs.Termination

/-!
# What a state finds

The step of a state relies on what earlier steps have seen: that a delimiter stands at the cursor,
that the slot is empty, that a string has begun with a quote. `Lexer.Entered` collects all that
holds when the step of a state begins. It is read off the place of the run at which the lexer
stands, and holds for each step of every run, whether a pull begins with it or is in the middle
(`Lexer.Stepped`).
-/

namespace TemplateLexer

open Text

namespace Lexer

/-- The lexers between two steps, and the tokens handed out up to there. A step that finishes a
token ends a pull, and the token is taken from the slot. -/
inductive Stepped (l₀ : Lexer) : List Token → Lexer → Prop
  | fresh : Stepped l₀ [] l₀
  | silent {ts : List Token} {l l' : Lexer} {s : State} : Stepped l₀ ts l → l.state = some s →
      l.step s = .ok l' → l'.pending = none → Stepped l₀ ts l'
  | token {ts : List Token} {l l' : Lexer} {s : State} {t : Token} : Stepped l₀ ts l →
      l.state = some s → l.step s = .ok l' → l'.pending = some t →
      Stepped l₀ (ts ++ [t]) { l' with pending := none, lastOffset := t.offset }

/-- What holds when the step of the state `s` begins, after the tokens `ts` and before `rest`. -/
structure Entered (d : Delimiters) (source : List Char) (ts : List Token) (l : Lexer) (s : State)
    (rest : List Char) : Prop where
  source_eq : l.source = source
  start_le : l.start ≤ l.cursor.pos
  pos_le : l.cursor.pos ≤ size source
  boundary_start : isBoundary source l.start = true
  boundary_pos : isBoundary source l.cursor.pos = true
  pending_eq : l.pending = none
  sawExtends_iff : l.sawExtends = true ↔ ∃ t ∈ ts, t.kind = .directive .extends_
  /-- Only the opening quote of a string has been read and not yet handed out. -/
  start_eq : (∀ resume, s ≠ .quote resume) → l.start = l.cursor.pos
  quote : ∀ resume, s = .quote resume →
    l.start + 1 = l.cursor.pos ∧ drop? source l.start = some ('"' :: rest)
  rest_eq : drop? source l.cursor.pos = some rest
  ahead : s.Ready d rest
  directive : ∀ dir nameLen, s = .directive dir nameLen →
    ∃ name, d.marker ++ name ++ ['('] <+: rest ∧ size name = nameLen ∧
      Directive.ofWord? name = some dir
  eof : s = .eof → l.cursor.pos = size source
  within : s.Within (ts.map Token.kind) l.openParens

variable {d : Delimiters} {source : List Char} {ts : List Token} {p : Place} {s : State}
  {l l' l₀ : Lexer} {name : String} {options : Options}

/-! ### Steps follow runs -/

theorem Stepped.exists_run (h : (ofSource name source options).Stepped ts l) :
    ∃ p, Run options.normalized source ts p ∧ l.Stands options.normalized p := by
  have hstep : ∀ {ts : List Token} {l l' : Lexer} {s : State},
      (∃ p, Run options.normalized source ts p ∧ l.Stands options.normalized p) →
      l.state = some s → l.step s = .ok l' →
      ∃ p', Run options.normalized source (ts ++ l'.pending.toList) p' ∧
        l'.emptied.Stands options.normalized p' := by
    intro ts l l' s hl hs hl'
    obtain ⟨p, hrun, hstands⟩ := hl
    rcases hstands.exists_step hrun.ready hs with
      ⟨slot, p', l'', hstep, hok, hslot, hstands'⟩ | hover
    · cases hl'.symm.trans hok
      rw [hslot]
      exact ⟨p', hrun.step hstep, hstands'⟩
    · cases hl'.symm.trans hover.1
  induction h with
  | fresh => exact ⟨_, .start, stands_ofSource name source options⟩
  | silent _ hs hl' hp ih =>
    obtain ⟨p', hrun, hstands⟩ := hstep ih hs hl'
    rw [hp, Option.toList_none, List.append_nil] at hrun
    rw [emptied_eq hp] at hstands
    exact ⟨p', hrun, hstands⟩
  | token _ hs hl' hp ih =>
    obtain ⟨p', hrun, hstands⟩ := hstep ih hs hl'
    rw [hp, Option.toList_some] at hrun
    have hholds := hstands.holds
    exact ⟨p', hrun, ⟨hholds.delims_eq, hholds.between, hholds.start_eq, rfl⟩, hstands.state_eq,
      hstands.memory_eq⟩

/-- Every place of a run is one where a lexer stands between two steps. -/
theorem exists_stepped (name : String) (h : Run options.normalized source ts p) :
    ∃ l, (ofSource name source options).Stepped ts l ∧ l.Stands options.normalized p := by
  induction h with
  | start => exact ⟨_, .fresh, stands_ofSource name source options⟩
  | @step ts p p' slot hrun hstep ih =>
    obtain ⟨l, hl, hstands⟩ := ih
    obtain ⟨s, -, -, hs, -⟩ := hstep.exists_rule
    have hheld := hrun.ready.held_of_state hs
    obtain ⟨l', hl', hslot, hstands'⟩ := step_reaches hstands hs hheld hstep
    have hstate := hstands.state_eq.trans hs
    have hholds := hstands'.holds
    cases slot with
    | none =>
      rw [Option.toList_none, List.append_nil]
      rw [emptied_eq hslot] at hstands'
      exact ⟨l', hl.silent hstate hl' hslot, hstands'⟩
    | some t =>
      exact ⟨_, hl.token hstate hl' hslot,
        ⟨hholds.delims_eq, hholds.between, hholds.start_eq, rfl⟩, hstands'.state_eq,
        hstands'.memory_eq⟩

/-- A pull leads over steps. -/
theorem PullsIn.stepped {n : Nat} {result : Except Fault (Option Token × Lexer)} {t? : Option Token}
    (h : PullsIn n l result) (hl : l₀.Stepped ts l) (hp : l.pending = none)
    (hresult : result = .ok (t?, l')) : l₀.Stepped (ts ++ t?.toList) l' := by
  induction h with
  | token hp' => cases hp.symm.trans hp'
  | halted =>
    cases hresult
    rw [Option.toList_none, List.append_nil]
    exact hl
  | fault => cases hresult
  | step _ hs hl' hpulls ih =>
    cases hp' : Lexer.pending _ with
    | none => exact ih (hl.silent hs hl' hp') hp' hresult
    | some t =>
      -- The slot is full, so that the token in it is what the pull gives.
      have hpull := hpulls.pull_eq
      rw [pull_of_pending hp', hresult] at hpull
      cases hpull
      exact hl.token hs hl' hp'

/-- Between two pulls, a lexer is between two steps. -/
theorem Pulled.stepped (h : (ofSource name source options).Pulled ts l) :
    (ofSource name source options).Stepped ts l := by
  induction h with
  | fresh => exact .fresh
  | pull hpulled hpull ih =>
    obtain ⟨n, -, hpulls⟩ := hpulled.exists_pullsIn
    obtain ⟨p, -, hstands⟩ := ih.exists_run
    exact hpulls.stepped ih hstands.holds.pending_eq hpull

/-! ### Reading off a place -/

theorem Stands.entered (hrun : Run d source ts p) (h : l.Stands d p) (hs : l.state = some s) :
    l.Entered d source ts s p.rest := by
  have hstate : p.state = some s := h.state_eq.symm.trans hs
  have hready := hrun.ready.ready s hstate
  have hheld := hrun.ready.held_of_state hstate
  have hsource := hrun.source_eq
  have hstart := h.holds.start_eq
  have hpos := h.holds.between.pos_eq
  have hwithin := hrun.within hstate
  rw [hheld] at hsource hpos
  rw [← h.memory_eq] at hwithin
  have hrest : drop? source l.cursor.pos = some p.rest := by
    rw [hpos, ← hsource]
    exact drop?_append _ _
  have hfront : drop? source l.start = some (s.held ++ p.rest) := by
    rw [hstart, ← hsource, List.append_assoc]
    exact drop?_append _ _
  have hsize := size_of_drop?_eq_some hrest
  refine
    { source_eq := ?_
      start_le := ?_
      pos_le := by omega
      boundary_start := by rw [isBoundary, hfront]; rfl
      boundary_pos := by rw [isBoundary, hrest]; rfl
      pending_eq := h.holds.pending_eq
      sawExtends_iff := ?_
      start_eq := ?_
      quote := ?_
      rest_eq := hrest
      ahead := hready
      directive := ?_
      eof := ?_
      within := hwithin }
  · show l.cursor.source = source
    rw [h.holds.between.source_eq, hheld]
    exact hsource
  · rw [hstart, hpos, size_append]
    exact Nat.le_add_right _ _
  · rw [← hrun.sawExtends_iff, ← h.memory_eq]
    rfl
  · intro hquote
    have hnil : s.held = [] := by
      cases s with
      | quote resume => exact absurd rfl (hquote resume)
      | _ => rfl
    rw [hstart, hpos, hnil, List.append_nil]
  · rintro resume rfl
    refine ⟨?_, hfront⟩
    rw [hstart, hpos, size_append]
    rfl
  · rintro dir nameLen rfl
    exact ⟨dir.spelling.toList, hready.2, hready.1.symm, dir.ofWord?_spelling⟩
  · rintro rfl
    exact (eq_nil_iff_of_drop? hrest).mp hready

/-- Whenever the step of a state begins, the state finds what it relies on; and between two pulls
the lexer is where a step begins, or has halted. -/
theorem states_entered (name : String) (source : List Char) (options : Options) :
    (∀ ts l s, (ofSource name source options).Stepped ts l → l.state = some s →
      ∃ rest, l.Entered options.normalized source ts s rest) ∧
    ∀ ts l, (ofSource name source options).Pulled ts l →
      (ofSource name source options).Stepped ts l := by
  constructor
  · intro ts l s hstepped hs
    obtain ⟨p, hrun, hstands⟩ := hstepped.exists_run
    exact ⟨p.rest, hstands.entered hrun hs⟩
  · intro ts l hpulled
    exact hpulled.stepped

end Lexer

end TemplateLexer
