import TemplateLexer.Proofs.Runs

/-!
# Paths

A run begins at the start of a template, and a path begins anywhere. Runs are the paths from the
start (`Run.path`, `Path.run`), and a path can be cut at each of its tokens (`Path.exists_split`).

At a place where a state may be entered at most one step can be taken, because the lexer that
stands there takes it (`Step.unique`). Two paths from one place therefore go together as far as the
shorter one goes (`Path.of_path`), and a path from the start to an end is what the lexer does:
`Lexer.tokens_of_path` reads all tokens of a template off such a path.
-/

namespace TemplateLexer

open Text

/-- Steps from one place to another, and the tokens that they finish. -/
inductive Path (d : Delimiters) : Place → List Token → Place → Prop
  | refl {p : Place} : Path d p [] p
  | step {p p' q : Place} {slot : Option Token} {ts : List Token} :
      Step d p slot p' → Path d p' ts q → Path d p (slot.toList ++ ts) q

/-- No step can be taken. -/
def Place.Final (d : Delimiters) (p : Place) : Prop := ∀ slot q, ¬ Step d p slot q

variable {d : Delimiters} {source : List Char} {ts us : List Token} {p p' q q' : Place}
  {slot slot' : Option Token} {t : Token}

namespace Path

theorem silent (hs : Step d p none p') (h : Path d p' ts q) : Path d p ts q := .step hs h

theorem token (hs : Step d p (some t) p') (h : Path d p' ts q) : Path d p (t :: ts) q := .step hs h

theorem single (hs : Step d p slot q) : Path d p slot.toList q := by
  have := Path.step hs .refl
  rwa [List.append_nil] at this

theorem trans (h : Path d p ts p') (h' : Path d p' us q) : Path d p (ts ++ us) q := by
  induction h with
  | refl => exact h'
  | step hs _ ih =>
    rw [List.append_assoc]
    exact .step hs (ih h')

theorem ready (h : Path d p ts q) (hp : p.Ready d) : q.Ready d := by
  induction h with
  | refl => exact hp
  | step hs _ ih => exact ih (hp.step hs)

/-- A path can be cut at a token. -/
theorem exists_split (h : Path d p (ts ++ t :: us) q) :
    ∃ p₀ p₁, Path d p ts p₀ ∧ Step d p₀ (some t) p₁ ∧ Path d p₁ us q := by
  generalize hall : ts ++ t :: us = all at h
  induction h generalizing ts with
  | refl => simp at hall
  | @step p p' q slot vs hs h ih =>
    cases slot with
    | none =>
      obtain ⟨p₀, p₁, hbefore, hstep, hafter⟩ := ih hall
      exact ⟨p₀, p₁, hbefore.silent hs, hstep, hafter⟩
    | some u =>
      -- The token is the one that this step finishes, or stands behind it.
      cases ts with
      | nil =>
        cases hall
        exact ⟨p, p', .refl, hs, h⟩
      | cons v ts =>
        obtain ⟨rfl, hrest⟩ := List.cons.inj hall
        obtain ⟨p₀, p₁, hbefore, hstep, hafter⟩ := ih hrest
        exact ⟨p₀, p₁, hbefore.token hs, hstep, hafter⟩

/-- Nothing of the template is lost. -/
theorem source_eq (h : Path d p ts q) :
    q.front ++ q.held ++ q.rest = p.front ++ p.held ++ p.rest := by
  induction h with
  | refl => rfl
  | step hs _ ih =>
    obtain ⟨s, taken, e, -, hrest, hfront, -⟩ := hs.exists_rule
    rw [ih, hfront, hrest, List.append_assoc _ taken]

end Path

/-! ### Runs are paths from the start -/

theorem Run.path (h : Run d source ts p) : Path d (Place.start source) ts p := by
  induction h with
  | start => exact .refl
  | step _ hs ih => exact ih.trans (.single hs)

theorem Run.append_path (hrun : Run d source ts p) (h : Path d p us q) :
    Run d source (ts ++ us) q := by
  induction h generalizing ts with
  | refl =>
    rw [List.append_nil]
    exact hrun
  | step hs _ ih =>
    rw [← List.append_assoc]
    exact ih (hrun.step hs)

theorem Path.run (h : Path d (Place.start source) ts p) : Run d source ts p :=
  Run.start.append_path h

/-! ### Steps are determined -/

namespace Lexer

/-- A lexer that stands at a given place. -/
def standing (d : Delimiters) (p : Place) : Lexer where
  name := ""
  delims := d
  cursor := { source := p.front ++ p.held ++ p.rest, pos := size (p.front ++ p.held) }
  start := size p.front
  state := p.state
  openParens := p.memory.openParens
  sawExtends := p.memory.sawExtends

theorem stands_standing (d : Delimiters) (p : Place) : (standing d p).Stands d p :=
  ⟨⟨rfl, ⟨rfl, rfl⟩, rfl, rfl⟩, rfl, rfl⟩

/-- A lexer stands at one place only. -/
theorem Stands.unique {l : Lexer} (h : l.Stands d p) (h' : l.Stands d q) : p = q := by
  have hstate := h.state_eq.symm.trans h'.state_eq
  have hmemory := h.memory_eq.symm.trans h'.memory_eq
  have hsource := h.holds.between.source_eq.symm.trans h'.holds.between.source_eq
  have hpos := h.holds.between.pos_eq.symm.trans h'.holds.between.pos_eq
  have hstart := h.holds.start_eq.symm.trans h'.holds.start_eq
  -- The position cuts off the rest, and the start of the token cuts what is before it.
  obtain ⟨hbefore, hrest⟩ := append_inj_of_size hsource hpos
  obtain ⟨hfront, hheld⟩ := append_inj_of_size hbefore hstart
  cases p
  cases q
  simp_all

end Lexer

theorem Step.unique (hready : p.Ready d) (h : Step d p slot q) (h' : Step d p slot' q') :
    slot = slot' ∧ q = q' := by
  obtain ⟨s, -, -, hs, -⟩ := h.exists_rule
  have hstands := Lexer.stands_standing d p
  have hheld := hready.held_of_state hs
  obtain ⟨l, hl, hslot, hq⟩ := Lexer.step_reaches hstands hs hheld h
  obtain ⟨l', hl', hslot', hq'⟩ := Lexer.step_reaches hstands hs hheld h'
  cases hl.symm.trans hl'
  exact ⟨hslot.symm.trans hslot', hq.unique hq'⟩

/-! ### Ends -/

theorem Place.final_of_halted (h : p.state = none) : p.Final d := by
  intro slot q hs
  obtain ⟨s, -, -, hstate, -⟩ := hs.exists_rule
  cases h.symm.trans hstate

theorem Place.AtLimit.final (h : p.AtLimit d) (hready : p.Ready d) : p.Final d := by
  intro slot q hs
  have hstands := Lexer.stands_standing d p
  have hheld := hready.held_of_state h.state_eq
  obtain ⟨l, hl, -, -⟩ := Lexer.step_reaches hstands h.state_eq hheld hs
  cases hl.symm.trans (Lexer.step_overflow hstands h)

namespace Path

/-- A path to an end begins with the step that can be taken. -/
theorem of_step (h : Path d p ts q) (hq : q.Final d) (hready : p.Ready d) (hs : Step d p slot p') :
    ∃ us, ts = slot.toList ++ us ∧ Path d p' us q := by
  cases h with
  | refl => exact absurd hs (hq _ _)
  | step hs' h =>
    obtain ⟨rfl, rfl⟩ := Step.unique hready hs' hs
    exact ⟨_, rfl, h⟩

/-- A path to an end goes along every other path from the same place. -/
theorem of_path (h : Path d p ts q) (hq : q.Final d) (hready : p.Ready d) (h' : Path d p us q') :
    ∃ vs, ts = us ++ vs ∧ Path d q' vs q := by
  induction h' generalizing ts with
  | refl => exact ⟨ts, rfl, h⟩
  | step hs _ ih =>
    obtain ⟨ws, hts, hws⟩ := h.of_step hq hready hs
    obtain ⟨vs, rfl, hvs⟩ := ih hws (hready.step hs)
    refine ⟨vs, ?_, hvs⟩
    rw [hts, List.append_assoc]

end Path

/-! ### The lexer goes along a path -/

namespace Lexer

variable {l l' : Lexer}

theorem pullUpTo_congr (h : l.pull = l'.pull) (n : Nat) :
    l.pullUpTo (n + 1) = l'.pullUpTo (n + 1) := by
  rw [pullUpTo, pullUpTo, h]

/-- What is pulled along a path comes first, and the pulls go on at its end. -/
theorem Stands.pullUpTo_path (h : l.Stands d p) (hready : p.Ready d) (hpath : Path d p ts q)
    (n : Nat) : ∃ l' : Lexer, l'.Stands d q ∧
      l.pullUpTo (ts.length + n + 1) =
        (do let (us, l'') ← l'.pullUpTo (n + 1); return (ts ++ us, l'')) := by
  induction hpath generalizing l with
  | refl =>
    refine ⟨l, h, ?_⟩
    rw [List.length_nil, Nat.zero_add]
    cases l.pullUpTo (n + 1) <;> rfl
  | @step p p' q slot ts hs _ ih =>
    cases slot with
    | none =>
      obtain ⟨l₁, hpull, hstands, -⟩ := h.pull_silent hready hs
      obtain ⟨l', hl', hrest⟩ := ih hstands (hready.step hs)
      refine ⟨l', hl', ?_⟩
      rw [Option.toList_none, List.nil_append, pullUpTo_congr hpull, hrest]
    | some t =>
      obtain ⟨l₁, hpull, hstands, -⟩ := h.pull_eq hready hs
      obtain ⟨l', hl', hrest⟩ := ih hstands (hready.step hs)
      refine ⟨l', hl', ?_⟩
      have hlen : ((some t).toList ++ ts).length + n + 1 = (ts.length + n + 1) + 1 := by
        rw [List.length_append, Option.toList_some, List.length_singleton]
        omega
      rw [hlen, pullUpTo, hpull]
      simp only [bind, Except.bind, hrest]
      cases l'.pullUpTo (n + 1) <;> rfl

variable {options : Options}

/-- As many pulls as a lexer makes for all tokens are enough for a path. -/
theorem drain_of_path (name : String)
    (h : Path options.normalized (Place.start source) ts q) :
    ∃ n, ∃ l' : Lexer, l'.Stands options.normalized q ∧
      (ofSource name source options).drain =
        (do let (us, l'') ← l'.pullUpTo (n + 1); return (ts ++ us, l'')) := by
  have hlen := h.run.length_le_size
  obtain ⟨n, hn⟩ := Nat.le.dest hlen
  have hready := Place.ready_start options.normalized source
  obtain ⟨l', hl', hpull⟩ :=
    (stands_ofSource name source options).pullUpTo_path hready h n
  refine ⟨n, l', hl', ?_⟩
  have hremaining : (ofSource name source options).cursor.remaining + 2 = ts.length + n + 1 := by
    show size source + 2 = _
    omega
  rw [drain, hremaining, hpull]

/-- The tokens on the way to an end are all tokens. -/
theorem tokens_of_path (name : String) (h : Path options.normalized (Place.start source) ts q)
    (hq : q.state = none) : (ofSource name source options).tokens = .ok ts := by
  obtain ⟨n, l', hl', hdrain⟩ := drain_of_path name h
  have hend := pull_of_halted hl'.holds.pending_eq (hl'.state_eq.trans hq)
  rw [tokens, hdrain, pullUpTo, hend]
  show Except.ok (ts ++ []) = _
  rw [List.append_nil]

/-- At the limit on parentheses there are no tokens. -/
theorem tokens_of_limit (name : String) (h : Path options.normalized (Place.start source) ts q)
    (hq : q.AtLimit options.normalized) :
    (ofSource name source options).tokens = .error .overflow := by
  obtain ⟨n, l', hl', hdrain⟩ := drain_of_path name h
  have hstate := hl'.state_eq.trans hq.state_eq
  have hend : l'.pull = .error .overflow := by
    rw [pull_of_running hl'.holds.pending_eq hstate, step_overflow hl' hq]
    rfl
  rw [tokens, hdrain, pullUpTo, hend]
  rfl

/-- Every template has a path to an end: all tokens are on it, or it ends at the limit on
parentheses. -/
theorem exists_path (name : String) (source : List Char) (options : Options) :
    ∃ ts q, Path options.normalized (Place.start source) ts q ∧
      ((q.state = none ∧ (ofSource name source options).tokens = .ok ts) ∨
        (q.AtLimit options.normalized ∧
          (ofSource name source options).tokens = .error .overflow)) := by
  rcases tokens_ofSource name source options with ⟨ts, q, htokens, hrun, hend⟩ | ⟨hover, -⟩
  · exact ⟨ts, q, hrun.path, .inl ⟨hend, htokens⟩⟩
  · have hout := pullUpTo_outcome ((ofSource name source options).cursor.remaining + 2) .start
      (stands_ofSource name source options)
    have hover' := hover
    rw [tokens, drain] at hover'
    revert hout hover'
    generalize pullUpTo _ _ = result
    intro hout hover'
    cases hout with
    | tokens => cases hover'
    | overflow hrun hlimit => exact ⟨_, _, hrun.path, .inr ⟨hlimit, hover⟩⟩

/-- Where there are tokens, a path leads over them to an end. -/
theorem exists_path_of_tokens {name : String} (h : (ofSource name source options).tokens = .ok ts) :
    ∃ q, Path options.normalized (Place.start source) ts q ∧ q.state = none := by
  obtain ⟨us, q, hpath, ⟨hq, hus⟩ | ⟨-, hover⟩⟩ := exists_path name source options
  · cases h.symm.trans hus
    exact ⟨q, hpath, hq⟩
  · cases h.symm.trans hover

end Lexer

end TemplateLexer
