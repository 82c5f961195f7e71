import Mathlib.Algebra.Group.Nat.Defs
import TemplateLexer.Proofs.Progress

/-!
# Runs

A run is a sequence of steps from the start of a template, together with the tokens that they
finish. What holds at the start and is kept by every step holds all along a run: nothing of the
template is lost (`Run.source_eq`), the parentheses that are open were read (`Run.openParens_le`),
and every token but the last uses up some of the template (`Run.length_le`).

Pulling tokens follows a run (`Lexer.pull_outcome`), and the list of all tokens is that of a run to
its end (`Lexer.tokens_ofSource`).
-/

namespace TemplateLexer

open Text

/-- Steps from the start of a template, and the tokens that they finish. -/
inductive Run (d : Delimiters) (source : List Char) : List Token → Place → Prop
  | start : Run d source [] (Place.start source)
  | step {ts : List Token} {p p' : Place} {slot : Option Token} :
      Run d source ts p → Step d p slot p' → Run d source (ts ++ slot.toList) p'

variable {d : Delimiters} {source : List Char} {ts : List Token} {p p' : Place}
  {slot : Option Token} {t : Token}

/-! ### One step -/

/-- A step takes characters from what is ahead and appends them to what is behind. -/
theorem Step.exists_rule (h : Step d p slot p') :
    ∃ s taken e, p.state = some s ∧ p.rest = taken ++ p'.rest ∧
      p'.front ++ p'.held = p.front ++ p.held ++ taken ∧
      Rule d p.front s p.memory taken p'.rest e p'.memory := by
  cases h with
  | finish hr => exact ⟨_, _, _, rfl, rfl, by simp, hr⟩
  | drop hr => exact ⟨_, _, _, rfl, rfl, by simp, hr⟩
  | hold hr => exact ⟨_, _, _, rfl, rfl, by simp, hr⟩

theorem Step.state_ne_none (h : Step d p none p') : p'.state ≠ none := by
  cases h <;> simp

/-- Behind a finished token nothing is held. -/
theorem Step.stop_eq (h : Step d p (some t) p') :
    p'.held = [] ∧ t.offset = size p.front ∧ t.stop = size p'.front := by
  cases h with
  | finish => exact ⟨rfl, rfl, (size_append _ _).symm⟩

theorem Step.front_le (h : Step d p slot p') : size p.front ≤ size p'.front := by
  cases h with
  | finish | drop => simp
  | hold => exact Nat.le_refl _

theorem Rule.openParens_le {front taken rest : List Char} {s : State} {m m' : Memory} {e : Effect}
    (h : Rule d front s m taken rest e m') : m'.openParens ≤ m.openParens + taken.count '(' := by
  cases h with
  | openAction => exact Nat.zero_le _
  | leftParen => simp
  | rightParen _ hdepth =>
    rw [hdepth]
    simp only
    omega
  | _ => exact Nat.le_add_right _ _

/-- Only the last token of a stream can be empty. -/
theorem Rule.taken_ne_nil {front taken rest : List Char} {s next : State} {m m' : Memory}
    {kind : TokenKind} (h : Rule d front s m taken rest (.finish kind (some next)) m') :
    taken ≠ [] := by
  cases h with
  | text hne | word hne => exact hne
  | openComment | openAction => exact d.left_ne
  | closeAction => exact d.right_ne
  | directive => exact List.append_ne_nil_of_left_ne_nil d.marker_ne _
  | lineEnd heol => cases heol <;> simp
  | _ => simp

theorem Step.length_le (h : Step d p slot p') :
    size p.front + slot.toList.length ≤ size p'.front + if p'.state = none then 1 else 0 := by
  cases h with
  | @finish _ _ _ held taken _ _ next _ hr =>
    cases next with
    | none => simp
    | some next =>
      have := size_pos_of_ne_nil hr.taken_ne_nil
      simp only [Option.toList_some, List.length_singleton, size_append, reduceCtorEq, ↓reduceIte]
      omega
  | drop => simp
  | hold => simp

/-! ### Whole runs -/

namespace Run

theorem silent (h : Run d source ts p) (hs : Step d p none p') : Run d source ts p' := by
  have := h.step hs
  rwa [Option.toList_none, List.append_nil] at this

theorem ready (h : Run d source ts p) : p.Ready d := by
  induction h with
  | start => exact Place.ready_start d source
  | step _ hs ih => exact ih.step hs

/-- Nothing of the template is lost. -/
theorem source_eq (h : Run d source ts p) : p.front ++ p.held ++ p.rest = source := by
  induction h with
  | start => rfl
  | step _ hs ih =>
    obtain ⟨s, taken, e, -, hrest, hfront, -⟩ := hs.exists_rule
    rw [hfront, List.append_assoc, ← hrest]
    exact ih

theorem openParens_le (h : Run d source ts p) :
    p.memory.openParens ≤ (p.front ++ p.held).count '(' := by
  induction h with
  | start => exact Nat.zero_le _
  | step _ hs ih =>
    obtain ⟨s, taken, e, -, -, hfront, hr⟩ := hs.exists_rule
    have := hr.openParens_le
    rw [hfront, List.count_append]
    omega

/-- The limit on parentheses can only be met in a template that has so many of them. -/
theorem depthBound_le (h : Run d source ts p) (hlimit : p.AtLimit d) :
    depthBound ≤ source.count '(' := by
  obtain ⟨rest, hrest⟩ := List.head?_eq_some_iff.mp hlimit.head_eq
  have hopen := h.openParens_le
  have hdepth := hlimit.limit_le
  rw [← h.source_eq, List.count_append, hrest, List.count_cons_self]
  omega

theorem length_le (h : Run d source ts p) :
    ts.length ≤ size p.front + if p.state = none then 1 else 0 := by
  induction h with
  | start => simp
  | @step ts p p' slot _ hs ih =>
    have hstep := hs.length_le
    -- A step begins before the end, so that only now one token more may be counted.
    obtain ⟨s, taken, e, hstate, -⟩ := hs.exists_rule
    rw [hstate] at ih
    simp only [reduceCtorEq, ↓reduceIte] at ih
    rw [List.length_append]
    omega

theorem length_le_size (h : Run d source ts p) : ts.length ≤ size source + 1 := by
  have hlen := h.length_le
  have hsize := congrArg size h.source_eq
  simp only [size_append] at hsize
  split at hlen <;> omega

/-- All tokens are behind. -/
theorem stop_le (h : Run d source ts p) : ∀ t ∈ ts, t.stop ≤ size p.front := by
  induction h with
  | start => simp
  | @step ts p p' slot _ hs ih =>
    intro t ht
    rcases List.mem_append.mp ht with ht | ht
    · exact Nat.le_trans (ih t ht) hs.front_le
    · cases Option.mem_toList.mp ht
      exact Nat.le_of_eq hs.stop_eq.2.2

/-- A run ends with a token. -/
theorem ne_nil (h : Run d source ts p) (hend : p.state = none) : ts ≠ [] := by
  cases h with
  | start => cases hend
  | @step _ _ _ slot _ hs =>
    cases slot with
    | none => exact absurd hend hs.state_ne_none
    | some t => simp

/-- A token of a run was finished by a step, after the tokens before it. -/
theorem exists_step_of_split {before after : List Token} (h : Run d source ts p)
    (hts : ts = before ++ t :: after) :
    ∃ p₀ p₁, Run d source before p₀ ∧ Step d p₀ (some t) p₁ := by
  induction h generalizing after with
  | start => simp at hts
  | @step ts p p' slot hrun hs ih =>
    cases slot with
    | none =>
      rw [Option.toList_none, List.append_nil] at hts
      exact ih hts
    | some u =>
      -- The token is the one that this step finishes, or stands before it.
      rcases List.eq_nil_or_concat after with rfl | ⟨after, u', rfl⟩
      · obtain ⟨rfl, ht⟩ := List.append_inj' hts rfl
        cases ht
        exact ⟨p, p', hrun, hs⟩
      · rw [List.concat_eq_append, ← List.cons_append, ← List.append_assoc] at hts
        exact ih (List.append_inj' hts rfl).1

/-- Every token of a run was finished by one of its steps. -/
theorem exists_step_of_mem (h : Run d source ts p) (ht : t ∈ ts) :
    ∃ ts₀ p₀ p₁, Run d source ts₀ p₀ ∧ Step d p₀ (some t) p₁ := by
  obtain ⟨before, after, hts⟩ := List.append_of_mem ht
  exact ⟨before, h.exists_step_of_split hts⟩

end Run

/-! ### Pulling -/

namespace Lexer

variable {l l' : Lexer}

theorem stands_ofSource (name : String) (source : List Char) (options : Options) :
    (ofSource name source options).Stands options.normalized (Place.start source) :=
  ⟨⟨rfl, ⟨rfl, rfl⟩, rfl, rfl⟩, rfl, rfl⟩

theorem emptied_eq (h : l.pending = none) : l.emptied = l := by
  cases l
  cases h
  rfl

/-- What a pull gives short of the end, when `ts` were handed out before. -/
inductive PullOutcome (d : Delimiters) (source : List Char) (ts : List Token) :
    Except Fault (Option Token × Lexer) → Prop
  | token {p p' : Place} {t : Token} {l' : Lexer} : Run d source ts p → Step d p (some t) p' →
      l'.Stands d p' → l'.lastOffset = t.offset → PullOutcome d source ts (.ok (some t, l'))
  | overflow {p : Place} : Run d source ts p → p.AtLimit d →
      PullOutcome d source ts (.error .overflow)

theorem pull_of_pending (h : l.pending = some t) :
    l.pull = .ok (some t, { l with pending := none, lastOffset := t.offset }) := by
  rw [pull]
  split
  · next hp =>
    cases hp.symm.trans h
    rfl
  · next hp => cases hp.symm.trans h

/-- Short of a finished token, a pull begins with a step. -/
theorem pull_of_running {s : State} (hp : l.pending = none) (hs : l.state = some s) :
    l.pull = l.step s >>= pull := by
  rw [pull]
  split
  · next hp' => cases hp'.symm.trans hp
  split
  · next hs' => cases hs'.symm.trans hs
  · next s' hs' =>
    cases hs'.symm.trans hs
    split
    · next h => rw [h]; rfl
    · next h => rw [h]; rfl

theorem pull_of_halted (hp : l.pending = none) (hs : l.state = none) : l.pull = .ok (none, l) := by
  rw [pull]
  split
  · next hp' => cases hp'.symm.trans hp
  split
  · rfl
  · next hs' => cases hs'.symm.trans hs

theorem Stands.state_ne_none (h : l.Stands d p) (hpull : l.pull = .ok (some t, l')) :
    p.state ≠ none := by
  intro hs
  rw [pull_of_halted h.holds.pending_eq (h.state_eq.trans hs)] at hpull
  cases hpull

/-- A step that finishes a token is all that a pull takes. -/
theorem Stands.pull_eq (h : l.Stands d p) (hready : p.Ready d) (hstep : Step d p (some t) p') :
    ∃ l', l.pull = .ok (some t, l') ∧ l'.Stands d p' ∧ l'.lastOffset = t.offset := by
  obtain ⟨s, -, -, hs, -⟩ := hstep.exists_rule
  have hheld := hready.held_of_state hs
  obtain ⟨l', hl', hslot, hstands⟩ := step_reaches h hs hheld hstep
  refine ⟨{ l' with pending := none, lastOffset := t.offset }, ?_, ?_, rfl⟩
  · rw [pull_of_running h.holds.pending_eq (h.state_eq.trans hs), hl']
    exact pull_of_pending hslot
  · exact ⟨⟨hstands.holds.delims_eq, hstands.holds.between, hstands.holds.start_eq, rfl⟩,
      hstands.state_eq, hstands.memory_eq⟩

/-- A silent step is only the beginning of a pull. -/
theorem Stands.pull_silent (h : l.Stands d p) (hready : p.Ready d) (hstep : Step d p none p') :
    ∃ l' : Lexer, l.pull = l'.pull ∧ l'.Stands d p' ∧ l'.weight < l.weight := by
  obtain ⟨s, -, -, hs, -⟩ := hstep.exists_rule
  have hheld := hready.held_of_state hs
  obtain ⟨l', hl', hslot, hstands⟩ := step_reaches h hs hheld hstep
  have hstate := h.state_eq.trans hs
  rw [emptied_eq hslot] at hstands
  refine ⟨l', ?_, hstands, weight_step h.holds.pending_eq hstate hl'⟩
  rw [pull_of_running h.holds.pending_eq hstate, hl']
  rfl

/-- A pull takes silent steps up to one that finishes a token. -/
theorem pull_outcome (hrun : Run d source ts p) (h : l.Stands d p) (hs : p.state ≠ none) :
    PullOutcome d source ts l.pull := by
  -- Every silent step lowers the weight.
  induction hw : l.weight using Nat.strongRecOn generalizing l p with
  | _ w ih =>
    subst hw
    obtain ⟨s, hs⟩ := Option.ne_none_iff_exists'.mp hs
    rcases hrun.ready.exists_step hs with ⟨slot, p', hstep⟩ | hlimit
    · cases slot with
      | none =>
        obtain ⟨l', hpull, hstands, hlt⟩ := h.pull_silent hrun.ready hstep
        rw [hpull]
        exact ih _ hlt (hrun.silent hstep) hstands hstep.state_ne_none rfl
      | some t =>
        obtain ⟨l', hpull, hstands, hlast⟩ := h.pull_eq hrun.ready hstep
        rw [hpull]
        exact .token hrun hstep hstands hlast
    · have hstate := h.state_eq.trans hlimit.state_eq
      rw [pull_of_running h.holds.pending_eq hstate, step_overflow h hlimit]
      exact .overflow hrun hlimit

/-! ### Any number of pulls -/

/-- The lexers that are reached by pulling, and the tokens handed out on the way. -/
inductive Pulled (l : Lexer) : List Token → Lexer → Prop
  | fresh : Pulled l [] l
  | pull {ts : List Token} {l₁ l₂ : Lexer} {t? : Option Token} :
      Pulled l ts l₁ → l₁.pull = .ok (t?, l₂) → Pulled l (ts ++ t?.toList) l₂

/-- Between two pulls a lexer stands at a place of a run and holds nothing. -/
theorem Pulled.exists_run {name : String} {options : Options}
    (h : (ofSource name source options).Pulled ts l) :
    ∃ p, Run options.normalized source ts p ∧ l.Stands options.normalized p ∧ p.held = [] ∧
      l.lastOffset ≤ size source := by
  induction h with
  | fresh => exact ⟨_, .start, stands_ofSource name source options, rfl, Nat.zero_le _⟩
  | @pull ts l₁ l₂ t? _ hpull ih =>
    obtain ⟨p, hrun, hstands, hheld, hlast⟩ := ih
    by_cases hs : p.state = none
    · rw [pull_of_halted hstands.holds.pending_eq (hstands.state_eq.trans hs)] at hpull
      cases hpull
      rw [Option.toList_none, List.append_nil]
      exact ⟨p, hrun, hstands, hheld, hlast⟩
    · have hout := pull_outcome hrun hstands hs
      rw [hpull] at hout
      cases hout with
      | @token p p' t _ hrun hstep hstands hoffset =>
        refine ⟨p', hrun.step hstep, hstands, hstep.stop_eq.1, ?_⟩
        have hsize := congrArg size hrun.source_eq
        simp only [size_append] at hsize
        rw [hoffset, hstep.stop_eq.2.1]
        omega

/-- What is pulled at once can be pulled one by one. -/
theorem Pulled.pullUpTo {us : List Token} {l₀ : Lexer} {n : Nat} (h : l₀.Pulled us l)
    (hpull : l.pullUpTo n = .ok (ts, l')) : l₀.Pulled (us ++ ts) l' := by
  induction n generalizing us l ts with
  | zero =>
    cases hpull
    rw [List.append_nil]
    exact h
  | succ n ih =>
    rw [Lexer.pullUpTo] at hpull
    obtain ⟨⟨t?, l₁⟩, hpull₁, hrest⟩ := bind_eq_ok_iff.mp hpull
    have h₁ := h.pull hpull₁
    cases t? with
    | none =>
      cases hrest
      exact h₁
    | some t =>
      obtain ⟨⟨vs, l₂⟩, hpull₂, hpure⟩ := bind_eq_ok_iff.mp hrest
      cases hpure
      have h₂ := ih h₁ hpull₂
      rwa [Option.toList_some, List.append_assoc] at h₂

/-! ### All tokens -/

/-- What up to `n` pulls give when `ts` were handed out before. -/
inductive PullsOutcome (d : Delimiters) (source : List Char) (ts : List Token) (n : Nat) :
    Except Fault (List Token × Lexer) → Prop
  | tokens {us : List Token} {p : Place} {l' : Lexer} : Run d source (ts ++ us) p →
      (p.state = none ∨ us.length = n) → PullsOutcome d source ts n (.ok (us, l'))
  | overflow {us : List Token} {p : Place} : Run d source us p → p.AtLimit d →
      PullsOutcome d source ts n (.error .overflow)

theorem pullUpTo_outcome (n : Nat) (hrun : Run d source ts p) (h : l.Stands d p) :
    PullsOutcome d source ts n (l.pullUpTo n) := by
  induction n generalizing ts p l with
  | zero => exact .tokens (by rw [List.append_nil]; exact hrun) (.inr rfl)
  | succ n ih =>
    rw [pullUpTo]
    by_cases hs : p.state = none
    · rw [pull_of_halted h.holds.pending_eq (h.state_eq.trans hs)]
      exact .tokens (by rw [List.append_nil]; exact hrun) (.inl hs)
    have hout := pull_outcome hrun h hs
    revert hout
    generalize l.pull = result
    intro hout
    cases hout with
    | overflow hrun hlimit => exact .overflow hrun hlimit
    | @token p p' t l' hrun hstep hstands =>
      have hrest := ih (hrun.step hstep) hstands
      simp only [bind, Except.bind]
      revert hrest
      generalize l'.pullUpTo n = result
      intro hrest
      cases hrest with
      | overflow hrun hlimit => exact .overflow hrun hlimit
      | @tokens us p _ hrun hend =>
        rw [Option.toList_some, List.append_assoc] at hrun
        exact .tokens hrun (hend.imp_right fun hlen => by rw [List.length_cons, hlen])

/-- The tokens of a template are those of a run to its end, unless there are too many parentheses to
be counted. -/
theorem tokens_ofSource (name : String) (source : List Char) (options : Options) :
    (∃ ts p, (ofSource name source options).tokens = .ok ts ∧
      Run options.normalized source ts p ∧ p.state = none) ∨
    ((ofSource name source options).tokens = .error .overflow ∧ depthBound ≤ source.count '(') := by
  have hout := pullUpTo_outcome ((ofSource name source options).cursor.remaining + 2) .start
    (stands_ofSource name source options)
  rw [tokens, drain]
  revert hout
  generalize hn : (ofSource name source options).cursor.remaining + 2 = n
  generalize pullUpTo n _ = result
  intro hout
  cases hout with
  | overflow hrun hlimit => exact .inr ⟨rfl, hrun.depthBound_le hlimit⟩
  | @tokens us p l' hrun hend =>
    refine .inl ⟨us, p, rfl, hrun, ?_⟩
    rcases hend with hstate | hlen
    · exact hstate
    · -- So many tokens do not fit into the template.
      have hle := hrun.length_le_size
      have hsize : n = size source + 2 := hn.symm
      rw [List.nil_append] at hle
      omega

/-- What holds of the tokens of every run holds of all tokens that a lexer hands out, one by one or
at once. -/
theorem forall_tokens {P : List Token → Prop} (name : String) (source : List Char)
    (options : Options) (h : ∀ ts p, Run options.normalized source ts p → P ts) :
    (∀ ts l, (ofSource name source options).Pulled ts l → P ts) ∧
    ((∃ ts, (ofSource name source options).tokens = .ok ts ∧ P ts) ∨
      ((ofSource name source options).tokens = .error .overflow ∧
        depthBound ≤ source.count '(')) := by
  constructor
  · intro ts l hpulled
    obtain ⟨p, hrun, -⟩ := hpulled.exists_run
    exact h ts p hrun
  · rcases tokens_ofSource name source options with ⟨ts, p, htokens, hrun, -⟩ | hover
    · exact .inl ⟨ts, htokens, h ts p hrun⟩
    · exact .inr hover

end Lexer

end TemplateLexer
