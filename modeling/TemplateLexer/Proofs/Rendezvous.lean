import TemplateLexer.Proofs.Paths
import TemplateLexer.Proofs.Termination
import TemplateLexer.Rendezvous

/-!
# What a consumer gets

However the scanner and the consumer of a rendezvous are run, the consumer gets the tokens that it
would have pulled itself. `Rendezvous.Reached` collects what they can come to, together with the
tokens that the scanner has found. What was found and what was handed over differ by one token at
most, in one of four ways (`Rendezvous.Balanced`); this is kept by every step, and all that a
consumer can rely on follows from it (`Rendezvous.handed_over`).

What can still happen gets less with every step. So every schedule ends, and all end alike
(`Rendezvous.EndsIn`), with the answers that a consumer gets by asking (`Scanner.receiveMany`).
-/

namespace TemplateLexer

namespace Lexer

variable {name : String} {source : List Char} {options : Options} {ts us : List Token} {l : Lexer}

/-! ### Pulled tokens are the first of all tokens -/

theorem Pulled.prefix_tokens (h : (ofSource name source options).Pulled us l)
    (hts : (ofSource name source options).tokens = .ok ts) : us <+: ts := by
  obtain ⟨p, hrun, -⟩ := h.exists_run
  obtain ⟨q, hpath, hq⟩ := exists_path_of_tokens hts
  obtain ⟨vs, rfl, -⟩ :=
    hpath.of_path (Place.final_of_halted hq) (Place.ready_start _ source) hrun.path
  exact List.prefix_append us vs

/-- When nothing is left to pull, all tokens were pulled. -/
theorem Pulled.eq_tokens {l' : Lexer} (h : (ofSource name source options).Pulled us l)
    (hpull : l.pull = .ok (none, l')) (hts : (ofSource name source options).tokens = .ok ts) :
    us = ts := by
  obtain ⟨p, hrun, hstands, -⟩ := h.exists_run
  have hhalted : p.state = none := by
    rw [← hstands.state_eq]
    apply Classical.byContradiction
    intro hs
    obtain ⟨t, ht⟩ := h.progress.gives hs none l' hpull
    cases ht
  exact Except.ok.inj ((tokens_of_path name hrun.path hhalted).symm.trans hts)

/-- Where all tokens can be pulled, each can be. -/
theorem Pulled.exists_pull (h : (ofSource name source options).Pulled us l)
    (hts : (ofSource name source options).tokens = .ok ts) : ∃ t? l', l.pull = .ok (t?, l') := by
  rcases h.pull_ok with ⟨⟨t?, l'⟩, hpull⟩ | ⟨-, p, hrun, hlimit⟩
  · exact ⟨t?, l', hpull⟩
  · cases hts.symm.trans (tokens_of_limit name hrun.path hlimit)

end Lexer

/-! ### Asking a scanner -/

namespace Rendezvous

/-- What a consumer of the tokens `ts` is told that asks `asks` times. -/
def answers (ts : List Token) (asks : Nat) : List (Option Token) := (List.range asks).map (ts[·]?)

theorem answers_nil (n : Nat) : answers [] n = List.replicate n none := by
  simp [answers, List.map_const']

theorem answers_cons (t : Token) (ts : List Token) (n : Nat) :
    answers (t :: ts) (n + 1) = some t :: answers ts n := by
  simp [answers, List.range_succ_eq_map]

theorem answers_append (us vs : List Token) (n : Nat) :
    answers (us ++ vs) (us.length + n) = us.map some ++ answers vs n := by
  induction us with
  | nil => simp
  | cons u us ih =>
    rw [List.length_cons, Nat.add_right_comm, List.cons_append, answers_cons, ih]
    rfl

theorem answers_add (ts : List Token) (n : Nat) :
    answers ts (ts.length + n) = ts.map some ++ List.replicate n none := by
  have h := answers_append ts [] n
  rwa [List.append_nil, answers_nil] at h

end Rendezvous

theorem Scanner.receiveMany_finished (n : Nat) :
    finished.receiveMany n = .ok (List.replicate n none) := by
  induction n with
  | zero => rfl
  | succ n ih =>
    have hreceive : finished.receive = .ok (none, finished) := rfl
    rw [receiveMany, hreceive]
    simp only [bind, Except.bind, pure, Except.pure, ih]
    rfl

/-- A consumer that asks a scanner is told the tokens that were not pulled yet. -/
theorem Lexer.Pulled.receiveMany_eq {name : String} {source : List Char} {options : Options}
    {us vs : List Token} {l : Lexer} (h : (ofSource name source options).Pulled us l)
    (hts : (ofSource name source options).tokens = .ok (us ++ vs)) (n : Nat) :
    (Scanner.scanning l).receiveMany n = .ok (Rendezvous.answers vs n) := by
  induction n generalizing us vs l with
  | zero => rfl
  | succ n ih =>
    obtain ⟨t?, l', hpull⟩ := h.exists_pull hts
    rw [Scanner.receiveMany, Scanner.receive, Scanner.advance, hpull]
    cases t? with
    | none =>
      obtain rfl := List.self_eq_append_right.mp (h.eq_tokens hpull hts)
      simp only [bind, Except.bind, pure, Except.pure, Scanner.receiveMany_finished,
        Rendezvous.answers_nil]
      rfl
    | some t =>
      have hpulled : (ofSource name source options).Pulled (us ++ [t]) l' := h.pull hpull
      obtain ⟨vs, rfl⟩ := (List.prefix_append_right_inj us).mp (hpulled.prefix_tokens hts)
      rw [← List.append_assoc] at hts
      simp only [bind, Except.bind, pure, Except.pure, ih hpulled hts, List.singleton_append,
        Rendezvous.answers_cons]

namespace Rendezvous

variable {l₀ : Lexer} {asks : Nat} {produced ts : List Token} {r r' : Rendezvous}

/-! ### Schedules -/

/-- The token that a scanner finds from one moment to the next, if it finds one. -/
def found (r r' : Rendezvous) : List Token :=
  match r.scanner, r'.scanner with
  | .scanning _, .offering t _ => [t]
  | _, _ => []

/-- What a scanner of `l₀` and a consumer that asks `asks` times can come to, in any order in which
they are run, and the tokens that the scanner has found. -/
inductive Reached (l₀ : Lexer) (asks : Nat) : List Token → Rendezvous → Prop
  | start : Reached l₀ asks [] ⟨.scanning l₀, .receiving asks, []⟩
  | step {produced : List Token} {r r' : Rendezvous} : Reached l₀ asks produced r → Step r r' →
      Reached l₀ asks (produced ++ found r r') r'

/-- The tokens among the answers that the consumer got. -/
def taken (r : Rendezvous) : List Token := r.received.filterMap id

/-- What was found and what was handed over. -/
inductive Balanced (l₀ : Lexer) : List Token → Rendezvous → Prop
  /-- All that was found is handed over. -/
  | scanning {ts : List Token} {l : Lexer} {consumer : Consumer}
      {received : List (Option Token)} :
      l₀.Pulled ts l → received = ts.map some → Balanced l₀ ts ⟨.scanning l, consumer, received⟩
  /-- All but the token that is offered. -/
  | offering {ts : List Token} {t : Token} {l : Lexer} {consumer : Consumer}
      {received : List (Option Token)} :
      l₀.Pulled (ts ++ [t]) l → received = ts.map some →
      Balanced l₀ (ts ++ [t]) ⟨.offering t l, consumer, received⟩
  /-- All that there is, and after that nothing. -/
  | finished {ts : List Token} {l l' : Lexer} {n : Nat} {consumer : Consumer}
      {received : List (Option Token)} :
      l₀.Pulled ts l → l.pull = .ok (none, l') → received = ts.map some ++ List.replicate n none →
      Balanced l₀ ts ⟨.finished, consumer, received⟩
  /-- All but the token that was offered when the consumer was gone. -/
  | abandoned {ts : List Token} {t : Token} {l : Lexer} {received : List (Option Token)} :
      l₀.Pulled (ts ++ [t]) l → received = ts.map some →
      Balanced l₀ (ts ++ [t]) ⟨.finished, .gone, received⟩

/-- Every step keeps the balance. Only the first one adds to what was found. -/
theorem Balanced.step (h : Balanced l₀ produced r) (hs : Step r r') :
    Balanced l₀ (produced ++ found r r') r' := by
  cases hs with
  | offer hpull =>
    cases h with
    | scanning hpulled hreceived => exact .offering (hpulled.pull hpull) hreceived
  | finish hpull =>
    cases h with
    | scanning hpulled hreceived =>
      simp only [found, List.append_nil]
      apply Balanced.finished hpulled hpull
      rw [hreceived, List.replicate_zero, List.append_nil]
  | take =>
    cases h with
    | offering hpulled hreceived =>
      simp only [found, List.append_nil]
      apply Balanced.scanning hpulled
      rw [hreceived, List.map_append, List.map_singleton]
  | refuse =>
    cases h with
    | finished hpulled hpull hreceived =>
      simp only [found, List.append_nil]
      apply Balanced.finished hpulled hpull
      rw [hreceived, List.append_assoc, ← List.replicate_succ']
  | leave =>
    cases h with
    | scanning hpulled hreceived =>
      simp only [found, List.append_nil]
      exact .scanning hpulled hreceived
    | offering hpulled hreceived =>
      simp only [found, List.append_nil]
      exact .offering hpulled hreceived
    | finished hpulled hpull hreceived =>
      simp only [found, List.append_nil]
      exact .finished hpulled hpull hreceived
  | abandon =>
    cases h with
    | offering hpulled hreceived =>
      simp only [found, List.append_nil]
      exact .abandoned hpulled hreceived

theorem Reached.balanced (h : Reached l₀ asks produced r) : Balanced l₀ produced r := by
  induction h with
  | start => exact .scanning .fresh rfl
  | step _ hs ih => exact ih.step hs

/-! ### What a consumer can rely on -/

/-- Between a scanner and a consumer of the tokens `ts`, of which `produced` were found. -/
structure HandedOver (ts produced : List Token) (r : Rendezvous) : Prop where
  /-- What was found and what was handed over are the first of all tokens. -/
  produced_prefix : produced <+: ts
  taken_prefix : r.taken <+: ts
  /-- The scanner is one token ahead at most. -/
  ahead_le : produced.length ≤ r.taken.length + 1
  /-- The consumer gets no token only after it got all, and then never again. -/
  none_last : ∀ before after, r.received = before ++ none :: after →
    before.filterMap id = ts ∧ ∀ answer ∈ after, answer = none
  /-- Until the scanner has finished and the consumer has left, something can happen. -/
  progress : r.scanner ≠ .finished ∨ r.consumer ≠ .gone → ∃ r', Step r r'

/-- Where all answers up to some are tokens and the others are not, the first that is none follows
all tokens. -/
theorem filterMap_eq_of_none {n : Nat} {before after : List (Option Token)}
    (h : ts.map some ++ List.replicate n none = before ++ none :: after) :
    before.filterMap id = ts ∧ ∀ answer ∈ after, answer = none := by
  induction ts generalizing before with
  | nil =>
    have hall : ∀ answer ∈ before ++ none :: after, answer = none := by
      intro answer hanswer
      rw [← h] at hanswer
      exact List.eq_of_mem_replicate hanswer
    refine ⟨List.filterMap_eq_nil_iff.mpr fun answer hanswer => ?_, fun answer hanswer => ?_⟩
    · exact hall answer (List.mem_append_left _ hanswer)
    · exact hall answer (List.mem_append_right _ (List.mem_cons_of_mem _ hanswer))
  | cons t ts ih =>
    cases before with
    | nil => cases h
    | cons answer before =>
      obtain ⟨rfl, hrest⟩ := List.cons.inj h
      obtain ⟨hbefore, hafter⟩ := ih hrest
      refine ⟨?_, hafter⟩
      show t :: before.filterMap id = t :: ts
      rw [hbefore]

theorem filterMap_answers (ts : List Token) (n : Nat) :
    (ts.map some ++ List.replicate n none).filterMap id = ts := by
  simp [List.filterMap_append, List.filterMap_map]

namespace Balanced

theorem exists_pulled (h : Balanced l₀ produced r) : ∃ l, l₀.Pulled produced l := by
  cases h with
  | scanning hpulled => exact ⟨_, hpulled⟩
  | offering hpulled => exact ⟨_, hpulled⟩
  | finished hpulled => exact ⟨_, hpulled⟩
  | abandoned hpulled => exact ⟨_, hpulled⟩

/-- The answers are tokens at first, all that were found but one at most; and then none, if all were
found. -/
theorem exists_received (h : Balanced l₀ produced r) :
    ∃ us n, r.received = us.map some ++ List.replicate n none ∧
      us <+: produced ∧ produced.length ≤ us.length + 1 ∧
      (n = 0 ∨ us = produced ∧ ∃ l l', l₀.Pulled produced l ∧ l.pull = .ok (none, l')) := by
  cases h with
  | scanning hpulled hreceived =>
    refine ⟨produced, 0, ?_, List.prefix_refl _, Nat.le_succ _, .inl rfl⟩
    rw [hreceived, List.replicate_zero, List.append_nil]
  | @offering us t _ _ _ hpulled hreceived =>
    refine ⟨us, 0, ?_, List.prefix_append _ _, Nat.le_of_eq List.length_append, .inl rfl⟩
    rw [hreceived, List.replicate_zero, List.append_nil]
  | @finished _ l l' n _ _ hpulled hpull hreceived =>
    exact ⟨produced, n, hreceived, List.prefix_refl _, Nat.le_succ _,
      .inr ⟨rfl, l, l', hpulled, hpull⟩⟩
  | @abandoned us t _ _ hpulled hreceived =>
    refine ⟨us, 0, ?_, List.prefix_append _ _, Nat.le_of_eq List.length_append, .inl rfl⟩
    rw [hreceived, List.replicate_zero, List.append_nil]

theorem exists_step (h : Balanced l₀ produced r)
    (hpulls : ∀ us l, l₀.Pulled us l → ∃ t? l', l.pull = .ok (t?, l'))
    (hmore : r.scanner ≠ .finished ∨ r.consumer ≠ .gone) : ∃ r', Step r r' := by
  cases h with
  | scanning hpulled =>
    obtain ⟨t?, l', hpull⟩ := hpulls _ _ hpulled
    cases t? with
    | none => exact ⟨_, .finish hpull⟩
    | some t => exact ⟨_, .offer hpull⟩
  | @offering _ _ _ consumer =>
    rcases consumer with (_ | asks) | _
    · exact ⟨_, .leave⟩
    · exact ⟨_, .take⟩
    · exact ⟨_, .abandon⟩
  | @finished _ _ _ _ consumer =>
    rcases consumer with (_ | asks) | _
    · exact ⟨_, .leave⟩
    · exact ⟨_, .refuse⟩
    · simp at hmore
  | abandoned => simp at hmore

theorem handedOver {name : String} {source : List Char} {options : Options}
    (h : Balanced (.ofSource name source options) produced r)
    (hts : (Lexer.ofSource name source options).tokens = .ok ts) : HandedOver ts produced r := by
  obtain ⟨l, hpulled⟩ := h.exists_pulled
  have hproduced := hpulled.prefix_tokens hts
  obtain ⟨us, n, hreceived, hus, hlen, hnone⟩ := h.exists_received
  have htaken : r.taken = us := by
    rw [taken, hreceived, filterMap_answers]
  refine ⟨hproduced, ?_, ?_, ?_, ?_⟩
  · rw [htaken]
    exact hus.trans hproduced
  · rw [htaken]
    exact hlen
  · intro before after hsplit
    rw [hreceived] at hsplit
    rcases hnone with rfl | ⟨rfl, l, l', hpulled, hpull⟩
    · -- Up to now, all answers are tokens.
      have hmem : none ∈ us.map some ++ List.replicate 0 none := by
        rw [hsplit]
        exact List.mem_append_right before List.mem_cons_self
      simp at hmem
    · rw [← hpulled.eq_tokens hpull hts]
      exact filterMap_eq_of_none hsplit
  · exact h.exists_step fun us l hpulled => hpulled.exists_pull hts

end Balanced

/-! ### Every schedule ends -/

/-- Every schedule from a rendezvous comes to an end, and the end is this one. -/
inductive EndsIn (last : Rendezvous) : Rendezvous → Prop
  | done : (∀ r', ¬ Step last r') → EndsIn last last
  | later {r : Rendezvous} : (∃ r', Step r r') → (∀ r', Step r r' → EndsIn last r') →
      EndsIn last r

/-- How often the consumer will still ask. -/
def asksLeft (r : Rendezvous) : Nat :=
  match r.consumer with
  | .receiving asks => asks
  | .gone => 0

/-- A bound for what can still happen while no more than `more` tokens are left to be found. -/
def stepsLeft (more : Nat) (r : Rendezvous) : Nat :=
  let scanner := match r.scanner with
    | .scanning _ => 1
    | .offering _ _ => 2
    | .finished => 0
  let consumer := match r.consumer with
    | .receiving asks => asks + 1
    | .gone => 0
  2 * more + scanner + consumer

theorem Step.asksLeft_eq (h : Step r r') :
    r'.received.length + r'.asksLeft = r.received.length + r.asksLeft := by
  cases h <;> simp [asksLeft] <;> omega

theorem Reached.asksLeft_eq (h : Reached l₀ asks produced r) :
    r.received.length + r.asksLeft = asks := by
  induction h with
  | start => exact Nat.zero_add asks
  | step _ hs ih => exact hs.asksLeft_eq.trans ih

/-- Whatever happens, less can happen after it. -/
theorem Step.stepsLeft_lt {more : Nat} (h : Step r r') (hmore : (found r r').length ≤ more) :
    stepsLeft (more - (found r r').length) r' < stepsLeft more r := by
  cases h <;> simp [found, stepsLeft] at hmore ⊢ <;> omega

section Schedules

variable {name : String} {source : List Char} {options : Options}

/-- Where nothing can happen any more, both sides are done and all questions are answered. -/
theorem Reached.eq_of_not_step (h : Reached (.ofSource name source options) asks produced r)
    (hts : (Lexer.ofSource name source options).tokens = .ok ts) (hstuck : ∀ r', ¬ Step r r') :
    r = ⟨.finished, .gone, answers ts asks⟩ := by
  have hasks := h.asksLeft_eq
  have hdone : r.scanner = .finished ∧ r.consumer = .gone := by
    apply Classical.byContradiction
    intro hmore
    obtain ⟨r', hs⟩ :=
      (h.balanced.handedOver hts).progress (Classical.not_and_iff_not_or_not.mp hmore)
    exact hstuck r' hs
  have hbalanced := h.balanced
  obtain ⟨scanner, consumer, received⟩ := r
  obtain ⟨rfl, rfl⟩ := hdone
  rw [Rendezvous.mk.injEq]
  refine ⟨rfl, rfl, ?_⟩
  cases hbalanced with
  | @finished _ _ _ n _ _ hpulled hpull hreceived =>
    obtain rfl := hpulled.eq_tokens hpull hts
    simp only [hreceived, List.length_append, List.length_map, List.length_replicate,
      asksLeft, Nat.add_zero] at hasks
    rw [hreceived, ← hasks, answers_add]
  | @abandoned us t _ _ hpulled hreceived =>
    -- The consumer left before it was told of the token that was found last.
    obtain ⟨vs, rfl⟩ := (List.prefix_append us [t]).trans (hpulled.prefix_tokens hts)
    simp only [hreceived, List.length_map, asksLeft] at hasks
    rw [hreceived, ← hasks, answers_append]
    exact (List.append_nil _).symm

theorem Reached.endsIn (h : Reached (.ofSource name source options) asks produced r)
    (hts : (Lexer.ofSource name source options).tokens = .ok ts) :
    EndsIn ⟨.finished, .gone, answers ts asks⟩ r := by
  -- Each step lowers the bound on what can still happen.
  induction hsteps : stepsLeft (ts.length - produced.length) r using Nat.strongRecOn
    generalizing produced r with
  | _ steps ih =>
    subst hsteps
    by_cases hstuck : ∀ r', ¬ Step r r'
    · obtain rfl := h.eq_of_not_step hts hstuck
      exact .done hstuck
    · rw [Classical.not_forall_not] at hstuck
      refine .later hstuck ?_
      intro r' hs
      have hreached := h.step hs
      obtain ⟨hfound, -⟩ := hreached.balanced.handedOver hts
      have hlen := hfound.length_le
      rw [List.length_append] at hlen
      have hmore : (found r r').length ≤ ts.length - produced.length := by omega
      have hlt := hs.stepsLeft_lt hmore
      rw [Nat.sub_sub, ← List.length_append] at hlt
      exact ih _ hlt hreached rfl

/-- Every schedule ends, whatever the consumer asks for: the scanner has finished, the consumer has
left, and it was given the tokens in their order and then none. -/
theorem endsIn_answers (hts : (Lexer.ofSource name source options).tokens = .ok ts) (asks : Nat) :
    EndsIn ⟨.finished, .gone, answers ts asks⟩
      ⟨.scanning (.ofSource name source options), .receiving asks, []⟩ :=
  Reached.start.endsIn hts

/-- What asking gives is what every schedule comes to. -/
theorem endsIn_receiveMany (hts : (Lexer.ofSource name source options).tokens = .ok ts)
    (asks : Nat) :
    ∃ received,
      (Scanner.scanning (.ofSource name source options)).receiveMany asks = .ok received ∧
      EndsIn ⟨.finished, .gone, received⟩
        ⟨.scanning (.ofSource name source options), .receiving asks, []⟩ :=
  ⟨_, Lexer.Pulled.fresh.receiveMany_eq hts asks, endsIn_answers hts asks⟩

end Schedules

/-- However a scanner and a consumer are run, the consumer gets the tokens of the template in order,
and then nothing more; the scanner is at most one token ahead; and neither waits for ever. However
often the consumer asks, every schedule ends with the answers that it gets by asking. -/
theorem handed_over (name : String) (source : List Char) (options : Options) :
    (∃ ts, (Lexer.ofSource name source options).tokens = .ok ts ∧
      (∀ asks produced r, Reached (.ofSource name source options) asks produced r →
        HandedOver ts produced r) ∧
      ∀ asks, ∃ received,
        (Scanner.scanning (.ofSource name source options)).receiveMany asks = .ok received ∧
        EndsIn ⟨.finished, .gone, received⟩
          ⟨.scanning (.ofSource name source options), .receiving asks, []⟩) ∨
    ((Lexer.ofSource name source options).tokens = .error .overflow ∧
      2 ^ 32 ≤ source.count '(') := by
  rcases Lexer.tokens_ofSource name source options with ⟨ts, -, hts, -⟩ | hover
  · refine .inl ⟨ts, hts, ?_, endsIn_receiveMany hts⟩
    intro asks produced r hreached
    exact hreached.balanced.handedOver hts
  · exact .inr hover

end Rendezvous

end TemplateLexer
