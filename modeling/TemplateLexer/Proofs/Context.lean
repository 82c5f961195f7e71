import TemplateLexer.Proofs.Tiling

/-!
# What came before

A state is entered in one context only, and the tokens that were handed out show which: inside an
action, in the body of a directive, at the parameter of an extends directive. `State.Within` says
for each state what they look like (`Run.within`). The flag for extends directives says whether one
of them was among these tokens (`Run.sawExtends_iff`), and most states follow the last of them
without a gap (`Run.adjoined`).

Every token of a run was finished by a rule, in the context of the tokens before it
(`Run.exists_rule_of_split`). What is said of tokens is therefore said of rules first.
-/

namespace TemplateLexer

open Text

/-! ### Contexts -/

/-- The last of `kinds` opens an action or is a part of one, and `depth` parentheses of this action
are open. -/
def InAction (kinds : List TokenKind) (depth : Nat) : Prop :=
  ∃ before body, kinds = before ++ .leftDelim :: body ∧ (∀ k ∈ body, k.isActionPart = true) ∧
    Nested body depth

/-- What was handed out before a state is entered with `depth` open parentheses. -/
def State.Within (kinds : List TokenKind) (depth : Nat) : State → Prop
  | .text | .leftDelim | .directive _ _ | .eof => True
  | .comment => [.leftDelim] <:+ kinds
  | .action | .identifier .action | .quote .action => InAction kinds depth
  | .openDirective extends_ => ∃ dir, [.directive dir] <:+ kinds ∧ dir.isExtends = extends_
  | .insideDirective | .identifier .insideDirective | .quote .insideDirective => InBody kinds
  | .extendsParam | .quote .closeDirective => [.directive .extends_, .openDirective] <:+ kinds
  | .closeDirective => [.directive .extends_, .openDirective, .string] <:+ kinds
  | .identifier .closeDirective => False

/-- The last token ends at `offset`. -/
def Adjoined (ts : List Token) (offset : Nat) : Prop :=
  ∃ t, ts.getLast? = some t ∧ t.stop = offset

/-- A state that is entered only right behind a token. -/
def State.adjoins : State → Bool
  | .comment | .action | .openDirective _ | .extendsParam | .closeDirective => true
  | .identifier .action | .quote .action | .quote .closeDirective => true
  | _ => false

variable {d : Delimiters} {source : List Char} {ts : List Token} {p p' : Place} {s : State}
  {kinds : List TokenKind} {depth : Nat}

/-- Behind the parenthesis that opens a directive, up to the end of the body, there is no action. -/
theorem InAction.ne_directive {before body : List TokenKind} (h : InAction kinds depth)
    (hbody : ∀ k ∈ body, k.isBodyPart = true) : kinds ≠ before ++ .openDirective :: body := by
  intro hkinds
  obtain ⟨front, parts, rfl, hparts, -⟩ := h
  -- The parenthesis is a part of the action, or the left delimiter is a part of the body.
  rcases List.append_eq_append_iff.mp hkinds with ⟨mid, -, hmid⟩ | ⟨mid, -, hmid⟩
  · cases mid with
    | nil => cases hmid
    | cons k mid =>
      cases hmid
      exact absurd (hparts .openDirective (by simp)) (by decide)
  · cases mid with
    | nil => cases hmid
    | cons k mid =>
      cases hmid
      exact absurd (hbody .leftDelim (by simp)) (by decide)

theorem InAction.not_inBody (h : InAction kinds depth) : ¬ InBody kinds := by
  intro hbody
  obtain ⟨before, dir, body, hkinds, -, hparts⟩ := hbody
  rw [List.append_cons] at hkinds
  exact h.ne_directive hparts hkinds

theorem InAction.not_atParam (h : InAction kinds depth) :
    ¬ [.directive .extends_, .openDirective] <:+ kinds := by
  rintro ⟨before, hkinds⟩
  rw [List.append_cons] at hkinds
  exact h.ne_directive (by simp) hkinds.symm

theorem Parsed.within (h : Parsed kinds (some s) depth) : s.Within kinds depth := by
  have haction : ∀ {items : List (List TokenKind)} {begun : List TokenKind},
      Begun .action depth begun → InAction (items.flatten ++ begun) depth := by
    intro items begun hbegun
    cases hbegun with
    | action hbody hnested => exact ⟨_, _, rfl, hbody, hnested⟩
  have hinside : ∀ {items : List (List TokenKind)} {begun : List TokenKind},
      Begun .insideDirective depth begun → InBody (items.flatten ++ begun) := by
    intro items begun hbegun
    cases hbegun with
    | insideDirective hdir hbody => exact ⟨_, _, _, rfl, hdir, hbody⟩
  cases h with
  | going _ _ hbegun =>
    cases hbegun with
    | text | leftDelim | directive | eof => trivial
    | action hbody hnested => exact haction (.action hbody hnested)
    | actionWord hb | actionQuote hb => exact haction hb
    | @openDirective dir => exact ⟨dir, List.suffix_append _ _, rfl⟩
    | insideDirective hdir hbody => exact hinside (.insideDirective hdir hbody)
    | bodyWord hb | bodyQuote hb => exact hinside hb
    | comment | extendsParam | extendsQuote | closeDirective => exact List.suffix_append _ _

theorem Run.within (h : Run d source ts p) (hs : p.state = some s) :
    s.Within (ts.map Token.kind) p.memory.openParens := by
  have hparsed := h.parsed
  rw [hs] at hparsed
  exact hparsed.within

/-! ### The flag for extends directives -/

section Rules

variable {front taken rest : List Char} {next : State} {m m' : Memory}

/-- Only a rule that finishes a token changes what is remembered. -/
theorem Rule.memory_of_hold (h : Rule d front s m taken rest (.hold next) m') : m' = m := by
  cases h <;> rfl

theorem Rule.memory_of_drop (h : Rule d front s m taken rest (.drop next) m') : m' = m := by
  cases h <;> rfl

theorem wordKind_ne {kind : TokenKind} (word : List Char) (h : kind.isBodyPart = false) :
    wordKind word ≠ kind := by
  rintro rfl
  exact absurd (h.symm.trans (isBodyPart_wordKind word)) (by decide)

theorem Rule.sawExtends_iff {kind : TokenKind} {next : Option State}
    (h : Rule d front s m taken rest (.finish kind next) m') :
    m'.sawExtends = true ↔ m.sawExtends = true ∨ kind = .directive .extends_ := by
  cases h with
  | @directive _ dir => cases dir <;> simp [Directive.isExtends]
  | run _ _ hruns => cases hruns <;> simp
  | word =>
    have hne : wordKind taken ≠ .directive .extends_ := wordKind_ne taken rfl
    simp [hne]
  | _ => simp

end Rules

theorem Run.sawExtends_iff (h : Run d source ts p) :
    p.memory.sawExtends = true ↔ ∃ t ∈ ts, t.kind = .directive .extends_ := by
  induction h with
  | start => simp [Place.start]
  | step _ hs ih =>
    cases hs with
    | finish hr =>
      rw [hr.sawExtends_iff, ih]
      simp [or_and_right, exists_or]
    | drop hr =>
      rw [hr.memory_of_drop, ih]
      simp
    | hold hr =>
      rw [hr.memory_of_hold, ih]
      simp

/-! ### States right behind a token -/

theorem Delimiters.Calls.adjoins_eq {cs : List Char} (h : d.Calls cs s) : s.adjoins = false := by
  cases h <;> rfl

theorem Rule.adjoins_of_hold {front taken rest : List Char} {next : State} {m m' : Memory}
    (h : Rule d front s m taken rest (.hold next) m') (hnext : next.adjoins = true) :
    s.adjoins = true := by
  cases h with
  | opener hcalls => exact absurd (hcalls.adjoins_eq.symm.trans hnext) (by decide)
  | actionQuote | actionWord | extendsQuote => rfl
  | bodyQuote | bodyWord => cases hnext

theorem Run.adjoined (h : Run d source ts p) (hs : p.state = some s) (hadj : s.adjoins = true) :
    Adjoined ts (size p.front) := by
  induction h generalizing s with
  | start =>
    cases hs
    cases hadj
  | @step ts p p' slot _ hstep ih =>
    cases slot with
    | some t =>
      refine ⟨t, ?_, hstep.stop_eq.2.2⟩
      rw [Option.toList_some, List.getLast?_concat]
    | none =>
      rw [Option.toList_none, List.append_nil]
      cases hstep with
      | drop hr =>
        -- What follows a dropped text is text or a body, which may stand behind a gap.
        cases hs
        cases hr <;> cases hadj
      | hold hr =>
        cases hs
        exact ih rfl (hr.adjoins_of_hold hadj)

/-! ### The rule behind a token -/

/-- A token of a run, as a rule finished it: the state in which it began, the template before it and
the template behind it. -/
theorem Run.exists_rule_of_split {before after : List Token} {t : Token} (h : Run d source ts p)
    (hts : ts = before ++ t :: after) :
    ∃ s front m taken rest next m', Run d source before ⟨some s, front, s.held, taken ++ rest, m⟩ ∧
      Rule d front s m taken rest (.finish t.kind next) m' ∧ t.offset = size front ∧
      t.text = s.held ++ taken ∧ drop? source t.offset = some (t.text ++ rest) := by
  obtain ⟨p₀, p₁, hrun, hstep⟩ := h.exists_step_of_split hts
  have hheld := hrun.ready.held_eq
  have hsource := hrun.source_eq
  cases hstep with
  | @finish s m front held taken rest kind next m' hr =>
    cases hheld
    refine ⟨s, front, m, taken, rest, next, m', hrun, hr, rfl, rfl, ?_⟩
    rw [← hsource]
    simp

end TemplateLexer
