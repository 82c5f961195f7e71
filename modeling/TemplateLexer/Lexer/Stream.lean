import TemplateLexer.Lexer.Action
import TemplateLexer.Lexer.Directive
import TemplateLexer.Lexer.Literal

/-!
# The stream of tokens

`pull` runs states until a token is finished, and hands it out. It ends because a step that finishes
no token uses up some of the template, or leads to a state from which the next step is closer to a
token; `weight` counts both, and `weight_step` says that every step lowers it.
-/

namespace TemplateLexer

open Text

/-- How far a state is from finishing a token when it uses up nothing. -/
def State.rank : State → Nat
  | .text => 2
  | .action | .insideDirective | .extendsParam => 1
  | _ => 0

namespace Lexer

/-- One step of a state. -/
def step (l : Lexer) : State → Except Fault Lexer
  | .text => l.stepText
  | .leftDelim => l.stepLeftDelim
  | .comment => l.stepComment
  | .action => l.stepAction
  | .directive directive nameLen => l.stepDirective directive nameLen
  | .openDirective extends_ => l.stepOpenDirective extends_
  | .insideDirective => l.stepInsideDirective
  | .extendsParam => l.stepExtendsParam
  | .closeDirective => l.stepCloseDirective
  | .identifier resume => l.stepIdentifier resume
  | .quote resume => l.stepQuote resume
  | .eof => l.stepEof

/-! ### Every step brings a token closer -/

/-- An upper bound for the steps to the next token. -/
def weight (l : Lexer) : Nat :=
  match l.pending, l.state with
  | none, some s => 3 * l.cursor.remaining + s.rank + 1
  | _, _ => 0

/-- A token is finished, or the state that follows is closer to one. -/
def Closer (l : Lexer) (s : State) (l' : Lexer) : Prop :=
  l'.pending.isSome ∨
    ∃ s', l'.state = some s' ∧ 3 * l'.cursor.remaining + s'.rank < 3 * l.cursor.remaining + s.rank

theorem isSome_pending_of_emit {l l' : Lexer} {kind : TokenKind} (h : l.emit kind = .ok l') :
    l'.pending.isSome := by
  unfold emit at h
  split at h
  · simp at h
  · simp only [bind_eq_ok_iff, pure_eq_ok_iff] at h
    obtain ⟨_, -, rfl⟩ := h
    rfl

theorem isSome_pending_of_emitAndEnter {l l' : Lexer} {kind : TokenKind} {s : State}
    (h : l.emitAndEnter kind s = .ok l') : l'.pending.isSome := by
  simp only [emitAndEnter, bind_eq_ok_iff, pure_eq_ok_iff] at h
  obtain ⟨l₁, h₁, rfl⟩ := h
  have := isSome_pending_of_emit h₁
  exact this

theorem isSome_pending_of_fail {l l' : Lexer} {e : LexicalError} (h : l.fail e = .ok l') :
    l'.pending.isSome := by
  simp only [fail, bind_eq_ok_iff, pure_eq_ok_iff] at h
  obtain ⟨l₁, h₁, rfl⟩ := h
  have := isSome_pending_of_emit h₁
  exact this

theorem closer_stepText {l l' : Lexer} (h : l.stepText = .ok l') : Closer l .text l' := by
  simp only [stepText, bind_eq_ok_iff, pure_eq_ok_iff] at h
  obtain ⟨⟨opener, cursor⟩, hs, l₁, hf, rfl⟩ := h
  have hb := (Delimiters.before_of_seekOpener hs).remaining_le
  unfold emitText at hf
  split at hf
  · exact .inl (by simpa [enter] using isSome_pending_of_emit hf)
  · simp only [pure_eq_ok_iff] at hf
    subst hf
    refine .inr ⟨_, rfl, ?_⟩
    cases opener with
    | none => simp only [enter, moveTo, State.rank]; omega
    | some opener => cases opener <;> simp only [enter, moveTo, State.rank] <;> omega

theorem closer_stepComment {l l' : Lexer} (h : l.stepComment = .ok l') : Closer l .comment l' := by
  simp only [stepComment, bind_eq_ok_iff] at h
  obtain ⟨inside, hi, found, -, h⟩ := h
  cases found with
  | none => exact .inl (isSome_pending_of_fail h)
  | some body =>
    simp only [bind_eq_ok_iff] at h
    obtain ⟨behind, hbehind, closed, -, h⟩ := h
    split at h
    · simp only [bind_eq_ok_iff, pure_eq_ok_iff] at h
      obtain ⟨cursor, hc, rfl⟩ := h
      refine .inr ⟨_, rfl, ?_⟩
      have h₁ := Cursor.remaining_lt_of_advanceBy (by decide) hi
      have h₂ := (Cursor.before_of_advanceBy hbehind).1.remaining_le
      have h₃ := (Cursor.before_of_advanceBy hc).1.remaining_le
      simp only [enter, discard, moveTo, State.rank]
      omega
    · exact .inl (isSome_pending_of_fail h)

theorem closer_stepActionToken {l l' : Lexer} {c₀ : Cursor} {c : Char} {start : ActionStart}
    (hc : c₀.bump = .ok (some c, l.cursor)) (h : l.stepActionToken c start = .ok l') :
    l'.pending.isSome ∨
      ∃ s', l'.state = some s' ∧ 3 * l'.cursor.remaining + s'.rank < 3 * c₀.remaining + 1 := by
  cases start with
  | quote =>
    simp only [stepActionToken, pure_eq_ok_iff] at h
    subst h
    have := Cursor.remaining_lt_of_bump hc
    exact .inr ⟨_, rfl, by simp only [enter, State.rank]; omega⟩
  | word =>
    simp only [stepActionToken, bind_eq_ok_iff, pure_eq_ok_iff] at h
    obtain ⟨c₁, hb, rfl⟩ := h
    obtain ⟨hs, hp⟩ := Cursor.backUp_of_bump hc hb
    exact .inr ⟨_, rfl, by simp [enter, moveTo, State.rank, Cursor.remaining, hs, hp]⟩
  | leftParen =>
    simp only [stepActionToken, bind_eq_ok_iff] at h
    obtain ⟨l₁, -, h⟩ := h
    exact .inl (isSome_pending_of_emitAndEnter h)
  | rightParen =>
    simp only [stepActionToken] at h
    split at h
    · exact .inl (isSome_pending_of_fail h)
    · exact .inl (isSome_pending_of_emitAndEnter h)
  | colonEquals =>
    simp only [stepActionToken, bind_eq_ok_iff] at h
    obtain ⟨_, -, h⟩ := h
    exact .inl (isSome_pending_of_emitAndEnter h)
  | unrecognized => exact .inl (isSome_pending_of_fail h)
  | space | var | number | field =>
    simp only [stepActionToken, emitRun, bind_eq_ok_iff] at h
    obtain ⟨_, -, h⟩ := h
    exact .inl (isSome_pending_of_emitAndEnter h)
  | pipe | dot | char => exact .inl (isSome_pending_of_emitAndEnter h)

theorem closer_stepAction {l l' : Lexer} (h : l.stepAction = .ok l') : Closer l .action l' := by
  simp only [stepAction, bind_eq_ok_iff] at h
  obtain ⟨closed, -, h⟩ := h
  split at h
  · split at h
    · exact .inl (isSome_pending_of_fail h)
    · simp only [bind_eq_ok_iff] at h
      obtain ⟨_, -, h⟩ := h
      exact .inl (isSome_pending_of_emitAndEnter h)
  · simp only [bind_eq_ok_iff] at h
    obtain ⟨⟨next, cursor⟩, hb, h⟩ := h
    cases next with
    | none => exact .inl (isSome_pending_of_fail h)
    | some c =>
      simp only [bind_eq_ok_iff] at h
      obtain ⟨_, -, h⟩ := h
      exact closer_stepActionToken (l := l.moveTo cursor) hb h

theorem closer_stepInsideDirective {l l' : Lexer} (h : l.stepInsideDirective = .ok l') :
    Closer l .insideDirective l' := by
  simp only [stepInsideDirective, bind_eq_ok_iff] at h
  obtain ⟨next, hp, h⟩ := h
  cases next with
  | none => exact .inl (isSome_pending_of_fail h)
  | some c =>
    simp only at h
    split at h
    · next hc =>
      simp only [bind_eq_ok_iff, pure_eq_ok_iff] at h
      obtain ⟨cursor, he, rfl⟩ := h
      have := Cursor.remaining_lt_of_eatWhile hp hc he
      exact .inr ⟨_, rfl, by simp only [enter, discard, moveTo, State.rank]; omega⟩
    split at h
    · simp only [bind_eq_ok_iff, pure_eq_ok_iff] at h
      obtain ⟨⟨_, cursor⟩, hb, rfl⟩ := h
      have := (Cursor.before_of_bump hb).remaining_le
      exact .inr ⟨_, rfl, by simp only [enter, moveTo, State.rank]; omega⟩
    split at h
    · simp only [pure_eq_ok_iff] at h
      subst h
      exact .inr ⟨_, rfl, by simp only [enter, State.rank]; omega⟩
    split at h
    · simp only [bind_eq_ok_iff] at h
      obtain ⟨_, -, _, -, h⟩ := h
      exact .inl (isSome_pending_of_emitAndEnter h)
    split at h
    · simp only [bind_eq_ok_iff] at h
      obtain ⟨_, -, h⟩ := h
      exact .inl (isSome_pending_of_emitAndEnter h)
    split at h
    · simp only [bind_eq_ok_iff] at h
      obtain ⟨_, -, h⟩ := h
      exact .inl (isSome_pending_of_emitAndEnter h)
    exact .inl (isSome_pending_of_fail h)

theorem closer_stepExtendsParam {l l' : Lexer} (h : l.stepExtendsParam = .ok l') :
    Closer l .extendsParam l' := by
  simp only [stepExtendsParam, bind_eq_ok_iff] at h
  obtain ⟨⟨next, cursor⟩, hb, h⟩ := h
  split at h
  · next heq =>
    simp only [pure_eq_ok_iff] at h
    cases heq
    subst h
    have := (Cursor.before_of_bump hb).remaining_le
    exact .inr ⟨_, rfl, by simp only [enter, moveTo, State.rank]; omega⟩
  · simp only [bind_eq_ok_iff] at h
    obtain ⟨_, -, h⟩ := h
    exact .inl (isSome_pending_of_fail h)

theorem closer_step {l l' : Lexer} {s : State} (h : l.step s = .ok l') : Closer l s l' := by
  cases s with
  | text => exact closer_stepText h
  | comment => exact closer_stepComment h
  | action => exact closer_stepAction h
  | insideDirective => exact closer_stepInsideDirective h
  | extendsParam => exact closer_stepExtendsParam h
  | leftDelim =>
    simp only [step, stepLeftDelim, bind_eq_ok_iff] at h
    obtain ⟨_, -, l₁, he, _, -, h⟩ := h
    have := isSome_pending_of_emit he
    split at h <;> simp only [pure_eq_ok_iff] at h <;> subst h <;> exact .inl this
  | directive directive nameLen =>
    simp only [step, stepDirective] at h
    split at h
    · exact .inl (isSome_pending_of_fail h)
    split at h
    · exact .inl (isSome_pending_of_fail h)
    · simp only [bind_eq_ok_iff] at h
      obtain ⟨_, -, h⟩ := h
      exact .inl (isSome_pending_of_emitAndEnter h)
  | openDirective extends_ =>
    simp only [step, stepOpenDirective, bind_eq_ok_iff] at h
    obtain ⟨_, -, h⟩ := h
    exact .inl (isSome_pending_of_emitAndEnter h)
  | closeDirective =>
    simp only [step, stepCloseDirective, bind_eq_ok_iff] at h
    obtain ⟨⟨next, cursor⟩, -, h⟩ := h
    split at h
    · exact .inl (isSome_pending_of_emitAndEnter h)
    · simp only [bind_eq_ok_iff] at h
      obtain ⟨_, -, h⟩ := h
      exact .inl (isSome_pending_of_fail h)
  | identifier resume =>
    simp only [step, stepIdentifier, bind_eq_ok_iff] at h
    obtain ⟨_, -, _, -, h⟩ := h
    exact .inl (isSome_pending_of_emitAndEnter h)
  | quote resume =>
    simp only [step, stepQuote, bind_eq_ok_iff] at h
    obtain ⟨⟨closed, cursor⟩, -, h⟩ := h
    cases closed with
    | true => exact .inl (isSome_pending_of_emitAndEnter h)
    | false => exact .inl (isSome_pending_of_fail h)
  | eof =>
    simp only [step, stepEof, bind_eq_ok_iff, pure_eq_ok_iff] at h
    obtain ⟨l₁, he, rfl⟩ := h
    have := isSome_pending_of_emit he
    exact .inl this

/-- Every step lowers the weight. -/
theorem weight_step {l l' : Lexer} {s : State} (hp : l.pending = none) (hs : l.state = some s)
    (h : l.step s = .ok l') : l'.weight < l.weight := by
  have hw : l.weight = 3 * l.cursor.remaining + s.rank + 1 := by simp [weight, hp, hs]
  rw [hw]
  rcases closer_step h with h' | ⟨s', hs', hlt⟩
  · obtain ⟨t, ht⟩ := Option.isSome_iff_exists.mp h'
    simp [weight, ht]
  · unfold weight
    split
    · next hs'' =>
      rw [hs'] at hs''
      cases hs''
      omega
    · omega

/-! ### Pulling tokens -/

/-- The next token, and the lexer behind it; `none` after the lexer has halted. -/
def pull (l : Lexer) : Except Fault (Option Token × Lexer) :=
  match _hp : l.pending with
  | some t => .ok (some t, { l with pending := none, lastOffset := t.offset })
  | none =>
    match _hs : l.state with
    | none => .ok (none, l)
    | some s =>
      match _h : l.step s with
      | .error f => .error f
      | .ok l' => pull l'
termination_by l.weight
decreasing_by exact weight_step _hp _hs _h

/-- Up to `n` tokens, fewer when the stream ends, and the lexer behind them. -/
def pullUpTo : Nat → Lexer → Except Fault (List Token × Lexer)
  | 0, l => .ok ([], l)
  | n + 1, l => do
    match ← l.pull with
    | (none, l) => return ([], l)
    | (some t, l) =>
      let (ts, l) ← pullUpTo n l
      return (t :: ts, l)

/-- All tokens that are left, and the lexer behind them. Each but the last uses up some of the
template, so their number is bounded by what remains of it. -/
def drain (l : Lexer) : Except Fault (List Token × Lexer) := l.pullUpTo (l.cursor.remaining + 2)

/-- All tokens that are left. -/
def tokens (l : Lexer) : Except Fault (List Token) := do
  return (← l.drain).1

end Lexer

/-- The tokens of a template under the default marker and delimiters. -/
def tokenize (source : List Char) : Except Fault (List Token) :=
  (Lexer.ofSource "<input>" source .default).tokens

end TemplateLexer
