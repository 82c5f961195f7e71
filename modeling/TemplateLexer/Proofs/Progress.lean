import TemplateLexer.Proofs.Steps

/-!
# Every place has a rule

A state is entered only where the text ahead is what the state expects: at a left delimiter, at the
marker of a directive, at a word. `Place.Ready` collects these expectations. Every rule leaves a
place that is ready again (`Place.Ready.step`), and in a place that is ready some rule applies
(`Place.Ready.exists_step`), with one exception: the number of open parentheses has a limit.
-/

namespace TemplateLexer

open Text
open Lexer (commentOpen commentClose)

/-! ### What a state expects -/

/-- What stands ahead when a state is entered. -/
def State.Ready (d : Delimiters) (rest : List Char) : State → Prop
  | .leftDelim => d.left <+: rest
  | .comment => commentOpen <+: rest
  | .directive dir nameLen => nameLen = size dir.spelling.toList ∧ d.head dir <+: rest
  | .openDirective _ => rest.head? = some '('
  | .identifier resume => resume ≠ .closeDirective ∧ ∃ c ∈ rest.head?, isWordChar c = true
  | .eof => rest = []
  | _ => True

/-- The state of a place finds what it expects. -/
structure Place.Ready (d : Delimiters) (p : Place) : Prop where
  held_eq : p.held = p.state.elim [] State.held
  ready : ∀ s ∈ p.state, s.Ready d p.rest

theorem Place.Ready.held_of_state {d : Delimiters} {p : Place} {s : State} (h : p.Ready d)
    (hs : p.state = some s) : p.held = s.held := by
  rw [h.held_eq, hs]
  rfl

/-- An action at an opening parenthesis that is one too many to be counted. -/
structure Place.AtLimit (d : Delimiters) (p : Place) : Prop where
  state_eq : p.state = some .action
  not_right : ¬ d.right <+: p.rest
  head_eq : p.rest.head? = some '('
  limit_le : depthBound ≤ p.memory.openParens + 1

theorem Place.ready_start (d : Delimiters) (source : List Char) : (Place.start source).Ready d where
  held_eq := rfl
  ready := by
    intro s hs
    cases hs
    trivial

/-! ### Rules keep places ready -/

variable {d : Delimiters} {front taken rest : List Char} {s next : State} {m m' : Memory}

theorem Delimiters.Calls.ready (h : d.Calls rest s) : s.held = [] ∧ s.Ready d rest := by
  cases h with
  | delimiter hl => exact ⟨rfl, hl⟩
  | directive => exact ⟨rfl, rfl, List.prefix_append _ _⟩
  | eof => exact ⟨rfl, rfl⟩

/-- What a character of an action begins: a token that runs on, one of the special tokens, a word,
or nothing. -/
theorem ActionStart.of_cases (c : Char) (next : Option Char) :
    (∃ kind p, (ActionStart.of c next).Runs kind p) ∨
      c = '"' ∨ c = '(' ∨ c = ')' ∨ (c = ':' ∧ next = some '=') ∨
      (ActionStart.of c next = .word ∧ isWordChar c = true) ∨
      ActionStart.of c next = .unrecognized := by
  rw [ActionStart.of]
  by_cases hspace : isActionSpace c = true
  · rw [if_pos hspace]; exact .inl ⟨_, _, .space⟩
  rw [if_neg hspace]
  by_cases hquote : c = '"'
  · exact .inr (.inl hquote)
  rw [if_neg hquote]
  by_cases hleft : c = '('
  · exact .inr (.inr (.inl hleft))
  rw [if_neg hleft]
  by_cases hright : c = ')'
  · exact .inr (.inr (.inr (.inl hright)))
  rw [if_neg hright]
  by_cases hpipe : c = '|'
  · rw [if_pos hpipe]; exact .inl ⟨_, _, .pipe⟩
  rw [if_neg hpipe]
  by_cases hcolon : c = ':' ∧ next = some '='
  · exact .inr (.inr (.inr (.inr (.inl hcolon))))
  rw [if_neg hcolon]
  by_cases hvar : c = '$'
  · rw [if_pos hvar]; exact .inl ⟨_, _, .var⟩
  rw [if_neg hvar]
  by_cases hdot : c = '.'
  · -- A dot begins a number, a field, or stands for itself.
    rw [if_pos hdot]
    by_cases hdigit : next.any Char.isDigit = true
    · rw [if_pos hdigit]; exact .inl ⟨_, _, .number⟩
    rw [if_neg hdigit]
    by_cases hfield : next.any isWordChar = true
    · rw [if_pos hfield]; exact .inl ⟨_, _, .field⟩
    · rw [if_neg hfield]; exact .inl ⟨_, _, .dot⟩
  rw [if_neg hdot]
  by_cases hdigit : c.isDigit = true
  · rw [if_pos hdigit]; exact .inl ⟨_, _, .number⟩
  rw [if_neg hdigit]
  by_cases hsign : (c = '+' ∨ c = '-') ∧ next.any Char.isDigit = true
  · rw [if_pos hsign]; exact .inl ⟨_, _, .number⟩
  rw [if_neg hsign]
  by_cases hword : isWordChar c = true
  · rw [if_pos hword]; exact .inr (.inr (.inr (.inr (.inr (.inl ⟨rfl, hword⟩)))))
  rw [if_neg hword]
  by_cases hchar : isPunctuation c = true
  · rw [if_pos hchar]; exact .inl ⟨_, _, .char⟩
  · rw [if_neg hchar]; exact .inr (.inr (.inr (.inr (.inr (.inr rfl)))))

theorem isWordChar_of_word {c : Char} {next : Option Char}
    (h : ActionStart.of c next = .word) : isWordChar c = true := by
  rcases ActionStart.of_cases c next with ⟨kind, p, hr⟩ | rfl | rfl | rfl | ⟨rfl, rfl⟩ | hw | hu
  · rw [h] at hr
    cases hr
  · cases h
  · cases h
  · cases h
  · cases h
  · exact hw.2
  · cases h.symm.trans hu

theorem Rule.ready_of_finish {kind : TokenKind} {next : Option State}
    (h : Rule d front s m taken rest (.finish kind next) m') :
    ∀ s' ∈ next, s'.held = [] ∧ s'.Ready d rest := by
  have hresume : ∀ resume : Resume, resume.state.held = [] ∧ resume.state.Ready d rest := by
    rintro (_ | _ | _) <;> exact ⟨rfl, trivial⟩
  rintro s' hs'
  cases h with
  | text _ _ hcalls =>
    cases hs'
    exact hcalls.ready
  | openComment hopen =>
    cases hs'
    exact ⟨rfl, hopen⟩
  | directive =>
    cases hs'
    exact ⟨rfl, rfl⟩
  | @openDirective _ extends_ =>
    cases hs'
    cases extends_ <;> exact ⟨rfl, trivial⟩
  | word =>
    cases hs'
    exact hresume _
  | string =>
    cases hs'
    exact hresume _
  | _ =>
    cases hs'
    try exact ⟨rfl, trivial⟩

theorem Rule.ready_of_drop (h : Rule d front s m taken rest (.drop next) m') :
    next.held = [] ∧ next.Ready d rest := by
  cases h <;> exact ⟨rfl, trivial⟩

theorem Rule.ready_of_hold (h : Rule d front s m taken rest (.hold next) m') :
    next.held = s.held ++ taken ∧ next.Ready d rest := by
  cases h with
  | opener hcalls => exact hcalls.ready
  | actionWord _ hword => exact ⟨rfl, by simp, _, rfl, isWordChar_of_word hword⟩
  | bodyWord hword => exact ⟨rfl, by simp, _, rfl, hword⟩
  | actionQuote | bodyQuote | extendsQuote => exact ⟨rfl, trivial⟩

theorem Place.Ready.step {p p' : Place} {slot : Option Token} (h : p.Ready d)
    (hstep : Step d p slot p') : p'.Ready d := by
  cases hstep with
  | @finish s m front held taken rest kind next m' hr =>
    refine ⟨?_, fun s' hs' => (hr.ready_of_finish s' hs').2⟩
    cases next with
    | none => rfl
    | some s' => exact (hr.ready_of_finish s' rfl).1.symm
  | drop hr =>
    refine ⟨hr.ready_of_drop.1.symm, ?_⟩
    rintro s' ⟨⟩
    exact hr.ready_of_drop.2
  | hold hr =>
    have hheld := h.held_eq
    refine ⟨?_, ?_⟩
    · show _ ++ _ = State.held _
      rw [hr.ready_of_hold.1]
      exact congrArg (· ++ _) hheld
    · rintro s' ⟨⟩
      exact hr.ready_of_hold.2

/-! ### Some rule applies -/

/-- Some rule says what a state does with the text ahead. -/
def State.Moves (d : Delimiters) (front : List Char) (m : Memory) (cs : List Char) (s : State) :
    Prop :=
  ∃ taken rest e m', cs = taken ++ rest ∧ Rule d front s m taken rest e m'

theorem moves_text (d : Delimiters) (front : List Char) (m : Memory) (cs : List Char) :
    State.text.Moves d front m cs := by
  obtain ⟨run, rest, rfl, hplain⟩ := d.exists_plain cs
  obtain ⟨s, hcalls⟩ := Delimiters.exists_calls hplain.stops
  by_cases hrun : run = []
  · subst hrun
    exact ⟨[], rest, _, _, rfl, .opener hcalls⟩
  · exact ⟨run, rest, _, _, rfl, .text hrun hplain hcalls⟩

/-- A text that occurs somewhere occurs somewhere first. -/
theorem exists_first_infix {needle cs : List Char} (hn : needle ≠ []) (h : needle <:+: cs) :
    ∃ body rest, cs = body ++ needle ++ rest ∧ ¬ needle <:+: body := by
  induction cs with
  | nil => exact absurd (List.infix_nil.mp h) hn
  | cons x cs ih =>
    -- Here, or else behind the first character.
    by_cases hpre : needle <+: x :: cs
    · obtain ⟨rest, hrest⟩ := hpre
      exact ⟨[], rest, hrest.symm, fun hi => hn (List.infix_nil.mp hi)⟩
    obtain ⟨body, rest, rfl, hbody⟩ := ih ((List.infix_cons_iff.mp h).resolve_left hpre)
    refine ⟨x :: body, rest, rfl, fun hi => ?_⟩
    rcases List.infix_cons_iff.mp hi with hi | hi
    · rw [List.append_assoc] at hpre
      exact hpre (hi.trans (List.prefix_append (x :: body) (needle ++ rest)))
    · exact hbody hi

theorem moves_comment {cs : List Char} (h : commentOpen <+: cs) (front : List Char) (m : Memory) :
    State.comment.Moves d front m cs := by
  obtain ⟨tail, rfl⟩ := h
  by_cases hclose : commentClose <:+: tail
  · obtain ⟨body, rest, rfl, hbody⟩ := exists_first_infix (by decide) hclose
    by_cases hright : d.right <+: rest
    · obtain ⟨rest, rfl⟩ := hright
      exact ⟨_, rest, _, _, by simp, .comment hbody⟩
    · exact ⟨_, rest, _, _, by simp, .earlyComment hbody hright⟩
  · exact ⟨_, tail, _, _, rfl, .unclosedComment hclose⟩

/-- In an action some rule applies, unless there are too many parentheses. -/
theorem moves_action (d : Delimiters) (front : List Char) (m : Memory) (cs : List Char) :
    State.action.Moves d front m cs ∨
      (¬ d.right <+: cs ∧ cs.head? = some '(' ∧ depthBound ≤ m.openParens + 1) := by
  by_cases hright : d.right <+: cs
  · left
    rcases Nat.eq_zero_or_pos m.openParens with hzero | hpos
    · obtain ⟨rest, rfl⟩ := hright
      exact ⟨d.right, rest, _, _, rfl, .closeAction hzero⟩
    · exact ⟨[], cs, _, _, rfl, .unclosedParen hpos hright⟩
  cases cs with
  | nil => exact .inl ⟨[], [], _, _, rfl, .unclosedAction⟩
  | cons c cs =>
    rcases ActionStart.of_cases c cs.head? with
      ⟨kind, p, hruns⟩ | rfl | rfl | rfl | ⟨rfl, hnext⟩ | hword | hnone
    · obtain ⟨run, rest, rfl, hrun⟩ := LongestRun.split p cs
      exact .inl ⟨c :: run, rest, _, _, rfl, .run hright rfl hruns hrun⟩
    · exact .inl ⟨['"'], cs, _, _, rfl, .actionQuote hright⟩
    · by_cases hdepth : m.openParens + 1 < depthBound
      · exact .inl ⟨['('], cs, _, _, rfl, .leftParen hright hdepth⟩
      · exact .inr ⟨hright, rfl, Nat.not_lt.mp hdepth⟩
    · cases hdepth : m.openParens with
      | zero => exact .inl ⟨[')'], cs, _, _, rfl, .surplusParen hright hdepth⟩
      | succ depth => exact .inl ⟨[')'], cs, _, _, rfl, .rightParen hright hdepth⟩
    · obtain ⟨rest, rfl⟩ := List.head?_eq_some_iff.mp hnext
      exact .inl ⟨[':', '='], rest, _, _, rfl, .colonEquals hright⟩
    · exact .inl ⟨[], c :: cs, _, _, rfl, .actionWord hright hword.1⟩
    · exact .inl ⟨[c], cs, _, _, rfl, .unrecognized hright hnone⟩

theorem moves_directive {dir : Directive} {cs : List Char} (h : d.head dir <+: cs)
    (front : List Char) (m : Memory) :
    (State.directive dir (size dir.spelling.toList)).Moves d front m cs := by
  obtain ⟨rest, rfl⟩ := h
  by_cases hext : dir.isExtends = true
  · by_cases hsaw : m.sawExtends = true
    · exact ⟨[], _, _, _, rfl, .duplicateExtends hext hsaw⟩
    rw [Bool.not_eq_true] at hsaw
    by_cases hfront : front = []
    · exact ⟨_, '(' :: rest, _, _, by simp [Delimiters.head], .directive fun _ => ⟨hsaw, hfront⟩⟩
    · exact ⟨[], _, _, _, rfl, .misplacedExtends hext hsaw hfront⟩
  · exact ⟨_, '(' :: rest, _, _, by simp [Delimiters.head], .directive fun he => absurd he hext⟩

theorem moves_insideDirective (d : Delimiters) (front : List Char) (m : Memory) (cs : List Char) :
    State.insideDirective.Moves d front m cs := by
  cases cs with
  | nil => exact ⟨[], [], _, _, rfl, .unclosedDirective⟩
  | cons c cs =>
    by_cases hstart : isBodyStart c = true
    · simp only [isBodyStart, Bool.or_eq_true, beq_iff_eq] at hstart
      rcases hstart with ((((hblank | hword) | rfl) | rfl) | rfl) | rfl
      · obtain ⟨run, rest, hcs, hrun⟩ := LongestRun.split isInlineBlank (c :: cs)
        -- The run holds the blank at which it begins.
        have hne := hrun.ne_nil (by rw [← hcs]; rfl) hblank
        exact ⟨run, rest, _, _, hcs, .blanks hne hrun⟩
      · exact ⟨[], c :: cs, _, _, rfl, .bodyWord hword⟩
      · exact ⟨['"'], cs, _, _, rfl, .bodyQuote⟩
      · by_cases hfeed : cs.head? = some '\n'
        · obtain ⟨rest, rfl⟩ := List.head?_eq_some_iff.mp hfeed
          exact ⟨['\r', '\n'], rest, _, _, rfl, .lineEnd .both⟩
        · exact ⟨['\r'], cs, _, _, rfl, .lineEnd (.ret hfeed)⟩
      · exact ⟨['\n'], cs, _, _, rfl, .lineEnd .feed⟩
      · exact ⟨[')'], cs, _, _, rfl, .closeDirective⟩
    · exact ⟨[], c :: cs, _, _, rfl, .unexpected (Bool.eq_false_iff.mpr hstart)⟩

theorem moves_quote (d : Delimiters) (front : List Char) (m : Memory) (resume : Resume)
    (cs : List Char) : (State.quote resume).Moves d front m cs := by
  obtain ⟨cs, closed, last, rest, rfl, hcs, hend⟩ := exists_contents cs
  cases closed with
  | true =>
    cases hend
    exact ⟨_, rest, _, _, rfl, .string hcs⟩
  | false => exact ⟨_, rest, _, _, rfl, .unterminated hcs hend⟩

/-- A state that finds what it expects has a rule, the limit on parentheses apart. -/
theorem State.Ready.moves {cs : List Char} (h : s.Ready d cs) (front : List Char) (m : Memory) :
    s.Moves d front m cs ∨ (s = .action ∧ ¬ d.right <+: cs ∧ cs.head? = some '(' ∧
      depthBound ≤ m.openParens + 1) := by
  cases s with
  | action => exact (moves_action d front m cs).imp_right fun hlimit => ⟨rfl, hlimit⟩
  | text => exact .inl (moves_text d front m cs)
  | comment => exact .inl (moves_comment h front m)
  | insideDirective => exact .inl (moves_insideDirective d front m cs)
  | quote resume => exact .inl (moves_quote d front m resume cs)
  | leftDelim =>
    obtain ⟨rest, rfl⟩ := h
    by_cases hopen : commentOpen <+: rest
    · exact .inl ⟨d.left, rest, _, _, rfl, .openComment hopen⟩
    · exact .inl ⟨d.left, rest, _, _, rfl, .openAction hopen⟩
  | directive dir nameLen =>
    obtain ⟨rfl, hhead⟩ := h
    exact .inl (moves_directive hhead front m)
  | openDirective extends_ =>
    obtain ⟨rest, rfl⟩ := List.head?_eq_some_iff.mp h
    exact .inl ⟨['('], rest, _, _, rfl, .openDirective⟩
  | extendsParam =>
    by_cases hquote : cs.head? = some '"'
    · obtain ⟨rest, rfl⟩ := List.head?_eq_some_iff.mp hquote
      exact .inl ⟨['"'], rest, _, _, rfl, .extendsQuote⟩
    · exact .inl ⟨[], cs, _, _, rfl, .expectedQuote hquote⟩
  | closeDirective =>
    by_cases hclose : cs.head? = some ')'
    · obtain ⟨rest, rfl⟩ := List.head?_eq_some_iff.mp hclose
      exact .inl ⟨[')'], rest, _, _, rfl, .closeExtends⟩
    · exact .inl ⟨[], cs, _, _, rfl, .expectedClose hclose⟩
  | identifier resume =>
    obtain ⟨-, c, hc, hword⟩ := h
    obtain ⟨run, rest, rfl, hrun⟩ := LongestRun.split isWordChar cs
    exact .inl ⟨run, rest, _, _, rfl, .word (hrun.ne_nil hc hword) hrun⟩
  | eof =>
    cases h
    exact .inl ⟨[], [], _, _, rfl, .eof⟩

/-- Every place that is ready and not at an end has a next one, or is at the limit. -/
theorem Place.Ready.exists_step {p : Place} (h : p.Ready d) (hs : p.state = some s) :
    (∃ slot p', Step d p slot p') ∨ p.AtLimit d := by
  obtain ⟨state, front, held, cs, m⟩ := p
  cases hs
  rcases (h.ready s rfl).moves front m with ⟨taken, rest, e, m', hcs, hr⟩ | hlimit
  · left
    cases hcs
    cases e with
    | finish kind next => exact ⟨_, _, .finish hr⟩
    | drop next => exact ⟨_, _, .drop hr⟩
    | hold next => exact ⟨_, _, .hold hr⟩
  · obtain ⟨rfl, hright, hhead, hdepth⟩ := hlimit
    exact .inr ⟨rfl, hright, hhead, hdepth⟩

/-- At the limit the count of parentheses overflows. -/
theorem Lexer.step_overflow {l : Lexer} {p : Place} (h : l.Stands d p) (hlimit : p.AtLimit d) :
    l.step .action = .error .overflow := by
  obtain ⟨rest, hrest⟩ := List.head?_eq_some_iff.mp hlimit.head_eq
  have hright := hlimit.not_right
  have hholds := h.holds
  rw [hrest] at hright hholds
  obtain ⟨c, hstep, -, -⟩ := Lexer.stepAction_eq hholds hright
  have hdepth : ¬ (l.moveTo c).openParens + 1 < depthBound := by
    have := hlimit.limit_le
    rw [← h.memory_eq] at this
    exact Nat.not_lt.mpr this
  show l.stepAction = _
  rw [hstep]
  show (do (← (l.moveTo c).countParen).emitAndEnter .leftParen .action) = _
  rw [Lexer.countParen, if_neg hdepth]
  rfl

end TemplateLexer
