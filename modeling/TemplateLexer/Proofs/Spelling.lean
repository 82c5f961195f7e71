import TemplateLexer.Proofs.Context

/-!
# How tokens are spelled

Each kind of token has a rule of spelling, `Spells`, which speaks of the text of a token and of the
text behind it, and of no state: a run of characters goes on as far as it can, and a word is a
keyword exactly when it is spelled like one. Every rule of scanning that finishes a token obeys the
rule for its kind (`Rule.spells`).

Inside an action there is more to say. Nothing but a right delimiter begins where a right delimiter
stands, and no word begins with a digit. Words and strings are finished one step after their
beginning was looked at, so that what was seen there has to be carried along (`Run.sighted`).
-/

namespace TemplateLexer

open Text

/-! ### What begins in an action -/

/-- What a character has to be, before `next`, to begin something in an action. -/
def ActionStart.Begins (c : Char) (next : Option Char) : ActionStart → Prop
  | .space => isActionSpace c = true
  | .quote => c = '"'
  | .leftParen => c = '('
  | .rightParen => c = ')'
  | .pipe => c = '|'
  | .colonEquals => c = ':' ∧ next = some '='
  | .var => c = '$'
  | .number => c.isDigit = true ∨ c ∈ ['.', '+', '-'] ∧ next.any Char.isDigit = true
  | .field => c = '.' ∧ next.any isWordChar = true ∧ next.any Char.isDigit = false
  | .dot => c = '.' ∧ next.any isWordChar = false
  | .word => isWordChar c = true ∧ c.isDigit = false
  | .char => isPunctuation c = true ∧ isWordChar c = false ∧
      c ∉ ['"', '(', ')', '|', '$', '.'] ∧ (c = ':' → next ≠ some '=') ∧
      (c ∈ ['+', '-'] → next.any Char.isDigit = false)
  | .unrecognized => isActionSpace c = false ∧ isWordChar c = false ∧ isPunctuation c = false

theorem ActionStart.begins_of {c : Char} {next : Option Char} {start : ActionStart}
    (h : of c next = start) : start.Begins c next := by
  subst h
  fun_cases ActionStart.of c next <;> grind [Begins]

theorem isNumberChar_of_isDigit {c : Char} (h : c.isDigit = true) : isNumberChar c = true := by
  simp [isNumberChar, Char.isAlphanum, h]

/-! ### Rules of spelling -/

/-- A word, reserved or not. -/
def TokenKind.isWord : TokenKind → Bool
  | identifier => true
  | keyword k => k != .dot
  | _ => false

/-- The rule of spelling for a kind of token: the text of the token, and what follows it. -/
inductive Spells (d : Delimiters) : TokenKind → List Char → List Char → Prop
  | eof : Spells d .eof [] []
  | leftDelim {rest} : Spells d .leftDelim d.left rest
  | rightDelim {rest} : Spells d .rightDelim d.right rest
  | directive {dir rest} :
      Spells d (.directive dir) (d.marker ++ dir.spelling.toList) ('(' :: rest)
  | openDirective {rest} : Spells d .openDirective ['('] rest
  | closeDirective {rest} : Spells d .closeDirective [')'] rest
  | endOfLine {eol rest} : LineEnd eol rest → Spells d .endOfLine eol rest
  | string {cs rest} : Contents cs → Spells d .string ('"' :: (cs ++ ['"'])) rest
  -- Runs go on as far as they can.
  | space {run rest} : run ≠ [] → LongestRun isActionSpace run rest → Spells d .space run rest
  | var {name rest} : LongestRun isWordChar name rest → Spells d .var ('$' :: name) rest
  | field {c name rest} : c.isDigit = false → LongestRun isWordChar (c :: name) rest →
      Spells d .field ('.' :: c :: name) rest
  | number {c run rest} :
      c.isDigit = true ∨ c ∈ ['.', '+', '-'] ∧ run.head?.any Char.isDigit = true →
      LongestRun isNumberChar run rest → Spells d .number (c :: run) rest
  | identifier {word rest} : word ≠ [] → LongestRun isWordChar word rest →
      (∀ k ∈ Keyword.words, word ≠ k.spelling.toList) → Spells d .identifier word rest
  | keyword {k rest} : k ∈ Keyword.words → LongestRun isWordChar k.spelling.toList rest →
      Spells d (.keyword k) k.spelling.toList rest
  -- Signs of actions, and the punctuation that is no other sign.
  | leftParen {rest} : Spells d .leftParen ['('] rest
  | rightParen {rest} : Spells d .rightParen [')'] rest
  | pipe {rest} : Spells d .pipe ['|'] rest
  | colonEquals {rest} : Spells d .colonEquals [':', '='] rest
  | dot {rest} : rest.head?.any isWordChar = false → Spells d (.keyword .dot) ['.'] rest
  | char {c rest} : isPunctuation c = true → isWordChar c = false →
      c ∉ ['"', '(', ')', '|', '$', '.'] → (c = ':' → rest.head? ≠ some '=') →
      (c ∈ ['+', '-'] → rest.head?.any Char.isDigit = false) → Spells d .char [c] rest

variable {d : Delimiters} {source front taken rest : List Char} {ts : List Token} {p : Place}
  {s next : State} {m m' : Memory} {kind : TokenKind}

theorem spells_wordKind {word : List Char} (hne : word ≠ [])
    (hrun : LongestRun isWordChar word rest) : Spells d (wordKind word) word rest := by
  rw [wordKind]
  cases hw : Keyword.ofWord? word with
  | none =>
    refine .identifier hne hrun ?_
    intro k hk hword
    exact List.find?_eq_none.mp hw k hk (beq_iff_eq.mpr hword.symm)
  | some k =>
    have hbeq := List.find?_some hw
    obtain rfl : k.spelling.toList = word := beq_iff_eq.mp hbeq
    exact .keyword (List.mem_of_find?_eq_some hw) hrun

theorem ActionStart.Runs.spells {start : ActionStart} {q : Char → Bool} {c : Char}
    {run : List Char} (h : start.Runs kind q) (hc : start.Begins c (run ++ rest).head?)
    (hrun : LongestRun q run rest) : Spells d kind (c :: run) rest := by
  cases h with
  | space => exact .space (List.cons_ne_nil _ _) (hrun.cons hc)
  | var =>
    obtain rfl : c = '$' := hc
    exact .var hrun
  | number =>
    refine .number (hc.imp_right ?_) hrun
    rintro ⟨hmem, hnext⟩
    -- The digit that follows belongs to the run.
    obtain ⟨x, hx, hdigit⟩ := (Option.any_eq_true _ _).mp hnext
    have hne := hrun.ne_nil hx (isNumberChar_of_isDigit hdigit)
    obtain ⟨y, digits, rfl⟩ := List.exists_cons_of_ne_nil hne
    exact ⟨hmem, hnext⟩
  | field =>
    obtain ⟨rfl, hnext, hdigit⟩ := hc
    obtain ⟨x, hx, hword⟩ := (Option.any_eq_true _ _).mp hnext
    obtain ⟨y, name, rfl⟩ := List.exists_cons_of_ne_nil (hrun.ne_nil hx hword)
    exact .field hdigit hrun
  | pipe =>
    obtain rfl : c = '|' := hc
    obtain rfl := hrun.eq_nil
    exact .pipe
  | dot =>
    obtain ⟨rfl, hnext⟩ := hc
    obtain rfl := hrun.eq_nil
    exact .dot hnext
  | char =>
    obtain ⟨hpunct, hword, hother, hcolon, hsign⟩ := hc
    obtain rfl := hrun.eq_nil
    exact .char hpunct hword hother hcolon hsign

theorem Rule.spells {next : Option State} (h : Rule d front s m taken rest (.finish kind next) m')
    (htext : kind ≠ .text) (herror : kind.isError = false) :
    Spells d kind (s.held ++ taken) rest := by
  cases h with
  | text => exact absurd rfl htext
  | eof => exact .eof
  | openComment | openAction => exact .leftDelim
  | closeAction => exact .rightDelim
  | run _ hstart hruns hrun => exact hruns.spells (ActionStart.begins_of hstart) hrun
  | colonEquals => exact .colonEquals
  | leftParen => exact .leftParen
  | rightParen => exact .rightParen
  | directive => exact .directive
  | openDirective => exact .openDirective
  | lineEnd heol => exact .endOfLine heol
  | closeDirective | closeExtends => exact .closeDirective
  | word hne hrun => exact spells_wordKind hne hrun
  | string hcs => exact .string hcs
  | _ => cases herror

theorem Keyword.spelling_injective {k k' : Keyword} (h : k.spelling.toList = k'.spelling.toList) :
    k = k' := by
  revert h
  cases k <;> cases k' <;> decide

/-- Among words, the spelling tells the keywords. -/
theorem Spells.keyword_iff {text : List Char} (h : Spells d kind text rest)
    (hkind : kind.isWord = true) {k : Keyword} (hk : k ∈ Keyword.words) :
    kind = .keyword k ↔ text = k.spelling.toList := by
  cases h with
  | identifier _ _ hno =>
    constructor
    · intro heq
      cases heq
    · intro heq
      exact absurd heq (hno k hk)
  | @keyword k' _ _ =>
    constructor
    · intro heq
      cases heq
      rfl
    · intro heq
      rw [Keyword.spelling_injective heq]
  | _ => cases hkind

/-! ### What was seen where a word or a string begins -/

/-- What an action has seen of the text `cs` when it leaves for a word or a string. -/
def State.Sighted (d : Delimiters) (cs : List Char) : State → Prop
  | .identifier .action => ¬ d.right <+: cs ∧ ∀ c ∈ cs.head?, c.isDigit = false
  | .quote .action => ¬ d.right <+: cs
  | _ => True

theorem Delimiters.Calls.sighted {cs cs' : List Char} (h : d.Calls cs s) : s.Sighted d cs' := by
  cases h <;> trivial

theorem Rule.sighted_of_finish (h : Rule d front s m taken rest (.finish kind (some next)) m')
    (cs : List Char) : next.Sighted d cs := by
  cases h with
  | text _ _ hcalls => exact hcalls.sighted
  | @openDirective _ extends_ => cases extends_ <;> trivial
  | @word _ resume => cases resume <;> trivial
  | @string _ resume => cases resume <;> trivial
  | _ => trivial

theorem Rule.sighted_of_drop (h : Rule d front s m taken rest (.drop next) m') (cs : List Char) :
    next.Sighted d cs := by
  cases h <;> trivial

theorem Rule.sighted_of_hold (h : Rule d front s m taken rest (.hold next) m') :
    next.Sighted d (next.held ++ rest) := by
  cases h with
  | opener hcalls => exact hcalls.sighted
  | actionQuote hright => exact hright
  | actionWord hright hstart =>
    refine ⟨hright, ?_⟩
    intro c hc
    cases hc
    exact (ActionStart.begins_of hstart).2
  | bodyQuote | bodyWord | extendsQuote => trivial

theorem Run.sighted (h : Run d source ts p) (hs : p.state = some s) :
    s.Sighted d (s.held ++ p.rest) := by
  cases h with
  | start =>
    cases hs
    trivial
  | step _ hstep =>
    cases hstep with
    | finish hr =>
      cases hs
      exact hr.sighted_of_finish _
    | drop hr =>
      cases hs
      exact hr.sighted_of_drop _
    | hold hr =>
      cases hs
      exact hr.sighted_of_hold

/-- In an action, a word or a string goes back to the action. -/
theorem InAction.resume_eq {kinds : List TokenKind} {depth n : Nat} {resume : Resume}
    (h : InAction kinds depth)
    (hs : (State.identifier resume).Within kinds n ∨ (State.quote resume).Within kinds n) :
    resume = .action := by
  cases resume with
  | action => rfl
  | insideDirective => exact absurd (hs.elim id id) h.not_inBody
  | closeDirective =>
    rcases hs with hs | hs
    · exact hs.elim
    · exact absurd hs h.not_atParam

theorem Rule.not_right {next : Option State} {kinds : List TokenKind} {depth : Nat}
    (h : Rule d front s m taken rest (.finish kind next) m')
    (hsighted : s.Sighted d (s.held ++ (taken ++ rest)))
    (hwithin : s.Within kinds m.openParens) (hin : InAction kinds depth)
    (hkind : kind.isActionPart = true) : ¬ d.right <+: s.held ++ (taken ++ rest) := by
  cases h with
  | run hright | colonEquals hright | leftParen hright | rightParen hright => exact hright
  | word =>
    obtain rfl := hin.resume_eq (.inl hwithin)
    exact hsighted.1
  | string =>
    obtain rfl := hin.resume_eq (.inr hwithin)
    exact hsighted
  | _ => cases hkind

theorem Rule.not_digit {next : Option State} {kinds : List TokenKind} {depth : Nat}
    (h : Rule d front s m taken rest (.finish kind next) m')
    (hsighted : s.Sighted d (s.held ++ (taken ++ rest)))
    (hwithin : s.Within kinds m.openParens) (hin : InAction kinds depth)
    (hkind : kind.isWord = true) : ∀ c ∈ (s.held ++ taken).head?, c.isDigit = false := by
  cases h with
  | run _ _ hruns => cases hruns <;> cases hkind
  | word =>
    obtain rfl := hin.resume_eq (.inl hwithin)
    intro c hc
    apply hsighted.2
    rw [← List.append_assoc, List.head?_append, Option.mem_def.mp hc]
    rfl
  | _ => cases hkind

/-! ### All tokens -/

/-- How a token is spelled, after tokens of the kinds `before` and in front of `rest`. -/
structure Token.Spelled (d : Delimiters) (before : List TokenKind) (t : Token)
    (rest : List Char) : Prop where
  spells : Spells d t.kind t.text rest
  keyword_iff : t.kind.isWord = true → ∀ k ∈ Keyword.words,
    (t.kind = .keyword k ↔ t.text = k.spelling.toList)
  not_right : ∀ depth, InAction before depth → t.kind.isActionPart = true →
    ¬ d.right <+: t.text ++ rest
  not_digit : ∀ depth, InAction before depth → t.kind.isWord = true →
    ∀ c ∈ t.text.head?, c.isDigit = false

/-- Every token that is neither text nor an error is spelled by the rules. -/
def Orthographic (d : Delimiters) (source : List Char) (ts : List Token) : Prop :=
  ∀ before t after, ts = before ++ t :: after → t.kind ≠ .text → t.kind.isError = false →
    ∃ rest, drop? source t.offset = some (t.text ++ rest) ∧
      t.Spelled d (before.map Token.kind) rest

theorem Run.orthographic (h : Run d source ts p) : Orthographic d source ts := by
  intro before t after hts htext herror
  obtain ⟨s, front, m, taken, rest, next, m', hrun, hr, -, heq, hdrop⟩ := h.exists_rule_of_split hts
  have hsighted : s.Sighted d (s.held ++ (taken ++ rest)) := hrun.sighted rfl
  have hwithin : s.Within (before.map Token.kind) m.openParens := hrun.within rfl
  have hspells := hr.spells htext herror
  rw [← heq] at hspells
  refine ⟨rest, hdrop, hspells, fun hkind k => hspells.keyword_iff hkind, ?_, ?_⟩
  · intro depth hin hkind
    rw [heq, List.append_assoc]
    exact hr.not_right hsighted hwithin hin hkind
  · intro depth hin hkind
    rw [heq]
    exact hr.not_digit hsighted hwithin hin hkind

namespace Lexer

/-- Every token handed out obeys the rule of spelling for its kind, whether the tokens are pulled
one by one or all at once. -/
theorem tokens_spelled (name : String) (source : List Char) (options : Options) :
    (∀ ts l, (ofSource name source options).Pulled ts l →
      Orthographic options.normalized source ts) ∧
    ((∃ ts, (ofSource name source options).tokens = .ok ts ∧
        Orthographic options.normalized source ts) ∨
      ((ofSource name source options).tokens = .error .overflow ∧ 2 ^ 32 ≤ source.count '(')) := by
  apply forall_tokens
  intro ts p hrun
  exact hrun.orthographic

-- A digit begins a word in the body of a directive, and a number in an action.
example : (ofSource "t" "@import(1x)<1x>".toList ⟨[], ['<'], ['>']⟩).tokens.toOption.map
    (List.map Token.kind) = some [.directive .import_, .openDirective, .identifier, .closeDirective,
      .leftDelim, .number, .rightDelim, .eof] := by
  decide +kernel

end Lexer

end TemplateLexer
