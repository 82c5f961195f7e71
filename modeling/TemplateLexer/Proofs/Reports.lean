import TemplateLexer.Proofs.Spelling

/-!
# What errors report

An error token says that something is wrong at its offset. `Reports` spells out for each error what
this is, in terms of the template alone: which tokens came before, what the failing construct took,
which is the text of the token, and what follows it. An error that carries a character carries the
one that stands there.

A rule that fails knows its state, and the state knows what came before (`Run.within`); the rest is
what the rule itself has seen (`Rule.reports`).
-/

namespace TemplateLexer

open Text
open Lexer (commentOpen commentClose)

/-- The last tokens are of these kinds, and the last one ends at `offset`. -/
def Behind (kinds : List TokenKind) (ts : List Token) (offset : Nat) : Prop :=
  kinds <:+ ts.map Token.kind ∧ Adjoined ts offset

/-- Where a quoted string may begin: in an action, in the body of a directive, or as the parameter
of an extends directive. -/
def QuoteContext (ts : List Token) (offset : Nat) : Prop :=
  (∃ depth, InAction (ts.map Token.kind) depth ∧ Adjoined ts offset) ∨ InBody (ts.map Token.kind) ∨
    Behind [.directive .extends_, .openDirective] ts offset

/-- What an error at `offset`, after the tokens `before`, says of its text and of what follows. -/
inductive Reports (d : Delimiters) (before : List Token) (offset : Nat) :
    LexicalError → List Char → List Char → Prop
  -- Comments.
  | unclosedComment {rest} : Behind [.leftDelim] before offset → ¬ commentClose <:+: rest →
      Reports d before offset .unclosedComment commentOpen rest
  | earlyComment {body rest} : Behind [.leftDelim] before offset → ¬ commentClose <:+: body →
      ¬ d.right <+: rest →
      Reports d before offset .commentEndsBeforeDelimiter (commentOpen ++ body ++ commentClose) rest
  -- Actions.
  | unclosedAction {depth} : InAction (before.map Token.kind) depth → Adjoined before offset →
      Reports d before offset .unclosedAction [] []
  | unclosedParen {depth rest} : InAction (before.map Token.kind) (depth + 1) →
      Adjoined before offset → d.right <+: rest →
      Reports d before offset .unclosedLeftParen [] rest
  | surplusParen {rest} : InAction (before.map Token.kind) 0 → Adjoined before offset →
      ¬ d.right <+: ')' :: rest → Reports d before offset .unexpectedRightParen [')'] rest
  | unrecognized {depth c rest} : InAction (before.map Token.kind) depth →
      Adjoined before offset → ¬ d.right <+: c :: rest → isActionSpace c = false →
      isWordChar c = false → isPunctuation c = false →
      Reports d before offset (.unrecognizedInAction c) [c] rest
  -- Directives.
  | duplicateExtends {rest} : (∃ u ∈ before, u.kind = .directive .extends_) →
      d.head .extends_ <+: rest → Reports d before offset .duplicateExtends [] rest
  | misplacedExtends {rest} : (∀ u ∈ before, u.kind ≠ .directive .extends_) → 0 < offset →
      d.head .extends_ <+: rest → Reports d before offset .misplacedExtends [] rest
  | unclosedDirective : InBody (before.map Token.kind) →
      Reports d before offset .unclosedDirective [] []
  | unexpected {c rest} : InBody (before.map Token.kind) → isWordChar c = false →
      c ∉ [' ', '\t', '\r', '\n', '"', ')'] →
      Reports d before offset (.unexpectedInDirective c) [] (c :: rest)
  | expectedQuote {rest} : Behind [.directive .extends_, .openDirective] before offset →
      rest.head? ≠ some '"' → Reports d before offset (.expectedQuote rest.head?) [] rest
  | expectedClose {rest} :
      Behind [.directive .extends_, .openDirective, .string] before offset →
      rest.head? ≠ some ')' → Reports d before offset (.expectedCloseDirective rest.head?) [] rest
  -- Strings.
  | unterminated {cs last rest} : QuoteContext before offset → Contents cs →
      Ending false last rest →
      Reports d before offset .unterminatedString ('"' :: (cs ++ last)) rest

variable {d : Delimiters} {source front taken rest : List Char} {ts before : List Token}
  {p : Place} {s : State} {m m' : Memory} {e : LexicalError}

/-- What begins nothing in the body of a directive. -/
theorem not_mem_of_isBodyStart {c : Char} (h : isBodyStart c = false) :
    isWordChar c = false ∧ c ∉ [' ', '\t', '\r', '\n', '"', ')'] := by
  simp only [isBodyStart, isInlineBlank, Bool.or_eq_false_iff, beq_eq_false_iff_ne] at h
  simp [h]

theorem Directive.eq_extends {dir : Directive} (h : dir.isExtends = true) : dir = .extends_ := by
  cases dir with
  | extends_ => rfl
  | _ => cases h

theorem Rule.reports {next : Option State}
    (h : Rule d front s m taken rest (.finish (.error e) next) m')
    (hready : s.Ready d (taken ++ rest))
    (hwithin : s.Within (before.map Token.kind) m.openParens)
    (hadj : s.adjoins = true → Adjoined before (size front))
    (hsaw : m.sawExtends = true ↔ ∃ u ∈ before, u.kind = .directive .extends_) :
    Reports d before (size front) e (s.held ++ taken) rest := by
  generalize hkind : TokenKind.error e = kind at h
  cases h with
  | unclosedComment hclose =>
    cases hkind
    exact .unclosedComment ⟨hwithin, hadj rfl⟩ hclose
  | earlyComment hbody hright =>
    cases hkind
    exact .earlyComment ⟨hwithin, hadj rfl⟩ hbody hright
  | unclosedParen hdepth hright =>
    cases hkind
    obtain ⟨depth, hsucc⟩ := Nat.exists_eq_succ_of_ne_zero (Nat.ne_of_gt hdepth)
    rw [hsucc] at hwithin
    exact .unclosedParen hwithin (hadj rfl) hright
  | unclosedAction =>
    cases hkind
    exact .unclosedAction hwithin (hadj rfl)
  | surplusParen hright hzero =>
    cases hkind
    rw [hzero] at hwithin
    exact .surplusParen hwithin (hadj rfl) hright
  | unrecognized hright hstart =>
    cases hkind
    obtain ⟨hspace, hword, hpunct⟩ := ActionStart.begins_of hstart
    exact .unrecognized hwithin (hadj rfl) hright hspace hword hpunct
  | duplicateExtends hext hseen =>
    cases hkind
    obtain rfl := Directive.eq_extends hext
    exact .duplicateExtends (hsaw.mp hseen) hready.2
  | misplacedExtends hext hseen hfront =>
    cases hkind
    obtain rfl := Directive.eq_extends hext
    refine .misplacedExtends ?_ (size_pos_of_ne_nil hfront) hready.2
    intro u hu hextends
    exact absurd (hseen.symm.trans (hsaw.mpr ⟨u, hu, hextends⟩)) (by decide)
  | unclosedDirective =>
    cases hkind
    exact .unclosedDirective hwithin
  | unexpected hstart =>
    cases hkind
    obtain ⟨hword, hmem⟩ := not_mem_of_isBodyStart hstart
    exact .unexpected hwithin hword hmem
  | expectedQuote hquote =>
    cases hkind
    exact .expectedQuote ⟨hwithin, hadj rfl⟩ hquote
  | expectedClose hclose =>
    cases hkind
    exact .expectedClose ⟨hwithin, hadj rfl⟩ hclose
  | @unterminated _ resume cs last _ hcs hend =>
    cases hkind
    have hcontext : QuoteContext before (size front) := by
      cases resume with
      | action => exact .inl ⟨_, hwithin, hadj rfl⟩
      | insideDirective => exact .inr (.inl hwithin)
      | closeDirective => exact .inr (.inr ⟨hwithin, hadj rfl⟩)
    show Reports d before (size front) .unterminatedString ('"' :: (cs ++ last)) rest
    exact .unterminated hcontext hcs hend
  | run _ _ hruns => cases hruns <;> cases hkind
  | word => exact absurd hkind.symm (wordKind_ne _ rfl)
  | _ => cases hkind

/-- Every error reports what is there. -/
def Truthful (d : Delimiters) (source : List Char) (ts : List Token) : Prop :=
  ∀ before t after e, ts = before ++ t :: after → t.kind = .error e →
    ∃ rest, drop? source t.offset = some (t.text ++ rest) ∧
      (t.text ++ rest = [] ↔ t.offset = size source) ∧
      Reports d before t.offset e t.text rest

theorem Run.truthful (h : Run d source ts p) : Truthful d source ts := by
  intro before t after e hts hkind
  obtain ⟨s, front, m, taken, rest, next, m', hrun, hr, hoffset, htext, hdrop⟩ :=
    h.exists_rule_of_split hts
  rw [hkind] at hr
  refine ⟨rest, hdrop, eq_nil_iff_of_drop? hdrop, ?_⟩
  rw [hoffset, htext]
  exact hr.reports (hrun.ready.ready s rfl) (hrun.within rfl) (hrun.adjoined rfl)
    hrun.sawExtends_iff

namespace Lexer

/-- Every error says what is wrong where it stands. -/
theorem tokens_truthful (name : String) (source : List Char) (options : Options) :
    (∀ ts l, (ofSource name source options).Pulled ts l →
      Truthful options.normalized source ts) ∧
    ((∃ ts, (ofSource name source options).tokens = .ok ts ∧
        Truthful options.normalized source ts) ∨
      ((ofSource name source options).tokens = .error .overflow ∧ 2 ^ 32 ≤ source.count '(')) := by
  apply forall_tokens
  intro ts p hrun
  exact hrun.truthful

end Lexer

end TemplateLexer
