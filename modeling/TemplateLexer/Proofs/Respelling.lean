import TemplateLexer.Proofs.Locality
import TemplateLexer.Proofs.Termination
import TemplateLexer.Proofs.Tiling

/-!
# Writing tokens down again

`unlex` writes tokens down one behind the other. Only two things are put between them: one space in
the body of a directive, and an empty comment where a left delimiter did not begin an action. A
template that is scanned to its end can be written down from its tokens in this way, and scanning it
again gives the same kinds and texts (`tokenize_unlex`).

The proof follows the scan from its end to its start. A place of the scan is matched with one before
the text that `unlex` makes of the tokens still to come (`Place.Unlexes`): every rule that was
applied can be applied there too, because what is put between two tokens looks to the rule like what
was there, or like a blank where blanks may stand.
-/

namespace TemplateLexer

open Text
open Lexer (commentOpen commentClose)
open Delimiters (standard)

/-! ### Writing -/

/-- A kind that stands outside of actions and of the bodies of directives. -/
def TokenKind.isOutside : TokenKind → Bool
  | .text | .leftDelim | .directive _ | .eof => true
  | _ => false

/-- Whether the body of a directive goes on behind a token: it opens behind the name of a directive
other than an extends directive, and goes on until it is closed. -/
def TokenKind.bodyBehind (inBody : Bool) : TokenKind → Bool
  | .directive dir => !dir.isExtends
  | .closeDirective => false
  | _ => inBody

/-- What is written between a token and the next one, when the body of a directive goes on between
them or not. -/
def TokenKind.separator (inBody : Bool) (kind next : TokenKind) : List Char :=
  if kind = .leftDelim ∧ next.isOutside then commentOpen ++ commentClose ++ standard.right
  else if inBody ∧ ¬ kind.isDirective then [' ']
  else []

/-- Tokens written down, from the body of a directive on or from outside of it. -/
def unlexFrom (inBody : Bool) : List Token → List Char
  | [] => []
  | [t] => t.text
  | t :: next :: ts =>
    let inBody := t.kind.bodyBehind inBody
    t.text ++ t.kind.separator inBody next.kind ++ unlexFrom inBody (next :: ts)

/-- Tokens written down. -/
def unlex (ts : List Token) : List Char := unlexFrom false ts

/-- What a token is, wherever it stands. -/
def Token.content (t : Token) : TokenKind × List Char := (t.kind, t.text)

/-! ### What is written before a state -/

/-- The states in the body of a directive other than an extends directive. -/
def State.inBody : State → Bool
  | .openDirective extends_ => !extends_
  | .insideDirective | .identifier .insideDirective | .quote .insideDirective => true
  | _ => false

/-- The states that lead to a token outside of actions and of the bodies of directives. -/
def State.isOutside : State → Bool
  | .text | .leftDelim | .comment | .directive _ _ | .eof => true
  | _ => false

/-- What is written between the token that leads to a state and the next one. -/
def State.gap : State → List Char
  | .comment => commentOpen ++ commentClose ++ standard.right
  | .insideDirective => [' ']
  | _ => []

variable {d : Delimiters} {front front' taken rest ahead : List Char} {s next : State}
  {m m' : Memory} {e : Effect} {kind : TokenKind} {ts : List Token} {p p' q : Place}

theorem Rule.isOutside_eq {next : Option State}
    (h : Rule d front s m taken rest (.finish kind next) m') (hok : kind.isError = false) :
    kind.isOutside = s.isOutside := by
  cases h with
  | run _ _ hruns => cases hruns <;> rfl
  | word =>
    rcases wordKind_cases taken with hw | ⟨k, hw, -⟩
    · rw [hw]
      rfl
    · rw [hw]
      rfl
  | text | eof | openComment | openAction | closeAction | colonEquals | leftParen | rightParen
    | directive | openDirective | lineEnd | closeDirective | closeExtends | string => rfl
  | _ => cases hok

/-- Behind a token that is no left delimiter, a space is written in the body of a directive. -/
theorem TokenKind.separator_of_ne {inBody : Bool} {kind kind' : TokenKind} (h : kind ≠ .leftDelim)
    (hdir : kind.isDirective = false) :
    kind.separator inBody kind' = if inBody then [' '] else [] := by
  rw [separator, if_neg fun hand => h hand.1, hdir]
  simp

/-- A token that leads to a state is followed by the gap of this state. -/
theorem Rule.separator_eq (h : Rule d front s m taken rest (.finish kind (some next)) m')
    {kind' : TokenKind} (hkind' : kind'.isOutside = next.isOutside) :
    kind.bodyBehind s.inBody = next.inBody ∧ kind.separator next.inBody kind' = next.gap := by
  cases h with
  | text _ _ hcalls =>
    cases hcalls <;> exact ⟨rfl, TokenKind.separator_of_ne (by decide) rfl⟩
  | openComment =>
    refine ⟨rfl, ?_⟩
    rw [TokenKind.separator, if_pos ⟨rfl, hkind'⟩]
    rfl
  | openAction =>
    refine ⟨rfl, ?_⟩
    rw [TokenKind.separator, hkind']
    rfl
  | closeAction | colonEquals | leftParen | rightParen | lineEnd | closeDirective | closeExtends =>
    exact ⟨rfl, TokenKind.separator_of_ne (by decide) rfl⟩
  | run _ _ hruns => cases hruns <;> exact ⟨rfl, TokenKind.separator_of_ne (by decide) rfl⟩
  | @directive _ dir =>
    refine ⟨rfl, ?_⟩
    rw [TokenKind.separator, if_neg (by simp), if_neg (by simp [TokenKind.isDirective])]
    rfl
  | @openDirective _ extends_ =>
    cases extends_ <;> exact ⟨rfl, TokenKind.separator_of_ne (by decide) rfl⟩
  | @word _ resume =>
    rcases wordKind_cases taken with hw | ⟨k, hw, -⟩
    · rw [hw]
      cases resume <;> exact ⟨rfl, TokenKind.separator_of_ne (by decide) rfl⟩
    · rw [hw]
      cases resume <;> exact ⟨rfl, TokenKind.separator_of_ne (by simp) rfl⟩
  | @string _ resume =>
    cases resume <;> exact ⟨rfl, TokenKind.separator_of_ne (by decide) rfl⟩

theorem Rule.of_hold (h : Rule d front s m taken rest (.hold next) m') :
    next.inBody = s.inBody ∧ next.isOutside = s.isOutside ∧ next.gap = [] := by
  cases h with
  | opener hcalls => cases hcalls <;> exact ⟨rfl, rfl, rfl⟩
  | _ => exact ⟨rfl, rfl, rfl⟩

theorem Rule.of_drop (h : Rule d front s m taken rest (.drop next) m') :
    next.inBody = s.inBody ∧ next.isOutside = s.isOutside := by
  cases h with
  | _ => exact ⟨rfl, rfl⟩

/-! ### Rules before what is written -/

/-- A rule that leads to a state before `rest` leads to it before `ahead`, too: both look the same,
or `ahead` begins with a blank where blanks may stand. -/
def State.Resumes (rest ahead : List Char) (s : State) : Prop :=
  s.Alike rest ahead ∨ s = .insideDirective ∧ BlankAhead ahead

theorem Rule.resume (h : Rule standard front s m taken rest e m') (hnext : e.next = some next)
    (hkept : ∀ s, e ≠ .drop s) (hr : next.Resumes rest ahead) (hfront : front = [] → front' = []) :
    Rule standard front' s m taken ahead e m' ∧ s.Alike (taken ++ rest) (taken ++ ahead) := by
  rcases hr with ha | ⟨rfl, hblank⟩
  · exact ⟨h.before hnext ha hfront, h.alike hnext ha⟩
  · cases h with
    | openDirective => exact ⟨.openDirective, rfl⟩
    | lineEnd heol =>
      refine ⟨.lineEnd (heol.before (.inr hblank)), ?_⟩
      cases heol <;> exact .inl rfl
    | @word _ resume _ _ hne hrun =>
      refine ⟨.word hne (hrun.of_blank hblank), ?_⟩
      cases resume with
      | action => cases hnext
      | insideDirective | closeDirective => exact head?_append_eq hne
    | @string _ resume _ _ hcs =>
      refine ⟨.string hcs, ?_⟩
      cases resume with
      | action => cases hnext
      | insideDirective | closeDirective => trivial
    | blanks => exact absurd rfl (hkept _)
    | text _ _ hcalls | opener hcalls =>
      cases hnext
      cases hcalls
    | _ => cases hnext

/-- Where something of the body of a directive begins, there is no blank. -/
theorem Rule.not_blankAhead (h : Rule d front .insideDirective m taken rest e m')
    (hnext : e.next = some next) (hkept : ∀ s, e ≠ .drop s) : ¬ BlankAhead (taken ++ rest) := by
  rintro ⟨c, hc, hb⟩
  simp only [isInlineBlank, Bool.or_eq_true, beq_iff_eq] at hb
  cases h with
  | blanks => exact absurd rfl (hkept _)
  | bodyQuote | closeDirective =>
    cases hc
    exact absurd hb (by decide)
  | bodyWord hword =>
    cases hc
    rcases hb with rfl | rfl
    · exact absurd hword (by decide)
    · exact absurd hword (by decide)
  | lineEnd heol =>
    cases heol <;> (cases hc; exact absurd hb (by decide))
  | _ => cases hnext

/-- The gap before a state is skipped, and then its rule applies. -/
theorem Rule.skip_gap (h : Rule standard front s m taken rest e m') (hnext : e.next = some next)
    (hkept : ∀ s, e ≠ .drop s) (ha : s.Alike (taken ++ rest) (taken ++ ahead))
    (front' : List Char) :
    s.Resumes (taken ++ rest) (s.gap ++ (taken ++ ahead)) ∧
      Path standard ⟨some s, front', s.held, s.gap ++ (taken ++ ahead), m⟩ []
        ⟨some s, front' ++ s.gap, s.held, taken ++ ahead, m⟩ := by
  cases s with
  | comment =>
    cases h with
    | comment => exact absurd rfl (hkept _)
    | _ => cases hnext
  | insideDirective =>
    refine ⟨.inr ⟨rfl, ' ', rfl, rfl⟩, .silent (.drop (.blanks (List.cons_ne_nil ' ' []) ?_)) .refl⟩
    refine ⟨?_, ?_⟩
    · intro c hc
      cases List.mem_singleton.mp hc
      rfl
    · intro c hc
      rw [Bool.eq_false_iff]
      intro hb
      -- What is ahead now begins as what was ahead.
      have hno := h.not_blankAhead hnext hkept
      rcases ha with heq | ⟨hblank, -⟩
      · exact hno ⟨c, heq ▸ hc, hb⟩
      · exact hno hblank
  | _ =>
    refine ⟨.inl ha, ?_⟩
    simp only [State.gap, List.append_nil, List.nil_append]
    exact .refl

/-- The gap of a state is written behind some text only, or is empty. -/
theorem State.append_gap_eq_nil (hs : s = .insideDirective → front ≠ []) (hcomment : s ≠ .comment)
    (hfront : front = [] → front' = []) (hnil : front = []) : front' ++ s.gap = [] := by
  rw [hfront hnil]
  cases s with
  | comment => exact absurd rfl hcomment
  | insideDirective => exact absurd hnil (hs rfl)
  | _ => rfl

theorem Rule.ne_comment (h : Rule d front s m taken rest e m') (hnext : e.next = some next)
    (hkept : ∀ s, e ≠ .drop s) : s ≠ .comment := by
  rintro rfl
  cases h with
  | comment => exact absurd rfl (hkept _)
  | _ => cases hnext

/-- Before what is written, a rule applies behind the gap of its state. -/
theorem Rule.behind_gap (h : Rule standard front s m taken rest e m') (hnext : e.next = some next)
    (hkept : ∀ s, e ≠ .drop s) (hr : next.Resumes rest ahead)
    (hbody : s = .insideDirective → front ≠ []) :
    s.Resumes (taken ++ rest) (s.gap ++ (taken ++ ahead)) ∧
    ∀ front', (front = [] → front' = []) →
      (front = [] → front' ++ s.gap = []) ∧
      Path standard ⟨some s, front', s.held, s.gap ++ (taken ++ ahead), m⟩ []
        ⟨some s, front' ++ s.gap, s.held, taken ++ ahead, m⟩ ∧
      Rule standard (front' ++ s.gap) s m taken ahead e m' := by
  have hskip := h.skip_gap hnext hkept (h.resume hnext hkept hr id).2
  refine ⟨(hskip []).1, ?_⟩
  intro front' hfront
  have hfront' := State.append_gap_eq_nil hbody (h.ne_comment hnext hkept) hfront
  exact ⟨hfront', (hskip front').2, (h.resume hnext hkept hr hfront').1⟩

/-! ### Places before what is written -/

/-- A place `p` in the state `s` with the tokens `ts` still to come, matched with one before the
text `ahead` that is written for these tokens. -/
structure Unlexes (p : Place) (s : State) (ts : List Token) (ahead : List Char) : Prop where
  text_eq : p.held ++ ahead = unlexFrom s.inBody ts
  resumes : s.Resumes p.rest (s.gap ++ ahead)
  path : ∀ front, (p.front = [] → front = []) → ∃ us q, q.state = none ∧
    us.map Token.content = ts.map Token.content ∧
    Path standard ⟨some s, front, p.held, s.gap ++ ahead, p.memory⟩ us q

namespace Unlexes

theorem finish (hr : Rule standard front s m taken rest (.finish kind (some next)) m')
    (hbody : s = .insideDirective → front ≠ [])
    (hts : ∃ t us, ts = t :: us ∧ t.kind.isOutside = next.isOutside)
    (h : Unlexes ⟨some next, front ++ (s.held ++ taken), [], rest, m'⟩ next ts ahead) :
    Unlexes ⟨some s, front, s.held, taken ++ rest, m⟩ s (⟨kind, size front, s.held ++ taken⟩ :: ts)
      (taken ++ (next.gap ++ ahead)) := by
  obtain ⟨hresumes, hbehind⟩ := hr.behind_gap rfl (fun s => nofun) h.resumes hbody
  refine ⟨?_, hresumes, ?_⟩
  · obtain ⟨t, us, rfl, ht⟩ := hts
    obtain ⟨hinBody, hseparator⟩ := hr.separator_eq ht
    show _ = s.held ++ taken ++ kind.separator (kind.bodyBehind s.inBody) t.kind ++
      unlexFrom (kind.bodyBehind s.inBody) (t :: us)
    rw [hinBody, hseparator, ← h.text_eq]
    simp
  · intro front' hfront
    obtain ⟨-, hskip, hrule⟩ := hbehind front' hfront
    have hne : s.held ++ taken ≠ [] := List.append_ne_nil_of_right_ne_nil s.held hr.taken_ne_nil
    obtain ⟨us, q, hq, hus, hpath⟩ := h.path (front' ++ s.gap ++ (s.held ++ taken))
      fun hnil => absurd (List.append_eq_nil_iff.mp hnil).2 hne
    refine ⟨_, q, hq, ?_, hskip.trans (.token (.finish hrule) hpath)⟩
    rw [List.nil_append, List.map_cons, List.map_cons, hus]
    rfl

theorem hold (hr : Rule standard front s m taken rest (.hold next) m')
    (hbody : s = .insideDirective → front ≠ [])
    (h : Unlexes ⟨some next, front, s.held ++ taken, rest, m'⟩ next ts ahead) :
    Unlexes ⟨some s, front, s.held, taken ++ rest, m⟩ s ts (taken ++ ahead) := by
  obtain ⟨hinBody, -, hgap⟩ := hr.of_hold
  have hresumes := h.resumes
  rw [hgap, List.nil_append] at hresumes
  obtain ⟨hresumes', hbehind⟩ := hr.behind_gap rfl (fun s => nofun) hresumes hbody
  refine ⟨?_, hresumes', ?_⟩
  · have htext := h.text_eq
    rwa [List.append_assoc, hinBody] at htext
  · intro front' hfront
    obtain ⟨hfront', hskip, hrule⟩ := hbehind front' hfront
    obtain ⟨us, q, hq, hus, hpath⟩ := h.path (front' ++ s.gap) hfront'
    rw [hgap, List.nil_append] at hpath
    exact ⟨us, q, hq, hus, hskip.trans (.silent (.hold hrule) hpath)⟩

/-- One blank stands for all. -/
theorem blanks {run : List Char} (hne : run ≠ [])
    (h : Unlexes ⟨some .insideDirective, front ++ run, [], rest, m⟩ .insideDirective ts ahead) :
    Unlexes ⟨some .insideDirective, front, [], run ++ rest, m⟩ .insideDirective ts ahead := by
  refine ⟨h.text_eq, .inr ⟨rfl, ' ', rfl, rfl⟩, ?_⟩
  intro front' _
  exact h.path front' fun hnil => absurd (List.append_eq_nil_iff.mp hnil).2 hne

/-- The empty comment stands for every comment. -/
theorem comment {body : List Char} (hne : body ≠ [])
    (h : Unlexes ⟨some .text, front ++ body, [], rest, m⟩ .text ts ahead) :
    Unlexes ⟨some .comment, front, [], body ++ rest, m⟩ .comment ts ahead := by
  refine ⟨h.text_eq, .inl ?_, ?_⟩
  · exact List.prefix_append commentOpen _
  · intro front' _
    obtain ⟨us, q, hq, hus, hpath⟩ := h.path (front' ++ State.comment.gap)
      fun hnil => absurd (List.append_eq_nil_iff.mp hnil).2 hne
    have hskip : Rule standard front' .comment m State.comment.gap ahead (.drop .text) m :=
      .comment (by decide)
    exact ⟨us, q, hq, hus, .silent (.drop hskip) hpath⟩

theorem eof (offset : Nat) : Unlexes ⟨some .eof, front, [], [], m⟩ .eof [⟨.eof, offset, []⟩] [] := by
  refine ⟨rfl, .inl rfl, ?_⟩
  intro front' _
  exact ⟨[⟨.eof, size front', []⟩], ⟨none, front' ++ [], [], [], m⟩, rfl, rfl,
    .token (.finish .eof) .refl⟩

end Unlexes

/-! ### The whole scan -/

theorem Rule.eof_of_halt (h : Rule d front s m taken rest (.finish kind none) m')
    (hok : kind.isError = false) :
    s = .eof ∧ kind = .eof ∧ taken = [] ∧ rest = [] := by
  cases h with
  | eof => exact ⟨rfl, rfl, rfl, rfl⟩
  | _ => cases hok

/-- A path to the end begins with a token of the sort that its state leads to. -/
theorem Path.exists_head (h : Path d p ts q) (hs : p.state = some s) (hq : q.state = none)
    (hok : ∀ t ∈ ts, t.kind.isError = false) :
    ∃ t us, ts = t :: us ∧ t.kind.isOutside = s.isOutside := by
  induction h generalizing s with
  | refl => cases hs.symm.trans hq
  | step hstep _ ih =>
    cases hstep with
    | finish hr =>
      cases hs
      exact ⟨_, _, rfl, hr.isOutside_eq (hok _ List.mem_cons_self)⟩
    | drop hr =>
      cases hs
      obtain ⟨t, us, rfl, ht⟩ := ih rfl hq hok
      exact ⟨t, us, rfl, ht.trans hr.of_drop.2⟩
    | hold hr =>
      cases hs
      obtain ⟨t, us, rfl, ht⟩ := ih rfl hq hok
      exact ⟨t, us, rfl, ht.trans hr.of_hold.2.1⟩

/-- Every place on a path to the end is matched with one before what is written. -/
theorem Path.unlexes (h : Path standard p ts q) (hready : p.Ready standard)
    (hs : p.state = some s) (hbody : s = .insideDirective → p.front ≠ []) (hq : q.state = none)
    (hok : ∀ t ∈ ts, t.kind.isError = false) : ∃ ahead, Unlexes p s ts ahead := by
  induction h generalizing s with
  | refl => cases hs.symm.trans hq
  | step hstep hpath ih =>
    have hheld := hready.held_of_state hs
    have hready' := hready.step hstep
    cases hstep with
    | @finish _ m front held taken rest kind next m' hr =>
      cases hs
      cases hheld
      obtain ⟨hkind, hok⟩ := List.forall_mem_cons.mp hok
      cases next with
      | none =>
        obtain ⟨rfl, rfl, rfl, rfl⟩ := hr.eof_of_halt hkind
        cases hpath with
        | refl => exact ⟨[], .eof _⟩
        | step hstep' => exact absurd hstep' (Place.final_of_halted rfl _ _)
      | some next =>
        have hne : front ++ (s.held ++ taken) ≠ [] :=
          List.append_ne_nil_of_right_ne_nil _
            (List.append_ne_nil_of_right_ne_nil _ hr.taken_ne_nil)
        obtain ⟨ahead, hahead⟩ := ih hready' rfl (fun _ => hne) hq hok
        exact ⟨_, .finish hr hbody (hpath.exists_head rfl hq hok) hahead⟩
    | hold hr =>
      cases hs
      cases hheld
      obtain ⟨ahead, hahead⟩ := ih hready' rfl (fun hnext => absurd hnext hr.next_of_hold.2) hq hok
      exact ⟨_, .hold hr hbody hahead⟩
    | drop hr =>
      cases hs
      cases hheld
      cases hr with
      | comment =>
        obtain ⟨ahead, hahead⟩ := ih hready' rfl nofun hq hok
        exact ⟨ahead, .comment (by simp [commentOpen]) hahead⟩
      | @blanks _ run _ hne =>
        obtain ⟨ahead, hahead⟩ := ih hready' rfl
          (fun _ => List.append_ne_nil_of_right_ne_nil _ hne) hq hok
        exact ⟨ahead, .blanks hne hahead⟩

/-- A stream that ends with the end of the template has no error. -/
theorem Ended.isError_eq_false {t : Token} (h : Ended (ts ++ [t])) (ht : t.kind = .eof) :
    ∀ u ∈ ts ++ [t], u.kind.isError = false := by
  obtain ⟨before, t', hts, -, hbefore⟩ := h
  obtain ⟨rfl, -⟩ := List.append_inj' hts rfl
  intro u hu
  rcases List.mem_append.mp hu with hu | hu
  · have hterminal := hbefore u hu
    cases hkind : u.kind <;> simp_all [TokenKind.isTerminal, TokenKind.isError]
  · cases List.mem_singleton.mp hu
    rw [ht]
    rfl

/-- Scanning what is written for the tokens of a template gives the same kinds and texts again. -/
theorem tokenize_unlex {source : List Char} {t : Token} (h : tokenize source = .ok (ts ++ [t]))
    (hend : t.kind = .eof) :
    ∃ us, tokenize (unlex (ts ++ [t])) = .ok us ∧
      us.map Token.content = (ts ++ [t]).map Token.content := by
  obtain ⟨q, hpath, hq⟩ := Lexer.exists_path_of_tokens h
  have hok := (hpath.run.ended hq).isError_eq_false hend
  obtain ⟨ahead, hahead⟩ := hpath.unlexes (Place.ready_start _ source) rfl nofun hq hok
  obtain ⟨us, q', hq', hus, hpath'⟩ := hahead.path [] fun _ => rfl
  obtain rfl : ahead = unlex (ts ++ [t]) := hahead.text_eq
  exact ⟨us, Lexer.tokens_of_path _ hpath' hq', hus⟩

/-- An import over two lines with blanks in it, and a comment behind it. What is written has one
blank between the tokens of the import, and an empty comment. -/
theorem tokenize_unlex_import :
    ∃ us, tokenize "@import( a \r \"\" )\x7b\x7b/**/\x7d\x7d".toList = .ok us ∧
      us.map Token.content = [(.directive .import_, "@import".toList), (.openDirective, ['(']),
        (.identifier, ['a']), (.endOfLine, ['\r']), (.string, "\"\"".toList),
        (.closeDirective, [')']), (.leftDelim, "\x7b\x7b".toList), (.eof, [])] := by
  have hunlex : unlex ([⟨.directive .import_, 0, "@import".toList⟩, ⟨.openDirective, 7, ['(']⟩,
      ⟨.identifier, 8, ['a']⟩, ⟨.endOfLine, 9, ['\r']⟩, ⟨.string, 12, "\"\"".toList⟩,
      ⟨.closeDirective, 14, [')']⟩, ⟨.leftDelim, 15, "\x7b\x7b".toList⟩] ++ [⟨.eof, 24, []⟩]) =
      "@import( a \r \"\" )\x7b\x7b/**/\x7d\x7d".toList := by decide +kernel
  rw [← hunlex]
  apply @tokenize_unlex _ "@import(a\r  \"\")\x7b\x7b/*c*/\x7d\x7d".toList
  · decide +kernel
  · rfl

end TemplateLexer
