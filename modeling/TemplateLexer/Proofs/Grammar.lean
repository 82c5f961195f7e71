import TemplateLexer.Proofs.Runs

/-!
# The grammar of token streams

The kinds of the tokens of a stream form a sentence: a sequence of items, and then the end. An item
is literal text, a comment, of which only the left delimiter is left, an action whose parentheses
are balanced, or a directive. A stream that ends in an error is the beginning of a sentence, cut
short.

The state of a lexer says what is begun and not yet complete (`Begun`). From this every rule goes on
in one of three ways: it adds to what is begun, it completes an item, or it fails; and what is begun
can always be completed (`Begun.completes`).
-/

namespace TemplateLexer

namespace TokenKind

/-- What may stand in the body of a directive other than an extends directive. -/
def isBodyPart : TokenKind → Bool
  | string | identifier | endOfLine => true
  | keyword k => k != .dot
  | _ => false

/-- What may stand between the delimiters of an action. -/
def isActionPart : TokenKind → Bool
  | space | string | leftParen | rightParen | pipe | colonEquals => true
  | var | field | number | char | identifier | keyword _ => true
  | _ => false

end TokenKind

/-! ### Sentences -/

/-- Nowhere in `kinds` do closing parentheses outnumber opening ones, and at the end `depth` are
open. With no parenthesis open, `kinds` is balanced. -/
structure Nested (kinds : List TokenKind) (depth : Nat) : Prop where
  prefixes : ∀ ks, ks <+: kinds → ks.count .rightParen ≤ ks.count .leftParen
  total : kinds.count .leftParen = kinds.count .rightParen + depth

/-- A part of a template, by the kinds of its tokens. -/
inductive Item : List TokenKind → Prop
  | text : Item [.text]
  | comment : Item [.leftDelim]
  | action {body : List TokenKind} : (∀ k ∈ body, k.isActionPart = true) → Nested body 0 →
      Item (.leftDelim :: body ++ [.rightDelim])
  | directive {dir : Directive} {body : List TokenKind} : dir.isExtends = false →
      (∀ k ∈ body, k.isBodyPart = true) →
      Item (.directive dir :: .openDirective :: body ++ [.closeDirective])
  | extends_ : Item [.directive .extends_, .openDirective, .string, .closeDirective]

/-- Items in sequence. Literal text is one item as far as it goes. -/
structure Items (items : List (List TokenKind)) : Prop where
  item : ∀ i ∈ items, Item i
  apart : ¬ [[.text], [.text]] <:+: items

/-- Items, and then the end. -/
def Sentence (kinds : List TokenKind) : Prop :=
  ∃ items, Items items ∧ kinds = items.flatten ++ [.eof]

theorem items_nil : Items [] where
  item := by simp
  apart := by simp

/-- Another item goes at the end, unless it is text behind text. -/
theorem Items.concat {items : List (List TokenKind)} {i : List TokenKind} (h : Items items)
    (hi : Item i) (hsep : i = [.text] → items.getLast? ≠ some [.text]) : Items (items ++ [i]) where
  item := by
    intro j hj
    rcases List.mem_append.mp hj with hj | hj
    · exact h.item j hj
    · rw [List.mem_singleton.mp hj]
      exact hi
  apart := by
    intro hinfix
    -- Two texts in a row are among the old items, or the new item is the second of them.
    rcases List.infix_concat_iff.mp hinfix with hsuffix | hinfix
    · rcases List.suffix_concat_iff.mp hsuffix with hnil | ⟨texts, htexts, hsuffix⟩
      · cases hnil
      · have heq : [[TokenKind.text]] ++ [[.text]] = texts ++ [i] := htexts
        obtain ⟨rfl, hi⟩ := List.append_inj' heq rfl
        obtain ⟨before, rfl⟩ := hsuffix
        cases hi
        exact hsep rfl (by simp)
    · exact h.apart hinfix

/-! ### Parentheses -/

namespace Nested

variable {kinds : List TokenKind} {n : Nat}

theorem nil : Nested [] 0 where
  prefixes := by
    intro ks hks
    rw [List.prefix_nil.mp hks]
    exact Nat.le_refl _
  total := rfl

theorem concat {k : TokenKind} {n' : Nat} (h : Nested kinds n)
    (htotal : (kinds ++ [k]).count .leftParen = (kinds ++ [k]).count .rightParen + n') :
    Nested (kinds ++ [k]) n' where
  prefixes := by
    intro ks hks
    rcases List.prefix_concat_iff.mp hks with rfl | hks
    · omega
    · exact h.prefixes ks hks
  total := htotal

theorem concat_other {k : TokenKind} (h : Nested kinds n) (hl : k ≠ .leftParen)
    (hr : k ≠ .rightParen) : Nested (kinds ++ [k]) n := by
  apply h.concat
  simp [List.count_append, hl, hr, h.total]

theorem concat_left (h : Nested kinds n) : Nested (kinds ++ [.leftParen]) (n + 1) := by
  apply h.concat
  simp [List.count_append, h.total]
  omega

theorem concat_right (h : Nested kinds (n + 1)) : Nested (kinds ++ [.rightParen]) n := by
  apply h.concat
  simp [List.count_append, h.total]
  omega

/-- Open parentheses can be closed. -/
theorem close (h : Nested kinds n) : Nested (kinds ++ List.replicate n .rightParen) 0 := by
  -- Each closing parenthesis leaves one less to close.
  induction n generalizing kinds with
  | zero =>
    rw [List.replicate_zero, List.append_nil]
    exact h
  | succ n ih =>
    have := ih h.concat_right
    rwa [List.append_assoc, List.singleton_append, ← List.replicate_succ] at this

end Nested

/-! ### What is begun -/

/-- In a state, with `n` open parentheses, the tokens `begun` of an item that is not complete were
handed out. -/
inductive Begun : State → Nat → List TokenKind → Prop
  | text {n : Nat} : Begun .text n []
  | leftDelim {n : Nat} : Begun .leftDelim n []
  | directive {dir : Directive} {nameLen n : Nat} : Begun (.directive dir nameLen) n []
  | eof {n : Nat} : Begun .eof n []
  | comment {n : Nat} : Begun .comment n [.leftDelim]
  | action {n : Nat} {body : List TokenKind} : (∀ k ∈ body, k.isActionPart = true) →
      Nested body n → Begun .action n (.leftDelim :: body)
  | actionWord {n : Nat} {begun : List TokenKind} : Begun .action n begun →
      Begun (.identifier .action) n begun
  | actionQuote {n : Nat} {begun : List TokenKind} : Begun .action n begun →
      Begun (.quote .action) n begun
  | openDirective {dir : Directive} {n : Nat} :
      Begun (.openDirective dir.isExtends) n [.directive dir]
  | insideDirective {dir : Directive} {n : Nat} {body : List TokenKind} : dir.isExtends = false →
      (∀ k ∈ body, k.isBodyPart = true) →
      Begun .insideDirective n (.directive dir :: .openDirective :: body)
  | bodyWord {n : Nat} {begun : List TokenKind} : Begun .insideDirective n begun →
      Begun (.identifier .insideDirective) n begun
  | bodyQuote {n : Nat} {begun : List TokenKind} : Begun .insideDirective n begun →
      Begun (.quote .insideDirective) n begun
  | extendsParam {n : Nat} : Begun .extendsParam n [.directive .extends_, .openDirective]
  | extendsQuote {n : Nat} : Begun (.quote .closeDirective) n [.directive .extends_, .openDirective]
  | closeDirective {n : Nat} :
      Begun .closeDirective n [.directive .extends_, .openDirective, .string]

namespace Begun

variable {n : Nat} {begun : List TokenKind} {k : TokenKind}

theorem action_concat (h : Begun .action n begun) (hk : k.isActionPart = true)
    (hl : k ≠ .leftParen) (hr : k ≠ .rightParen) : Begun .action n (begun ++ [k]) := by
  cases h with
  | action hbody hnested =>
    refine .action ?_ (hnested.concat_other hl hr)
    simpa [or_imp, forall_and] using ⟨hbody, hk⟩

theorem action_left (h : Begun .action n begun) :
    Begun .action (n + 1) (begun ++ [.leftParen]) := by
  cases h with
  | action hbody hnested =>
    refine .action ?_ hnested.concat_left
    simpa [or_imp, forall_and] using ⟨hbody, rfl⟩

theorem action_right (h : Begun .action (n + 1) begun) :
    Begun .action n (begun ++ [.rightParen]) := by
  cases h with
  | action hbody hnested =>
    refine .action ?_ hnested.concat_right
    simpa [or_imp, forall_and] using ⟨hbody, rfl⟩

theorem directive_concat (h : Begun .insideDirective n begun) (hk : k.isBodyPart = true) :
    Begun .insideDirective n (begun ++ [k]) := by
  cases h with
  | insideDirective hdir hbody =>
    refine .insideDirective hdir ?_
    simpa [or_imp, forall_and] using ⟨hbody, hk⟩

/-- What is begun can be completed to an item. -/
theorem completes {s : State} (h : Begun s n begun) :
    begun = [] ∨ ∃ more, Item (begun ++ more) ∧ begun ++ more ≠ [.text] := by
  have haction : ∀ {begun}, Begun .action n begun →
      ∃ more, Item (begun ++ more) ∧ begun ++ more ≠ [.text] := by
    intro begun h
    cases h with
    | @action _ body hbody hnested =>
      -- Close what is open, and then the action.
      refine ⟨List.replicate n .rightParen ++ [.rightDelim], ?_, by simp⟩
      have hclosed : ∀ k ∈ body ++ List.replicate n .rightParen, k.isActionPart = true := by
        intro k hk
        rcases List.mem_append.mp hk with hk | hk
        · exact hbody k hk
        · rw [List.eq_of_mem_replicate hk]
          rfl
      have := Item.action hclosed hnested.close
      simpa using this
  have hdirective : ∀ {begun}, Begun .insideDirective n begun →
      ∃ more, Item (begun ++ more) ∧ begun ++ more ≠ [.text] := by
    intro begun h
    cases h with
    | insideDirective hdir hbody => exact ⟨[.closeDirective], .directive hdir hbody, by simp⟩
  cases h with
  | text | leftDelim | directive | eof => exact .inl rfl
  | comment => exact .inr ⟨[], .comment, by simp⟩
  | action hbody hnested => exact .inr (haction (.action hbody hnested))
  | actionWord h | actionQuote h => exact .inr (haction h)
  | @openDirective dir =>
    right
    cases hdir : dir.isExtends with
    | false =>
      have hitem : Item (.directive dir :: .openDirective :: [] ++ [.closeDirective]) :=
        .directive hdir (by simp)
      exact ⟨[.openDirective, .closeDirective], hitem, by simp⟩
    | true =>
      cases dir with
      | extends_ => exact ⟨[.openDirective, .string, .closeDirective], .extends_, by simp⟩
      | _ => cases hdir
  | insideDirective hdir hbody => exact .inr (hdirective (.insideDirective hdir hbody))
  | bodyWord h | bodyQuote h => exact .inr (hdirective h)
  | extendsParam | extendsQuote => exact .inr ⟨[.string, .closeDirective], .extends_, by simp⟩
  | closeDirective => exact .inr ⟨[.closeDirective], .extends_, by simp⟩

end Begun

/-! ### Streams -/

/-- What was handed out, where the scan goes on in `state` with `n` open parentheses. -/
inductive Parsed : List TokenKind → Option State → Nat → Prop
  /-- Items, and an item that is begun. -/
  | going {items : List (List TokenKind)} {begun : List TokenKind} {s : State} {n : Nat} :
      Items items → (s = .text → items.getLast? ≠ some [.text]) → Begun s n begun →
      Parsed (items.flatten ++ begun) (some s) n
  /-- A sentence. -/
  | complete {kinds : List TokenKind} {n : Nat} : Sentence kinds → Parsed kinds none n
  /-- A sentence that an error cuts short. -/
  | broken {kinds more : List TokenKind} {e : LexicalError} {n : Nat} : more ≠ [] →
      Sentence (kinds ++ more) → Parsed (kinds ++ [.error e]) none n

namespace Parsed

variable {items : List (List TokenKind)} {begun kinds : List TokenKind} {s : State} {n : Nat}
  {k : TokenKind}

theorem start : Parsed [] (some .text) 0 := .going items_nil (by simp) .text

/-- The item that is begun is complete. -/
theorem finish (hitems : Items items) (hitem : Item begun)
    (hsep : begun = [.text] → items.getLast? ≠ some [.text] ∧ s ≠ .text) (h : Begun s n []) :
    Parsed (items.flatten ++ begun) (some s) n := by
  have hitems' := hitems.concat hitem fun heq => (hsep heq).1
  have hlast : s = .text → (items ++ [begun]).getLast? ≠ some [.text] := by
    intro hs heq
    rw [List.getLast?_concat] at heq
    exact (hsep (Option.some.inj heq)).2 hs
  simpa using Parsed.going hitems' hlast h

/-- An error may come at any time. -/
theorem fail (hitems : Items items) (h : Begun s n begun) (e : LexicalError) (n' : Nat) :
    Parsed (items.flatten ++ (begun ++ [.error e])) none n' := by
  rw [← List.append_assoc]
  rcases h.completes with rfl | ⟨more, hitem, hne⟩
  · exact .broken (List.cons_ne_nil .eof []) ⟨items, hitems, by simp⟩
  · have hitems' := hitems.concat hitem fun heq => absurd heq hne
    have hmore : more ++ [.eof] ≠ [] := by simp
    exact .broken hmore ⟨_, hitems', by simp⟩

end Parsed

/-! ### Rules go on with a sentence -/

theorem Delimiters.Calls.begun {d : Delimiters} {cs : List Char} {s : State} (h : d.Calls cs s)
    (n : Nat) : s ≠ .text ∧ Begun s n [] := by
  cases h with
  | delimiter => exact ⟨by simp, .leftDelim⟩
  | directive => exact ⟨by simp, .directive⟩
  | eof => exact ⟨by simp, .eof⟩

theorem ActionStart.Runs.isActionPart {start : ActionStart} {kind : TokenKind} {p : Char → Bool}
    (h : start.Runs kind p) :
    kind.isActionPart = true ∧ kind ≠ .leftParen ∧ kind ≠ .rightParen := by
  cases h <;> simp [TokenKind.isActionPart]

theorem isBodyPart_wordKind (word : List Char) : (wordKind word).isBodyPart = true := by
  rcases wordKind_cases word with hw | ⟨k, hw, hk⟩
  · rw [hw]
    rfl
  · rw [hw]
    exact bne_iff_ne.mpr hk

theorem isActionPart_wordKind (word : List Char) :
    (wordKind word).isActionPart = true ∧ wordKind word ≠ .leftParen ∧
      wordKind word ≠ .rightParen := by
  rcases wordKind_cases word with hw | ⟨k, hw, -⟩
  · rw [hw]
    simp [TokenKind.isActionPart]
  · rw [hw]
    simp [TokenKind.isActionPart]

variable {d : Delimiters} {front taken rest : List Char} {s next : State} {m m' : Memory}
  {kinds : List TokenKind}

theorem Rule.parsed_of_finish {kind : TokenKind} {next : Option State}
    (hr : Rule d front s m taken rest (.finish kind next) m')
    (h : Parsed kinds (some s) m.openParens) : Parsed (kinds ++ [kind]) next m'.openParens := by
  cases h with
  | @going items begun _ _ hitems hlast hbegun =>
    rw [List.append_assoc]
    -- What is begun goes on, unless the rule closes an item or ends the template. The last case is
    -- that of the errors.
    cases hr with
    | text _ _ hcalls =>
      obtain ⟨hne, hb⟩ := hcalls.begun m.openParens
      cases hbegun
      exact .finish hitems .text (fun _ => ⟨hlast rfl, hne⟩) hb
    | eof =>
      cases hbegun
      exact .complete ⟨items, hitems, rfl⟩
    | openComment =>
      cases hbegun
      exact .going hitems (by simp) .comment
    | openAction =>
      cases hbegun
      exact .going hitems (by simp) (.action (by simp) .nil)
    | closeAction hdepth =>
      cases hbegun with
      | action hbody hnested =>
        rw [hdepth] at hnested
        exact .finish hitems (.action hbody hnested) (by simp) .text
    | run _ _ hruns =>
      obtain ⟨hpart, hl, hr⟩ := hruns.isActionPart
      exact .going hitems (by simp) (hbegun.action_concat hpart hl hr)
    | colonEquals => exact .going hitems (by simp) (hbegun.action_concat rfl (by simp) (by simp))
    | leftParen => exact .going hitems (by simp) hbegun.action_left
    | rightParen _ hdepth =>
      rw [hdepth] at hbegun
      exact .going hitems (by simp) hbegun.action_right
    | directive =>
      cases hbegun
      exact .going hitems (by simp) .openDirective
    | openDirective =>
      cases hbegun with
      | @openDirective dir =>
        cases dir with
        | extends_ => exact .going hitems (by simp [Directive.isExtends]) .extendsParam
        | import_ | params | include_ =>
          exact .going hitems (by simp [Directive.isExtends]) (.insideDirective rfl (by simp))
    | lineEnd => exact .going hitems (by simp) (hbegun.directive_concat rfl)
    | closeDirective =>
      cases hbegun with
      | insideDirective hdir hbody =>
        exact .finish hitems (.directive hdir hbody) (by simp) .text
    | closeExtends =>
      cases hbegun
      exact .finish hitems .extends_ (by simp) .text
    | word =>
      cases hbegun with
      | actionWord hb =>
        obtain ⟨hpart, hl, hr⟩ := isActionPart_wordKind taken
        exact .going hitems (by simp [Resume.state]) (hb.action_concat hpart hl hr)
      | bodyWord hb =>
        have hpart := isBodyPart_wordKind taken
        exact .going hitems (by simp [Resume.state]) (hb.directive_concat hpart)
    | string =>
      cases hbegun with
      | actionQuote hb =>
        exact .going hitems (by simp [Resume.state]) (hb.action_concat rfl (by simp) (by simp))
      | bodyQuote hb => exact .going hitems (by simp [Resume.state]) (hb.directive_concat rfl)
      | extendsQuote => exact .going hitems (by simp [Resume.state]) .closeDirective
    | _ => exact .fail hitems hbegun _ _

theorem Rule.parsed_of_drop (hr : Rule d front s m taken rest (.drop next) m')
    (h : Parsed kinds (some s) m.openParens) : Parsed kinds (some next) m'.openParens := by
  cases h with
  | going hitems hlast hbegun =>
    cases hr with
    | comment =>
      cases hbegun
      exact .finish hitems .comment (by simp) .text
    | blanks => exact .going hitems (by simp) hbegun

theorem Rule.parsed_of_hold (hr : Rule d front s m taken rest (.hold next) m')
    (h : Parsed kinds (some s) m.openParens) : Parsed kinds (some next) m'.openParens := by
  cases h with
  | going hitems hlast hbegun =>
    cases hr with
    | opener hcalls =>
      obtain ⟨hne, hb⟩ := hcalls.begun m.openParens
      cases hbegun
      exact .going hitems (fun heq => absurd heq hne) hb
    | actionQuote => exact .going hitems (by simp) (.actionQuote hbegun)
    | actionWord => exact .going hitems (by simp) (.actionWord hbegun)
    | bodyQuote => exact .going hitems (by simp) (.bodyQuote hbegun)
    | bodyWord => exact .going hitems (by simp) (.bodyWord hbegun)
    | extendsQuote =>
      cases hbegun
      exact .going hitems (by simp) .extendsQuote

/-- All along a run, the tokens handed out are those of a sentence that goes on. -/
theorem Run.parsed {source : List Char} {ts : List Token} {p : Place} (h : Run d source ts p) :
    Parsed (ts.map Token.kind) p.state p.memory.openParens := by
  induction h with
  | start => exact .start
  | step _ hs ih =>
    rw [List.map_append]
    cases hs with
    | finish hr => exact hr.parsed_of_finish ih
    | drop hr => simpa using hr.parsed_of_drop ih
    | hold hr => simpa using hr.parsed_of_hold ih

/-! ### Where a sentence ends -/

theorem Item.eof_not_mem {i : List TokenKind} (h : Item i) : .eof ∉ i := by
  cases h with
  | text | comment | extends_ => simp
  | @action body hbody =>
    intro hmem
    have hbody' : TokenKind.eof ∈ body := by simpa using hmem
    exact absurd (hbody _ hbody') (by simp [TokenKind.isActionPart])
  | @directive dir body _ hbody =>
    intro hmem
    have hbody' : TokenKind.eof ∈ body := by simpa using hmem
    exact absurd (hbody _ hbody') (by simp [TokenKind.isBodyPart])

/-- The end stands at the end of a sentence and nowhere else. -/
theorem Sentence.eof_not_mem {more : List TokenKind} (h : Sentence (kinds ++ more))
    (hmore : more ≠ []) : .eof ∉ kinds := by
  obtain ⟨items, hitems, heq⟩ := h
  -- The end is the last of `more`, so that `kinds` is made of items only.
  obtain ⟨more, k, rfl⟩ := List.eq_nil_or_concat more |>.resolve_left hmore
  rw [List.concat_eq_append, ← List.append_assoc] at heq
  obtain ⟨hkinds, -⟩ := List.append_inj' heq rfl
  intro hmem
  have : TokenKind.eof ∈ items.flatten := by
    rw [← hkinds]
    exact List.mem_append_left _ hmem
  obtain ⟨i, hi, hmem⟩ := List.mem_flatten.mp this
  exact (hitems.item i hi).eof_not_mem hmem

/-- The kinds of a stream are a sentence, or the beginning of one and an error; the end of the
template comes last in it or not at all. A stream is cut off only where more parentheses are open
than can be counted. -/
theorem Lexer.tokens_grammar (name : String) (source : List Char) (options : Options) :
    (∃ ts, (ofSource name source options).tokens = .ok ts ∧
      (Sentence (ts.map Token.kind) ∨
        ∃ ks e more, ts.map Token.kind = ks ++ [.error e] ∧ more ≠ [] ∧ Sentence (ks ++ more)) ∧
      ∀ t ∈ ts.dropLast, t.kind ≠ .eof) ∨
    ((ofSource name source options).tokens = .error .overflow ∧
      2 ^ 32 ≤ source.count '(') := by
  rcases tokens_ofSource name source options with ⟨ts, p, htokens, hrun, hend⟩ | hover
  · refine .inl ⟨ts, htokens, ?_⟩
    have hparsed := hrun.parsed
    rw [hend] at hparsed
    have hlast : ∀ t ∈ ts.dropLast, t.kind ∈ (ts.map Token.kind).dropLast := by
      intro t ht
      rw [← List.map_dropLast]
      exact List.mem_map_of_mem ht
    generalize ts.map Token.kind = kinds at hparsed hlast
    cases hparsed with
    | complete hsentence =>
      refine ⟨.inl hsentence, ?_⟩
      obtain ⟨items, -, rfl⟩ := id hsentence
      intro t ht heof
      apply hsentence.eof_not_mem (List.cons_ne_nil _ _)
      rw [← heof]
      simpa using hlast t ht
    | @broken ks more e _ hmore hsentence =>
      refine ⟨.inr ⟨ks, e, more, rfl, hmore, hsentence⟩, ?_⟩
      intro t ht heof
      apply hsentence.eof_not_mem hmore
      rw [← heof]
      simpa using hlast t ht
  · exact .inr hover

end TemplateLexer
