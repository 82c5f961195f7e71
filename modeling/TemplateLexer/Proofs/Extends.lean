import TemplateLexer.Proofs.Entry
import TemplateLexer.Proofs.Paths
import TemplateLexer.Proofs.Reports

/-!
# Extends directives come first

An extends directive is allowed once, and as the first thing in a template. A token for one is
therefore the first token of its stream. Where the scan of literal text comes to another one, the
text before it becomes a token, and the stream ends with an error: the directive is refused, and
none of its parts becomes a token (`Lexer.extends_ordered`).

Which of two errors this is depends on the first token alone (`refusal`), although the lexer has
only a flag to go by: the flag says that some token was for an extends directive, and this can only
be the first one (`Run.head_of_sawExtends`).
-/

namespace TemplateLexer

open Text
open Lexer (commentOpen commentClose)

variable {d : Delimiters} {source front taken rest : List Char} {ts before after : List Token}
  {p : Place} {s : State} {m m' : Memory} {t : Token}

/-! ### The first token -/

theorem Rule.front_of_extends {kind : TokenKind} {next : Option State}
    (h : Rule d front s m taken rest (.finish kind next) m') (hk : kind = .directive .extends_) :
    front = [] := by
  cases h with
  | directive hallowed =>
    cases hk
    exact (hallowed rfl).2
  | run _ _ hruns =>
    subst hk
    cases hruns
  | word => exact absurd hk (wordKind_ne _ rfl)
  | _ => cases hk

/-- No token comes before an extends directive, since nothing of the template does. -/
theorem Run.first_of_extends (h : Run d source ts p) (hts : ts = before ++ t :: after)
    (hk : t.kind = .directive .extends_) : before = [] ∧ t.offset = 0 := by
  obtain ⟨s, front, m, taken, rest, next, m', hrun, hr, hoffset, -⟩ := h.exists_rule_of_split hts
  obtain rfl := hr.front_of_extends hk
  have hlen := hrun.length_le
  simp only [size_nil, reduceCtorEq, if_false, Nat.add_zero, Nat.le_zero] at hlen
  exact ⟨List.length_eq_zero_iff.mp hlen, hoffset⟩

/-- The first token is for an extends directive. -/
def ExtendsAhead (ts : List Token) : Prop := ts.head?.map Token.kind = some (.directive .extends_)

instance (ts : List Token) : Decidable (ExtendsAhead ts) :=
  inferInstanceAs (Decidable (_ = _))

theorem Run.extendsAhead_iff (h : Run d source ts p) :
    ExtendsAhead ts ↔ ∃ u ∈ ts, u.kind = .directive .extends_ := by
  constructor
  · intro hhead
    obtain ⟨u, hu, hk⟩ := Option.map_eq_some_iff.mp hhead
    exact ⟨u, List.mem_of_head? hu, hk⟩
  · rintro ⟨u, hu, hk⟩
    obtain ⟨before, after, rfl⟩ := List.append_of_mem hu
    obtain ⟨rfl, -⟩ := h.first_of_extends rfl hk
    exact congrArg some hk

/-- The flag speaks of the first token. -/
theorem Run.head_of_sawExtends (h : Run d source ts p) :
    p.memory.sawExtends = true ↔ ExtendsAhead ts := by
  rw [h.sawExtends_iff, h.extendsAhead_iff]

/-! ### Refused directives -/

/-- The error for an extends directive that is refused, after the tokens `ts`. -/
def refusal (ts : List Token) : LexicalError :=
  if ExtendsAhead ts then .duplicateExtends else .misplacedExtends

/-- What a stream has to say about extends directives. -/
structure ExtendsFirst (d : Delimiters) (source : List Char) (ts : List Token) : Prop where
  /-- A token for one is the first token, so that there is one at most. -/
  first : ∀ before t after, ts = before ++ t :: after → t.kind = .directive .extends_ →
    before = [] ∧ t.offset = 0
  /-- An error for one is the last token. It stands before an extends directive that is not at the
  start, and takes nothing. -/
  refused : ∀ before t after, ts = before ++ t :: after →
    t.kind = .error .duplicateExtends ∨ t.kind = .error .misplacedExtends →
    after = [] ∧ t.kind = .error (refusal before) ∧ 0 < t.offset ∧ t.text = [] ∧
      ∃ rest, drop? source t.offset = some rest ∧ d.head .extends_ <+: rest

theorem Run.offset_pos (h : Run d source ts p) (hts : ts = before ++ t :: after)
    (hbefore : before ≠ []) : 0 < t.offset := by
  obtain ⟨s, front, m, taken, rest, next, m', hrun, -, hoffset, -⟩ := h.exists_rule_of_split hts
  have hlen := hrun.length_le
  have hpos := List.length_pos_iff.mpr hbefore
  simp only [reduceCtorEq, if_false, Nat.add_zero] at hlen
  omega

/-- Nothing comes behind an error. -/
theorem Run.after_of_error {e : LexicalError} (h : Run d source ts p)
    (hts : ts = before ++ t :: after) (hk : t.kind = .error e) : after = [] := by
  have hterminal : t.kind.isTerminal = true := by rw [hk]; rfl
  have hhalted : p.state = none := h.state_eq_none_iff.mpr ⟨t, by simp [hts], hterminal⟩
  obtain ⟨others, u, hlast, -, hothers⟩ := h.ended hhalted
  rcases List.eq_nil_or_concat after with rfl | ⟨more, v, rfl⟩
  · rfl
  · -- The error would be among the tokens before the last one.
    rw [hlast, List.concat_eq_append, ← List.cons_append, ← List.append_assoc] at hts
    obtain ⟨rfl, -⟩ := List.append_inj' hts rfl
    have hnot := hothers t (by simp)
    exact absurd (hnot.symm.trans hterminal) (by decide)

/-- What the two errors say of a directive. -/
theorem Reports.refusal_eq {e : LexicalError} {offset : Nat} {text tail : List Char}
    (h : Reports d before offset e text tail)
    (he : e = .duplicateExtends ∨ e = .misplacedExtends)
    (hahead : ExtendsAhead before ↔ ∃ u ∈ before, u.kind = .directive .extends_) :
    e = refusal before ∧ text = [] ∧ d.head .extends_ <+: tail ∧ (before = [] → 0 < offset) := by
  cases h with
  | duplicateExtends hseen hhead =>
    refine ⟨(if_pos (hahead.mpr hseen)).symm, rfl, hhead, ?_⟩
    rintro rfl
    simp at hseen
  | misplacedExtends hunseen hpos hhead =>
    have hnot : ¬ ExtendsAhead before := by
      intro hext
      obtain ⟨u, hu, hkind⟩ := hahead.mp hext
      exact hunseen u hu hkind
    exact ⟨(if_neg hnot).symm, rfl, hhead, fun _ => hpos⟩
  | _ => simp at he

theorem Run.extendsFirst (h : Run d source ts p) : ExtendsFirst d source ts where
  first := by
    intro before t after hts hk
    exact h.first_of_extends hts hk
  refused := by
    intro before t after hts hk
    obtain ⟨s, front, m, taken, rest, next, m', hrun, -⟩ := h.exists_rule_of_split hts
    obtain ⟨e, hk, he⟩ : ∃ e, t.kind = .error e ∧ (e = .duplicateExtends ∨ e = .misplacedExtends) :=
      hk.elim (fun hk => ⟨_, hk, .inl rfl⟩) fun hk => ⟨_, hk, .inr rfl⟩
    obtain ⟨tail, hdrop, -, hreports⟩ := h.truthful before t after e hts hk
    obtain ⟨rfl, htext, hhead, hpos⟩ := hreports.refusal_eq he hrun.extendsAhead_iff
    rw [htext, List.nil_append] at hdrop
    refine ⟨h.after_of_error hts hk, hk, ?_, htext, tail, hdrop, hhead⟩
    by_cases hbefore : before = []
    · exact hpos hbefore
    · exact h.offset_pos hts hbefore

/-! ### What comes before a refused directive -/

/-- An item ends with a token that is no part of the body of a directive. -/
theorem Item.exists_last {i : List TokenKind} (h : Item i) :
    ∃ init k, i = init ++ [k] ∧ k.isBodyPart = false ∧ k ≠ .openDirective := by
  cases h with
  | text => exact ⟨[], _, rfl, rfl, by simp⟩
  | comment => exact ⟨[], _, rfl, rfl, by simp⟩
  | action => exact ⟨_, _, rfl, rfl, by simp⟩
  | directive => exact ⟨_, _, rfl, rfl, by simp⟩
  | extends_ => exact ⟨[_, _, _], _, rfl, rfl, by simp⟩

/-- Behind complete items there is no body of a directive. -/
theorem Items.not_inBody {items : List (List TokenKind)} (h : Items items) :
    ¬ InBody items.flatten := by
  rintro ⟨before, dir, body, hkinds, -, hbody⟩
  rcases List.eq_nil_or_concat items with rfl | ⟨others, i, rfl⟩
  · simp at hkinds
  obtain ⟨init, k, rfl, hpart, hopen⟩ := (h.item i (by simp)).exists_last
  rw [List.concat_eq_append, List.flatten_concat, ← List.append_assoc] at hkinds
  -- The last token would open the body or be a part of it.
  rcases List.eq_nil_or_concat body with rfl | ⟨parts, k', rfl⟩
  · rw [List.append_cons before] at hkinds
    have hlast := (List.append_inj' hkinds rfl).2
    exact hopen (List.cons.inj hlast).1
  · rw [List.concat_eq_append, ← List.cons_append, ← List.cons_append, ← List.append_assoc]
      at hkinds
    have hlast := (List.append_inj' hkinds rfl).2
    have hpart' := hbody k' (by simp)
    rw [← (List.cons.inj hlast).1, hpart] at hpart'
    cases hpart'

theorem Run.not_inBody {dir : Directive} {nameLen : Nat} (h : Run d source ts p)
    (hs : p.state = some (.directive dir nameLen)) : ¬ InBody (ts.map Token.kind) := by
  have hparsed := h.parsed
  rw [hs] at hparsed
  generalize ts.map Token.kind = kinds at hparsed
  cases hparsed with
  | going hitems _ hbegun =>
    cases hbegun
    rw [List.append_nil]
    exact hitems.not_inBody

/-- A directive stands at `offset`, behind the tokens `ts`, and all text before it is theirs: between
the last of them and the directive there is a comment, or nothing. -/
structure Flushed (d : Delimiters) (source : List Char) (ts : List Token) (offset : Nat) : Prop where
  ahead : ∃ rest, drop? source offset = some rest ∧ d.head .extends_ <+: rest
  behind : ∀ t ∈ ts, t.stop ≤ offset ∧ t.kind.isTerminal = false
  gap : ∃ gap, slice? source ((ts.getLast?.map Token.stop).getD 0) offset = some gap ∧
    (gap = [] ∨ (ts.map Token.kind).getLast? = some .leftDelim ∧
      ∃ body, ¬ commentClose <:+: body ∧ gap = commentOpen ++ body ++ commentClose ++ d.right)

theorem Run.flushed {nameLen : Nat} (h : Run d source ts p)
    (hs : p.state = some (.directive .extends_ nameLen)) : Flushed d source ts (size p.front) where
  ahead := by
    have hheld : p.held = [] := h.ready.held_of_state hs
    have hsource := h.source_eq
    rw [hheld, List.append_nil] at hsource
    refine ⟨p.rest, ?_, (h.ready.ready _ hs).2⟩
    rw [← hsource]
    exact drop?_append _ _
  behind := by
    intro t ht
    exact ⟨h.stop_le t ht, h.not_isTerminal (by simp [hs]) t ht⟩
  gap := by
    obtain ⟨covered, gap, hlaid⟩ := h.laid
    have hpre : covered ++ gap <+: source := by
      rw [← h.source_eq, hlaid.front_eq, List.append_assoc _ p.held]
      exact List.prefix_append _ _
    refine ⟨gap, ?_, ?_⟩
    · rw [hlaid.tiled.getLast?_stop, hlaid.front_eq]
      exact slice?_of_prefix hpre
    · have hbody := h.not_inBody hs
      have hallowed := hlaid.allowed
      cases hallowed with
      | none => exact .inl rfl
      | comment hlast hclose => exact .inr ⟨hlast, _, hclose, rfl⟩
      | blanks hin => exact absurd hin hbody

/-- Behind other text, the directive is refused. -/
theorem Run.refused {nameLen : Nat} (h : Run d source ts p)
    (hs : p.state = some (.directive .extends_ nameLen)) (hfront : p.front ≠ []) :
    ∃ q, Step d p (some ⟨.error (refusal ts), size p.front, []⟩) q ∧ q.state = none := by
  have hheld := h.ready.held_of_state hs
  have hsaw := h.head_of_sawExtends
  obtain ⟨state, front, held, rest, m⟩ := p
  cases hs
  cases hheld
  by_cases hahead : ExtendsAhead ts
  · have hrefusal : refusal ts = .duplicateExtends := if_pos hahead
    rw [hrefusal]
    exact ⟨_, .finish (.duplicateExtends rfl (hsaw.mpr hahead)), rfl⟩
  · have hrefusal : refusal ts = .misplacedExtends := if_neg hahead
    have hunseen : m.sawExtends = false := Bool.eq_false_iff.mpr (mt hsaw.mp hahead)
    rw [hrefusal]
    exact ⟨_, .finish (.misplacedExtends rfl hunseen hfront), rfl⟩

namespace Lexer

/-- In every stream, an extends directive is the first token and stands at the start, and errors
about such directives are true. Wherever the lexer comes to an extends directive behind other text,
the stream ends with the error for it, right behind the tokens for this text. -/
theorem extends_ordered (name : String) (source : List Char) (options : Options) :
    (∀ ts l, (ofSource name source options).Pulled ts l →
      ExtendsFirst options.normalized source ts) ∧
    ((∃ ts, (ofSource name source options).tokens = .ok ts ∧
        ExtendsFirst options.normalized source ts) ∨
      ((ofSource name source options).tokens = .error .overflow ∧ 2 ^ 32 ≤ source.count '(')) ∧
    ∀ ts l nameLen, (ofSource name source options).Stepped ts l →
      l.state = some (.directive .extends_ nameLen) → 0 < l.start →
      Flushed options.normalized source ts l.start ∧
      (ofSource name source options).tokens = .ok (ts ++ [⟨.error (refusal ts), l.start, []⟩]) := by
  have hstreams := forall_tokens name source options fun ts p hrun => hrun.extendsFirst
  refine ⟨hstreams.1, hstreams.2, ?_⟩
  intro ts l nameLen hstepped hs hpos
  obtain ⟨p, hrun, hstands⟩ := hstepped.exists_run
  have hstate : p.state = some (.directive .extends_ nameLen) := hstands.state_eq.symm.trans hs
  have hstart := hstands.holds.start_eq
  have hfront : p.front ≠ [] := by
    intro hnil
    rw [hstart, hnil] at hpos
    exact absurd hpos (by simp)
  obtain ⟨q, hstep, hq⟩ := hrun.refused hstate hfront
  rw [hstart]
  exact ⟨hrun.flushed hstate, tokens_of_path name (hrun.step hstep).path hq⟩

-- A second directive behind a comment: its error stands where the directive does.
example : (tokenize "@extends(\"a\")\x7b\x7b/**/\x7d\x7d@extends(".toList).toOption.map
    (·.map fun t => (t.kind, t.offset)) =
    some [(.directive .extends_, 0), (.openDirective, 8), (.string, 9), (.closeDirective, 12),
      (.leftDelim, 13), (.error .duplicateExtends, 21)] := by
  decide +kernel

end Lexer

end TemplateLexer
