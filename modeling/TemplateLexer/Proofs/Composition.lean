import TemplateLexer.Proofs.Locality
import TemplateLexer.Proofs.Tiling

/-!
# Templates one behind the other

A template that ends behind an item, and not in the middle of literal text, can be continued with
another template: the tokens are those of the first one, without its end, and then those of the
second one, further on by the size of the first (`tokenize_append`). Nothing that was decided inside
of the first template looked beyond its end, and nothing of it is left to influence the second one,
if this has nothing to do with extends directives.
-/

namespace TemplateLexer

open Text
open Delimiters (standard)

variable {d : Delimiters} {source front taken rest : List Char} {ts us : List Token} {p : Place}
  {s next : State} {m m' : Memory} {e : Effect}

/-! ### Outside of actions no parenthesis is open -/

/-- A state inside of an action. -/
def State.inAction : State → Bool
  | .action | .identifier .action | .quote .action => true
  | _ => false

theorem Rule.openParens_eq_zero (h : Rule d front s m taken rest e m') (hnext : e.next = some next)
    (hout : next.inAction = false) (hs : s.inAction = false → m.openParens = 0) :
    m'.openParens = 0 := by
  cases h with
  | openAction => rfl
  | closeAction hdepth => exact hdepth
  | run | colonEquals | leftParen | rightParen | actionQuote | actionWord =>
    cases hnext
    cases hout
  | @word _ resume | @string _ resume =>
    cases hnext
    cases resume with
    | action => cases hout
    | insideDirective | closeDirective => exact hs rfl
  | unclosedParen | unclosedAction | surplusParen | unrecognized | unterminated => cases hnext
  | _ => exact hs rfl

theorem Run.openParens_eq_zero (h : Run d source ts p) (hs : p.state = some s)
    (hout : s.inAction = false) : p.memory.openParens = 0 := by
  induction h generalizing s with
  | start => rfl
  | step _ hstep ih =>
    cases hstep with
    | finish hr => exact hr.openParens_eq_zero hs hout (ih rfl)
    | drop hr => exact hr.openParens_eq_zero hs hout (ih rfl)
    | hold hr => exact hr.openParens_eq_zero hs hout (ih rfl)

/-! ### Behind the last item -/

/-- The end is called for by literal text: by a text token, or where nothing is left. -/
theorem Rule.eof_of_finish {kind : TokenKind}
    (h : Rule d front s m taken rest (.finish kind (some .eof)) m') : kind = .text := by
  generalize hnext : some State.eof = next at h
  cases h with
  | text => rfl
  | @openDirective _ extends_ => cases extends_ <;> cases hnext
  | @word _ resume => cases resume <;> cases hnext
  | @string _ resume => cases resume <;> cases hnext
  | _ => cases hnext

/-- Where the end does not follow a text token, the scan has come to the end in literal text with
nothing to hand out. -/
theorem Run.exists_text_of_eof (h : Run d source ts p) (hs : p.state = some .eof)
    (htext : ∀ t, ts.getLast? = some t → t.kind ≠ .text) :
    ∃ m, Run d source ts ⟨some .text, source, [], [], m⟩ := by
  cases h with
  | start => cases hs
  | @step ts p _ slot hrun hstep =>
    have hsource := hrun.source_eq
    have hheld := hrun.ready.held_eq
    cases hstep with
    | finish hr =>
      cases hs
      exact absurd hr.eof_of_finish (htext _ List.getLast?_concat)
    | drop hr =>
      cases hs
      cases hr
    | hold hr =>
      cases hs
      cases hr with
      | opener hcalls =>
        cases hcalls
        cases hheld
        simp only [List.append_nil] at hsource
        rw [Option.toList_none, List.append_nil]
        rw [hsource] at hrun
        exact ⟨_, hrun⟩

/-! ### Moving tokens -/

/-- The same token, further on by `distance` bytes. -/
def Token.shift (distance : Nat) (t : Token) : Token := { t with offset := t.offset + distance }

theorem Token.Moved.eq_shift {distance : Nat} {t u : Token} (h : t.Moved distance u) :
    u = t.shift distance := by
  have hoffset : u.offset = t.offset + distance := by
    have := h.offset_eq
    omega
  cases u
  cases h.kind_eq
  cases h.text_eq
  cases hoffset
  rfl

theorem eq_map_shift {distance : Nat} (h : List.Forall₂ (Token.Moved distance) ts us) :
    us = ts.map (Token.shift distance) := by
  induction h with
  | nil => rfl
  | cons ht _ ih => rw [List.map_cons, ht.eq_shift, ih]

/-! ### One template behind another -/

/-- Behind a template whose end does not follow a text token, another one that does not concern
extends directives gives the same tokens as alone. -/
theorem tokenize_append {a b : List Char} {t : Token} (ha : tokenize a = .ok (ts ++ [t]))
    (hend : t.kind = .eof) (htext : ∀ u, ts.getLast? = some u → u.kind ≠ .text)
    (hb : tokenize b = .ok us) (hext : ∀ u ∈ us, u.kind.concernsExtends = false) :
    tokenize (a ++ b) = .ok (ts ++ us.map (Token.shift (size a))) := by
  obtain ⟨q, hpath, -⟩ := Lexer.exists_path_of_tokens ha
  obtain ⟨p₀, p₁, hbefore, hstep, -⟩ := hpath.exists_split
  -- The first template is in literal text when it ends, and there the second one can begin.
  have heof : p₀.state = some .eof := by
    cases hstep with
    | finish hr => rw [(hr.of_eof hend).1]
  obtain ⟨m, hrun⟩ := hbefore.run.exists_text_of_eof heof htext
  have hfirst := hrun.path.before_start b rfl trivial
  have hm : m = ⟨0, m.sawExtends⟩ := by
    have hzero : m.openParens = 0 := hrun.openParens_eq_zero rfl rfl
    rw [← hzero]
  rw [hm, List.append_nil] at hfirst
  obtain ⟨q', hsecond, hhalted⟩ := Lexer.exists_path_of_tokens hb
  obtain ⟨y, vs, -, hmoved, hsecond'⟩ :=
    hsecond.moved a m.sawExtends (List.append_nil []).symm (.inl hext)
  rw [List.append_nil] at hsecond'
  rw [size_nil, Int.ofNat_zero, Int.sub_zero] at hmoved
  rw [← eq_map_shift hmoved]
  exact Lexer.tokens_of_path _ (hfirst.trans hsecond') hhalted

/-- A comment and an import behind an extends directive and an action. -/
theorem tokenize_append_comment :
    tokenize ("@extends(\"b\")\x7b\x7b.x\x7d\x7d".toList ++ "\x7b\x7b/**/\x7d\x7d@import(a)".toList) =
      .ok ([⟨.directive .extends_, 0, "@extends".toList⟩, ⟨.openDirective, 8, ['(']⟩,
          ⟨.string, 9, "\"b\"".toList⟩, ⟨.closeDirective, 12, [')']⟩,
          ⟨.leftDelim, 13, "\x7b\x7b".toList⟩, ⟨.field, 15, ".x".toList⟩,
          ⟨.rightDelim, 17, "\x7d\x7d".toList⟩] ++
        [⟨.leftDelim, 0, "\x7b\x7b".toList⟩, ⟨.directive .import_, 8, "@import".toList⟩,
          ⟨.openDirective, 15, ['(']⟩, ⟨.identifier, 16, ['a']⟩, ⟨.closeDirective, 17, [')']⟩,
          ⟨.eof, 18, []⟩].map (Token.shift 19)) :=
  tokenize_append (t := ⟨.eof, 19, []⟩) (by decide +kernel) rfl
    (by intro u hu; cases hu; decide) (by decide +kernel) (by decide)

end TemplateLexer
