import TemplateLexer.Json.Skip
import TemplateLexer.Proofs.Json.Pieces

/-!
# Every valid value is passed over

However deep a value is nested and whatever its strings and numbers are, passing over it ends right
behind it and nowhere else. `Skip.Passes` is a number of steps; `Valid.passes` follows the grammar.
-/

namespace TemplateLexer.Json

open Lexeme (scan)

variable {cs rest : List Char} {x : Lexeme} {xs ys zs : List Lexeme} {awaiting : Awaiting}
  {opened : List Frame}

namespace Skip

/-- The pieces between two lists are passed over, from one state to the other; the whole is done in
the state `none`. -/
inductive Passes : Option Skip → List Lexeme → Option Skip → List Lexeme → Prop
  | refl (s : Option Skip) (xs : List Lexeme) : Passes s xs s xs
  | step {s : Skip} {s' t : Option Skip} {x : Lexeme} {xs ys : List Lexeme} :
      s.step x = .ok s' → Passes s' xs t ys → Passes (some s) (x :: xs) t ys

theorem Passes.trans {s t u : Option Skip} (h : Passes s xs t ys) (h' : Passes t ys u zs) :
    Passes s xs u zs := by
  induction h with
  | refl => exact h'
  | step hstep _ ih => exact .step hstep (ih h')

theorem Passes.single {s : Skip} {t : Option Skip} (h : s.step x = .ok t) :
    Passes (some s) (x :: xs) t xs := .step h (.refl _ _)

/-- A value may begin here. -/
def Opens (awaiting : Awaiting) (opened : List Frame) : Prop :=
  awaiting = .value ∨ awaiting = .item ∧ ∃ more, opened = .list :: more

/-- Where a value may begin, each piece that does not end a list begins one. -/
theorem Opens.step_eq (h : Opens awaiting opened) (hx : x ≠ .mark ']') :
    step ⟨awaiting, opened⟩ x = beginValue opened x := by
  rcases h with rfl | ⟨rfl, more, rfl⟩
  · rfl
  · cases x with
    | mark c =>
      have hc : c ≠ ']' := by
        rintro rfl
        exact hx rfl
      exact if_neg hc
    | _ => rfl

theorem Opens.passes {t : Option Skip} (h : Opens awaiting opened) (hx : x ≠ .mark ']')
    (hbegin : beginValue opened x = .ok t) : Passes (some ⟨awaiting, opened⟩) (x :: xs) t xs :=
  .single ((h.step_eq hx).trans hbegin)

end Skip

open Skip

/-- What it means to pass over a part of a text: a value up to what follows it, and items or members
together with the mark that ends them. -/
def Form.Passed (cs : List Char) : Form → Prop
  | .value => ∀ ⦃awaiting opened rest⦄, Opens awaiting opened → Stops rest →
      Passes (some ⟨awaiting, opened⟩) (scan (cs ++ rest)) (behind opened) (scan rest)
  | .items => ∀ ⦃awaiting opened⦄ rest, Opens awaiting (.list :: opened) →
      Passes (some ⟨awaiting, .list :: opened⟩) (scan (cs ++ ']' :: rest)) (behind opened)
        (scan rest)
  | .members => ∀ ⦃awaiting opened⦄ rest, awaiting = .member ∨ awaiting = .key →
      Passes (some ⟨awaiting, .record :: opened⟩) (scan (cs ++ '\x7d' :: rest)) (behind opened)
        (scan rest)

/-- White space around a value makes no difference. -/
theorem passes_around {b v b' : List Char} (hv : Form.value.Passed v) (hb : Blanks b)
    (hb' : Blanks b') (hopens : Opens awaiting opened) (hrest : Stops rest) :
    Passes (some ⟨awaiting, opened⟩) (scan (b ++ (v ++ (b' ++ rest)))) (behind opened)
      (scan rest) := by
  have hvalue := hv hopens (hb'.stops hrest)
  rwa [Lexeme.scan_blanks hb, ← Lexeme.scan_blanks hb' rest]

theorem passes_member {b key before after v b' : List Char} (hkey : StringBody key)
    (hv : Form.value.Passed v) (hb : Blanks b) (hbefore : Blanks before) (hafter : Blanks after)
    (hb' : Blanks b') (hawaiting : awaiting = .member ∨ awaiting = .key) (hrest : Stops rest) :
    Passes (some ⟨awaiting, .record :: opened⟩)
      (scan (b ++ (memberText key before after v ++ (b' ++ rest))))
      (some ⟨.next, .record :: opened⟩) (scan rest) := by
  have hvalue : Passes (some ⟨.value, .record :: opened⟩) _ _ _ :=
    passes_around hv hafter hb' (.inl rfl) hrest
  simp only [memberText, List.cons_append, List.append_assoc]
  rw [Lexeme.scan_blanks hb, Lexeme.scan_string hkey, Lexeme.scan_blanks hbefore,
    Lexeme.scan_mark (by decide)]
  rcases hawaiting with rfl | rfl
  · exact .step rfl (.step rfl hvalue)
  · exact .step rfl (.step rfl hvalue)

/-- Every valid value is passed over, and so are items and members. -/
theorem Valid.passes {form : Form} (h : Valid form cs) : form.Passed cs := by
  -- What is open and what follows stay general, so that each part can be used inside of others.
  induction h with
  | word hw =>
    intro awaiting opened rest hopens _
    rw [Lexeme.scan_word hw]
    exact hopens.passes (by simp) rfl
  | number hn =>
    intro awaiting opened rest hopens hrest
    obtain ⟨negative, n, hscan⟩ := Lexeme.scan_number hn hrest
    rw [hscan]
    exact hopens.passes (by simp) rfl
  | string hbody =>
    intro awaiting opened rest hopens _
    rw [List.cons_append, List.append_assoc, List.singleton_append, Lexeme.scan_string hbody]
    exact hopens.passes (by simp) rfl
  | emptyList hb =>
    intro awaiting opened rest hopens _
    rw [Lexeme.scan_enclosed (by decide), Lexeme.scan_blanks hb, Lexeme.scan_mark (by decide)]
    exact (hopens.passes (by simp) rfl).trans (.single rfl)
  | list _ ih =>
    intro awaiting opened rest hopens _
    rw [Lexeme.scan_enclosed (by decide)]
    exact (hopens.passes (by simp) rfl).trans (ih rest (.inr ⟨rfl, opened, rfl⟩))
  | emptyRecord hb =>
    intro awaiting opened rest hopens _
    rw [Lexeme.scan_enclosed (by decide), Lexeme.scan_blanks hb, Lexeme.scan_mark (by decide)]
    exact (hopens.passes (by simp) rfl).trans (.single rfl)
  | record _ ih =>
    intro awaiting opened rest hopens _
    rw [Lexeme.scan_enclosed (by decide)]
    exact (hopens.passes (by simp) rfl).trans (ih rest (.inl rfl))
  | lastItem hb _ hb' ih =>
    intro awaiting opened rest hopens
    simp only [List.append_assoc]
    refine (passes_around ih hb hb' hopens (stops_mark (by decide) rest)).trans ?_
    rw [Lexeme.scan_mark (by decide)]
    exact .single rfl
  | item hb _ hb' _ ih ihs =>
    intro awaiting opened rest hopens
    simp only [List.append_assoc, List.cons_append]
    refine (passes_around ih hb hb' hopens (stops_mark (by decide) _)).trans ?_
    rw [Lexeme.scan_mark (by decide)]
    exact .step rfl (ihs rest (.inl rfl))
  | lastMember hb hkey hbefore hafter _ hb' ih =>
    intro awaiting opened rest hawaiting
    simp only [List.append_assoc]
    refine (passes_member hkey ih hb hbefore hafter hb' hawaiting
      (stops_mark (by decide) rest)).trans ?_
    rw [Lexeme.scan_mark (by decide)]
    exact .single rfl
  | member hb hkey hbefore hafter _ hb' _ ih ihs =>
    intro awaiting opened rest hawaiting
    simp only [List.append_assoc, List.cons_append]
    refine (passes_member hkey ih hb hbefore hafter hb' hawaiting
      (stops_mark (by decide) _)).trans ?_
    rw [Lexeme.scan_mark (by decide)]
    exact .step rfl (ihs rest (.inr rfl))

end TemplateLexer.Json
