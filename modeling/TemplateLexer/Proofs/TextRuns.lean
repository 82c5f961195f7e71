import TemplateLexer.Proofs.Runs

/-!
# What literal text hides

A text token ends at an opener or at the end of the template. Inside of it an opener can stand in
one place only: within a marker that itself opens nothing, since such a marker is passed as a whole.
A marker of one character has no inside, so that nothing is hidden, and a template without openers
is a single text.
-/

namespace TemplateLexer

open Text

namespace Delimiters

/-- An opener begins at a byte position. -/
def OpenerAt (d : Delimiters) (source : List Char) (q : Nat) : Prop :=
  ∃ rest, drop? source q = some rest ∧ d.Opens rest

/-- The marker stands at a byte position. -/
def MarkerAt (d : Delimiters) (source : List Char) (q : Nat) : Prop :=
  ∃ rest, drop? source q = some rest ∧ d.marker <+: rest

/-- Literal text from `start` to `stop`: it ends where an opener begins or at the end, and the
openers in between stand inside markers that open nothing. -/
structure TextRun (d : Delimiters) (source : List Char) (start stop : Nat) : Prop where
  ends : stop = size source ∨ d.OpenerAt source stop
  hides : ∀ q, start ≤ q → q < stop → d.OpenerAt source q →
    ∃ p, start ≤ p ∧ p < q ∧ q < p + size d.marker ∧ d.MarkerAt source p ∧ ¬ d.OpenerAt source p

end Delimiters

variable {d : Delimiters} {source : List Char}

/-- Behind a cut, the next one is behind the character there. -/
theorem size_le_of_drop? {front rest tail : List Char} {c : Char} {q : Nat}
    (h : drop? (front ++ c :: rest) q = some tail) (hlt : size front < q) :
    size (front ++ [c]) ≤ q := by
  obtain ⟨front', hsource, rfl⟩ := drop?_eq_some_iff.mp h
  rcases List.append_eq_append_iff.mp hsource with ⟨mid, rfl, hmid⟩ | ⟨mid, rfl, -⟩
  · cases mid with
    | nil => simp at hlt
    | cons c' mid =>
      cases hmid
      simp only [size_append, size_cons, size_nil]
      omega
  · rw [size_append] at hlt
    omega

namespace Delimiters

theorem openerAt_append (front rest : List Char) :
    d.OpenerAt (front ++ rest) (size front) ↔ d.Opens rest := by
  constructor
  · rintro ⟨rest', hdrop, hopens⟩
    rw [drop?_append] at hdrop
    cases hdrop
    exact hopens
  · intro hopens
    exact ⟨rest, drop?_append front rest, hopens⟩

/-- Literal text hides openers only inside markers that it passes. -/
theorem Plain.hides {run rest : List Char} (h : d.Plain run rest) (front : List Char) {q : Nat}
    (hle : size front ≤ q) (hlt : q < size (front ++ run))
    (hq : d.OpenerAt (front ++ (run ++ rest)) q) :
    ∃ p, size front ≤ p ∧ p < q ∧ q < p + size d.marker ∧
      d.MarkerAt (front ++ (run ++ rest)) p ∧ ¬ d.OpenerAt (front ++ (run ++ rest)) p := by
  -- Along the text, `front` grows by what is passed, and the opener stays ahead or is reached.
  induction h generalizing front with
  | stop =>
    rw [List.append_nil] at hlt
    omega
  | @marker run rest hno hp ih =>
    rw [List.append_assoc] at hq ⊢
    have hfront : ¬ d.OpenerAt (front ++ (d.marker ++ (run ++ rest))) (size front) := by
      rw [openerAt_append]
      exact hno
    by_cases hinside : q < size front + size d.marker
    · have hne : q ≠ size front := by
        rintro rfl
        exact hfront hq
      have hmarker : d.MarkerAt (front ++ (d.marker ++ (run ++ rest))) (size front) :=
        ⟨_, drop?_append _ _, List.prefix_append _ _⟩
      exact ⟨size front, Nat.le_refl _, by omega, hinside, hmarker, hfront⟩
    · -- Behind the marker, the text goes on.
      rw [← List.append_assoc front] at hq hlt ⊢
      have hle' : size (front ++ d.marker) ≤ q := by rw [size_append]; omega
      obtain ⟨p, hp, hrest⟩ := ih (front ++ d.marker) hle' hlt hq
      rw [size_append] at hp
      exact ⟨p, by omega, hrest⟩
  | @char c run rest hno hmarker hp ih =>
    have hne : q ≠ size front := by
      rintro rfl
      rw [openerAt_append] at hq
      exact hno hq
    -- No opener begins inside a character.
    obtain ⟨tail, hdrop, -⟩ := id hq
    have hle' : size (front ++ [c]) ≤ q := size_le_of_drop? hdrop (by omega)
    rw [List.cons_append, List.append_cons] at hq ⊢
    rw [List.append_cons] at hlt
    obtain ⟨p, hp, hrest⟩ := ih (front ++ [c]) hle' hlt hq
    rw [size_append] at hp
    exact ⟨p, by omega, hrest⟩

theorem Plain.textRun {run rest : List Char} (h : d.Plain run rest) (front : List Char) :
    d.TextRun (front ++ (run ++ rest)) (size front) (size (front ++ run)) where
  ends := by
    rw [← List.append_assoc]
    rcases h.stops with rfl | hopens
    · left
      rw [List.append_nil]
    · right
      rw [openerAt_append]
      exact hopens
  hides := by
    intro q hle hlt hq
    exact h.hides front hle hlt hq

/-- A marker of one character hides nothing. -/
theorem TextRun.not_openerAt {start stop q : Nat} (h : d.TextRun source start stop)
    (hmarker : d.marker.length = 1) (hle : start ≤ q) (hlt : q < stop) :
    ¬ d.OpenerAt source q := by
  intro hq
  obtain ⟨p, -, hpq, hinside, ⟨rest, hdrop, hpre⟩, -⟩ := h.hides q hle hlt hq
  obtain ⟨c, hc⟩ := List.length_eq_one_iff.mp hmarker
  obtain ⟨tail, rfl⟩ := hpre
  obtain ⟨front, rfl, rfl⟩ := drop?_eq_some_iff.mp hdrop
  obtain ⟨rest', hdrop', -⟩ := hq
  rw [hc] at hdrop' hinside
  have hbehind := size_le_of_drop? hdrop' hpq
  rw [size_append] at hbehind
  omega

theorem plain_of_not_openerAt (h : ∀ q, ¬ d.OpenerAt source q) : d.Plain source [] := by
  obtain ⟨run, rest, rfl, hplain⟩ := d.exists_plain source
  rcases hplain.stops with rfl | hopens
  · rw [List.append_nil]
    exact hplain
  · exact absurd ((openerAt_append run rest).mpr hopens) (h (size run))

end Delimiters

/-! ### Text tokens -/

theorem Rule.of_text {front taken rest : List Char} {s : State} {m m' : Memory} {kind : TokenKind}
    {next : Option State} (h : Rule d front s m taken rest (.finish kind next) m')
    (hk : kind = .text) : s = .text ∧ d.Plain taken rest := by
  cases h with
  | text _ hplain => exact ⟨rfl, hplain⟩
  | run _ _ hruns =>
    subst hk
    cases hruns
  | word =>
    rcases wordKind_cases taken with hw | ⟨k, hw, -⟩
    · cases hw.symm.trans hk
    · cases hw.symm.trans hk
  | _ => cases hk

theorem Run.textRun {ts : List Token} {p : Place} {t : Token} (h : Run d source ts p) (ht : t ∈ ts)
    (hk : t.kind = .text) : d.TextRun source t.offset t.stop := by
  obtain ⟨us, p₀, p₁, hrun, hstep⟩ := h.exists_step_of_mem ht
  have hsource := hrun.source_eq
  have hheld := hrun.ready.held_eq
  have hstop := hstep.stop_eq.2.2
  cases hstep with
  | @finish _ _ front _ taken rest _ _ _ hr =>
    obtain ⟨rfl, hplain⟩ := hr.of_text hk
    cases hheld
    rw [hstop, ← hsource]
    simpa using hplain.textRun front

/-! ### A template without openers -/

theorem step_text_of_plain {run rest : List Char} {s : State} (hne : run ≠ [])
    (hplain : d.Plain run rest) (hcalls : d.Calls rest s) :
    Step d (Place.start (run ++ rest)) (some ⟨.text, 0, run⟩) ⟨some s, run, [], rest, ⟨0, false⟩⟩ :=
  .finish (.text hne hplain hcalls)

theorem step_eof (d : Delimiters) (front : List Char) (m : Memory) :
    Step d ⟨some .eof, front, [], [], m⟩ (some ⟨.eof, size front, []⟩) ⟨none, front, [], [], m⟩ := by
  have hstep : Step d ⟨some .eof, front, [], [] ++ [], m⟩ (some ⟨.eof, size front, [] ++ []⟩)
      ⟨none, front ++ ([] ++ []), [], [], m⟩ := .finish .eof
  simpa using hstep

namespace Lexer

/-- Where no opener stands, all is text. -/
theorem tokens_of_plain {name : String} {options : Options} (hne : source ≠ [])
    (hplain : options.normalized.Plain source []) :
    (ofSource name source options).tokens =
      .ok [⟨.text, 0, source⟩, ⟨.eof, size source, []⟩] := by
  have hstands := stands_ofSource name source options
  have hready := Place.ready_start options.normalized source
  have htext := step_text_of_plain hne hplain .eof
  rw [List.append_nil] at htext
  obtain ⟨l₁, hpull₁, hstands₁, -⟩ := hstands.pull_eq hready htext
  have heof := step_eof options.normalized source ⟨0, false⟩
  obtain ⟨l₂, hpull₂, hstands₂, -⟩ := hstands₁.pull_eq (hready.step htext) heof
  have hpull₃ := pull_of_halted hstands₂.holds.pending_eq hstands₂.state_eq
  obtain ⟨n, hn⟩ : ∃ n, (ofSource name source options).cursor.remaining + 2 = n + 3 :=
    ⟨size source - 1, by
      have hpos := size_pos_of_ne_nil hne
      show size source + 2 = _
      omega⟩
  rw [tokens, drain, hn]
  simp only [pullUpTo, hpull₁, hpull₂, hpull₃, bind, Except.bind, pure, Except.pure]

/-- A text token runs to an opener or to the end, and hides openers only inside markers that open
nothing; a marker of one character hides none. A template without openers is all text. -/
theorem tokens_textRun (name : String) (source : List Char) (options : Options) :
    ((∃ ts, (ofSource name source options).tokens = .ok ts ∧
        ∀ t ∈ ts, t.kind = .text → options.normalized.TextRun source t.offset t.stop ∧
          (options.normalized.marker.length = 1 → ∀ q, t.offset ≤ q → q < t.stop →
            ¬ options.normalized.OpenerAt source q)) ∨
      ((ofSource name source options).tokens = .error .overflow ∧ 2 ^ 32 ≤ source.count '(')) ∧
    (source ≠ [] → (∀ q, ¬ options.normalized.OpenerAt source q) →
      (ofSource name source options).tokens =
        .ok [⟨.text, 0, source⟩, ⟨.eof, size source, []⟩]) := by
  constructor
  · rcases tokens_ofSource name source options with ⟨ts, p, htokens, hrun, -⟩ | hover
    · refine .inl ⟨ts, htokens, ?_⟩
      intro t ht hk
      have htext := hrun.textRun ht hk
      refine ⟨htext, ?_⟩
      intro hmarker q hle hlt
      exact htext.not_openerAt hmarker hle hlt
    · exact .inr hover
  · intro hne hno
    exact tokens_of_plain hne (Delimiters.plain_of_not_openerAt hno)

-- A left delimiter inside a marker that opens nothing is passed with the marker.
example : (ofSource "t" "ab".toList ⟨"ab".toList, "b".toList, "]".toList⟩).tokens.toOption =
    some [⟨.text, 0, "ab".toList⟩, ⟨.eof, 2, []⟩] := by
  decide +kernel

end Lexer

end TemplateLexer
