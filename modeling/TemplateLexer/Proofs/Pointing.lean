import TemplateLexer.Snippet
import TemplateLexer.Proofs.Positions

/-!
# What a report points at

A report underlines a span of characters and names a place above it. The span of a token is never
out of range and is empty at the end of the template only; for a token of the template with some
text it is this text (`Token.span_text`).

The place is found on the lines that are drawn, `SourceLine.find?`, and not on bytes as that of a
diagnostic is. Where lines are ended by line feeds alone, with or without a carriage return before
them (`FeedsOnly`), the two agree, with one exception: behind a final line feed the report is still
on the last line, and the diagnostic on a line of its own (`SourceLine.find?_position`).
`reports_point` puts this together.
-/

namespace TemplateLexer

open Text

variable {source front mid rest cs init line : List Char} {lines : List (List Char)} {t : Token}
  {n k offset : Nat}

/-! ### Spans -/

/-- A span is in order and inside the template, and only at the end of the template it is empty. -/
structure Span.InRange (span : Span) (source : List Char) : Prop where
  start_le : span.start ≤ span.stop
  stop_le : span.stop ≤ source.length
  empty_iff : span.start = span.stop ↔ span.start = source.length

theorem Span.charOffset_eq (hsource : source = front ++ rest)
    (hsize : size front = clamp source offset) : charOffset source offset = .ok front.length := by
  rw [charOffset, upTo_eq hsource hsize]
  rfl

namespace Token

/-- The span of a token, by the text that its two ends stand for. -/
theorem span_eq (hbound : t.stop < wordBound) (hsource : source = front ++ mid ++ rest)
    (hstart : size front = clamp source t.offset)
    (hstop : size (front ++ mid) = clamp source t.stop) :
    t.span source = .ok ⟨front.length,
      min (max (front ++ mid).length (front.length + 1)) source.length⟩ := by
  have hfront : source = front ++ (mid ++ rest) := by rw [hsource, List.append_assoc]
  have hword : t.stopWord = .ok t.stop := if_pos hbound
  rw [span, hword]
  simp only [bind, Except.bind, Span.ofOffsets, Span.charOffset_eq hfront hstart,
    Span.charOffset_eq hsource hstop]
  rfl

/-- A span starts where its token does, and it is in range. -/
theorem exists_span (hbound : t.stop < wordBound) (source : List Char) :
    ∃ front rest span, source = front ++ rest ∧ size front = clamp source t.offset ∧
      t.span source = .ok span ∧ span.start = front.length ∧ span.InRange source := by
  have hle : clamp source t.offset ≤ clamp source t.stop := clamp_mono source (Nat.le_add_right _ _)
  obtain ⟨front, mid, rest, hsource, hstart, hstop⟩ :=
    exists_of_isBoundary_le (isBoundary_clamp source _) (isBoundary_clamp source _) hle
  have hlength := congrArg List.length hsource
  simp only [List.length_append] at hlength
  refine ⟨front, mid ++ rest, _, ?_, hstart, span_eq hbound hsource hstart hstop, rfl, ?_⟩
  · rw [hsource, List.append_assoc]
  · constructor <;> simp only [List.length_append] <;> omega

/-- The span of a text that is there is this text. -/
theorem span_text (hbound : t.stop < wordBound) (hne : t.text ≠ [])
    (hsource : source = front ++ t.text ++ rest) (hoffset : t.offset = size front) :
    t.span source = .ok ⟨front.length, (front ++ t.text).length⟩ := by
  have hstart : size front = clamp source t.offset := by
    rw [hsource, hoffset, List.append_assoc, clamp_of_isBoundary (isBoundary_append _ _)]
  have hstop : size (front ++ t.text) = clamp source t.stop := by
    rw [hsource, stop, hoffset, ← size_append, clamp_of_isBoundary (isBoundary_append _ _)]
  have hpos := List.length_pos_iff.mpr hne
  rw [span_eq hbound hsource hstart hstop, hsource]
  simp only [List.length_append, Except.ok.injEq, Span.mk.injEq, true_and]
  omega

end Token

/-- The text of a token that was pulled is there at its offset. -/
theorem Lexer.Pulled.exists_text {name : String} {options : Options} {ts : List Token} {l : Lexer}
    (h : (ofSource name source options).Pulled ts l) (ht : t ∈ ts) :
    ∃ front rest, source = front ++ t.text ++ rest ∧ t.offset = size front := by
  obtain ⟨p, hrun, -⟩ := h.exists_run
  obtain ⟨ts₀, p₀, p₁, hrun₀, hstep⟩ := hrun.exists_step_of_mem ht
  have hsource := hrun₀.source_eq
  cases hstep with
  | finish => exact ⟨_, _, by simpa using hsource.symm, rfl⟩

/-! ### Lines -/

/-- No line of a text ends otherwise than with a line feed, before which a carriage return may
stand. -/
def FeedsOnly (cs : List Char) : Prop :=
  ∀ front c rest, cs = front ++ c :: rest → endsLine c = true →
    c = '\n' ∨ c = '\r' ∧ rest.head? = some '\n'

theorem FeedsOnly.of_append (h : FeedsOnly (front ++ cs)) : FeedsOnly cs := by
  intro before c rest hcs hc
  exact h (front ++ before) c rest (by rw [hcs, List.append_assoc]) hc

theorem FeedsOnly.tail {c : Char} (h : FeedsOnly (c :: cs)) : FeedsOnly cs :=
  of_append (show FeedsOnly ([c] ++ cs) from h)

theorem FeedsOnly.head {c : Char} (h : FeedsOnly (c :: cs)) (hc : c ≠ '\n') :
    endsLine c = false ∨ c = '\r' ∧ cs.head? = some '\n' := by
  cases hends : endsLine c with
  | false => exact .inl rfl
  | true => exact .inr ((h [] c cs rfl hends).resolve_left hc)

theorem splitLines_ne_nil (h : cs ≠ []) : splitLines cs ≠ [] := by
  fun_cases splitLines cs with
  | case1 => exact absurd rfl h
  | _ => simp

theorem splitLines_cons_of_not_endsLine {c : Char} (hc : endsLine c = false)
    (hcs : splitLines cs = line :: lines) : splitLines (c :: cs) = (c :: line) :: lines := by
  have hne : c ≠ '\r' := by
    rintro rfl
    exact absurd hc (by decide)
  rw [splitLines, hc, hcs]
  · rfl
  · rintro _ rfl
    exact absurd rfl hne

/-- The first line of a text goes through its first line feed. -/
theorem splitLines_append_cons (h : FeedsOnly (init ++ '\n' :: cs)) (hinit : '\n' ∉ init) :
    splitLines (init ++ '\n' :: cs) = (init ++ ['\n']) :: splitLines cs := by
  induction init with
  | nil => rfl
  | cons c init ih =>
    rw [List.mem_cons, not_or] at hinit
    rcases FeedsOnly.head h (Ne.symm hinit.1) with hc | ⟨rfl, hhead⟩
    · exact splitLines_cons_of_not_endsLine hc (ih (FeedsOnly.tail h) hinit.2)
    · -- Behind a carriage return there is the line feed itself.
      cases init with
      | nil => rfl
      | cons c' init =>
        cases Option.some.inj hhead
        exact absurd (List.mem_cons_self) hinit.2

/-- A text without a line feed is one line. -/
theorem splitLines_of_not_mem (h : FeedsOnly cs) (hne : cs ≠ []) (hcs : '\n' ∉ cs) :
    splitLines cs = [cs] := by
  induction cs with
  | nil => exact absurd rfl hne
  | cons c cs ih =>
    rw [List.mem_cons, not_or] at hcs
    rcases h.head (Ne.symm hcs.1) with hc | ⟨-, hhead⟩
    · by_cases hnil : cs = []
      · subst hnil
        simp [splitLines, hc]
      · exact splitLines_cons_of_not_endsLine hc (ih (FeedsOnly.tail h) hnil hcs.2)
    · exact absurd (List.mem_of_head? hhead) hcs.2

namespace SourceLine

variable {a : SourceLine} {placed : List SourceLine}

/-- The first line is the line of an offset unless a later one is. -/
theorem find?_cons (h : a.start ≤ offset) :
    find? (a :: placed) offset = some ((find? placed offset).getD a) := by
  rw [find?, List.takeWhile_cons, if_pos (by simpa using h), List.getLast?_cons]
  rfl

/-- Before the first line there is none. -/
theorem find?_place_of_lt (h : offset < k) : find? (place n k lines) offset = none := by
  cases lines with
  | nil => rfl
  | cons line lines =>
    rw [place, find?, List.takeWhile_cons, if_neg (by simpa using h)]
    rfl

theorem exists_find? (h : cs ≠ []) (offset : Nat) : ∃ a, find? (ofSource cs) offset = some a := by
  obtain ⟨line, lines, hsplit⟩ := List.exists_cons_of_ne_nil (splitLines_ne_nil h)
  rw [ofSource, hsplit, place, find?_cons (Nat.zero_le offset)]
  exact ⟨_, rfl⟩

/-- An offset in the first line, or behind its end if it is the only one. -/
theorem find?_place_cons (n k : Nat) (h : lines = [] ∨ front.length < line.length) :
    find? (place n k (line :: lines)) (k + front.length) = some ⟨n, k, line⟩ := by
  have hnone : find? (place (n + 1) (k + line.length) lines) (k + front.length) = none := by
    rcases h with rfl | hlt
    · rfl
    · exact find?_place_of_lt (by omega)
  rw [place, find?_cons (Nat.le_add_right _ _), hnone]
  rfl

theorem position_walk (h : '\n' ∉ front) (n k : Nat) (line : List Char) :
    (SourceLine.mk n k line).position (k + front.length) = Position.walk ⟨n, 1⟩ front := by
  rw [Position.walk_of_not_mem h, position, Nat.add_sub_cancel_left, Nat.add_comm 1]

/-- What begins a text without a line feed lies in its first line. -/
theorem exists_firstLine (h : FeedsOnly (front ++ rest)) (hne : front ++ rest ≠ [])
    (hfront : '\n' ∉ front) :
    ∃ line lines, splitLines (front ++ rest) = line :: lines ∧
      (lines = [] ∨ front.length < line.length) := by
  by_cases hrest : '\n' ∈ rest
  · obtain ⟨init, tail, rfl, hinit⟩ := List.eq_append_cons_of_mem hrest
    rw [← List.append_assoc] at h ⊢
    refine ⟨_, _, splitLines_append_cons h (by simp [hfront, hinit]), .inr ?_⟩
    simp only [List.length_append, List.length_singleton]
    omega
  · exact ⟨_, _, splitLines_of_not_mem h hne (by simp [hfront, hrest]), .inl rfl⟩

/-- The line of an offset gives the place to which reading leads, except behind a final line feed.
The lines are those of a text that begins behind `k` characters and on the line `n`. -/
theorem find?_position (h : FeedsOnly (front ++ rest)) (hne : front ++ rest ≠ []) (n k : Nat) :
    ∃ a, find? (place n k (splitLines (front ++ rest))) (k + front.length) = some a ∧
      (a.position (k + front.length) = Position.walk ⟨n, 1⟩ front ↔
        ¬ (rest = [] ∧ (front ++ rest).getLast? = some '\n')) := by
  -- The induction takes a line with each step, from the front of the text.
  induction hlen : front.length using Nat.strongRecOn generalizing front n k with
  | _ len ih =>
    subst hlen
    by_cases hmem : '\n' ∈ front
    · obtain ⟨init, more, rfl, hinit⟩ := List.eq_append_cons_of_mem hmem
      have hwalk : Position.walk ⟨n, 1⟩ (init ++ '\n' :: more) = Position.walk ⟨n + 1, 1⟩ more := by
        rw [Position.walk_append, Position.walk_of_not_mem hinit, Position.walk_cons,
          Position.next_lineFeed]
      have hcut : init ++ '\n' :: more ++ rest = init ++ '\n' :: (more ++ rest) := by simp
      rw [hcut] at h ⊢
      rw [splitLines_append_cons h hinit, place, find?_cons (Nat.le_add_right _ _), hwalk]
      by_cases hend : more ++ rest = []
      · obtain ⟨rfl, rfl⟩ := List.append_eq_nil_iff.mp hend
        refine ⟨_, rfl, iff_of_false ?_ (by simp)⟩
        intro heq
        exact absurd (congrArg Position.line heq) (Nat.ne_of_lt (Nat.lt_succ_self n))
      · have hshift : k + (init ++ '\n' :: more).length =
            k + (init ++ ['\n']).length + more.length := by
          simp only [List.length_append, List.length_cons, List.length_nil]
          omega
        have hlast : (init ++ '\n' :: (more ++ rest)).getLast? = (more ++ rest).getLast? := by
          rw [List.append_cons, List.getLast?_append, List.getLast?_eq_some_getLast hend,
            Option.some_or]
        rw [List.append_cons] at h
        have hlt : more.length < (init ++ '\n' :: more).length := by
          simp only [List.length_append, List.length_cons]
          omega
        obtain ⟨a, ha, hpos⟩ :=
          ih more.length hlt h.of_append hend (n + 1) (k + (init ++ ['\n']).length) rfl
        rw [hshift, ha, hlast]
        exact ⟨a, rfl, hpos⟩
    · obtain ⟨line, lines, hsplit, hline⟩ := exists_firstLine h hne hmem
      refine ⟨_, hsplit ▸ find?_place_cons n k hline, iff_of_true (position_walk hmem n k line) ?_⟩
      rintro ⟨rfl, hlast⟩
      rw [List.append_nil] at hlast
      exact hmem (List.mem_of_getLast? hlast)

end SourceLine

/-! ### Reports -/

namespace Snippet

/-- Where there are lines, the first one above them is the header with the place of the span. -/
theorem exists_body (h : source ≠ []) (name : String) (span : Span) {a : SourceLine}
    (ha : SourceLine.find? (SourceLine.ofSource source) span.start = some a) :
    ∃ digits more, body name source span = header digits name (a.position span.start) :: more := by
  obtain ⟨b, hb⟩ := SourceLine.exists_find? h
    (if span.start < span.stop then span.stop - 1 else span.start)
  rw [body]
  simp only [ha, hb]
  exact ⟨_, _, rfl⟩

end Snippet

theorem Diagnostic.ofToken?_of_error {e : LexicalError} (ht : t.kind = .error e) (name : String)
    (source : List Char) : ofToken? name source t = some (.ofError name source t.offset e) := by
  rw [ofToken?, ht]
  rfl

/-- The report on an error is drawn for the span of its token. -/
theorem Token.report?_eq {name : String} {d : Diagnostic} {span : Span}
    (hd : Diagnostic.ofToken? name source t = some d) (hspan : t.span source = .ok span) :
    t.report? name source = .ok (some (d.report source span)) := by
  rw [report?, hd, hspan]
  rfl

/-- What a report underlines is in the template and not empty, except at its end, and it is the text
of the token if this is one of the template. Where only line feeds end lines, the place above it is
that of the diagnostic, except behind a line feed at the end of the template. -/
theorem reports_point (name : String) (source : List Char) (options : Options) :
    (∀ t : Token, t.stop < wordBound →
      ∃ span, t.span source = .ok span ∧ span.InRange source ∧
        ∀ d, Diagnostic.ofToken? name source t = some d →
          t.report? name source = .ok (some (d.report source span))) ∧
    (∀ ts l, (Lexer.ofSource name source options).Pulled ts l → ∀ t ∈ ts, t.text ≠ [] →
      t.stop < wordBound → ∃ front rest span, source = front ++ t.text ++ rest ∧
        t.offset = size front ∧ span = ⟨front.length, (front ++ t.text).length⟩ ∧
        t.span source = .ok span ∧
        ∀ d, Diagnostic.ofToken? name source t = some d →
          t.report? name source = .ok (some (d.report source span))) ∧
    (FeedsOnly source → source ≠ [] → ∀ (t : Token) (error : LexicalError),
      t.kind = .error error → t.stop < wordBound →
      ∃ d p digits more, Diagnostic.ofToken? name source t = some d ∧
        t.report? name source = .ok (some (unlines
          (("Error: " ++ error.message).toList :: Snippet.header digits name p :: more))) ∧
        (p = d.position ↔
          ¬ (clamp source t.offset = size source ∧ source.getLast? = some '\n'))) := by
  refine ⟨?_, ?_, ?_⟩
  · intro t hbound
    obtain ⟨-, -, span, -, -, hspan, -, hrange⟩ := t.exists_span hbound source
    exact ⟨span, hspan, hrange, fun d hd => t.report?_eq hd hspan⟩
  · intro ts l h t ht hne hbound
    obtain ⟨front, rest, hsource, hoffset⟩ := h.exists_text ht
    have hspan := t.span_text hbound hne hsource hoffset
    exact ⟨front, rest, _, hsource, hoffset, rfl, hspan, fun d hd => t.report?_eq hd hspan⟩
  · intro hfeeds hne t error hkind hbound
    obtain ⟨front, rest, span, rfl, hsize, hspan, hstart, -⟩ := t.exists_span hbound source
    obtain ⟨a, ha, hpos⟩ := SourceLine.find?_position hfeeds hne 1 0
    rw [Nat.zero_add, ← hstart] at ha hpos
    obtain ⟨digits, more, hbody⟩ := Snippet.exists_body hne name span ha
    have hd := Diagnostic.ofToken?_of_error hkind name (front ++ rest)
    refine ⟨_, a.position span.start, digits, more, hd, ?_, ?_⟩
    · rw [t.report?_eq hd hspan, Diagnostic.report, Diagnostic.ofError, hbody]
    · have hplace := Position.ofOffset_walk rfl hsize
      have hend := eq_nil_iff_of_drop? (drop?_append front rest)
      rw [Diagnostic.ofError, hplace, ← hsize, ← hend]
      exact hpos

-- The exception: the diagnostic is on the line behind the last one, and the header on the last one.
example : (Diagnostic.ofError "t" ['a', '\n'] 2 .unclosedAction).position = ⟨2, 1⟩ ∧
    (SourceLine.find? (SourceLine.ofSource ['a', '\n']) 2).map (·.position 2) = some ⟨1, 3⟩ := by
  decide +kernel

end TemplateLexer
