import TemplateLexer.Diagnostic
import TemplateLexer.Proofs.Faultless

/-!
# Places read character by character

The place of an offset is found by counting and searching bytes, `Position.locate`. It is the place
to which one gets by reading the characters before the offset from the beginning, `Position.walk`:
a line feed leads to the first column of the next line, and any other character to the next column
(`Position.locate_walk`). Reading on always leads to a later place (`Position.lt_walk`).

The line that a lexer reports is that of its last token (`Lexer.Pulled.lineNumber_of_pull`), and so
it never goes back. All of this together is `Lexer.positions_walk`.
-/

namespace TemplateLexer

open Text

variable {source cs : List Char}

namespace Position

/-- The place of the first character. -/
def origin : Position := ⟨1, 1⟩

/-- The place behind a character at `p`. -/
def next (p : Position) (c : Char) : Position :=
  if c = '\n' then ⟨p.line + 1, 1⟩ else ⟨p.line, p.column + 1⟩

/-- The place behind a text that begins at `p`. -/
def walk (p : Position) (cs : List Char) : Position := cs.foldl next p

/-- Places are read line by line. -/
instance : LT Position where
  lt p q := p.line < q.line ∨ p.line = q.line ∧ p.column < q.column

theorem lt_def {p q : Position} :
    p < q ↔ p.line < q.line ∨ p.line = q.line ∧ p.column < q.column := Iff.rfl

variable {p q r : Position}

theorem lt_trans (h : p < q) (h' : q < r) : p < r := by
  rw [lt_def] at *
  omega

theorem lt_irrefl (p : Position) : ¬ p < p := by
  rw [lt_def]
  omega

@[simp] theorem walk_nil (p : Position) : p.walk [] = p := rfl

@[simp] theorem walk_cons (p : Position) (c : Char) (cs : List Char) :
    p.walk (c :: cs) = (p.next c).walk cs := rfl

theorem walk_append (p : Position) (xs ys : List Char) : p.walk (xs ++ ys) = (p.walk xs).walk ys :=
  List.foldl_append

@[simp] theorem next_lineFeed (p : Position) : p.next '\n' = ⟨p.line + 1, 1⟩ := rfl

theorem next_of_ne {c : Char} (h : c ≠ '\n') (p : Position) :
    p.next c = ⟨p.line, p.column + 1⟩ := if_neg h

/-- Within a line only the column changes. -/
theorem walk_of_not_mem (h : '\n' ∉ cs) (p : Position) :
    p.walk cs = ⟨p.line, p.column + cs.length⟩ := by
  induction cs generalizing p with
  | nil => rfl
  | cons c cs ih =>
    rw [List.mem_cons, not_or] at h
    rw [walk_cons, next_of_ne (Ne.symm h.1), ih h.2, List.length_cons, Nat.add_assoc,
      Nat.add_comm 1]

theorem line_walk (p : Position) (cs : List Char) :
    (p.walk cs).line = p.line + cs.count '\n' := by
  induction cs generalizing p with
  | nil => rfl
  | cons c cs ih =>
    rw [walk_cons, ih, List.count_cons]
    by_cases hc : c = '\n'
    · subst hc
      simp only [next_lineFeed, BEq.rfl, ↓reduceIte]
      omega
    · simp [next_of_ne hc, hc]

/-- A text leads to the column behind its last line. -/
theorem walk_lastLine {front line : List Char} (h : LastLine front line) :
    origin.walk (front ++ line) = ⟨1 + front.count '\n', 1 + line.length⟩ := by
  rw [walk_append, walk_of_not_mem h.not_mem, line_walk]
  rcases h.ends with rfl | ⟨lines, rfl⟩
  · rfl
  · rw [walk_append]
    rfl

theorem lt_next (p : Position) (c : Char) : p < p.next c := by
  rw [next, lt_def]
  split
  · exact .inl (Nat.lt_succ_self _)
  · exact .inr ⟨rfl, Nat.lt_succ_self _⟩

/-- Whoever reads gets further. -/
theorem lt_walk (p : Position) (h : cs ≠ []) : p < p.walk cs := by
  induction cs generalizing p with
  | nil => exact absurd rfl h
  | cons c cs ih =>
    by_cases hcs : cs = []
    · subst hcs
      exact lt_next p c
    · exact lt_trans (lt_next p c) (ih _ hcs)

/-! ### The place of an offset -/

/-- The place of an offset is that behind what is before it. -/
theorem locate_walk {before rest : List Char} {offset : Nat} (hsource : source = before ++ rest)
    (hsize : size before = clamp source offset) :
    locate source offset = .ok (origin.walk before) := by
  obtain ⟨front, line, rfl, hlast⟩ := exists_lastLine before
  rw [locate_eq hsource hlast hsize, walk_lastLine hlast]

theorem ofOffset_walk {before rest : List Char} {offset : Nat} (hsource : source = before ++ rest)
    (hsize : size before = clamp source offset) :
    ofOffset source offset = origin.walk before :=
  Except.ok.inj ((locate_eq_ofOffset source offset).symm.trans (locate_walk hsource hsize))

theorem ofOffset_size (front rest : List Char) :
    ofOffset (front ++ rest) (size front) = origin.walk front :=
  ofOffset_walk rfl (clamp_of_isBoundary (isBoundary_append front rest)).symm

/-- A later boundary has a later place. -/
theorem ofOffset_lt {m n : Nat} (hm : isBoundary source m = true) (hn : isBoundary source n = true)
    (hlt : m < n) : ofOffset source m < ofOffset source n := by
  obtain ⟨front, mid, rest, rfl, rfl, rfl⟩ := exists_of_isBoundary_le hm hn (Nat.le_of_lt hlt)
  have hmid : mid ≠ [] := by
    rintro rfl
    simp at hlt
  rw [ofOffset_size, List.append_assoc, ofOffset_size, walk_append]
  exact lt_walk _ hmid

theorem ofOffset_inj {m n : Nat} (hm : isBoundary source m = true) (hn : isBoundary source n = true)
    (heq : ofOffset source m = ofOffset source n) : m = n := by
  rcases Nat.lt_trichotomy m n with hlt | hmn | hlt
  · exact absurd (heq ▸ ofOffset_lt hm hn hlt) (lt_irrefl _)
  · exact hmn
  · exact absurd (heq ▸ ofOffset_lt hn hm hlt) (lt_irrefl _)

end Position

namespace Lexer

variable {name : String} {options : Options} {ts us : List Token} {t : Token} {l l' : Lexer}

/-! ### Lines along a run -/

/-- A pull gives nothing and leaves the lexer as it is, or gives a token behind all others. -/
inductive PullAdvance (source : List Char) (ts : List Token) (l : Lexer) :
    Option Token → Lexer → Prop
  | halted : PullAdvance source ts l none l
  | token {t : Token} {front rest : List Char} {l' : Lexer} : source = front ++ rest →
      t.offset = size front → l'.lastOffset = t.offset → (∀ u ∈ ts, u.stop ≤ t.offset) →
      PullAdvance source ts l (some t) l'

theorem Pulled.pull_advance {t? : Option Token} (h : (ofSource name source options).Pulled ts l)
    (hpull : l.pull = .ok (t?, l')) : PullAdvance source ts l t? l' := by
  obtain ⟨p, hrun, hstands, -, -⟩ := h.exists_run
  by_cases hs : p.state = none
  · rw [pull_of_halted hstands.holds.pending_eq (hstands.state_eq.trans hs)] at hpull
    cases hpull
    exact .halted
  · have hout := pull_outcome hrun hstands hs
    rw [hpull] at hout
    cases hout with
    | @token p p' t _ hrun hstep hstands hoffset =>
      have hsource := hrun.source_eq.symm
      rw [List.append_assoc] at hsource
      have hstart := hstep.stop_eq.2.1
      exact .token hsource hstart hoffset fun u hu => hstart ▸ hrun.stop_le u hu

theorem Pulled.lastOffset_mem (h : (ofSource name source options).Pulled ts l) :
    l.lastOffset = 0 ∨ ∃ t ∈ ts, l.lastOffset = t.offset := by
  induction h with
  | fresh => exact .inl rfl
  | pull h hpull ih =>
    cases h.pull_advance hpull with
    | halted => simpa using ih
    | token _ _ hlast => exact .inr ⟨_, by simp, hlast⟩

/-- A pull never leads back. -/
theorem Pulled.lastOffset_le_of_pull {t? : Option Token}
    (h : (ofSource name source options).Pulled ts l) (hpull : l.pull = .ok (t?, l')) :
    l.lastOffset ≤ l'.lastOffset := by
  cases h.pull_advance hpull with
  | halted => exact Nat.le_refl _
  | token _ _ hlast hbehind =>
    rcases h.lastOffset_mem with hzero | ⟨u, hu, hu'⟩
    · omega
    · have hstop := hbehind u hu
      rw [Token.stop] at hstop
      omega

theorem Pulled.trans {l₀ : Lexer} (h : l₀.Pulled ts l) (h' : l.Pulled us l') :
    l₀.Pulled (ts ++ us) l' := by
  induction h' with
  | fresh =>
    rw [List.append_nil]
    exact h
  | pull _ hpull ih =>
    rw [← List.append_assoc]
    exact ih.pull hpull

theorem Pulled.lastOffset_le (h : (ofSource name source options).Pulled ts l)
    (h' : l.Pulled us l') : l.lastOffset ≤ l'.lastOffset := by
  induction h' with
  | fresh => exact Nat.le_refl _
  | pull h' hpull ih => exact Nat.le_trans ih ((h.trans h').lastOffset_le_of_pull hpull)

/-- A lexer reports the line of its last token. -/
theorem Pulled.lineNumber_of_pull (h : (ofSource name source options).Pulled ts l)
    (hpull : l.pull = .ok (some t, l')) :
    l'.lineNumber = .ok (Position.ofOffset source t.offset).line := by
  rw [(h.pull hpull).lineNumber_eq]
  cases h.pull_advance hpull with
  | @token _ front rest _ hsource hoffset hlast =>
    subst hsource
    have hbytes : (bytes (front ++ rest)).take (size front) = bytes front := by
      rw [bytes_append, ← length_bytes, List.take_left]
    rw [hlast, hoffset, hbytes, count_bytes_lineFeed, Position.ofOffset_size, Position.line_walk]
    rfl

/-- Reported lines never go back. -/
theorem Pulled.lineNumber_mono (h : (ofSource name source options).Pulled ts l)
    (h' : l.Pulled us l') :
    ∃ m n, l.lineNumber = .ok m ∧ l'.lineNumber = .ok n ∧ m ≤ n := by
  refine ⟨_, _, h.lineNumber_eq, (h.trans h').lineNumber_eq, ?_⟩
  have htake := List.take_sublist_take_left (l := bytes source) (h.lastOffset_le h')
  exact Nat.add_le_add_left (htake.count_le 10) 1

/-- Any offset has a place, which is reached by reading what is before it up to the last boundary.
Different boundaries have different places, in the same order; and the line that a lexer reports is
that of the place of its last token, which never goes back. -/
theorem positions_walk (name : String) (source : List Char) (options : Options) :
    (∀ offset error, ∃ before rest, source = before ++ rest ∧ size before ≤ offset ∧
      (∀ n, isBoundary source n = true → n ≤ offset → n ≤ size before) ∧
      Position.locate source offset = .ok (Position.origin.walk before) ∧
      (Diagnostic.ofError name source offset error).position = Position.origin.walk before) ∧
    (∀ m n, isBoundary source m = true → isBoundary source n = true →
      (m < n → Position.ofOffset source m < Position.ofOffset source n) ∧
      (Position.ofOffset source m = Position.ofOffset source n → m = n)) ∧
    ∀ ts l, (ofSource name source options).Pulled ts l →
      (∀ t l', l.pull = .ok (some t, l') →
        ∀ error, l'.lineNumber =
          .ok (Diagnostic.ofError name source t.offset error).position.line) ∧
      ∀ us l', l.Pulled us l' →
        ∃ m n, l.lineNumber = .ok m ∧ l'.lineNumber = .ok n ∧ m ≤ n := by
  refine ⟨?_, ?_, ?_⟩
  · intro offset error
    obtain ⟨before, rest, hsource, hsize⟩ := exists_of_isBoundary (isBoundary_clamp source offset)
    refine ⟨before, rest, hsource, hsize ▸ clamp_le source offset, ?_,
      Position.locate_walk hsource hsize, ?_⟩
    · intro n hn hle
      rw [hsize]
      exact le_clamp hn hle
    · exact Position.ofOffset_walk hsource hsize
  · intro m n hm hn
    exact ⟨Position.ofOffset_lt hm hn, Position.ofOffset_inj hm hn⟩
  · intro ts l h
    exact ⟨fun t l' hpull _ => h.lineNumber_of_pull hpull, fun us l' h' => h.lineNumber_mono h'⟩

end Lexer

end TemplateLexer
