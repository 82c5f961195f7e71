import TemplateLexer.Cursor
import TemplateLexer.Proofs.Encoding

/-!
# Cursors between two texts

A cursor in working order stands between two parts of its template: what is passed and what is
ahead. `Between` says so, and under it no operation faults. Each lemma of this file gives the result
of one operation and the parts between which the cursor stands afterwards, so that nothing that
follows has to open a cursor again.
-/

namespace TemplateLexer

open Text

/-- `run` is all that `p` lets pass at the beginning of `run ++ rest`. -/
structure LongestRun (p : Char → Bool) (run rest : List Char) : Prop where
  all : ∀ c ∈ run, p c = true
  stops : ∀ c ∈ rest.head?, p c = false

namespace LongestRun

variable {p : Char → Bool} {run rest : List Char}

theorem takeWhile_eq (h : LongestRun p run rest) : (run ++ rest).takeWhile p = run := by
  rw [List.takeWhile_append_of_pos h.all]
  cases rest with
  | nil => simp
  | cons c rest => simp [h.stops c rfl]

theorem dropWhile_eq (h : LongestRun p run rest) : (run ++ rest).dropWhile p = rest := by
  rw [List.dropWhile_append_of_pos h.all]
  cases rest with
  | nil => simp
  | cons c rest => simp [h.stops c rfl]

/-- Every text begins with a longest run. -/
theorem of_text (p : Char → Bool) (cs : List Char) :
    LongestRun p (cs.takeWhile p) (cs.dropWhile p) where
  all := List.all_eq_true.mp List.all_takeWhile
  stops := by
    intro c hc
    have := List.head?_dropWhile_not p cs
    rw [hc] at this
    simpa using this

/-- Every text splits into a longest run and what follows it. -/
theorem split (p : Char → Bool) (cs : List Char) :
    ∃ run rest, cs = run ++ rest ∧ LongestRun p run rest :=
  ⟨_, _, List.takeWhile_append_dropWhile.symm, of_text p cs⟩

theorem cons {c : Char} (h : LongestRun p run rest) (hc : p c = true) :
    LongestRun p (c :: run) rest where
  all := List.forall_mem_cons.mpr ⟨hc, h.all⟩
  stops := h.stops

/-- A run takes the first character if it can. -/
theorem ne_nil {c : Char} (h : LongestRun p run rest) (hc : c ∈ (run ++ rest).head?)
    (hp : p c = true) : run ≠ [] := by
  rintro rfl
  exact absurd ((h.stops c hc).symm.trans hp) (by decide)

/-- A run of nothing. -/
theorem eq_nil (h : LongestRun (fun _ => false) run rest) : run = [] := by
  apply List.eq_nil_iff_forall_not_mem.mpr
  intro c hc
  cases h.all c hc

end LongestRun

/-- A character that means something inside a quoted string. -/
def isStringMark (x : Char) : Bool := x == '"' || x == '\\' || x == '\n'

namespace Cursor

/-- The cursor stands behind `front` and before `rest`. -/
structure Between (c : Cursor) (front rest : List Char) : Prop where
  source_eq : c.source = front ++ rest
  pos_eq : c.pos = size front

namespace Between

variable {c : Cursor} {front rest : List Char}

/-! ### Looking -/

theorem rest_eq (h : c.Between front rest) : c.rest = .ok rest := by
  rw [rest_eq_ok_iff, h.source_eq, h.pos_eq, drop?_append]

theorem peek_eq (h : c.Between front rest) : c.peek = .ok rest.head? := by
  rw [peek, h.rest_eq]; rfl

theorem startsWith_eq (h : c.Between front rest) (text : List Char) :
    c.startsWith text = .ok (text.isPrefixOf rest) := by
  rw [startsWith, h.rest_eq]; rfl

theorem find_eq (h : c.Between front rest) (needle : List Char) :
    c.find needle = .ok (findInfix? (bytes needle) (bytes rest)) := by
  rw [find, h.rest_eq]; rfl

theorem sliceFrom_eq {mid : List Char} (h : c.Between (front ++ mid) rest) :
    c.sliceFrom (size front) = .ok mid := by
  have hpos := h.pos_eq
  rw [size_append] at hpos
  rw [sliceFrom, if_neg (by omega), h.source_eq, h.pos_eq, slice?_append]

/-! ### Moving -/

/-- A step forward takes the next character, if there is one, and can be taken back. -/
theorem bump_eq (h : c.Between front rest) :
    ∃ c', c.bump = .ok (rest.head?, c') ∧ c'.Between (front ++ rest.take 1) (rest.drop 1) ∧
      ∃ c'', c'.backUp = .ok c'' ∧ c''.Between front rest := by
  rw [bump, h.rest_eq]
  refine ⟨_, rfl, ⟨?_, ?_⟩, { c with width := rest.head?.elim 0 Char.utf8Size, canBackUp := false },
    ?_, ⟨h.source_eq, h.pos_eq⟩⟩
  · rw [List.append_assoc, List.take_append_drop]
    exact h.source_eq
  · cases rest with
    | nil => simpa using h.pos_eq
    | cons x rest => simp [h.pos_eq]
  · simp [backUp]

theorem bump_nil (h : c.Between front []) :
    ∃ c', c.bump = .ok (none, c') ∧ c'.Between front [] ∧
      ∃ c'', c'.backUp = .ok c'' ∧ c''.Between front [] := by
  simpa using h.bump_eq

theorem bump_cons {x : Char} (h : c.Between front (x :: rest)) :
    ∃ c', c.bump = .ok (some x, c') ∧ c'.Between (front ++ [x]) rest ∧
      ∃ c'', c'.backUp = .ok c'' ∧ c''.Between front (x :: rest) := by
  simpa using h.bump_eq

/-- The size of a text that is ahead leads behind this text. -/
theorem advanceBy_eq (xs : List Char) (h : c.Between front (xs ++ rest)) :
    ∃ c', c.advanceBy (size xs) = .ok c' ∧ c'.Between (front ++ xs) rest := by
  have hsource : c.source = (front ++ xs) ++ rest := by rw [h.source_eq, List.append_assoc]
  have hpos : c.pos + size xs = size (front ++ xs) := by rw [h.pos_eq, size_append]
  refine ⟨{ c with pos := c.pos + size xs, canBackUp := false }, ?_, hsource, hpos⟩
  rw [advanceBy, if_pos]
  rw [hsource, hpos]
  exact isBoundary_append _ _

theorem eatWhile_eq {p : Char → Bool} {run : List Char} (h : c.Between front (run ++ rest))
    (hrun : LongestRun p run rest) :
    ∃ c', c.eatWhile p = .ok c' ∧ c'.Between (front ++ run) rest := by
  rw [eatWhile, h.rest_eq]
  refine ⟨_, rfl, ?_, ?_⟩
  · rw [List.append_assoc]
    exact h.source_eq
  · simp only [hrun.takeWhile_eq, h.pos_eq, size_append]

/-! ### Searching for a byte -/

section SkipToByte

variable {p : UInt8 → Bool}

/-- At the end there is nothing to skip. -/
theorem skipToByte_nil (h : c.Between front []) :
    ∃ c', c.skipToByte p = .ok (none, c') ∧ c'.Between front [] := by
  rw [skipToByte, h.rest_eq]
  refine ⟨_, rfl, h.source_eq, ?_⟩
  simp [findByte?, sourceLen, h.source_eq]

variable (hp : ∀ b, p b = true → isContinuation b = false)
include hp

/-- A character that begins with a byte searched for is where the search ends. -/
theorem skipToByte_pos {x : Char} (h : c.Between front (x :: rest)) (hx : p (leadByte x) = true) :
    ∃ c', c.skipToByte p = .ok (some 0, c') ∧ c'.Between front (x :: rest) := by
  rw [skipToByte, h.rest_eq]
  refine ⟨{ c with canBackUp := false }, ?_, h.source_eq, h.pos_eq⟩
  simp [bind, Except.bind, pure, Except.pure, findByte?_cons_pos hp hx]

/-- A search passes over any other character: it ends where a search from behind the character
would end. The distances differ, and therefore only whether there is one is compared. -/
theorem skipToByte_neg {x : Char} (h : c.Between front (x :: rest)) (hx : p (leadByte x) = false) :
    ∃ c' : Cursor, c'.Between (front ++ [x]) rest ∧
      ∃ distance distance' c'', c.skipToByte p = .ok (distance, c'') ∧
        c'.skipToByte p = .ok (distance', c'') ∧ distance.isSome = distance'.isSome := by
  have h' : ({ c with pos := c.pos + x.utf8Size } : Cursor).Between (front ++ [x]) rest :=
    ⟨by rw [List.append_assoc]; exact h.source_eq, by simp [h.pos_eq]⟩
  refine ⟨_, h', ?_⟩
  rw [skipToByte, skipToByte, h.rest_eq, h'.rest_eq]
  refine ⟨findByte? p (x :: rest), findByte? p rest, _, rfl, ?_, ?_⟩
  · simp only [bind, Except.bind, pure, Except.pure, findByte?_cons_neg hp hx]
    cases findByte? p rest with
    | none => rfl
    | some i =>
      simp only [Option.map_some, Option.elim_some, Except.ok.injEq, Prod.mk.injEq, true_and]
      congr 1
      omega
  · rw [findByte?_cons_neg hp hx, Option.isSome_map]

end SkipToByte

/-! ### Searching for one of two bytes -/

section SkipToEither

variable {a b : UInt8}

theorem skipToEither_nil (h : c.Between front []) :
    ∃ c', c.skipToEither a b = .ok (false, c') ∧ c'.Between front [] := by
  obtain ⟨c', hs, hc'⟩ := h.skipToByte_nil (p := fun x => x == a || x == b)
  refine ⟨c', ?_, hc'⟩
  rw [skipToEither, hs]; rfl

variable (ha : isContinuation a = false) (hb : isContinuation b = false)
include ha hb

theorem isContinuation_of_either (x : UInt8) (hx : (x == a || x == b) = true) :
    isContinuation x = false := by
  simp only [Bool.or_eq_true, beq_iff_eq] at hx
  rcases hx with rfl | rfl
  · exact ha
  · exact hb

theorem skipToEither_pos {x : Char} (h : c.Between front (x :: rest))
    (hx : leadByte x = a ∨ leadByte x = b) :
    ∃ c', c.skipToEither a b = .ok (true, c') ∧ c'.Between front (x :: rest) := by
  obtain ⟨c', hs, hc'⟩ := h.skipToByte_pos (isContinuation_of_either ha hb) (by simpa using hx)
  refine ⟨c', ?_, hc'⟩
  rw [skipToEither, hs]; rfl

theorem skipToEither_neg {x : Char} (h : c.Between front (x :: rest)) (hxa : leadByte x ≠ a)
    (hxb : leadByte x ≠ b) :
    ∃ c' : Cursor, c'.Between (front ++ [x]) rest ∧ c.skipToEither a b = c'.skipToEither a b := by
  obtain ⟨c', hc', i, j, c'', hs, hs', hij⟩ :=
    h.skipToByte_neg (isContinuation_of_either ha hb) (by simp [hxa, hxb])
  refine ⟨c', hc', ?_⟩
  rw [skipToEither, skipToEither, hs, hs']
  simp only [bind, Except.bind, pure, Except.pure, hij]

end SkipToEither

/-! ### Searching for what strings treat apart -/

/-- Each byte that means something inside a string is a character of its own. -/
theorem isStringDelim_leadByte (x : Char) : isStringDelim (leadByte x) = isStringMark x := by
  have hq := eq_of_leadByte_eq (x := '"') (c := x) (b := 34) (by decide)
  have hb := eq_of_leadByte_eq (x := '\\') (c := x) (b := 92) (by decide)
  have hn := eq_of_leadByte_eq (x := '\n') (c := x) (b := 10) (by decide)
  rw [Bool.eq_iff_iff]
  simp only [isStringDelim, isStringMark, Bool.or_eq_true, beq_iff_eq]
  constructor
  · rintro ((h | h) | h)
    · exact .inl (.inl (hq h))
    · exact .inl (.inr (hb h))
    · exact .inr (hn h)
  · rintro ((rfl | rfl) | rfl) <;> decide

theorem isContinuation_of_isStringDelim (b : UInt8) (hb : isStringDelim b = true) :
    isContinuation b = false := by
  simp only [isStringDelim, Bool.or_eq_true, beq_iff_eq] at hb
  rcases hb with (rfl | rfl) | rfl <;> decide

theorem skipToStringDelim_nil (h : c.Between front []) :
    ∃ c', c.skipToStringDelim = .ok (none, c') ∧ c'.Between front [] := by
  obtain ⟨c', hs, hc'⟩ := h.skipToByte_nil (p := isStringDelim)
  refine ⟨c', ?_, hc'⟩
  rw [skipToStringDelim, hs]; rfl

theorem skipToStringDelim_pos {x : Char} (h : c.Between front (x :: rest))
    (hx : isStringMark x = true) :
    ∃ c', c.skipToStringDelim = .ok (some (leadByte x), c') ∧ c'.Between front (x :: rest) := by
  obtain ⟨c', hs, hc'⟩ := h.skipToByte_pos isContinuation_of_isStringDelim
    (by rw [isStringDelim_leadByte, hx])
  refine ⟨c', ?_, hc'⟩
  rw [skipToStringDelim, hs]
  simp only [bind, Except.bind, pure, Except.pure, Option.bind_some, hc'.source_eq, hc'.pos_eq,
    byteAt?_append_cons]

theorem skipToStringDelim_neg {x : Char} (h : c.Between front (x :: rest))
    (hx : isStringMark x = false) :
    ∃ c' : Cursor, c'.Between (front ++ [x]) rest ∧ c.skipToStringDelim = c'.skipToStringDelim := by
  obtain ⟨c', hc', i, j, c'', hs, hs', hij⟩ :=
    h.skipToByte_neg isContinuation_of_isStringDelim (by rw [isStringDelim_leadByte, hx])
  refine ⟨c', hc', ?_⟩
  rw [skipToStringDelim, skipToStringDelim, hs, hs']
  cases i <;> cases j <;> simp_all [bind, Except.bind]

end Between

end Cursor

end TemplateLexer
