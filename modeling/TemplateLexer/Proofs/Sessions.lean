import TemplateLexer.Proofs.Searching

/-!
# Sessions with a cursor

A cursor is a plain value: it can be copied before it looks ahead, and the copy can be taken up
again. A session does both, in any order and as often as it likes, and in between it looks and
moves. With each cursor it keeps the last move that led to it, also in a copy. The cursor itself has
no more than a width and a permission to remember this move by.

What one request keeps is `Session.Sound.answer`, and what follows for whole sessions is
`sessions_sound`: the cursor stands between characters, a request is answered exactly when the
session allows it, and a step back takes back the last move.
-/

namespace TemplateLexer

open Text

namespace Cursor

/-! ### Requests -/

/-- An operation that leaves the cursor as it is. -/
inductive Look where
  | peek
  | rest
  | startsWith (text : List Char)
  | find (needle : List Char)
  | sliceFrom (start : Nat)
  | isEof

/-- An operation that moves the cursor. Bytes that are searched for are no continuation bytes. -/
inductive Move where
  | bump
  | backUp
  | advanceBy (n : Nat)
  | eatWhile (p : Char → Bool)
  | skipToEither (a b : UInt8) (ha : isContinuation a = false) (hb : isContinuation b = false)
  | skipToStringDelim

/-- Looks, and forgets what was seen. -/
def Look.run (c : Cursor) : Look → Except Fault Unit
  | peek => c.peek.map fun _ => ()
  | rest => c.rest.map fun _ => ()
  | startsWith text => (c.startsWith text).map fun _ => ()
  | find needle => (c.find needle).map fun _ => ()
  | sliceFrom start => (c.sliceFrom start).map fun _ => ()
  | isEof => (Except.ok c.isEof).map fun _ => ()

/-- The cursor behind a move. -/
def Move.run (c : Cursor) : Move → Except Fault Cursor
  | bump => c.bump.map Prod.snd
  | backUp => c.backUp
  | advanceBy n => c.advanceBy n
  | eatWhile p => c.eatWhile p
  | skipToEither a b _ _ => (c.skipToEither a b).map Prod.snd
  | skipToStringDelim => c.skipToStringDelim.map Prod.snd

/-- A cursor with the last move that was made on it, and the cursor before this move. -/
structure Tracked where
  cursor : Cursor
  lastMove : Option (Move × Cursor) := none

/-- A slice starts at a boundary that is not ahead. Any other look makes sense always. -/
def Look.Allowed (c : Cursor) : Look → Prop
  | sliceFrom start => start ≤ c.pos ∧ isBoundary c.source start = true
  | _ => True

/-- A step back needs a step forward as the last move, and an advance ends at a boundary. Any other
move makes sense always. -/
def Move.Allowed (t : Tracked) : Move → Prop
  | backUp => ∃ before, t.lastMove = some (bump, before)
  | advanceBy n => isBoundary t.cursor.source (t.cursor.pos + n) = true
  | _ => True

/-- What is asked for in a session. -/
inductive Request where
  | look (look : Look)
  | move (move : Move)
  /-- Makes a copy of the cursor. -/
  | save
  /-- Takes up the copy that was made after `i` others, if there is one. -/
  | restore (i : Nat)

/-- A cursor in use, and the copies that were made, from the first to the last. -/
structure Session where
  current : Tracked
  copies : List Tracked := []

namespace Session

/-- A session at the start of a template. -/
def ofSource (source : List Char) : Session where
  current := { cursor := { source } }

def cursor (s : Session) : Cursor := s.current.cursor

/-- The session behind a request. -/
def answer (s : Session) : Request → Except Fault Session
  | .look look => (look.run s.cursor).map fun _ => s
  | .move move =>
    (move.run s.cursor).map fun c => { s with current := ⟨c, some (move, s.cursor)⟩ }
  | .save => .ok { s with copies := s.copies ++ [s.current] }
  | .restore i => .ok { s with current := s.copies[i]?.getD s.current }

/-- The session behind several requests, each of which has to be answered. -/
def run (s : Session) (requests : List Request) : Except Fault Session := requests.foldlM answer s

/-- Which requests make sense. -/
def Allows (s : Session) : Request → Prop
  | .look look => look.Allowed s.cursor
  | .move move => move.Allowed s.current
  | .save => True
  | .restore _ => True

end Session

variable {source front rest : List Char} {c c' : Cursor} {look : Look} {move : Move}
  {t : Tracked} {s s' : Session} {request : Request} {requests : List Request}

/-! ### Single operations -/

/-- A cursor that stands in a template, between two characters. -/
structure Aligned (source : List Char) (c : Cursor) : Prop where
  source_eq : c.source = source
  boundary : isBoundary source c.pos = true

theorem Aligned.exists_between (h : Aligned source c) :
    ∃ front rest, front ++ rest = source ∧ c.Between front rest := by
  obtain ⟨front, rest, hsource, hpos⟩ := exists_of_isBoundary h.boundary
  exact ⟨front, rest, hsource.symm, h.source_eq.trans hsource, hpos.symm⟩

theorem Between.aligned (h : c.Between front rest) (hsource : front ++ rest = source) :
    Aligned source c := by
  refine ⟨h.source_eq.trans hsource, ?_⟩
  rw [← hsource, h.pos_eq]
  exact isBoundary_append front rest

theorem advanceBy_succeeds_iff {n : Nat} :
    (∃ c', c.advanceBy n = .ok c') ↔ isBoundary c.source (c.pos + n) = true := by
  unfold advanceBy
  constructor
  · rintro ⟨c', h⟩
    split at h
    · assumption
    · split at h <;> cases h
  · intro h
    rw [if_pos h]
    exact ⟨_, rfl⟩

theorem Aligned.sliceFrom_succeeds_iff (h : Aligned source c) {start : Nat} :
    (∃ text, c.sliceFrom start = .ok text) ↔ start ≤ c.pos ∧ isBoundary c.source start = true := by
  rw [h.source_eq]
  constructor
  · rintro ⟨text, hslice⟩
    unfold sliceFrom at hslice
    split at hslice
    · cases hslice
    · next hle =>
      split at hslice
      · next htext =>
        rw [h.source_eq] at htext
        obtain ⟨front, rest, rfl, rfl, -⟩ := slice?_eq_some_iff.mp htext
        refine ⟨Nat.le_of_not_lt hle, ?_⟩
        rw [List.append_assoc]
        exact isBoundary_append _ _
      · cases hslice
  · rintro ⟨hle, hstart⟩
    obtain ⟨front, mid, rest, hsource, rfl, hpos⟩ := exists_of_isBoundary_le hstart h.boundary hle
    exact ⟨mid, Between.sliceFrom_eq ⟨h.source_eq.trans hsource, hpos.symm⟩⟩

/-- A step forward was made between two characters, and can be taken back. -/
theorem exists_backUp_of_bump {next : Option Char} (h : c.bump = .ok (next, c')) :
    ∃ front rest c'', c.Between front rest ∧ next = rest.head? ∧ c'.backUp = .ok c'' ∧
      c''.Between front rest := by
  obtain ⟨rest, hrest, -⟩ := bind_eq_ok_iff.mp h
  obtain ⟨front, hsource, hpos⟩ := drop?_eq_some_iff.mp (rest_eq_ok_iff.mp hrest)
  have hc : c.Between front rest := ⟨hsource, hpos.symm⟩
  obtain ⟨c₁, hbump, -, c'', hback, hc''⟩ := hc.bump_eq
  rw [h] at hbump
  obtain ⟨rfl, rfl⟩ := Prod.mk.inj (Except.ok.inj hbump)
  exact ⟨front, rest, c'', hc, rfl, hback, hc''⟩

theorem skipToByte_canBackUp {p : UInt8 → Bool} {distance : Option Nat}
    (h : c.skipToByte p = .ok (distance, c')) : c'.canBackUp = false := by
  obtain ⟨_, -, h⟩ := bind_eq_ok_iff.mp h
  cases h
  rfl

/-- A move gives the permission to go back exactly if it is a step forward. -/
theorem Move.canBackUp_run (h : move.run c = .ok c') : c'.canBackUp = true ↔ move = .bump := by
  cases move with
  | bump =>
    obtain ⟨_, hbump, rfl⟩ := map_eq_ok_iff.mp h
    obtain ⟨_, -, hbump⟩ := bind_eq_ok_iff.mp hbump
    cases hbump
    simp
  | backUp =>
    simp only [Move.run, Cursor.backUp] at h
    split at h
    · split at h <;> cases h
      simp
    · cases h
  | advanceBy n =>
    simp only [Move.run, Cursor.advanceBy] at h
    split at h
    · cases h
      simp
    · split at h <;> cases h
  | eatWhile p =>
    obtain ⟨_, -, h⟩ := bind_eq_ok_iff.mp h
    cases h
    simp
  | skipToEither a b ha hb =>
    obtain ⟨_, hskip, rfl⟩ := map_eq_ok_iff.mp h
    obtain ⟨_, hbyte, hskip⟩ := bind_eq_ok_iff.mp hskip
    cases hskip
    simp [skipToByte_canBackUp hbyte]
  | skipToStringDelim =>
    obtain ⟨_, hskip, rfl⟩ := map_eq_ok_iff.mp h
    obtain ⟨_, hbyte, hskip⟩ := bind_eq_ok_iff.mp hskip
    cases hskip
    simp [skipToByte_canBackUp hbyte]

theorem Look.succeeds_iff (h : Aligned source c) : (∃ u, look.run c = .ok u) ↔ look.Allowed c := by
  obtain ⟨front, rest, -, hc⟩ := h.exists_between
  cases look with
  | sliceFrom start => exact exists_map_eq_ok_iff.trans h.sliceFrom_succeeds_iff
  | peek => exact iff_of_true (exists_map_eq_ok_iff.mpr ⟨_, hc.peek_eq⟩) trivial
  | rest => exact iff_of_true (exists_map_eq_ok_iff.mpr ⟨_, hc.rest_eq⟩) trivial
  | startsWith text =>
    exact iff_of_true (exists_map_eq_ok_iff.mpr ⟨_, hc.startsWith_eq text⟩) trivial
  | find needle => exact iff_of_true (exists_map_eq_ok_iff.mpr ⟨_, hc.find_eq needle⟩) trivial
  | isEof => exact iff_of_true ⟨(), rfl⟩ trivial

/-! ### Tracked cursors -/

/-- A tracked cursor is in order: it stands between characters, the last move led to it, and without
a move it cannot go back. -/
structure Tracked.Sound (source : List Char) (t : Tracked) : Prop where
  aligned : Aligned source t.cursor
  led : ∀ move before, t.lastMove = some (move, before) → move.run before = .ok t.cursor
  fresh : t.lastMove = none → t.cursor.canBackUp = false

namespace Tracked.Sound

theorem canBackUp_iff (h : t.Sound source) :
    t.cursor.canBackUp = true ↔ ∃ before, t.lastMove = some (.bump, before) := by
  cases hlast : t.lastMove with
  | none => simp [h.fresh hlast]
  | some last =>
    obtain ⟨move, before⟩ := last
    rw [Move.canBackUp_run (h.led move before hlast)]
    simp

/-- Behind a step forward, a step back leads to where this step began. -/
theorem exists_backUp (h : t.Sound source) {before : Cursor}
    (hlast : t.lastMove = some (.bump, before)) :
    ∃ next c', before.bump = .ok (next, t.cursor) ∧ t.cursor.backUp = .ok c' ∧
      Aligned source c' ∧ c'.pos = before.pos ∧ c'.peek = .ok next := by
  obtain ⟨⟨next, c⟩, hbump, rfl⟩ := map_eq_ok_iff.mp (h.led .bump before hlast)
  obtain ⟨front, rest, c', hbefore, rfl, hback, hc'⟩ := exists_backUp_of_bump hbump
  have hsource : front ++ rest = source := by
    rw [← hbefore.source_eq, ← (before_of_bump hbump).source_eq]
    exact h.aligned.source_eq
  exact ⟨_, c', hbump, hback, hc'.aligned hsource, hc'.pos_eq.trans hbefore.pos_eq.symm,
    hc'.peek_eq⟩

theorem backUp_succeeds_iff (h : t.Sound source) :
    (∃ c', t.cursor.backUp = .ok c') ↔ ∃ before, t.lastMove = some (.bump, before) := by
  constructor
  · rintro ⟨c', hback⟩
    rw [← h.canBackUp_iff]
    unfold Cursor.backUp at hback
    split at hback
    · assumption
    · cases hback
  · rintro ⟨before, hlast⟩
    obtain ⟨-, c', -, hback, -⟩ := h.exists_backUp hlast
    exact ⟨c', hback⟩

end Tracked.Sound

theorem Move.allowed_of_run (h : t.Sound source) (hrun : move.run t.cursor = .ok c') :
    move.Allowed t := by
  cases move with
  | backUp => exact h.backUp_succeeds_iff.mp ⟨c', hrun⟩
  | advanceBy n => exact advanceBy_succeeds_iff.mp ⟨c', hrun⟩
  | bump | eatWhile | skipToEither | skipToStringDelim => trivial

/-- A move that makes sense succeeds, and ends between characters. -/
theorem Move.exists_run (h : t.Sound source) (hallowed : move.Allowed t) :
    ∃ c', move.run t.cursor = .ok c' ∧ Aligned source c' := by
  obtain ⟨front, rest, hsource, hc⟩ := h.aligned.exists_between
  cases move with
  | bump =>
    obtain ⟨c', hbump, hc', -⟩ := hc.bump_eq
    refine ⟨c', map_eq_ok_iff.mpr ⟨_, hbump, rfl⟩, hc'.aligned ?_⟩
    rw [List.append_assoc, List.take_append_drop, hsource]
  | backUp =>
    obtain ⟨before, hlast⟩ := hallowed
    obtain ⟨-, c', -, hback, haligned, -⟩ := h.exists_backUp hlast
    exact ⟨c', hback, haligned⟩
  | advanceBy n =>
    obtain ⟨c', hrun⟩ := advanceBy_succeeds_iff.mpr hallowed
    obtain ⟨hbefore, hpos, -⟩ := before_of_advanceBy hrun
    refine ⟨c', hrun, hbefore.source_eq.trans h.aligned.source_eq, ?_⟩
    rw [hpos, ← h.aligned.source_eq]
    exact hallowed
  | eatWhile p =>
    obtain ⟨run, back, rfl, hlongest⟩ := LongestRun.split p rest
    obtain ⟨c', heat, hc'⟩ := hc.eatWhile_eq hlongest
    exact ⟨c', heat, hc'.aligned (by rw [List.append_assoc, hsource])⟩
  | skipToEither a b ha hb =>
    obtain ⟨run, back, c', rfl, hskip, hends⟩ := hc.exists_skipToEither ha hb
    exact ⟨c', map_eq_ok_iff.mpr ⟨_, hskip, rfl⟩,
      hends.between.aligned (by rw [List.append_assoc, hsource])⟩
  | skipToStringDelim =>
    obtain ⟨run, back, c', rfl, hskip, hends⟩ := hc.exists_skipToStringDelim
    exact ⟨c', map_eq_ok_iff.mpr ⟨_, hskip, rfl⟩,
      hends.between.aligned (by rw [List.append_assoc, hsource])⟩

theorem Move.succeeds_iff (h : t.Sound source) :
    (∃ c', move.run t.cursor = .ok c') ↔ move.Allowed t := by
  constructor
  · rintro ⟨c', hrun⟩
    exact Move.allowed_of_run h hrun
  · intro hallowed
    obtain ⟨c', hrun, -⟩ := Move.exists_run h hallowed
    exact ⟨c', hrun⟩

theorem Tracked.Sound.run (h : t.Sound source) (hrun : move.run t.cursor = .ok c') :
    Tracked.Sound source ⟨c', some (move, t.cursor)⟩ := by
  obtain ⟨c₁, hrun₁, haligned⟩ := Move.exists_run h (Move.allowed_of_run h hrun)
  rw [hrun] at hrun₁
  cases hrun₁
  refine ⟨haligned, ?_, ?_⟩
  · intro move' before hlast
    obtain ⟨rfl, rfl⟩ := Prod.mk.inj (Option.some.inj hlast)
    exact hrun
  · intro hlast
    cases hlast

/-! ### Whole sessions -/

namespace Session

/-- A session is in order: so are its cursor and all copies. -/
structure Sound (source : List Char) (s : Session) : Prop where
  current : s.current.Sound source
  copies : ∀ t ∈ s.copies, t.Sound source

theorem sound_ofSource (source : List Char) : (ofSource source).Sound source where
  current :=
    { aligned := ⟨rfl, isBoundary_append [] source⟩
      led := fun _ _ hlast => nomatch hlast
      fresh := fun _ => rfl }
  copies := fun _ hmem => nomatch hmem

namespace Sound

/-- One request keeps a session in order. -/
theorem answer (h : s.Sound source) (hanswer : s.answer request = .ok s') : s'.Sound source := by
  cases request with
  | look look =>
    obtain ⟨-, -, rfl⟩ := map_eq_ok_iff.mp hanswer
    exact h
  | move move =>
    obtain ⟨c, hrun, rfl⟩ := map_eq_ok_iff.mp hanswer
    exact ⟨h.current.run hrun, h.copies⟩
  | save =>
    cases hanswer
    refine ⟨h.current, ?_⟩
    intro t ht
    rcases List.mem_append.mp ht with ht | ht
    · exact h.copies t ht
    · rw [List.mem_singleton.mp ht]
      exact h.current
  | restore i =>
    cases hanswer
    refine ⟨?_, h.copies⟩
    show (s.copies[i]?.getD s.current).Sound source
    cases hi : s.copies[i]? with
    | none => exact h.current
    | some t => exact h.copies t (List.mem_of_getElem? hi)

theorem run (h : s.Sound source) (hrun : s.run requests = .ok s') : s'.Sound source := by
  induction requests generalizing s with
  | nil =>
    cases hrun
    exact h
  | cons request requests ih =>
    rw [Session.run, List.foldlM_cons] at hrun
    obtain ⟨s₁, hanswer, hrun⟩ := bind_eq_ok_iff.mp hrun
    exact ih (h.answer hanswer) hrun

/-- A request is answered exactly when it makes sense. -/
theorem answer_succeeds_iff (h : s.Sound source) :
    (∃ s', s.answer request = .ok s') ↔ s.Allows request := by
  cases request with
  | look look => exact exists_map_eq_ok_iff.trans (Look.succeeds_iff h.current.aligned)
  | move move => exact exists_map_eq_ok_iff.trans (Move.succeeds_iff h.current)
  | save => exact iff_of_true ⟨_, rfl⟩ trivial
  | restore i => exact iff_of_true ⟨_, rfl⟩ trivial

end Sound

end Session

/-- Behind requests that were all answered, the cursor stands at a boundary of the template, and a
further request is answered exactly when it makes sense. An advance that makes sense ends at a
machine word, if the size of the template is one. Where the last move on the cursor was a step
forward, be it at the end of the template, a step back leads to where this step began, and the
character ahead is then the one that the step took. -/
theorem sessions_sound (h : (Session.ofSource source).run requests = .ok s) :
    s.cursor.source = source ∧ isBoundary source s.cursor.pos = true ∧
    s.cursor.pos ≤ size source ∧
    (∀ request, (∃ s', s.answer request = .ok s') ↔ s.Allows request) ∧
    (size source < wordBound →
      ∀ n, s.Allows (.move (.advanceBy n)) → s.cursor.pos + n < wordBound) ∧
    ∀ before, s.current.lastMove = some (.bump, before) →
      ∃ next c', before.bump = .ok (next, s.cursor) ∧ s.cursor.backUp = .ok c' ∧
        c'.source = source ∧ c'.pos = before.pos ∧ c'.peek = .ok next := by
  have hsound : s.Sound source := (Session.sound_ofSource source).run h
  have haligned : Aligned source s.cursor := hsound.current.aligned
  refine ⟨haligned.source_eq, haligned.boundary, le_size_of_isBoundary haligned.boundary, ?_, ?_,
    ?_⟩
  · intro request
    exact hsound.answer_succeeds_iff
  · intro hfits n hallowed
    have hboundary : isBoundary s.cursor.source (s.cursor.pos + n) = true := hallowed
    rw [haligned.source_eq] at hboundary
    exact Nat.lt_of_le_of_lt (le_size_of_isBoundary hboundary) hfits
  · intro before hlast
    obtain ⟨next, c', hbump, hback, hc', hpos, hpeek⟩ := hsound.current.exists_backUp hlast
    exact ⟨next, c', hbump, hback, hc'.source_eq, hpos, hpeek⟩

/-- A copy made behind a letter and taken up again behind the next one can still go back. -/
theorem sessions_sound_copy :
    ∃ s before c', (Session.ofSource ['é', 'x']).run
        [.move .bump, .save, .move (.advanceBy 1), .restore 0, .look .peek] = .ok s ∧
      isBoundary ['é', 'x'] s.cursor.pos = true ∧ s.Allows (.move (.advanceBy 1)) ∧
      s.cursor.pos + 1 < wordBound ∧ s.current.lastMove = some (.bump, before) ∧
      s.cursor.backUp = .ok c' ∧ c'.pos = 0 ∧ c'.peek = .ok (some 'é') := by
  have hrun : (Session.ofSource ['é', 'x']).run
      [.move .bump, .save, .move (.advanceBy 1), .restore 0, .look .peek] =
    .ok { current := ⟨⟨['é', 'x'], 2, 2, true⟩, some (.bump, { source := ['é', 'x'] })⟩
          copies := [⟨⟨['é', 'x'], 2, 2, true⟩, some (.bump, { source := ['é', 'x'] })⟩] } := rfl
  obtain ⟨-, hboundary, -, hanswer, hword, hback⟩ := sessions_sound hrun
  have hadvance := (hanswer (.move (.advanceBy 1))).mp ⟨_, rfl⟩
  obtain ⟨next, c', hbump, hc', -, hpos, hpeek⟩ := hback _ rfl
  cases hbump
  exact ⟨_, _, c', hrun, hboundary, hadvance, hword (by decide) 1 hadvance, rfl, hc', hpos,
    hpeek⟩

end Cursor

end TemplateLexer
