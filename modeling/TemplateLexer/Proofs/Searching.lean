import Mathlib.Data.List.Infix
import TemplateLexer.Proofs.Cursor

/-!
# Searches end between characters

A cursor searches the bytes of what is ahead, and a byte can stand anywhere in a character. Here
every search is compared with one that looks at whole characters.

* The bytes of a text match only where the text itself occurs (`MatchesAt.occursAt`), so that the
  first match is the first occurrence (`findInfix?_bytes_eq_some_iff`).
* A search for bytes that are no continuation bytes ends in front of the first character that begins
  with one of them, or at the end (`Cursor.Between.exists_searchEnds`).

`Cursor.searches_align` puts the two together for all searches of a cursor.
-/

namespace TemplateLexer

open Text

namespace Text

variable {needle cs : List Char} {m n : Nat}

/-! ### Matches of bytes and occurrences of texts -/

/-- The bytes of `needle` stand in those of `cs` behind the first `n`, which need not be whole
characters. -/
def MatchesAt (needle cs : List Char) (n : Nat) : Prop := bytes needle <+: (bytes cs).drop n

/-- `needle` stands in `cs` behind characters of `n` bytes. -/
def OccursAt (needle cs : List Char) (n : Nat) : Prop :=
  ∃ front back, cs = front ++ needle ++ back ∧ size front = n

theorem OccursAt.matchesAt (h : OccursAt needle cs n) : MatchesAt needle cs n := by
  obtain ⟨front, back, rfl, rfl⟩ := h
  show bytes needle <+: (bytes (front ++ needle ++ back)).drop (size front)
  rw [← length_bytes, List.append_assoc, bytes_append, List.drop_left, bytes_append]
  exact List.prefix_append _ _

theorem OccursAt.cons {c : Char} (h : OccursAt needle cs n) :
    OccursAt needle (c :: cs) (n + c.utf8Size) := by
  obtain ⟨front, back, rfl, rfl⟩ := h
  exact ⟨c :: front, back, rfl, Nat.add_comm _ _⟩

theorem infix_iff_occursAt : needle <:+: cs ↔ ∃ n, OccursAt needle cs n := by
  constructor
  · rintro ⟨front, back, rfl⟩
    exact ⟨_, front, back, rfl, rfl⟩
  · rintro ⟨n, front, back, rfl, -⟩
    exact List.infix_append front needle back

/-- The bytes of a text that is not empty match at whole characters only. -/
theorem MatchesAt.occursAt (hn : needle ≠ []) (h : MatchesAt needle cs n) :
    OccursAt needle cs n := by
  induction cs generalizing n with
  | nil =>
    rw [MatchesAt, bytes_nil, List.drop_nil, List.prefix_nil] at h
    exact absurd h (bytes_ne_nil hn)
  | cons c cs ih =>
    have hlength : (String.utf8EncodeChar c).length = c.utf8Size := String.length_utf8EncodeChar c
    rcases Nat.eq_zero_or_pos n with rfl | hpos
    · obtain ⟨back, hback⟩ := bytes_isPrefix_bytes_iff.mp h
      exact ⟨[], back, hback.symm, rfl⟩
    by_cases hinside : n < c.utf8Size
    · -- The match would begin inside of the first character.
      rw [MatchesAt, bytes_cons, List.drop_append_of_le_length (by omega)] at h
      refine absurd h (not_bytes_isPrefix_inside hn (List.take_append_drop n _).symm ?_ ?_)
      · rw [← List.length_pos_iff, List.length_take]
        omega
      · rw [← List.length_pos_iff, List.length_drop]
        omega
    · have hbehind : MatchesAt needle cs (n - c.utf8Size) := by
        rw [MatchesAt, bytes_cons, List.drop_append, List.drop_eq_nil_of_le (by omega),
          List.nil_append, hlength] at h
        exact h
      rw [← Nat.sub_add_cancel (Nat.le_of_not_lt hinside)]
      exact (ih hbehind).cons

/-! ### The first match -/

/-- A search for bytes goes through all places where they can begin, from left to right. -/
theorem findInfix?_eq (needle hay : List UInt8) :
    findInfix? needle hay = hay.tails.findIdx? needle.isPrefixOf := by
  induction hay with
  | nil =>
    show findInfix? needle [] = [[]].findIdx? needle.isPrefixOf
    cases needle <;> rfl
  | cons b hay ih => rw [List.tails_cons, List.findIdx?_cons, findInfix?, ih]

theorem findInfix?_bytes_eq_none_iff :
    findInfix? (bytes needle) (bytes cs) = none ↔ ¬ needle <:+: cs := by
  refine ⟨?_, findInfix?_bytes_eq_none⟩
  rw [findInfix?_eq, List.findIdx?_eq_none_iff]
  intro hnone hinfix
  obtain ⟨n, hn⟩ := infix_iff_occursAt.mp hinfix
  have hno := hnone _ ((List.mem_tails _ _).mpr (List.drop_suffix n (bytes cs)))
  exact absurd (List.isPrefixOf_iff_prefix.mpr hn.matchesAt) (Bool.eq_false_iff.mp hno)

/-- What a search finds is a match, and none is further left. -/
theorem matchesAt_of_findInfix? (h : findInfix? (bytes needle) (bytes cs) = some n) :
    MatchesAt needle cs n ∧ ∀ m, MatchesAt needle cs m → n ≤ m := by
  rw [findInfix?_eq, List.findIdx?_eq_some_iff_getElem] at h
  obtain ⟨hlt, hmatch, hfirst⟩ := h
  rw [List.getElem_tails, List.isPrefixOf_iff_prefix] at hmatch
  refine ⟨hmatch, fun m hm => Nat.le_of_not_lt fun hmn => ?_⟩
  have hno := hfirst m hmn
  rw [List.getElem_tails, List.isPrefixOf_iff_prefix] at hno
  exact hno hm

/-- A search finds the first occurrence, and no match is further left, be it between characters or
not. -/
theorem findInfix?_bytes_eq_some_iff :
    findInfix? (bytes needle) (bytes cs) = some n ↔
      OccursAt needle cs n ∧ ∀ m, MatchesAt needle cs m → n ≤ m := by
  constructor
  · intro h
    obtain ⟨hmatch, hfirst⟩ := matchesAt_of_findInfix? h
    refine ⟨?_, hfirst⟩
    by_cases hneedle : needle = []
    · -- Nothing at all is found at once.
      subst hneedle
      have hzero : n ≤ 0 := hfirst 0 List.nil_prefix
      exact ⟨[], cs, rfl, (Nat.le_zero.mp hzero).symm⟩
    · exact hmatch.occursAt hneedle
  · rintro ⟨hoccurs, hfirst⟩
    cases hfind : findInfix? (bytes needle) (bytes cs) with
    | none =>
      exact absurd (infix_iff_occursAt.mpr ⟨n, hoccurs⟩) (findInfix?_bytes_eq_none_iff.mp hfind)
    | some m =>
      obtain ⟨hmatch, hleft⟩ := matchesAt_of_findInfix? hfind
      rw [Nat.le_antisymm (hleft n hoccurs.matchesAt) (hfirst m hmatch)]

/-! ### The first byte of some kind -/

/-- A search passes the characters that begin with no byte that it looks for, and ends at the first
other one. -/
theorem findByte?_append {p : UInt8 → Bool} (hp : ∀ b, p b = true → isContinuation b = false)
    {run rest : List Char} (hrun : LongestRun (fun x => !p (leadByte x)) run rest) :
    findByte? p (run ++ rest) = rest.head?.map fun _ => size run := by
  obtain ⟨hall, hstops⟩ := hrun
  induction run with
  | nil =>
    cases rest with
    | nil => rfl
    | cons x rest => exact findByte?_cons_pos hp (by simpa using hstops x rfl) rest
  | cons x run ih =>
    rw [List.forall_mem_cons] at hall
    rw [List.cons_append, findByte?_cons_neg hp (by simpa using hall.1), ih hall.2, Option.map_map]
    congr 1
    funext y
    exact Nat.add_comm _ _

end Text

namespace Cursor

variable {c : Cursor} {front rest : List Char}

/-- Where a search for bytes that pass `p` ends: behind `run`, in front of the first character that
passes `q`, or at the end of the template, if there is no such character. The first byte that passes
`p` is the first one of this character. -/
structure SearchEnds (p : UInt8 → Bool) (q : Char → Bool) (front run back : List Char)
    (c' : Cursor) : Prop where
  longest : LongestRun (fun x => !q x) run back
  between : c'.Between (front ++ run) back
  leftmost : (bytes (run ++ back)).findIdx? p = back.head?.map fun _ => size run

theorem Between.exists_searchEnds {p : UInt8 → Bool} {q : Char → Bool}
    (h : c.Between front rest) (hp : ∀ b, p b = true → isContinuation b = false)
    (hq : ∀ x, p (leadByte x) = q x) :
    ∃ run back c', rest = run ++ back ∧
      c.skipToByte p = .ok (back.head?.map fun _ => size run, c') ∧
      SearchEnds p q front run back c' := by
  obtain ⟨run, back, rfl, hrun⟩ := LongestRun.split (fun x => !q x) rest
  have hfind : findByte? p (run ++ back) = back.head?.map fun _ => size run := by
    apply findByte?_append hp
    simpa only [hq] using hrun
  refine ⟨run, back, { c with pos := size (front ++ run), canBackUp := false }, rfl, ?_, hrun,
    ⟨?_, rfl⟩, ?_⟩
  · rw [skipToByte, h.rest_eq]
    simp only [bind, Except.bind, pure, Except.pure, hfind]
    cases back with
    | nil => simp [sourceLen, h.source_eq]
    | cons x back => simp [h.pos_eq]
  · rw [List.append_assoc]
    exact h.source_eq
  · rw [← findByte?_eq, hfind]

theorem Between.exists_skipToEither (h : c.Between front rest) {a b : UInt8}
    (ha : isContinuation a = false) (hb : isContinuation b = false) :
    ∃ run back c', rest = run ++ back ∧ c.skipToEither a b = .ok (!back.isEmpty, c') ∧
      SearchEnds (fun x => x == a || x == b) (fun x => leadByte x == a || leadByte x == b)
        front run back c' := by
  obtain ⟨run, back, c', hrest, hskip, hends⟩ :=
    h.exists_searchEnds (isContinuation_of_either ha hb) fun _ => rfl
  refine ⟨run, back, c', hrest, ?_, hends⟩
  rw [skipToEither, hskip]
  cases back <;> rfl

theorem Between.exists_skipToStringDelim (h : c.Between front rest) :
    ∃ run back c', rest = run ++ back ∧ c.skipToStringDelim = .ok (back.head?.map leadByte, c') ∧
      SearchEnds isStringDelim isStringMark front run back c' := by
  obtain ⟨run, back, c', hrest, hskip, hends⟩ :=
    h.exists_searchEnds isContinuation_of_isStringDelim isStringDelim_leadByte
  refine ⟨run, back, c', hrest, ?_, hends⟩
  rw [skipToStringDelim, hskip]
  cases back with
  | nil => rfl
  | cons x back =>
    have hbyte : byteAt? c'.source c'.pos = some (leadByte x) := by
      rw [hends.between.source_eq, hends.between.pos_eq, byteAt?_append_cons]
    simp only [bind, Except.bind, pure, Except.pure, List.head?_cons, Option.map_some,
      Option.bind_some, hbyte]

/-- A search that starts between two characters gives what a search through whole characters would
give. A search for one of two bytes ends in front of the first character that begins with one of
them, and a search for what strings treat apart in front of the first such character, or at the end
of the template. A search for a text gives the distance to its first occurrence; the bytes of the
text match nowhere further left, and only at occurrences, if the text is not empty. -/
theorem searches_align (h : c.Between front rest) :
    (∀ a b, isContinuation a = false → isContinuation b = false →
      ∃ run back c', rest = run ++ back ∧ c.skipToEither a b = .ok (!back.isEmpty, c') ∧
        SearchEnds (fun x => x == a || x == b) (fun x => leadByte x == a || leadByte x == b)
          front run back c') ∧
    (∃ run back c', rest = run ++ back ∧
      c.skipToStringDelim = .ok (back.head?.map leadByte, c') ∧
      SearchEnds isStringDelim isStringMark front run back c') ∧
    ∀ needle, ∃ distance, c.find needle = .ok distance ∧
      (∀ n, distance = some n ↔
        OccursAt needle rest n ∧ ∀ m, MatchesAt needle rest m → n ≤ m) ∧
      (needle ≠ [] → ∀ m, MatchesAt needle rest m → OccursAt needle rest m) ∧
      (distance = none ↔ ¬ needle <:+: rest) := by
  refine ⟨?_, h.exists_skipToStringDelim, ?_⟩
  · intro a b ha hb
    exact h.exists_skipToEither ha hb
  · intro needle
    refine ⟨_, h.find_eq needle, ?_, ?_, findInfix?_bytes_eq_none_iff⟩
    · intro n
      exact findInfix?_bytes_eq_some_iff
    · intro hneedle m hm
      exact hm.occursAt hneedle

/-- A search for two bytes, of which one begins two of the letters and the other none, and a search
for the second of these letters. -/
theorem searches_align_letters :
    ∃ c : Cursor, c.Between ['é'] ['a', 'ê', '"', 'è'] ∧
      (∃ run back c', ['a', 'ê', '"', 'è'] = run ++ back ∧
        c.skipToEither 0xC3 0xFF = .ok (true, c') ∧ c'.pos = 3 ∧
        c'.Between (['é'] ++ run) back) ∧
      c.find ['è'] = .ok (some 4) ∧ OccursAt ['è'] ['a', 'ê', '"', 'è'] 4 := by
  have hc : Between { source := ['é', 'a', 'ê', '"', 'è'], pos := 2 } ['é'] ['a', 'ê', '"', 'è'] :=
    ⟨rfl, rfl⟩
  obtain ⟨heither, -, hfind⟩ := searches_align hc
  refine ⟨_, hc, ?_, ?_⟩
  · obtain ⟨run, back, c', hrest, hskip, hends⟩ := heither 0xC3 0xFF (by decide) (by decide)
    have hfound : skipToEither { source := ['é', 'a', 'ê', '"', 'è'], pos := 2 } 0xC3 0xFF =
        .ok (true, { source := ['é', 'a', 'ê', '"', 'è'], pos := 3 }) := by decide
    rw [hskip] at hfound
    obtain ⟨htrue, hpos⟩ := Prod.mk.inj (Except.ok.inj hfound)
    exact ⟨run, back, c', hrest, htrue ▸ hskip, hpos ▸ rfl, hends.between⟩
  · obtain ⟨distance, hdistance, hsome, -⟩ := hfind ['è']
    have hfour : find { source := ['é', 'a', 'ê', '"', 'è'], pos := 2 } ['è'] = .ok (some 4) := by
      decide
    rw [hdistance] at hfour
    exact ⟨hfour ▸ hdistance, ((hsome 4).mp (Except.ok.inj hfour)).1⟩

end Cursor

end TemplateLexer
