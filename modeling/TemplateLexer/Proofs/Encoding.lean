import TemplateLexer.Text.Search

/-!
# Characters and their bytes

Positions and searches are in bytes, and everything that is said about templates is said in
characters. This file holds the two together.

* A cut of a text is a decomposition into a front and a rest (`drop?_append`, `slice?_eq_some_iff`),
  and its position determines it (`append_inj_of_size`).
* No encoding of a character is the beginning of another one (`utf8EncodeChar_append_inj`), so that
  one text begins with another exactly when its bytes do (`bytes_isPrefix_bytes_iff`).
* A byte tells whether it stands behind the first one of a character (`isContinuation_of_mem_tail`,
  `isContinuation_leadByte`). A search for other bytes therefore stops at whole characters
  (`findByte?_cons_pos`, `findByte?_cons_neg`), and so does a search for a text
  (`findInfix?_bytes_cons`).
* The byte of a line feed is a line feed, so that lines can be told apart by their bytes
  (`count_bytes_lineFeed`, `LastLine.findLast?_eq`).
* A clamped position is the last boundary that is not beyond it (`isBoundary_clamp`, `le_clamp`).
-/

namespace TemplateLexer.Text

/-! ### Cuts -/

/-- Cutting a text at the end of its front leaves the rest. -/
@[simp] theorem drop?_append (front rest : List Char) :
    drop? (front ++ rest) (size front) = some rest :=
  drop?_eq_some_iff.mpr ⟨front, rfl, rfl⟩

/-- Nothing is left exactly behind the whole text. -/
theorem eq_nil_iff_of_drop? {cs rest : List Char} {n : Nat} (h : drop? cs n = some rest) :
    rest = [] ↔ n = size cs := by
  have hsize := size_of_drop?_eq_some h
  constructor
  · rintro rfl
    exact hsize
  · intro hn
    apply Classical.byContradiction
    intro hne
    have hpos := size_pos_of_ne_nil hne
    omega

theorem isBoundary_append (front rest : List Char) :
    isBoundary (front ++ rest) (size front) = true := by
  simp [isBoundary]

/-- A boundary cuts a text into two. -/
theorem exists_of_isBoundary {cs : List Char} {n : Nat} (h : isBoundary cs n = true) :
    ∃ front rest, cs = front ++ rest ∧ size front = n := by
  obtain ⟨rest, hdrop⟩ := Option.isSome_iff_exists.mp h
  obtain ⟨front, hcs, hn⟩ := drop?_eq_some_iff.mp hdrop
  exact ⟨front, rest, hcs, hn⟩

/-- A front is determined by its size. -/
theorem append_inj_of_size {front front' rest rest' : List Char}
    (h : front ++ rest = front' ++ rest') (hs : size front = size front') :
    front = front' ∧ rest = rest' := by
  induction front generalizing front' with
  | nil =>
    cases front' with
    | nil => exact ⟨rfl, by simpa using h⟩
    | cons c front' =>
      have := c.utf8Size_pos
      simp only [size_nil, size_cons] at hs
      omega
  | cons c front ih =>
    cases front' with
    | nil =>
      have := c.utf8Size_pos
      simp only [size_nil, size_cons] at hs
      omega
    | cons c' front' =>
      simp only [List.cons_append, List.cons.injEq] at h
      obtain ⟨rfl, h⟩ := h
      obtain ⟨rfl, hr⟩ := ih h (by simpa using hs)
      exact ⟨rfl, hr⟩

/-- Taking the first bytes of a text gives a front of that size. -/
theorem take?_eq_some_iff {cs front : List Char} {n : Nat} :
    take? cs n = some front ↔ ∃ rest, cs = front ++ rest ∧ size front = n := by
  induction cs generalizing n front with
  | nil =>
    cases n with
    | zero =>
      simp only [take?, Option.some.injEq]
      constructor
      · rintro rfl; exact ⟨[], rfl, rfl⟩
      · rintro ⟨rest, h, -⟩; exact (List.append_eq_nil_iff.mp h.symm).1.symm
    | succ n =>
      simp only [take?, reduceCtorEq, false_iff, not_exists, not_and]
      intro rest h
      rw [(List.append_eq_nil_iff.mp h.symm).1]
      simp
  | cons c cs ih =>
    have hc := c.utf8Size_pos
    cases n with
    | zero =>
      simp only [take?, Option.some.injEq]
      constructor
      · rintro rfl; exact ⟨c :: cs, rfl, rfl⟩
      · rintro ⟨rest, -, hn⟩
        cases front with
        | nil => rfl
        | cons d front =>
          have := d.utf8Size_pos
          rw [size_cons] at hn; omega
    | succ n =>
      simp only [take?]
      split
      · next hle =>
        simp only [Option.map_eq_some_iff]
        constructor
        · rintro ⟨front, hf, rfl⟩
          obtain ⟨rest, rfl, hn⟩ := ih.mp hf
          exact ⟨rest, rfl, by rw [size_cons]; omega⟩
        · rintro ⟨rest, h, hn⟩
          cases front with
          | nil => simp at hn
          | cons d front =>
            simp only [List.cons_append, List.cons.injEq] at h
            obtain ⟨rfl, rfl⟩ := h
            exact ⟨front, ih.mpr ⟨rest, rfl, by rw [size_cons] at hn; omega⟩, rfl⟩
      · next hlt =>
        simp only [reduceCtorEq, false_iff, not_exists, not_and]
        rintro rest h hn
        cases front with
        | nil => simp at hn
        | cons d front =>
          simp only [List.cons_append, List.cons.injEq] at h
          obtain ⟨rfl, rfl⟩ := h
          rw [size_cons] at hn; omega

/-- A slice is the middle part of a decomposition into three. -/
theorem slice?_eq_some_iff {cs mid : List Char} {start stop : Nat} :
    slice? cs start stop = some mid ↔
      ∃ front rest, cs = front ++ mid ++ rest ∧ size front = start ∧ size (front ++ mid) = stop := by
  unfold slice?
  constructor
  · intro h
    split at h
    · next hle =>
      obtain ⟨cs', hd, ht⟩ := Option.bind_eq_some_iff.mp h
      obtain ⟨front, rfl, rfl⟩ := drop?_eq_some_iff.mp hd
      obtain ⟨rest, rfl, hs⟩ := take?_eq_some_iff.mp ht
      exact ⟨front, rest, by simp, rfl, by rw [size_append]; omega⟩
    · simp at h
  · rintro ⟨front, rest, rfl, rfl, rfl⟩
    rw [if_pos (by simp), List.append_assoc, drop?_append, Option.bind_some]
    exact take?_eq_some_iff.mpr ⟨rest, rfl, by simp⟩

theorem slice?_append (front mid rest : List Char) :
    slice? (front ++ mid ++ rest) (size front) (size (front ++ mid)) = some mid :=
  slice?_eq_some_iff.mpr ⟨front, rest, rfl, rfl, rfl⟩

theorem slice?_of_prefix {front mid cs : List Char} (h : front ++ mid <+: cs) :
    slice? cs (size front) (size (front ++ mid)) = some mid := by
  obtain ⟨rest, rfl⟩ := h
  exact slice?_append front mid rest

/-- Two boundaries cut a text into three. -/
theorem exists_of_isBoundary_le {cs : List Char} {m n : Nat} (hm : isBoundary cs m = true)
    (hn : isBoundary cs n = true) (hle : m ≤ n) :
    ∃ front mid rest, cs = front ++ mid ++ rest ∧ size front = m ∧ size (front ++ mid) = n := by
  obtain ⟨front, behind, rfl, rfl⟩ := exists_of_isBoundary hm
  obtain ⟨whole, rest, hcs, rfl⟩ := exists_of_isBoundary hn
  rcases List.append_eq_append_iff.mp hcs with ⟨mid, rfl, rfl⟩ | ⟨mid, rfl, rfl⟩
  · exact ⟨front, mid, rest, by simp, rfl, rfl⟩
  · by_cases hmid : mid = []
    · subst hmid
      exact ⟨whole, [], behind, by simp, by simp, by simp⟩
    · have hpos := size_pos_of_ne_nil hmid
      rw [size_append] at hle
      omega

/-! ### Clamped positions -/

theorem floorBoundary_le (cs : List Char) (n : Nat) : floorBoundary cs n ≤ n := by
  fun_induction floorBoundary cs n with
  | case1 => exact Nat.le_refl _
  | case2 => exact Nat.le_refl _
  | case3 n _ ih => exact Nat.le_succ_of_le ih

theorem isBoundary_floorBoundary (cs : List Char) (n : Nat) :
    isBoundary cs (floorBoundary cs n) = true := by
  fun_induction floorBoundary cs n with
  | case1 => simp [isBoundary, drop?]
  | case2 n h => exact h
  | case3 n _ ih => exact ih

/-- The way back from `n` passes over no boundary. -/
theorem le_floorBoundary {cs : List Char} {m n : Nat} (hm : isBoundary cs m = true) (hle : m ≤ n) :
    m ≤ floorBoundary cs n := by
  fun_induction floorBoundary cs n with
  | case1 => exact hle
  | case2 => exact hle
  | case3 n hno ih =>
    apply ih
    have hne : m ≠ n + 1 := by
      rintro rfl
      exact hno hm
    omega

theorem isBoundary_clamp (cs : List Char) (n : Nat) : isBoundary cs (clamp cs n) = true :=
  isBoundary_floorBoundary cs _

theorem clamp_le (cs : List Char) (n : Nat) : clamp cs n ≤ n :=
  Nat.le_trans (floorBoundary_le cs _) (Nat.min_le_left _ _)

theorem le_clamp {cs : List Char} {m n : Nat} (hm : isBoundary cs m = true) (hle : m ≤ n) :
    m ≤ clamp cs n :=
  le_floorBoundary hm (Nat.le_min.mpr ⟨hle, le_size_of_isBoundary hm⟩)

/-- A boundary stands for itself. -/
theorem clamp_of_isBoundary {cs : List Char} {n : Nat} (h : isBoundary cs n = true) :
    clamp cs n = n :=
  Nat.le_antisymm (clamp_le cs n) (le_clamp h (Nat.le_refl n))

theorem clamp_mono (cs : List Char) {m n : Nat} (h : m ≤ n) : clamp cs m ≤ clamp cs n :=
  le_clamp (isBoundary_clamp cs m) (Nat.le_trans (clamp_le cs m) h)

/-! ### Encodings -/

@[simp] theorem bytes_nil : bytes [] = [] := rfl

theorem bytes_cons (c : Char) (cs : List Char) :
    bytes (c :: cs) = String.utf8EncodeChar c ++ bytes cs := rfl

@[simp] theorem bytes_append (xs ys : List Char) : bytes (xs ++ ys) = bytes xs ++ bytes ys :=
  List.flatMap_append

theorem bytes_ne_nil {cs : List Char} (h : cs ≠ []) : bytes cs ≠ [] := by
  rw [← List.length_pos_iff, length_bytes]
  exact size_pos_of_ne_nil h

/-- The first character of a text can be read off its bytes. -/
theorem utf8EncodeChar_append_inj {a b : Char} {xs ys : List UInt8}
    (h : String.utf8EncodeChar a ++ xs = String.utf8EncodeChar b ++ ys) : a = b ∧ xs = ys := by
  -- Decoding reads the same character off the front of both.
  have hab : a = b := by
    have ha := ByteArray.utf8DecodeChar?_utf8EncodeChar_append (b := xs.toByteArray) (c := a)
    have hb := ByteArray.utf8DecodeChar?_utf8EncodeChar_append (b := ys.toByteArray) (c := b)
    rw [← List.toByteArray_append, h, List.toByteArray_append, hb] at ha
    exact (Option.some.inj ha).symm
  subst hab
  exact ⟨rfl, List.append_cancel_left h⟩

/-- One text begins with another exactly when its bytes do. -/
theorem bytes_isPrefix_bytes_iff {xs ys : List Char} : bytes xs <+: bytes ys ↔ xs <+: ys := by
  induction xs generalizing ys with
  | nil => simp
  | cons x xs ih =>
    cases ys with
    | nil => simp [bytes_ne_nil]
    | cons y ys =>
      rw [List.cons_prefix_cons, ← ih]
      constructor
      · rintro ⟨tail, h⟩
        rw [bytes_cons, bytes_cons, List.append_assoc] at h
        obtain ⟨rfl, ht⟩ := utf8EncodeChar_append_inj h
        exact ⟨rfl, tail, ht⟩
      · rintro ⟨rfl, h⟩
        rw [bytes_cons, bytes_cons]
        exact (List.prefix_append_right_inj _).mpr h

/-! ### First bytes -/

theorem leadByte_eq (c : Char) : (String.utf8EncodeChar c).head? = some (leadByte c) :=
  List.head?_eq_some_head _

/-- A character that is one byte long is the only one that begins with this byte. -/
theorem eq_of_leadByte_eq {x c : Char} {b : UInt8} (hx : String.utf8EncodeChar x = [b])
    (hc : leadByte c = b) : c = x := by
  obtain ⟨tail, ht⟩ : ∃ tail, String.utf8EncodeChar c = b :: tail := by
    have := leadByte_eq c
    rw [hc] at this
    exact List.head?_eq_some_iff.mp this
  have h : String.utf8EncodeChar c ++ [] = String.utf8EncodeChar x ++ tail := by simp [ht, hx]
  exact (utf8EncodeChar_append_inj h).1

/-- A byte of the range in which all bytes of a character lie but the first. -/
def isContinuation (b : UInt8) : Bool := 0x80 ≤ b && b < 0xC0

theorem isContinuation_ofNat_iff {n : Nat} (h : n < 256) :
    isContinuation (UInt8.ofNat n) = true ↔ 128 ≤ n ∧ n < 192 := by
  have hn : (UInt8.ofNat n).toNat = n := by
    rw [UInt8.toNat_ofNat']
    exact Nat.mod_eq_of_lt h
  simp only [isContinuation, Bool.and_eq_true, decide_eq_true_eq, UInt8.le_iff_toNat_le,
    UInt8.lt_iff_toNat_lt, hn]
  rfl

/-- The bytes of a character behind the first one are continuation bytes. -/
theorem isContinuation_of_mem_tail {c : Char} {b : UInt8}
    (h : b ∈ (String.utf8EncodeChar c).tail) : isContinuation b = true := by
  have hbyte (n : Nat) : isContinuation (UInt8.ofNat (n % 64 + 128)) = true :=
    (isContinuation_ofNat_iff (by omega)).mpr (by omega)
  unfold String.utf8EncodeChar at h
  dsimp only at h
  -- One case for each length of an encoding.
  repeat' split at h
  all_goals simp only [List.tail_cons, List.mem_cons, List.not_mem_nil, or_false] at h
  · rw [h]; exact hbyte _
  · rcases h with h | h
    all_goals rw [h]; exact hbyte _
  · rcases h with h | h | h
    all_goals rw [h]; exact hbyte _

/-- The first byte of a character is no continuation byte. -/
theorem isContinuation_leadByte (c : Char) : isContinuation (leadByte c) = false := by
  have hlead (n : Nat) (hn : n < 256) (hout : n < 128 ∨ 192 ≤ n) :
      isContinuation (UInt8.ofNat n) = false := by
    rw [Bool.eq_false_iff, Ne, isContinuation_ofNat_iff hn]
    omega
  have hb := leadByte_eq c
  generalize leadByte c = b at hb
  unfold String.utf8EncodeChar at hb
  dsimp only at hb
  repeat' split at hb
  all_goals
    simp only [List.head?_cons, Option.some.injEq] at hb
    rw [← hb]
    exact hlead _ (by omega) (by omega)

section FindByte

variable {p : UInt8 → Bool} (hp : ∀ b, p b = true → isContinuation b = false)
include hp

/-- A search for bytes that are no continuation bytes looks at the first byte of a character
only. -/
theorem findIdx?_utf8EncodeChar (c : Char) :
    (String.utf8EncodeChar c).findIdx? p = if p (leadByte c) then some 0 else none := by
  obtain ⟨b, tail, he⟩ := List.exists_cons_of_ne_nil (String.utf8EncodeChar_ne_nil (c := c))
  have hb : leadByte c = b := by simp [leadByte, he]
  have ht : tail.findIdx? p = none := by
    rw [List.findIdx?_eq_none_iff]
    intro b' hb'
    have hmem : b' ∈ (String.utf8EncodeChar c).tail := by simpa [he] using hb'
    apply Bool.eq_false_iff.mpr
    intro hpb
    exact absurd (isContinuation_of_mem_tail hmem) (Bool.eq_false_iff.mp (hp b' hpb))
  rw [he, hb, List.findIdx?_cons, ht]
  split <;> simp

theorem findByte?_cons_pos {c : Char} (hc : p (leadByte c) = true) (cs : List Char) :
    findByte? p (c :: cs) = some 0 := by
  rw [findByte?, findIdx?_utf8EncodeChar hp, if_pos hc]

theorem findByte?_cons_neg {c : Char} (hc : p (leadByte c) = false) (cs : List Char) :
    findByte? p (c :: cs) = (findByte? p cs).map (· + c.utf8Size) := by
  rw [findByte?, findIdx?_utf8EncodeChar hp, if_neg (by simp [hc])]

end FindByte

/-- The byte at the end of a front is the first byte of the rest. -/
theorem byteAt?_append_cons (front : List Char) (c : Char) (rest : List Char) :
    byteAt? (front ++ c :: rest) (size front) = some (leadByte c) := by
  rw [byteAt?_eq, bytes_append, bytes_cons, ← length_bytes,
    List.getElem?_append_right (Nat.le_refl _), Nat.sub_self, ← List.head?_eq_getElem?,
    List.head?_append, leadByte_eq, Option.some_or]

/-! ### Line feeds -/

/-- The byte of a line feed occurs in no other character. -/
theorem lineFeed_mem_utf8EncodeChar {c : Char} (h : 10 ∈ String.utf8EncodeChar c) : c = '\n' := by
  obtain ⟨b, tail, he⟩ := List.exists_cons_of_ne_nil (String.utf8EncodeChar_ne_nil (c := c))
  have hb : leadByte c = b := by simp [leadByte, he]
  rw [he, List.mem_cons] at h
  rcases h with h | h
  · exact eq_of_leadByte_eq (b := 10) (by decide) (hb.trans h.symm)
  · have hmem : 10 ∈ (String.utf8EncodeChar c).tail := by simpa [he] using h
    exact absurd (isContinuation_of_mem_tail hmem) (by decide)

theorem lineFeed_not_mem_bytes {cs : List Char} (h : '\n' ∉ cs) : 10 ∉ bytes cs := by
  intro hmem
  obtain ⟨c, hc, hbyte⟩ := List.mem_flatMap.mp hmem
  cases lineFeed_mem_utf8EncodeChar hbyte
  exact h hc

/-- Line feeds can be counted in the bytes. -/
theorem count_bytes_lineFeed (cs : List Char) : (bytes cs).count 10 = cs.count '\n' := by
  induction cs with
  | nil => rfl
  | cons c cs ih =>
    rw [bytes_cons, List.count_append, List.count_cons, ih, Nat.add_comm]
    by_cases hc : c = '\n'
    · subst hc
      rfl
    · have hzero : (String.utf8EncodeChar c).count 10 = 0 :=
        List.count_eq_zero.mpr fun hmem => hc (lineFeed_mem_utf8EncodeChar hmem)
      rw [hzero, if_neg (by simpa using hc)]

/-- A text is cut behind its last line feed: `line` holds none, and `front` ends with one or is
empty. -/
structure LastLine (front line : List Char) : Prop where
  not_mem : '\n' ∉ line
  ends : front = [] ∨ ∃ lines, front = lines ++ ['\n']

/-- Every text has a last line, which may be empty. -/
theorem exists_lastLine (cs : List Char) : ∃ front line, cs = front ++ line ∧ LastLine front line := by
  induction cs with
  | nil => exact ⟨[], [], rfl, by simp, .inl rfl⟩
  | cons c cs ih =>
    obtain ⟨front, line, rfl, hlast⟩ := ih
    rcases hlast.ends with rfl | ⟨lines, rfl⟩
    · by_cases hc : c = '\n'
      · subst hc
        exact ⟨['\n'], line, rfl, hlast.not_mem, .inr ⟨[], rfl⟩⟩
      · refine ⟨[], c :: line, rfl, ?_, .inl rfl⟩
        simpa [Ne.symm hc] using hlast.not_mem
    · exact ⟨c :: (lines ++ ['\n']), line, rfl, hlast.not_mem, .inr ⟨c :: lines, rfl⟩⟩

theorem findLast?_eq_none {p : UInt8 → Bool} {bs : List UInt8} (h : ∀ b ∈ bs, p b = false) :
    findLast? p bs = none := by
  induction bs with
  | nil => rfl
  | cons b bs ih =>
    rw [List.forall_mem_cons] at h
    rw [findLast?, ih h.2]
    simp [h.1]

/-- The last of several bytes that pass is the one behind which none does. -/
theorem findLast?_append_cons {p : UInt8 → Bool} {b : UInt8} {bs : List UInt8} (hb : p b = true)
    (h : ∀ b ∈ bs, p b = false) (front : List UInt8) :
    findLast? p (front ++ b :: bs) = some front.length := by
  induction front with
  | nil => rw [List.nil_append, findLast?, findLast?_eq_none h]; simp [hb]
  | cons b' front ih => rw [List.cons_append, findLast?, ih]; rfl

/-- The last line starts behind the last line feed of the bytes. -/
theorem LastLine.findLast?_eq {front line : List Char} (h : LastLine front line) :
    (findLast? (· == 10) (bytes (front ++ line))).elim 0 (· + 1) = size front := by
  have hline : ∀ b ∈ bytes line, (b == 10) = false := by
    intro b hb
    rw [beq_eq_false_iff_ne]
    rintro rfl
    exact lineFeed_not_mem_bytes h.not_mem hb
  rcases h.ends with rfl | ⟨lines, rfl⟩
  · rw [List.nil_append, findLast?_eq_none hline]
    rfl
  · have hbytes : bytes (lines ++ ['\n'] ++ line) = bytes lines ++ 10 :: bytes line := by
      rw [bytes_append, bytes_append, List.append_assoc]
      rfl
    rw [hbytes, findLast?_append_cons rfl hline, length_bytes, size_append]
    rfl

/-! ### Searching for a text -/

/-- A search passes over a part at none of whose places the needle begins. -/
theorem findInfix?_append_of_not_prefix {needle xs ys : List UInt8}
    (h : ∀ front back, xs = front ++ back → back ≠ [] → ¬ needle <+: back ++ ys) :
    findInfix? needle (xs ++ ys) = (findInfix? needle ys).map (· + xs.length) := by
  induction xs with
  | nil => simp
  | cons x xs ih =>
    have hx : ¬ needle <+: x :: (xs ++ ys) := h [] (x :: xs) rfl (by simp)
    have hxs : findInfix? needle (xs ++ ys) = (findInfix? needle ys).map (· + xs.length) :=
      ih fun front back hfb => h (x :: front) back (by rw [hfb]; rfl)
    rw [List.cons_append, findInfix?, if_neg (by simpa using hx), hxs, Option.map_map]
    rfl

theorem findInfix?_of_prefix {needle hay : List UInt8} (h : needle <+: hay) :
    findInfix? needle hay = some 0 := by
  cases hay with
  | nil => simp [findInfix?, List.prefix_nil.mp h]
  | cons b hay => rw [findInfix?, if_pos (by simpa using h)]

/-- A text begins with a first byte, and so at no byte inside a character. -/
theorem not_bytes_isPrefix_inside {needle : List Char} {c : Char} {front back ys : List UInt8}
    (hn : needle ≠ []) (hc : String.utf8EncodeChar c = front ++ back) (hfront : front ≠ [])
    (hback : back ≠ []) : ¬ bytes needle <+: back ++ ys := by
  intro hpre
  obtain ⟨_, front', rfl⟩ := List.exists_cons_of_ne_nil hfront
  obtain ⟨x, needle', rfl⟩ := List.exists_cons_of_ne_nil hn
  obtain ⟨b, back', rfl⟩ := List.exists_cons_of_ne_nil hback
  obtain ⟨b', tail, he⟩ := List.exists_cons_of_ne_nil (String.utf8EncodeChar_ne_nil (c := x))
  have hb' : leadByte x = b' := by simp [leadByte, he]
  rw [bytes_cons, he, List.cons_append, List.cons_append, List.cons_prefix_cons] at hpre
  have hmem : b ∈ (String.utf8EncodeChar c).tail := by simp [hc]
  have hcont := isContinuation_of_mem_tail hmem
  rw [← hpre.1, ← hb', isContinuation_leadByte] at hcont
  cases hcont

/-- A text that does not begin with the needle is searched behind its first character. -/
theorem findInfix?_bytes_cons {needle : List Char} {c : Char} {cs : List Char} (hn : needle ≠ [])
    (h : ¬ needle <+: c :: cs) :
    findInfix? (bytes needle) (bytes (c :: cs)) =
      (findInfix? (bytes needle) (bytes cs)).map (· + c.utf8Size) := by
  rw [← String.length_utf8EncodeChar c, bytes_cons]
  apply findInfix?_append_of_not_prefix
  intro front back hfb hback
  -- The needle begins at the first byte of the character, or inside of it.
  by_cases hfront : front = []
  · rw [hfront, List.nil_append] at hfb
    rw [← hfb, ← bytes_cons, bytes_isPrefix_bytes_iff]
    exact h
  · exact not_bytes_isPrefix_inside hn hfb hfront hback

theorem findInfix?_bytes_of_prefix {needle cs : List Char} (h : needle <+: cs) :
    findInfix? (bytes needle) (bytes cs) = some 0 :=
  findInfix?_of_prefix (bytes_isPrefix_bytes_iff.mpr h)

/-- A search fails exactly where the needle does not occur. -/
theorem findInfix?_bytes_eq_none {needle cs : List Char} (h : ¬ needle <:+: cs) :
    findInfix? (bytes needle) (bytes cs) = none := by
  have hn : needle ≠ [] := by
    rintro rfl
    exact h List.nil_infix
  induction cs with
  | nil =>
    simp [findInfix?, bytes_ne_nil hn]
  | cons c cs ih =>
    have hpre : ¬ needle <+: c :: cs := fun hp => h hp.isInfix
    have hcs : ¬ needle <:+: cs := fun hi => h (hi.trans (List.suffix_cons c cs).isInfix)
    rw [findInfix?_bytes_cons hn hpre, ih hcs, Option.map_none]

end TemplateLexer.Text
