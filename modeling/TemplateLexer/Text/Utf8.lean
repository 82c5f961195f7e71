/-!
# Byte positions in a text

A text is a list of characters, and a position in it is a number of bytes of its UTF-8 encoding.
Only some positions fall between two characters; cutting a text at any other one gives nothing.

* `bytes` and `size` are the encoding and its length (`length_bytes`).
* `drop?` and `take?` cut a text at a position, and fail inside a character or beyond the end;
  `drop?_eq_some_iff` says that a cut is a decomposition of the text.
* `clamp` moves a position that need not be a boundary back to the last one that is not beyond it.
-/

namespace TemplateLexer.Text

/-- The UTF-8 encoding of a text. -/
def bytes (cs : List Char) : List UInt8 := cs.flatMap String.utf8EncodeChar

/-- The length of the encoding of a text. -/
def size : List Char → Nat
  | [] => 0
  | c :: cs => c.utf8Size + size cs

/-- What follows the first `n` bytes, if they are whole characters. -/
def drop? : List Char → Nat → Option (List Char)
  | cs, 0 => some cs
  | [], _ + 1 => none
  | c :: cs, n + 1 => if c.utf8Size ≤ n + 1 then drop? cs (n + 1 - c.utf8Size) else none

/-- The first `n` bytes, if they are whole characters. -/
def take? : List Char → Nat → Option (List Char)
  | _, 0 => some []
  | [], _ + 1 => none
  | c :: cs, n + 1 =>
    if c.utf8Size ≤ n + 1 then (take? cs (n + 1 - c.utf8Size)).map (c :: ·) else none

/-- The text between two positions, if both are boundaries and in order. -/
def slice? (cs : List Char) (start stop : Nat) : Option (List Char) :=
  if start ≤ stop then (drop? cs start).bind (take? · (stop - start)) else none

/-- Whether `n` falls between two characters, or at an end of the text. -/
def isBoundary (cs : List Char) (n : Nat) : Bool := (drop? cs n).isSome

/-- The last boundary that is not beyond `n`, looked for from `n` backwards. The start of a text is
one. -/
def floorBoundary (cs : List Char) : Nat → Nat
  | 0 => 0
  | n + 1 => if isBoundary cs (n + 1) then n + 1 else floorBoundary cs n

/-- The boundary that a position stands for: the end of the text for one that is beyond it, and the
start of the character for one that is inside of it. -/
def clamp (cs : List Char) (n : Nat) : Nat := floorBoundary cs (min n (size cs))

/-! ### Sizes -/

@[simp] theorem size_nil : size [] = 0 := rfl

@[simp] theorem size_cons (c : Char) (cs : List Char) : size (c :: cs) = c.utf8Size + size cs := rfl

@[simp] theorem size_append (xs ys : List Char) : size (xs ++ ys) = size xs + size ys := by
  induction xs with
  | nil => simp
  | cons x xs ih => simp [ih, Nat.add_assoc]

theorem size_pos_of_ne_nil {cs : List Char} (h : cs ≠ []) : 0 < size cs := by
  cases cs with
  | nil => exact absurd rfl h
  | cons c cs =>
    have := c.utf8Size_pos
    rw [size_cons]; omega

theorem length_bytes (cs : List Char) : (bytes cs).length = size cs := by
  induction cs with
  | nil => rfl
  | cons c cs ih =>
    simp only [bytes, List.flatMap_cons, List.length_append, String.length_utf8EncodeChar,
      size_cons]
    rw [← ih]; rfl

/-! ### Cuts -/

/-- A cut after `n` bytes is a decomposition of the text whose first part has size `n`. -/
theorem drop?_eq_some_iff {cs rest : List Char} {n : Nat} :
    drop? cs n = some rest ↔ ∃ front, cs = front ++ rest ∧ size front = n := by
  induction cs generalizing n with
  | nil =>
    cases n with
    | zero =>
      simp only [drop?, Option.some.injEq]
      constructor
      · rintro rfl; exact ⟨[], rfl, rfl⟩
      · rintro ⟨front, h, -⟩; exact (List.append_eq_nil_iff.mp h.symm).2.symm
    | succ n =>
      simp only [drop?, reduceCtorEq, false_iff, not_exists, not_and]
      intro front h
      cases front with
      | nil => simp
      | cons c front => simp at h
  | cons c cs ih =>
    have hc := c.utf8Size_pos
    cases n with
    | zero =>
      simp only [drop?, Option.some.injEq]
      constructor
      · rintro rfl; exact ⟨[], by simp⟩
      · rintro ⟨front, h, hn⟩
        cases front with
        | nil => simpa using h
        | cons d front =>
          have := d.utf8Size_pos
          rw [size_cons] at hn; omega
    | succ n =>
      simp only [drop?]
      split
      · next hle =>
        rw [ih]
        constructor
        · rintro ⟨front, rfl, hn⟩
          exact ⟨c :: front, rfl, by rw [size_cons]; omega⟩
        · rintro ⟨front, h, hn⟩
          cases front with
          | nil => simp at hn
          | cons d front =>
            simp only [List.cons_append, List.cons.injEq] at h
            obtain ⟨rfl, rfl⟩ := h
            exact ⟨front, rfl, by rw [size_cons] at hn; omega⟩
      · next hlt =>
        simp only [reduceCtorEq, false_iff, not_exists, not_and]
        rintro front h hn
        cases front with
        | nil => simp at hn
        | cons d front =>
          simp only [List.cons_append, List.cons.injEq] at h
          obtain ⟨rfl, rfl⟩ := h
          rw [size_cons] at hn; omega

/-- A cut leaves what is beyond it. -/
theorem size_of_drop?_eq_some {cs rest : List Char} {n : Nat} (h : drop? cs n = some rest) :
    n + size rest = size cs := by
  obtain ⟨front, rfl, rfl⟩ := drop?_eq_some_iff.mp h
  simp

theorem le_size_of_isBoundary {cs : List Char} {n : Nat} (h : isBoundary cs n = true) :
    n ≤ size cs := by
  obtain ⟨rest, h⟩ := Option.isSome_iff_exists.mp h
  have := size_of_drop?_eq_some h
  omega

end TemplateLexer.Text
