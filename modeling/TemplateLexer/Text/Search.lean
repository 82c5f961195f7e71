import TemplateLexer.Text.Utf8

/-!
# Searching a text by its bytes

Searches look at the encoding of a text and answer in bytes. `findByte?` walks character by
character and opens an encoding only where it stands; `findByte?_eq` says that it finds the first
byte of the whole encoding that passes the test.
-/

namespace TemplateLexer.Text

/-- The position of the first byte of the encoding that passes the test. -/
def findByte? (p : UInt8 → Bool) : List Char → Option Nat
  | [] => none
  | c :: cs =>
    match (String.utf8EncodeChar c).findIdx? p with
    | some i => some i
    | none => (findByte? p cs).map (· + c.utf8Size)

/-- The byte of the encoding at position `n`. -/
def byteAt? : List Char → Nat → Option UInt8
  | [], _ => none
  | c :: cs, n =>
    if n < c.utf8Size then (String.utf8EncodeChar c)[n]? else byteAt? cs (n - c.utf8Size)

/-- The first byte of the encoding of a character. -/
def leadByte (c : Char) : UInt8 := (String.utf8EncodeChar c).head String.utf8EncodeChar_ne_nil

/-- The position of the first place where `needle` occurs in `hay`. -/
def findInfix? (needle : List UInt8) : List UInt8 → Option Nat
  | [] => if needle.isEmpty then some 0 else none
  | b :: hay =>
    if needle.isPrefixOf (b :: hay) then some 0 else (findInfix? needle hay).map (· + 1)

/-- The position of the last byte that passes the test. -/
def findLast? (p : UInt8 → Bool) : List UInt8 → Option Nat
  | [] => none
  | b :: bs =>
    match findLast? p bs with
    | some i => some (i + 1)
    | none => if p b then some 0 else none

theorem byteAt?_eq (cs : List Char) (n : Nat) : byteAt? cs n = (bytes cs)[n]? := by
  induction cs generalizing n with
  | nil => rfl
  | cons c cs ih =>
    simp only [byteAt?, bytes, List.flatMap_cons]
    split
    · next h => rw [List.getElem?_append_left (by rwa [String.length_utf8EncodeChar])]
    · next h =>
      rw [List.getElem?_append_right (by rw [String.length_utf8EncodeChar]; omega), ih,
        String.length_utf8EncodeChar]
      rfl

theorem findByte?_eq (p : UInt8 → Bool) (cs : List Char) :
    findByte? p cs = (bytes cs).findIdx? p := by
  induction cs with
  | nil => rfl
  | cons c cs ih =>
    simp only [findByte?, bytes, List.flatMap_cons, List.findIdx?_append]
    cases h : (String.utf8EncodeChar c).findIdx? p with
    | some i => simp
    | none => simp [ih, bytes, String.length_utf8EncodeChar]

/-- A byte is found inside the text. -/
theorem lt_size_of_findByte?_eq_some {p : UInt8 → Bool} {cs : List Char} {i : Nat}
    (h : findByte? p cs = some i) : i < size cs := by
  rw [findByte?_eq, List.findIdx?_eq_some_iff_getElem] at h
  obtain ⟨hi, -⟩ := h
  rwa [length_bytes] at hi

end TemplateLexer.Text
