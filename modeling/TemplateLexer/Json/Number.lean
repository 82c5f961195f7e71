/-!
# Numbers in JSON

Reading a number checks its form and keeps its parts. A number that is taken as a value must also
lie in the range of a double: it is held as a significand of 64 bits times a power of ten, digits
that no longer fit are dropped, and the product of the two, each rounded to 53 bits, must not round
to infinity.
-/

namespace TemplateLexer.Json

/-- Why a text cannot be read. -/
inductive Failure where
  /-- It ends too early. -/
  | truncated
  /-- It goes on with something that may not stand there. -/
  | malformed
deriving DecidableEq, Repr

/-- The parts of a number, without its sign. -/
structure Number where
  /-- The digits before the point. -/
  whole : List Char
  /-- The digits behind the point. -/
  fraction : List Char
  /-- Whether the exponent is negative. -/
  shrinks : Bool
  /-- The digits of the exponent. -/
  exponent : List Char
deriving DecidableEq, Repr

namespace Number

/-! ### Form -/

/-- One digit or more, and what follows them. -/
def readDigits (cs : List Char) : Except Failure (List Char × List Char) :=
  match cs with
  | [] => .error .truncated
  | c :: _ =>
    if c.isDigit then .ok (cs.takeWhile Char.isDigit, cs.dropWhile Char.isDigit)
    else .error .malformed

/-- The digits before the point: a single zero, or digits that begin with another one. -/
def readWhole (cs : List Char) : Except Failure (List Char × List Char) :=
  match cs with
  | '0' :: c :: rest => if c.isDigit then .error .malformed else .ok (['0'], c :: rest)
  | _ => readDigits cs

/-- The point and the digits behind it, if there is a point. -/
def readFraction (cs : List Char) : Except Failure (List Char × List Char) :=
  match cs with
  | '.' :: rest => readDigits rest
  | _ => .ok ([], cs)

/-- The exponent with its sign, if there is one. -/
def readExponent (cs : List Char) : Except Failure ((Bool × List Char) × List Char) :=
  match cs with
  | c :: rest =>
    if c = 'e' ∨ c = 'E' then
      match rest with
      | '-' :: rest => do let (ds, rest) ← readDigits rest; return ((true, ds), rest)
      | '+' :: rest => do let (ds, rest) ← readDigits rest; return ((false, ds), rest)
      | _ => do let (ds, rest) ← readDigits rest; return ((false, ds), rest)
    else .ok ((false, []), cs)
  | [] => .ok ((false, []), [])

/-- A number without its sign, and what follows it. -/
def read (cs : List Char) : Except Failure (Number × List Char) := do
  let (whole, cs) ← readWhole cs
  let (fraction, cs) ← readFraction cs
  let ((shrinks, exponent), cs) ← readExponent cs
  return (⟨whole, fraction, shrinks, exponent⟩, cs)

theorem length_readDigits_lt {cs ds rest : List Char} (h : readDigits cs = .ok (ds, rest)) :
    rest.length < cs.length := by
  cases cs with
  | nil => simp [readDigits] at h
  | cons c cs =>
    simp only [readDigits] at h
    split at h
    · next hc =>
      simp only [Except.ok.injEq, Prod.mk.injEq, List.dropWhile_cons, hc, if_true] at h
      rw [← h.2]
      have := (List.dropWhile_suffix Char.isDigit (l := cs)).length_le
      simp only [List.length_cons]; omega
    · simp at h

theorem length_readWhole_lt {cs ds rest : List Char} (h : readWhole cs = .ok (ds, rest)) :
    rest.length < cs.length := by
  unfold readWhole at h
  split at h
  · split at h
    · simp at h
    · simp only [Except.ok.injEq, Prod.mk.injEq] at h
      rw [← h.2]
      simp
  · exact length_readDigits_lt h

theorem length_readFraction_le {cs ds rest : List Char} (h : readFraction cs = .ok (ds, rest)) :
    rest.length ≤ cs.length := by
  unfold readFraction at h
  split at h
  · have := length_readDigits_lt h
    simp only [List.length_cons]; omega
  · simp only [Except.ok.injEq, Prod.mk.injEq] at h
    exact Nat.le_of_eq (congrArg List.length h.2.symm)

theorem length_readExponent_le {cs rest : List Char} {e : Bool × List Char}
    (h : readExponent cs = .ok (e, rest)) : rest.length ≤ cs.length := by
  have key : ∀ {b : Bool} {xs : List Char}, xs.length ≤ cs.length →
      (do let (ds, r) ← readDigits xs; return ((b, ds), r) : Except Failure _) = .ok (e, rest) →
      rest.length ≤ cs.length := by
    intro b xs hx h
    cases hr : readDigits xs with
    | error f => simp [hr, bind, Except.bind] at h
    | ok r =>
      obtain ⟨ds, r⟩ := r
      simp only [hr, bind, Except.bind, pure, Except.pure, Except.ok.injEq, Prod.mk.injEq] at h
      have := length_readDigits_lt hr
      rw [← h.2]; omega
  cases cs with
  | nil =>
    simp only [readExponent, Except.ok.injEq, Prod.mk.injEq] at h
    exact Nat.le_of_eq (congrArg List.length h.2.symm)
  | cons c cs =>
    simp only [readExponent] at h
    split at h
    · split at h
      · exact key (by simp only [List.length_cons]; omega) h
      · exact key (by simp only [List.length_cons]; omega) h
      · exact key (by simp) h
    · simp only [Except.ok.injEq, Prod.mk.injEq] at h
      exact Nat.le_of_eq (congrArg List.length h.2.symm)

/-- A number takes one character at least. -/
theorem length_read_lt {cs rest : List Char} {n : Number} (h : read cs = .ok (n, rest)) :
    rest.length < cs.length := by
  unfold read at h
  cases hw : readWhole cs with
  | error f => simp [hw, bind, Except.bind] at h
  | ok w =>
    cases hf : readFraction w.2 with
    | error f => simp [hw, hf, bind, Except.bind] at h
    | ok f =>
      cases he : readExponent f.2 with
      | error f => simp [hw, hf, he, bind, Except.bind] at h
      | ok e =>
        simp only [hw, hf, he, bind, Except.bind, pure, Except.pure, Except.ok.injEq,
          Prod.mk.injEq] at h
        have h₁ := length_readWhole_lt hw
        have h₂ := length_readFraction_le hf
        have h₃ := length_readExponent_le he
        rw [← h.2]; omega

/-! ### Range -/

/-- The value of a digit. -/
def digitValue (c : Char) : Nat := c.toNat - '0'.toNat

/-- A significand below this bound is held exactly. -/
def significandBound : Nat := 0x10000000000000000

/-- Appends digits to a significand as long as it stays below its bound; gives the significand and
how many digits were left over. -/
def absorb (significand : Nat) : List Char → Nat × Nat
  | [] => (significand, 0)
  | c :: cs =>
    let next := significand * 10 + digitValue c
    if next < significandBound then absorb next cs else (significand, cs.length + 1)

/-- The significand, and the power of ten that the digits around the point stand for. -/
def scaled (n : Number) : Nat × Int :=
  let (significand, dropped) := absorb 0 n.whole
  let (significand, ignored) := absorb significand n.fraction
  (significand, (dropped : Int) - ((n.fraction.length : Int) - (ignored : Int)))

/-- The nearest number of 53 significant bits, of two equally near the even one. -/
def round53 (n : Nat) : Nat :=
  let shift := (Nat.log2 n + 1) - 53
  let unit := Nat.pow 2 shift
  let below := n / unit
  let twice := 2 * (n % unit)
  if twice < unit ∨ (twice = unit ∧ below % 2 = 0) then below * unit else (below + 1) * unit

/-- From here on a product rounds to infinity. -/
def infinityBound : Nat := Nat.pow 2 1024 - Nat.pow 2 970

/-- The largest exponent that is read at all. -/
def exponentBound : Nat := 0x80000000

/-- The largest power of ten that a double can hold. -/
def maxPower : Nat := 308

/-- Whether a number lies in the range of a double. -/
def inRange (n : Number) : Bool :=
  let (significand, power) := n.scaled
  let exponent := Nat.ofDigitChars 10 n.exponent 0
  significand == 0 || n.shrinks && exponentBound ≤ exponent ||
    (let power := if n.shrinks then power - exponent else power + exponent
     power ≤ maxPower &&
      (power < 0 || round53 significand * round53 (Nat.pow 10 power.toNat) < infinityBound))

end Number

end TemplateLexer.Json
