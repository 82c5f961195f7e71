import TemplateLexer.Json.Lexeme
import TemplateLexer.Proofs.Json.Syntax

/-!
# Valid texts in pieces

Cutting a text into pieces finds the words, numbers, strings and marks of the grammar, one after the
other, and passes over the white space between them. A number is the only piece that does not show
where it ends; `Stops` says of what follows it that it is no part of it.
-/

namespace TemplateLexer.Json

variable {cs ds body rest b : List Char} {c x : Char} {n : Nat}

/-! ### What may follow a number -/

/-- Here no number goes on. -/
def Stops (rest : List Char) : Prop :=
  ∀ c ∈ rest.head?, c.isDigit = false ∧ c ≠ '.' ∧ c ≠ 'e' ∧ c ≠ 'E'

theorem stops_nil : Stops [] := by
  intro c hc
  cases hc

theorem mem_marks (h : Lexeme.isMark c = true) : c ∈ ['\x7b', '\x7d', '[', ']', ',', ':'] := by
  simpa [Lexeme.isMark, or_assoc] using h

theorem stops_mark (h : Lexeme.isMark c = true) (rest : List Char) : Stops (c :: rest) := by
  have key : ∀ c ∈ ['\x7b', '\x7d', '[', ']', ',', ':'],
      c.isDigit = false ∧ c ≠ '.' ∧ c ≠ 'e' ∧ c ≠ 'E' := by simp
  rintro _ ⟨⟩
  exact key c (mem_marks h)

theorem Blanks.stops (h : Blanks b) (hrest : Stops rest) : Stops (b ++ rest) := by
  have key : ∀ c ∈ [' ', '\t', '\n', '\r'],
      c.isDigit = false ∧ c ≠ '.' ∧ c ≠ 'e' ∧ c ≠ 'E' := by simp
  cases b with
  | nil => exact hrest
  | cons c b =>
    rintro _ ⟨⟩
    exact key c (h c List.mem_cons_self)

/-! ### Numbers -/

namespace Number

theorem readDigits_append (h : Digits ds) (hrest : ∀ c ∈ rest.head?, c.isDigit = false) :
    readDigits (ds ++ rest) = .ok (ds, rest) := by
  obtain ⟨hne, hds⟩ := h
  have hrun : LongestRun Char.isDigit ds rest := ⟨hds, hrest⟩
  cases ds with
  | nil => exact absurd rfl hne
  | cons d ds =>
    rw [List.cons_append, readDigits, if_pos (hds d List.mem_cons_self), ← List.cons_append,
      hrun.takeWhile_eq, hrun.dropWhile_eq]

theorem readWhole_append (h : Whole ds) (hrest : ∀ c ∈ rest.head?, c.isDigit = false) :
    readWhole (ds ++ rest) = .ok (ds, rest) := by
  cases h with
  | zero =>
    cases rest with
    | nil => rfl
    | cons c rest => simp [readWhole, hrest c rfl]
  | other hc hne hds =>
    rw [readWhole]
    · exact readDigits_append ⟨by simp, by simpa [hc] using hds⟩ hrest
    · intro d rest' heq
      exact hne (List.cons.inj heq).1

theorem readFraction_append (h : Fraction ds)
    (hrest : ∀ c ∈ rest.head?, c.isDigit = false ∧ c ≠ '.') :
    readFraction (ds ++ rest) = .ok (ds.tail, rest) := by
  cases h with
  | absent =>
    cases rest with
    | nil => rfl
    | cons c rest => simp [readFraction, (hrest c rfl).2]
  | digits hds => exact readDigits_append hds fun c hc => (hrest c hc).1

theorem readExponent_stops (h : Stops rest) : readExponent rest = .ok ((false, []), rest) := by
  cases rest with
  | nil => rfl
  | cons c rest =>
    obtain ⟨-, -, he, hE⟩ := h c rfl
    simp [readExponent, he, hE]

theorem readExponent_append (h : Exponent ds) (hrest : Stops rest) :
    ∃ e, readExponent (ds ++ rest) = .ok (e, rest) := by
  cases h with
  | absent => exact ⟨_, readExponent_stops hrest⟩
  | @digits e sign ds he hsign hds =>
    have hread := readDigits_append hds fun c hc => (hrest c hc).1
    simp only [List.mem_cons, List.not_mem_nil, or_false] at hsign
    rcases hsign with rfl | rfl | rfl
    · -- Without a sign the first digit must not be taken for one.
      obtain ⟨hne, hall⟩ := hds
      cases ds with
      | nil => exact absurd rfl hne
      | cons d ds =>
        have hd := hall d List.mem_cons_self
        refine ⟨(false, d :: ds), ?_⟩
        simp only [List.nil_append, List.cons_append, readExponent, he, if_true]
        split
        · next heq =>
          rw [(List.cons.inj heq).1] at hd
          cases hd
        · next heq =>
          rw [(List.cons.inj heq).1] at hd
          cases hd
        · rw [← List.cons_append, hread]
          rfl
    · refine ⟨(false, ds), ?_⟩
      simp only [List.cons_append, List.nil_append, readExponent, he, if_true, hread]
      rfl
    · refine ⟨(true, ds), ?_⟩
      simp only [List.cons_append, List.nil_append, readExponent, he, if_true, hread]
      rfl

theorem read_append {whole fraction exponent : List Char} {e : Bool × List Char}
    (hwhole : Whole whole) (hfraction : Fraction fraction) (hexponent : Exponent exponent)
    (hrest : Stops rest) (hread : readExponent (exponent ++ rest) = .ok (e, rest)) :
    read (whole ++ (fraction ++ (exponent ++ rest))) =
      .ok (⟨whole, fraction.tail, e.1, e.2⟩, rest) := by
  -- None of the three parts can take from what follows it.
  have hafter : ∀ c ∈ (exponent ++ rest).head?, c.isDigit = false ∧ c ≠ '.' := by
    cases hexponent with
    | absent => exact fun c hc => ⟨(hrest c hc).1, (hrest c hc).2.1⟩
    | digits he =>
      rintro _ ⟨⟩
      rcases he with rfl | rfl <;> decide
  have hpoint : ∀ c ∈ (fraction ++ (exponent ++ rest)).head?, c.isDigit = false := by
    cases hfraction with
    | absent => exact fun c hc => (hafter c hc).1
    | digits =>
      rintro _ ⟨⟩
      decide
  simp only [read, readWhole_append hwhole hpoint, readFraction_append hfraction hafter, hread,
    bind, Except.bind, pure, Except.pure]

end Number

/-! ### Strings -/

theorem hexDigit?_of (h : HexDigit c n) : hexDigit? c = some n := by
  have key : ∀ n < 16, hexDigit? (Nat.digitChar n) = some n ∧
      hexDigit? (Nat.digitChar n).toUpper = some n := by decide
  obtain ⟨hlt, rfl | rfl⟩ := h
  · exact (key n hlt).1
  · exact (key n hlt).2

theorem exists_hexNumber? (h : HexNumber ds n) :
    ∃ a b c d, ds = [a, b, c, d] ∧ hexNumber? a b c d = some n := by
  cases h with
  | mk ha hb hc hd =>
    refine ⟨_, _, _, _, rfl, ?_⟩
    simp [hexNumber?, hexDigit?_of ha, hexDigit?_of hb, hexDigit?_of hc, hexDigit?_of hd]

theorem shortEscape?_of (h : (c, x) ∈ shortEscapes) : shortEscape? c = some x ∧ c ≠ 'u' := by
  have key : ∀ p ∈ shortEscapes, shortEscape? p.1 = some p.2 ∧ p.1 ≠ 'u' := by decide
  exact key (c, x) h

theorem Unescaped.isControl_eq (h : Unescaped c) : isControl c = false := by
  simpa [isControl] using h.2.2

theorem passString_plain (h : Unescaped c) (cs : List Char) :
    passString (c :: cs) = passString cs := by
  simp [passString, h.1, h.2.1, h.isControl_eq]

theorem passString_short (h : (c, x) ∈ shortEscapes) (cs : List Char) :
    passString ('\\' :: c :: cs) = passString cs := by
  obtain ⟨hescape, hu⟩ := shortEscape?_of h
  simp [passString, hescape, hu]

theorem passString_unit (h : HexNumber ds n) (cs : List Char) :
    passString ('\\' :: 'u' :: (ds ++ cs)) = passString cs := by
  obtain ⟨a, b, c, d, rfl, hnumber⟩ := exists_hexNumber? h
  simp [passString, hnumber]

/-- A string is passed over up to its closing quote. -/
theorem passString_append (h : StringBody body) (rest : List Char) :
    passString (body ++ '"' :: rest) = .ok rest := by
  induction h with
  | nil => rfl
  | plain hc _ ih => rw [List.cons_append, passString_plain hc, ih]
  | short hc _ ih => rw [List.cons_append, List.cons_append, passString_short hc, ih]
  | unit hn _ ih =>
    rw [List.cons_append, List.cons_append, List.append_assoc, passString_unit hn, ih]

theorem stringText_plain (h : Unescaped c) (cs : List Char) :
    stringText (c :: cs) = (c :: ·) <$> stringText cs := by
  simp [stringText, h.1, h.2.1, h.isControl_eq]

theorem stringText_short (h : (c, x) ∈ shortEscapes) (cs : List Char) :
    stringText ('\\' :: c :: cs) = (x :: ·) <$> stringText cs := by
  obtain ⟨hescape, hu⟩ := shortEscape?_of h
  simp [stringText, hescape, hu]

/-- No character is one of the halves that make up others. -/
theorem surrogate_false (x : Char) :
    isLowSurrogate x.toNat = false ∧ isHighSurrogate x.toNat = false := by
  have hvalid : x.toNat < 0xd800 ∨ 0xdfff < x.toNat ∧ x.toNat < 0x110000 := x.valid
  simp only [isLowSurrogate, isHighSurrogate, Bool.and_eq_false_iff, decide_eq_false_iff_not]
  omega

theorem stringText_unit (h : HexNumber ds x.toNat) (cs : List Char) :
    stringText ('\\' :: 'u' :: (ds ++ cs)) = (x :: ·) <$> stringText cs := by
  obtain ⟨a, b, c, d, rfl, hnumber⟩ := exists_hexNumber? h
  obtain ⟨hlow, hhigh⟩ := surrogate_false x
  simp [stringText, hnumber, hlow, hhigh, Char.ofNat_toNat]

theorem stringText_pair {ds' : List Char} {high low : Nat} (hhigh : HexNumber ds high)
    (hlow : HexNumber ds' low) (hle : 0xd800 ≤ high) (hlt : high < 0xdc00) (hle' : 0xdc00 ≤ low)
    (hlt' : low < 0xe000) (hx : x.toNat = 0x10000 + (high - 0xd800) * 0x400 + (low - 0xdc00))
    (cs : List Char) :
    stringText ('\\' :: 'u' :: (ds ++ '\\' :: 'u' :: (ds' ++ cs))) =
      (x :: ·) <$> stringText cs := by
  obtain ⟨a, b, c, d, rfl, hnumber⟩ := exists_hexNumber? hhigh
  obtain ⟨a', b', c', d', rfl, hnumber'⟩ := exists_hexNumber? hlow
  have hishigh : isHighSurrogate high = true := by simp [isHighSurrogate]; omega
  have hnotlow : isLowSurrogate high = false := by simp [isLowSurrogate]; omega
  have hislow : isLowSurrogate low = true := by simp [isLowSurrogate]; omega
  have hjoin : joinSurrogates high low = x := by
    rw [joinSurrogates, show (high - 0xd800) * 0x400 + (low - 0xdc00) + 0x10000 = x.toNat by omega,
      Char.ofNat_toNat]
  simp [stringText, hnumber, hnumber', hishigh, hnotlow, hislow, hjoin]

/-- A string is read as the text that it spells. -/
theorem stringText_append (h : StandsFor body cs) (rest : List Char) :
    stringText (body ++ '"' :: rest) = .ok cs := by
  induction h with
  | nil => rfl
  | plain hc _ ih => rw [List.cons_append, stringText_plain hc, ih]; rfl
  | short hc _ ih => rw [List.cons_append, List.cons_append, stringText_short hc, ih]; rfl
  | unit hn _ ih =>
    rw [List.cons_append, List.cons_append, List.append_assoc, stringText_unit hn, ih]; rfl
  | pair hhigh hlow hle hlt hle' hlt' hx _ ih =>
    simp only [List.cons_append, List.append_assoc]
    rw [stringText_pair hhigh hlow hle hlt hle' hlt' hx, ih]; rfl

/-! ### Pieces -/

namespace Lexeme

theorem scan_blanks (h : Blanks b) (rest : List Char) : scan (b ++ rest) = scan rest := by
  have key : ∀ c ∈ [' ', '\t', '\n', '\r'], isBlank c = true := by simp [isBlank]
  have hdrop : (b ++ rest).dropWhile isBlank = rest.dropWhile isBlank :=
    List.dropWhile_append_of_pos fun c hc => key c (h c hc)
  rw [scan, scan, hdrop]

theorem scan_nil : scan [] = [] := by
  rw [scan]
  rfl

theorem scan_cons {tail : List Char} {piece : Lexeme} (hc : isBlank c = false)
    (h : read c rest = (piece, some tail)) : scan (c :: rest) = piece :: scan tail := by
  have hdrop : (c :: rest).dropWhile isBlank = c :: rest := by
    rw [List.dropWhile_cons, hc]
    rfl
  -- Cutting looks at the text without its blanks twice: once for its head, once for the piece.
  rw [scan]
  split
  · next heq => cases hdrop.symm.trans heq
  · next heq =>
    cases hdrop.symm.trans heq
    split
    · next hread => cases h.symm.trans hread
    · next hread =>
      cases h.symm.trans hread
      rfl

theorem scan_mark (h : isMark c = true) (rest : List Char) :
    scan (c :: rest) = .mark c :: scan rest := by
  have key : ∀ c ∈ ['\x7b', '\x7d', '[', ']', ',', ':'], isBlank c = false := by simp [isBlank]
  exact scan_cons (key c (mem_marks h)) (by rw [read, if_pos h])

theorem scan_enclosed (h : isMark c = true) (cs : List Char) (x : Char) (rest : List Char) :
    scan (c :: (cs ++ [x]) ++ rest) = .mark c :: scan (cs ++ x :: rest) := by
  rw [List.cons_append, List.append_assoc, List.singleton_append, scan_mark h]

theorem scan_string (h : StringBody body) (rest : List Char) :
    scan ('"' :: (body ++ '"' :: rest)) =
      .text (stringText (body ++ '"' :: rest)) (.ok ()) :: scan rest := by
  refine scan_cons (by decide) ?_
  show readString _ = _
  rw [readString, passString_append h]
  rfl

theorem scan_standsFor (h : StandsFor body cs) (rest : List Char) :
    scan ('"' :: (body ++ '"' :: rest)) = .text (.ok cs) (.ok ()) :: scan rest := by
  rw [scan_string h.stringBody, stringText_append h]

theorem scan_word {w : String} (h : w ∈ ["null", "true", "false"]) (rest : List Char) :
    scan (w.toList ++ rest) = .word w (.ok ()) :: scan rest := by
  simp only [List.mem_cons, List.not_mem_nil, or_false] at h
  rcases h with rfl | rfl | rfl <;> exact scan_cons (by decide) rfl

theorem readNumber_of {negative : Bool} {n : Number} (h : Number.read cs = .ok (n, rest)) :
    readNumber negative cs = (.number negative (.ok n), some rest) := by
  rw [readNumber, h]
  rfl

theorem Whole.exists_cons (h : Whole ds) : ∃ c cs, ds = c :: cs ∧ c.isDigit = true := by
  cases h with
  | zero => exact ⟨'0', [], rfl, by decide⟩
  | other hc => exact ⟨_, _, rfl, hc⟩

theorem scan_unsigned {more : List Char} {n : Number} (hds : Whole ds)
    (h : Number.read (ds ++ more) = .ok (n, rest)) :
    scan (ds ++ more) = .number false (.ok n) :: scan rest := by
  obtain ⟨c, cs, rfl, hc⟩ := Whole.exists_cons hds
  have hblank : isBlank c = false := by
    rw [Bool.eq_false_iff]
    intro hblank
    simp only [isBlank, Bool.or_eq_true, beq_iff_eq] at hblank
    rcases hblank with ((rfl | rfl) | rfl) | rfl <;> cases hc
  have hmark : isMark c = false := by
    rw [Bool.eq_false_iff]
    intro hmark
    cases hc.symm.trans (stops_mark hmark [] c rfl).1
  have hquote : c ≠ '"' := by rintro rfl; cases hc
  have hminus : c ≠ '-' := by rintro rfl; cases hc
  refine scan_cons hblank ?_
  rw [read, hmark, if_neg hquote, if_neg hminus, if_pos hc]
  exact readNumber_of h

theorem scan_number (h : IsNumber cs) (hrest : Stops rest) :
    ∃ negative n, scan (cs ++ rest) = .number negative (.ok n) :: scan rest := by
  cases h with
  | mk hsign hwhole hfraction hexponent =>
    obtain ⟨e, he⟩ := Number.readExponent_append hexponent hrest
    have hread := Number.read_append hwhole hfraction hexponent hrest he
    simp only [List.mem_cons, List.not_mem_nil, or_false] at hsign
    simp only [List.append_assoc]
    rcases hsign with rfl | rfl
    · rw [List.nil_append]
      exact ⟨_, _, scan_unsigned hwhole hread⟩
    · exact ⟨_, _, scan_cons (by decide) (readNumber_of hread)⟩

theorem scan_toDigits (n : Nat) (hrest : Stops rest) :
    scan (Nat.toDigits 10 n ++ rest) =
      .number false (.ok ⟨Nat.toDigits 10 n, [], false, []⟩) :: scan rest := by
  have hread := Number.read_append (whole_toDigits n) .absent .absent hrest
    (Number.readExponent_stops hrest)
  exact scan_unsigned (whole_toDigits n) hread

end Lexeme

end TemplateLexer.Json
