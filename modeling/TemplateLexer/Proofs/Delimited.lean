import TemplateLexer.Proofs.Cursor
import TemplateLexer.Text.Quoted

/-!
# Written forms that show where they end

A form is self-delimiting if what is written in it can be told from whatever follows. Texts that are
put together from such forms can be taken apart again, piece by piece from the left, without a word
about how. Quoted literals are self-delimiting, whichever characters they hide
(`Text.selfDelimiting_quoted`); numbers and names are if a character follows that is no part of them
(`DelimitedBy`, `LongestRun.unique`). None of them holds a line feed.
-/

namespace TemplateLexer

/-- What is written tells the value and where its written form ends. -/
def SelfDelimiting {α : Type} (write : α → List Char) : Prop :=
  ∀ ⦃a b : α⦄ ⦃xs ys : List Char⦄, write a ++ xs = write b ++ ys → a = b ∧ xs = ys

/-- What is written tells the value, and ends where `c` follows. -/
def DelimitedBy {α : Type} (c : Char) (write : α → List Char) : Prop :=
  ∀ ⦃a b : α⦄ ⦃xs ys : List Char⦄, write a ++ c :: xs = write b ++ c :: ys → a = b ∧ xs = ys

/-- Self-delimiting forms in a row tell all values. -/
theorem SelfDelimiting.flatMap_injective {α : Type} {write : α → List Char}
    (h : SelfDelimiting write) (hne : ∀ a, write a ≠ []) :
    ∀ {as bs : List α}, as.flatMap write = bs.flatMap write → as = bs := by
  intro as
  induction as with
  | nil =>
    intro bs heq
    cases bs with
    | nil => rfl
    | cons b bs => exact absurd (List.append_eq_nil_iff.mp heq.symm).1 (hne b)
  | cons a as ih =>
    intro bs heq
    cases bs with
    | nil => exact absurd (List.append_eq_nil_iff.mp heq).1 (hne a)
    | cons b bs =>
      obtain ⟨rfl, hrest⟩ := h heq
      rw [ih hrest]

/-- A text begins with one longest run only. -/
theorem LongestRun.unique {p : Char → Bool} {run run' rest rest' : List Char}
    (h : LongestRun p run rest) (h' : LongestRun p run' rest') (heq : run ++ rest = run' ++ rest') :
    run = run' ∧ rest = rest' := by
  have hrun : run = run' := by
    rw [← h.takeWhile_eq, heq, h'.takeWhile_eq]
  subst hrun
  exact ⟨rfl, List.append_cancel_left heq⟩

/-! ### Numbers -/

namespace Text

theorem digitChar_inj {m n : Nat} (hm : m < 16) (hn : n < 16)
    (h : Nat.digitChar m = Nat.digitChar n) : m = n := by
  have key : ∀ m < 16, ∀ n < 16, Nat.digitChar m = Nat.digitChar n → m = n := by decide
  exact key m hm n hn h

/-- The last digit is the remainder, and those before it, if any, are the digits of the quotient. -/
theorem toDigits_eq_append {base : Nat} (hbase : 1 < base) (n : Nat) :
    Nat.toDigits base n =
      (if n < base then [] else Nat.toDigits base (n / base)) ++ [Nat.digitChar (n % base)] := by
  rw [Nat.toDigits_eq_if hbase]
  split
  · next hlt => rw [Nat.mod_eq_of_lt hlt, List.nil_append]
  · rfl

theorem toDigits_injective {base m n : Nat} (hbase : 1 < base) (hle : base ≤ 16)
    (h : Nat.toDigits base m = Nat.toDigits base n) : m = n := by
  induction m using Nat.strongRecOn generalizing n with
  | _ m ih =>
    have hm := Nat.mod_lt m (Nat.zero_lt_of_lt hbase)
    have hn := Nat.mod_lt n (Nat.zero_lt_of_lt hbase)
    rw [toDigits_eq_append hbase m, toDigits_eq_append hbase n] at h
    obtain ⟨hfront, hlast⟩ := List.append_inj' h rfl
    have hmod := digitChar_inj (by omega) (by omega) (List.singleton_inj.mp hlast)
    have hdiv : m / base = n / base := by
      split at hfront <;> split at hfront
      · next hm hn => rw [Nat.div_eq_of_lt hm, Nat.div_eq_of_lt hn]
      · exact absurd hfront.symm Nat.toDigits_ne_nil
      · exact absurd hfront Nat.toDigits_ne_nil
      · exact ih (m / base) (Nat.div_lt_self (by omega) hbase) hfront
    rw [← Nat.div_add_mod m base, ← Nat.div_add_mod n base, hdiv, hmod]

theorem exists_digitChar_of_mem_toDigits {base n : Nat} {c : Char} (hbase : 1 < base)
    (hc : c ∈ Nat.toDigits base n) : ∃ d, c = Nat.digitChar d := by
  induction n using Nat.strongRecOn with
  | _ n ih =>
    rw [toDigits_eq_append hbase] at hc
    rcases List.mem_append.mp hc with hc | hc
    · split at hc
      · cases hc
      · exact ih (n / base) (Nat.div_lt_self (by omega) hbase) hc
    · exact ⟨n % base, List.mem_singleton.mp hc⟩

/-- A character that is no digit ends a number. -/
theorem longestRun_toDigits (n : Nat) {c : Char} (hc : c.isDigit = false) (rest : List Char) :
    LongestRun Char.isDigit (Nat.toDigits 10 n) (c :: rest) where
  all := fun _ hd => Nat.isDigit_of_mem_toDigits (by decide) (by decide) hd
  stops := by
    rintro _ ⟨⟩
    exact hc

theorem delimitedBy_toDigits {c : Char} (hc : c.isDigit = false) :
    DelimitedBy c (Nat.toDigits 10) := by
  intro m n xs ys h
  obtain ⟨hdigits, hrest⟩ :=
    (longestRun_toDigits m hc xs).unique (longestRun_toDigits n hc ys) h
  exact ⟨toDigits_injective (by decide) (by decide) hdigits, (List.cons.inj hrest).2⟩

/-! ### Quoted literals -/

variable {hidden : Char → Bool} {quote : Char}

/-- The two signs that quote a literal. -/
def IsQuote (quote : Char) : Prop := quote = '"' ∨ quote = '\''

/-- What a backslash and one more character stand for. -/
def unescape (x : Char) : Char :=
  if x = '0' then '\x00' else if x = 't' then '\t' else if x = 'r' then '\r'
  else if x = 'n' then '\n' else x

/-- A character is written as a backslash and one more, or by its code point, or as itself. -/
theorem escape_cases (hidden : Char → Bool) (hquote : IsQuote quote) (c : Char) :
    (∃ x, escape hidden quote c = ['\\', x] ∧ x ≠ 'u' ∧ x ≠ '\n' ∧ unescape x = c) ∨
      escape hidden quote c = codePoint c ∨
      escape hidden quote c = [c] ∧ c ≠ '\\' ∧ c ≠ quote ∧ c ≠ '\n' := by
  unfold escape
  split
  · next hc => exact .inl ⟨'0', rfl, by decide, by decide, hc.symm⟩
  split
  · next hc => exact .inl ⟨'t', rfl, by decide, by decide, hc.symm⟩
  split
  · next hc => exact .inl ⟨'r', rfl, by decide, by decide, hc.symm⟩
  split
  · next hc => exact .inl ⟨'n', rfl, by decide, by decide, hc.symm⟩
  split
  · next hc =>
    refine .inl ⟨c, rfl, ?_⟩
    rcases hc with rfl | rfl
    · decide
    · rcases hquote with rfl | rfl <;> decide
  split
  · exact .inr (.inl rfl)
  · next hline hc _ => exact .inr (.inr ⟨rfl, fun h => hc (.inl h), fun h => hc (.inr h), hline⟩)

/-- A closing brace ends a code point. -/
theorem longestRun_codePoint (c : Char) (rest : List Char) :
    LongestRun (· != '\x7d') (Nat.toDigits 16 c.toNat) ('\x7d' :: rest) where
  all := by
    intro x hx
    obtain ⟨d, rfl⟩ := exists_digitChar_of_mem_toDigits (by decide) hx
    rw [bne_iff_ne]
    exact Nat.digitChar_ne _ (by decide)
  stops := by
    rintro _ ⟨⟩
    decide

theorem selfDelimiting_codePoint : SelfDelimiting codePoint := by
  intro a b xs ys h
  simp only [codePoint, List.cons_append, List.append_assoc, List.nil_append, List.cons.injEq,
    true_and] at h
  obtain ⟨hdigits, hrest⟩ := (longestRun_codePoint a xs).unique (longestRun_codePoint b ys) h
  have hnat := toDigits_injective (by decide) (by decide) hdigits
  exact ⟨Char.toNat_inj.mp hnat, (List.cons.inj hrest).2⟩

theorem selfDelimiting_escape (hidden : Char → Bool) (hquote : IsQuote quote) :
    SelfDelimiting (escape hidden quote) := by
  intro a b xs ys h
  -- The first character tells a backslash from a character that stands for itself, and the second
  -- one tells a code point.
  rcases escape_cases hidden hquote a with ⟨x, ha, hxu, -, hx⟩ | ha | ⟨ha, hane, -⟩ <;>
    rcases escape_cases hidden hquote b with ⟨y, hb, hyu, -, hy⟩ | hb | ⟨hb, hbne, -⟩ <;>
    rw [ha, hb] at h
  · simp only [List.cons_append, List.nil_append, List.cons.injEq, true_and] at h
    exact ⟨by rw [← hx, ← hy, h.1], h.2⟩
  · exact absurd (List.cons.inj (List.cons.inj h).2).1 hxu
  · exact absurd (List.cons.inj h).1.symm hbne
  · exact absurd (List.cons.inj (List.cons.inj h).2).1.symm hyu
  · exact selfDelimiting_codePoint h
  · exact absurd (List.cons.inj h).1.symm hbne
  · exact absurd (List.cons.inj h).1 hane
  · exact absurd (List.cons.inj h).1 hane
  · exact List.cons.inj h

/-- Inside of a literal no character begins like its end. -/
theorem escape_append_ne (hidden : Char → Bool) (hquote : IsQuote quote) (c : Char)
    (xs ys : List Char) : escape hidden quote c ++ xs ≠ quote :: ys := by
  intro h
  have hslash : '\\' ≠ quote := by
    rcases hquote with rfl | rfl <;> decide
  rcases escape_cases hidden hquote c with ⟨x, hc, -⟩ | hc | ⟨hc, -, hne, -⟩ <;> rw [hc] at h
  · exact hslash (List.cons.inj h).1
  · exact hslash (List.cons.inj h).1
  · exact hne (List.cons.inj h).1

theorem selfDelimiting_quoted (hidden : Char → Bool) (hquote : IsQuote quote) :
    SelfDelimiting (quoted hidden quote) := by
  intro as
  induction as with
  | nil =>
    intro bs xs ys h
    cases bs with
    | nil => exact ⟨rfl, (List.cons.inj (List.cons.inj h).2).2⟩
    | cons b bs =>
      simp only [quoted, List.flatMap_nil, List.flatMap_cons, List.cons_append, List.nil_append,
        List.append_assoc, List.cons.injEq, true_and] at h
      exact absurd h.symm (escape_append_ne hidden hquote b _ _)
  | cons a as ih =>
    intro bs xs ys h
    cases bs with
    | nil =>
      simp only [quoted, List.flatMap_nil, List.flatMap_cons, List.cons_append, List.nil_append,
        List.append_assoc, List.cons.injEq, true_and] at h
      exact absurd h (escape_append_ne hidden hquote a _ _)
    | cons b bs =>
      simp only [quoted, List.flatMap_cons, List.cons_append, List.append_assoc, List.cons.injEq,
        true_and] at h
      obtain ⟨rfl, hrest⟩ := selfDelimiting_escape hidden hquote h
      have hquoted : quoted hidden quote as ++ xs = quoted hidden quote bs ++ ys := by
        simpa [quoted] using hrest
      obtain ⟨rfl, htail⟩ := ih hquoted
      exact ⟨rfl, htail⟩

theorem selfDelimiting_quotedChar (hidden : Char → Bool) : SelfDelimiting (quotedChar hidden) := by
  intro a b xs ys h
  obtain ⟨hchar, hrest⟩ := selfDelimiting_quoted hidden (.inr rfl) h
  exact ⟨List.singleton_inj.mp hchar, hrest⟩

/-! ### Line feeds -/

theorem lineFeed_not_mem_toDigits {base n : Nat} (hbase : 1 < base) :
    '\n' ∉ Nat.toDigits base n := by
  intro h
  obtain ⟨d, hd⟩ := exists_digitChar_of_mem_toDigits hbase h
  exact Nat.digitChar_ne _ (by decide) hd.symm

theorem lineFeed_not_mem_escape (hidden : Char → Bool) (hquote : IsQuote quote) (c : Char) :
    '\n' ∉ escape hidden quote c := by
  rcases escape_cases hidden hquote c with ⟨x, hc, -, hx, -⟩ | hc | ⟨hc, -, -, hne⟩ <;> rw [hc]
  · simp [hx.symm]
  · simp [codePoint, lineFeed_not_mem_toDigits]
  · simp [hne.symm]

/-- A literal stands on one line, whatever it holds. -/
theorem lineFeed_not_mem_quoted (hidden : Char → Bool) (hquote : IsQuote quote) (cs : List Char) :
    '\n' ∉ quoted hidden quote cs := by
  have hne : '\n' ≠ quote := by
    rcases hquote with rfl | rfl <;> decide
  have hcs : '\n' ∉ cs.flatMap (escape hidden quote) := by
    intro h
    obtain ⟨c, -, hc⟩ := List.mem_flatMap.mp h
    exact lineFeed_not_mem_escape hidden hquote c hc
  simp [quoted, hne, hcs]

end Text

end TemplateLexer
