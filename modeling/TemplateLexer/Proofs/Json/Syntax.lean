import TemplateLexer.Json.Basic
import TemplateLexer.Proofs.Delimited

/-!
# The grammar of JSON

`Valid` says which texts are JSON values, lists of items and lists of members, with one rule for
each way to write one and with white space wherever it may stand. It knows nothing of how a text is
read. A string can be valid and still stand for no text, because it names half a character;
`StandsFor` says for which text the others stand.

`valid_pretty` says that every printed value is valid.
-/

namespace TemplateLexer.Json

/-- White space, which may stand around all pieces. -/
def Blanks (cs : List Char) : Prop := ∀ c ∈ cs, c ∈ [' ', '\t', '\n', '\r']

/-! ### Numbers -/

/-- One digit or more. -/
def Digits (cs : List Char) : Prop := cs ≠ [] ∧ ∀ c ∈ cs, c.isDigit = true

/-- Digits before the point; only a single one may be a zero at the front. -/
inductive Whole : List Char → Prop
  | zero : Whole ['0']
  | other {c : Char} {ds : List Char} : c.isDigit = true → c ≠ '0' →
      (∀ d ∈ ds, d.isDigit = true) → Whole (c :: ds)

inductive Fraction : List Char → Prop
  | absent : Fraction []
  | digits {ds : List Char} : Digits ds → Fraction ('.' :: ds)

inductive Exponent : List Char → Prop
  | absent : Exponent []
  | digits {e : Char} {sign ds : List Char} : e = 'e' ∨ e = 'E' →
      sign ∈ [[], ['+'], ['-']] → Digits ds → Exponent (e :: (sign ++ ds))

inductive IsNumber : List Char → Prop
  | mk {sign whole fraction exponent : List Char} : sign ∈ [[], ['-']] → Whole whole →
      Fraction fraction → Exponent exponent →
      IsNumber (sign ++ (whole ++ (fraction ++ exponent)))

/-! ### Strings -/

/-- A hexadecimal digit and its value. -/
def HexDigit (c : Char) (value : Nat) : Prop :=
  value < 16 ∧ (c = Nat.digitChar value ∨ c = (Nat.digitChar value).toUpper)

/-- Four hexadecimal digits and the number for which they stand. -/
inductive HexNumber : List Char → Nat → Prop
  | mk {a b c d : Char} {p q r s : Nat} : HexDigit a p → HexDigit b q → HexDigit c r →
      HexDigit d s → HexNumber [a, b, c, d] (((p * 16 + q) * 16 + r) * 16 + s)

/-- The characters that may follow a backslash, and those for which they stand. -/
def shortEscapes : List (Char × Char) :=
  [('"', '"'), ('\\', '\\'), ('/', '/'), ('b', '\x08'), ('f', '\x0c'), ('n', '\n'), ('r', '\r'),
    ('t', '\t')]

/-- A character that stands for itself in a string. -/
def Unescaped (c : Char) : Prop := c ≠ '"' ∧ c ≠ '\\' ∧ 0x20 ≤ c.toNat

/-- What may stand between the quotes of a string. -/
inductive StringBody : List Char → Prop
  | nil : StringBody []
  | plain {c : Char} {body : List Char} : Unescaped c → StringBody body → StringBody (c :: body)
  | short {c x : Char} {body : List Char} : (c, x) ∈ shortEscapes → StringBody body →
      StringBody ('\\' :: c :: body)
  | unit {ds body : List Char} {n : Nat} : HexNumber ds n → StringBody body →
      StringBody ('\\' :: 'u' :: (ds ++ body))

/-- What stands between the quotes of a string spells a text. Beyond the basic plane, a character is
spelled by two halves. -/
inductive StandsFor : List Char → List Char → Prop
  | nil : StandsFor [] []
  | plain {c : Char} {body cs : List Char} : Unescaped c → StandsFor body cs →
      StandsFor (c :: body) (c :: cs)
  | short {c x : Char} {body cs : List Char} : (c, x) ∈ shortEscapes → StandsFor body cs →
      StandsFor ('\\' :: c :: body) (x :: cs)
  | unit {ds body cs : List Char} {x : Char} : HexNumber ds x.toNat → StandsFor body cs →
      StandsFor ('\\' :: 'u' :: (ds ++ body)) (x :: cs)
  | pair {ds ds' body cs : List Char} {high low : Nat} {x : Char} : HexNumber ds high →
      HexNumber ds' low → 0xd800 ≤ high → high < 0xdc00 → 0xdc00 ≤ low → low < 0xe000 →
      x.toNat = 0x10000 + (high - 0xd800) * 0x400 + (low - 0xdc00) → StandsFor body cs →
      StandsFor ('\\' :: 'u' :: (ds ++ '\\' :: 'u' :: (ds' ++ body))) (x :: cs)

theorem StandsFor.stringBody {body cs : List Char} (h : StandsFor body cs) : StringBody body := by
  induction h with
  | nil => exact .nil
  | plain hc _ ih => exact .plain hc ih
  | short hc _ ih => exact .short hc ih
  | unit hn _ ih => exact .unit hn ih
  | pair hhigh hlow _ _ _ _ _ _ ih => exact .unit hhigh (.unit hlow ih)

/-! ### Values -/

/-- What a part of a text is read as. -/
inductive Form where
  | value
  /-- The items of a list that is not empty. -/
  | items
  /-- The members of a record that is not empty. -/
  | members

/-- A key, a colon and a value. -/
def memberText (key before after value : List Char) : List Char :=
  '"' :: (key ++ '"' :: (before ++ ':' :: (after ++ value)))

/-- The texts of the grammar. -/
inductive Valid : Form → List Char → Prop
  | word {w : String} : w ∈ ["null", "true", "false"] → Valid .value w.toList
  | number {cs : List Char} : IsNumber cs → Valid .value cs
  | string {body : List Char} : StringBody body → Valid .value ('"' :: (body ++ ['"']))
  | emptyList {b : List Char} : Blanks b → Valid .value ('[' :: (b ++ [']']))
  | list {cs : List Char} : Valid .items cs → Valid .value ('[' :: (cs ++ [']']))
  | emptyRecord {b : List Char} : Blanks b → Valid .value ('\x7b' :: (b ++ ['\x7d']))
  | record {cs : List Char} : Valid .members cs → Valid .value ('\x7b' :: (cs ++ ['\x7d']))
  | lastItem {b v b' : List Char} : Blanks b → Valid .value v → Blanks b' →
      Valid .items (b ++ (v ++ b'))
  | item {b v b' cs : List Char} : Blanks b → Valid .value v → Blanks b' → Valid .items cs →
      Valid .items (b ++ (v ++ (b' ++ ',' :: cs)))
  | lastMember {b key before after v b' : List Char} : Blanks b → StringBody key → Blanks before →
      Blanks after → Valid .value v → Blanks b' →
      Valid .members (b ++ (memberText key before after v ++ b'))
  | member {b key before after v b' cs : List Char} : Blanks b → StringBody key → Blanks before →
      Blanks after → Valid .value v → Blanks b' → Valid .members cs →
      Valid .members (b ++ (memberText key before after v ++ (b' ++ ',' :: cs)))

/-! ### Printed values -/

theorem blanks_nil : Blanks [] := by
  intro c hc
  cases hc

theorem blanks_space : Blanks [' '] := by
  intro c hc
  rw [List.mem_singleton.mp hc]
  decide

theorem blanks_newline (level : Nat) : Blanks (newline level) := by
  intro c hc
  rcases List.mem_cons.mp hc with rfl | hc
  · decide
  · rw [List.eq_of_mem_replicate hc]
    decide

/-- A proof for all values goes through their items and the values of their members. -/
theorem induction {P : Json → Prop} (null : P .null) (number : ∀ n, P (.number n))
    (text : ∀ cs, P (.text cs)) (list : ∀ items, (∀ v ∈ items, P v) → P (.list items))
    (record : ∀ members, (∀ m ∈ members, P m.2) → P (.record members)) : ∀ v, P v
  | .null => null
  | .number n => number n
  | .text cs => text cs
  | .list items => list items fun v hv =>
    have hlt := List.sizeOf_lt_of_mem hv
    induction null number text list record v
  | .record members => record members fun m hm =>
    have hlt := List.sizeOf_lt_of_mem hm
    have hsnd : sizeOf m.2 < sizeOf m := by
      cases m
      simp only [Prod.mk.sizeOf_spec]
      omega
    induction null number text list record m.2
termination_by v => sizeOf v
decreasing_by
  · simp only [Json.list.sizeOf_spec]
    omega
  · simp only [Json.record.sizeOf_spec]
    omega

theorem hexDigit_digitChar {n : Nat} (h : n < 16) : HexDigit (Nat.digitChar n) n := ⟨h, .inl rfl⟩

theorem standsFor_escape (c : Char) {body cs : List Char} (h : StandsFor body cs) :
    StandsFor (escape c ++ body) (c :: cs) := by
  unfold escape
  split
  · next hc => subst hc; exact .short (by decide) h
  split
  · next hc => subst hc; exact .short (by decide) h
  split
  · next hc => subst hc; exact .short (by decide) h
  split
  · next hc => subst hc; exact .short (by decide) h
  split
  · next hc => subst hc; exact .short (by decide) h
  split
  · next hc => subst hc; exact .short (by decide) h
  split
  · next hc => subst hc; exact .short (by decide) h
  split
  · next hlt =>
    have hnumber : HexNumber ['0', '0', Nat.digitChar (c.toNat / 16), Nat.digitChar (c.toNat % 16)]
        c.toNat := by
      have := HexNumber.mk (hexDigit_digitChar (show 0 < 16 by decide))
        (hexDigit_digitChar (show 0 < 16 by decide))
        (hexDigit_digitChar (show c.toNat / 16 < 16 by omega))
        (hexDigit_digitChar (show c.toNat % 16 < 16 by omega))
      rwa [show ((0 * 16 + 0) * 16 + c.toNat / 16) * 16 + c.toNat % 16 = c.toNat by omega] at this
    exact .unit hnumber h
  · next hquote hslash _ _ _ _ _ hlow =>
    exact .plain ⟨hquote, hslash, Nat.le_of_not_lt hlow⟩ h

/-- What is printed between quotes spells the text. -/
theorem standsFor_flatMap_escape (cs : List Char) : StandsFor (cs.flatMap escape) cs := by
  induction cs with
  | nil => exact .nil
  | cons c cs ih => exact standsFor_escape c ih

theorem isDigit_digitChar {n : Nat} (h : n < 10) : (Nat.digitChar n).isDigit = true := by
  have key : ∀ n < 10, (Nat.digitChar n).isDigit = true := by decide
  exact key n h

theorem digitChar_ne_zero {n : Nat} (h : n < 10) (hn : n ≠ 0) : Nat.digitChar n ≠ '0' := by
  intro hzero
  exact hn (Text.digitChar_inj (by omega) (by decide) (hzero.trans rfl))

theorem Whole.append_digit {ds : List Char} {d : Char} (h : Whole ds) (hne : ds ≠ ['0'])
    (hd : d.isDigit = true) : Whole (ds ++ [d]) := by
  cases h with
  | zero => exact absurd rfl hne
  | other hc hzero hds =>
    refine .other hc hzero ?_
    intro x hx
    rcases List.mem_append.mp hx with hx | hx
    · exact hds x hx
    · rwa [List.mem_singleton.mp hx]

/-- No zero is printed in front of other digits. -/
theorem whole_toDigits (n : Nat) : Whole (Nat.toDigits 10 n) := by
  induction n using Nat.strongRecOn with
  | _ n ih =>
    rw [Nat.toDigits_eq_if (by decide)]
    split
    · next hlt =>
      by_cases hn : n = 0
      · subst hn
        exact .zero
      · exact .other (isDigit_digitChar hlt) (digitChar_ne_zero hlt hn) (by simp)
    · next hge =>
      have hfront : Nat.toDigits 10 (n / 10) ≠ ['0'] := by
        intro h
        have := Text.toDigits_injective (n := 0) (by decide) (by decide) h
        omega
      exact (ih (n / 10) (by omega)).append_digit hfront (isDigit_digitChar (by omega))

theorem isNumber_toDigits (n : Nat) : IsNumber (Nat.toDigits 10 n) := by
  have h := IsNumber.mk List.mem_cons_self (whole_toDigits n) .absent .absent
  rwa [List.nil_append, List.append_nil, List.append_nil] at h

theorem valid_prettyItems {items : List Json} (level : Nat) (hne : items ≠ [])
    (h : ∀ v ∈ items, ∀ level, Valid .value (pretty level v)) :
    Valid .items (prettyItems level items) := by
  induction items with
  | nil => exact absurd rfl hne
  | cons v items ih =>
    have hv := h v List.mem_cons_self (level + 1)
    cases items with
    | nil =>
      rw [prettyItems, List.append_assoc]
      exact .lastItem (blanks_newline _) hv (blanks_newline _)
    | cons w items =>
      have hrest := ih (by simp) (fun x hx => h x (List.mem_cons_of_mem _ hx))
      rw [prettyItems, List.append_assoc]
      · exact .item (blanks_newline _) hv blanks_nil hrest
      · simp

theorem valid_prettyMembers {members : List (String × Json)} (level : Nat) (hne : members ≠ [])
    (h : ∀ m ∈ members, ∀ level, Valid .value (pretty level m.2)) :
    Valid .members (prettyMembers level members) := by
  induction members with
  | nil => exact absurd rfl hne
  | cons m members ih =>
    obtain ⟨key, v⟩ := m
    have hkey := (standsFor_flatMap_escape key.toList).stringBody
    have hv : Valid .value (pretty (level + 1) v) := h (key, v) List.mem_cons_self (level + 1)
    cases members with
    | nil =>
      have := Valid.lastMember (blanks_newline (level + 1)) hkey blanks_nil blanks_space hv
        (blanks_newline level)
      simpa [prettyMembers, memberText, quoted] using this
    | cons m' members =>
      have hrest := ih (by simp) (fun x hx => h x (List.mem_cons_of_mem _ hx))
      have := Valid.member (blanks_newline (level + 1)) hkey blanks_nil blanks_space hv blanks_nil
        hrest
      simpa [prettyMembers, memberText, quoted] using this

/-- Every printed value is valid, at whichever level it is printed. -/
theorem valid_pretty (v : Json) : ∀ level, Valid .value (pretty level v) := by
  induction v using Json.induction with
  | null =>
    intro level
    exact .word (by simp)
  | number n =>
    intro level
    exact .number (isNumber_toDigits n)
  | text cs =>
    intro level
    exact .string (standsFor_flatMap_escape cs).stringBody
  | list items ih =>
    intro level
    cases items with
    | nil => exact .emptyList blanks_nil
    | cons v items => exact .list (valid_prettyItems level (by simp) ih)
  | record members ih =>
    intro level
    cases members with
    -- Nothing is printed between the braces of an empty record, not even a new line.
    | nil => exact .emptyRecord blanks_nil
    | cons m members => exact .record (valid_prettyMembers level (by simp) ih)

end TemplateLexer.Json
