import TemplateLexer.Json.Skip
import TemplateLexer.Proofs.Json.Pieces

/-!
# Reading JSON values

`read` gives the value of a text, piece by piece like passing over one, with what was read so far in
place of what was only opened. It knows no layout. `read_pretty` says that it undoes printing at any
level of indentation.
-/

namespace TemplateLexer.Json

/-- Something that was opened, with what was read of it. -/
inductive Partial where
  | list (items : List Json)
  | record (members : List (String × Json))
  /-- A record with a key whose value is not known yet. -/
  | member (members : List (String × Json)) (key : String)

/-- What was read of a text. -/
inductive Reading where
  /-- Some of it: what the next piece may be, and what is open, the innermost first. -/
  | inside (awaiting : Awaiting) (opened : List Partial)
  /-- All of it. -/
  | done (v : Json)

namespace Reading

/-- Behind a value. -/
def put (v : Json) : List Partial → Option Reading
  | [] => some (done v)
  | .list items :: opened => some (inside .next (.list (items ++ [v]) :: opened))
  | .member members key :: opened => some (inside .next (.record (members ++ [(key, v)]) :: opened))
  | .record _ :: _ => none

/-- The first piece of a value. -/
def beginValue (opened : List Partial) : Lexeme → Option Reading
  | .mark c =>
    if c = '[' then some (inside .item (.list [] :: opened))
    else if c = '\x7b' then some (inside .member (.record [] :: opened))
    else none
  | .text (.ok cs) _ => put (.text cs) opened
  | .number false (.ok ⟨digits, [], _, []⟩) => put (.number (Nat.ofDigitChars 10 digits 0)) opened
  | .word "null" (.ok _) => put .null opened
  | _ => none

def readKey : List Partial → Lexeme → Option Reading
  | .record members :: opened, .text (.ok key) _ =>
    some (inside .colon (.member members (.ofList key) :: opened))
  | _, _ => none

/-- What a mark means behind a value. -/
def readNext : List Partial → Char → Option Reading
  | .list items :: opened, ']' => put (.list items) opened
  | .list items :: opened, ',' => some (inside .value (.list items :: opened))
  | .record members :: opened, '\x7d' => put (.record members) opened
  | .record members :: opened, ',' => some (inside .key (.record members :: opened))
  | _, _ => none

/-- One piece further. -/
def step : Reading → Lexeme → Option Reading
  | inside .value opened, x => beginValue opened x
  | inside .item (.list [] :: opened), .mark ']' => put (.list []) opened
  | inside .item opened, x => beginValue opened x
  | inside .member (.record [] :: opened), .mark '\x7d' => put (.record []) opened
  | inside .member opened, x => readKey opened x
  | inside .key opened, x => readKey opened x
  | inside .colon opened, .mark ':' => some (inside .value opened)
  | inside .next opened, .mark c => readNext opened c
  | _, _ => none

/-- The value that was read, if that is all. -/
def value? : Reading → Option Json
  | done v => some v
  | inside _ _ => none

end Reading

/-- The value of a text. -/
def read (cs : List Char) : Option Json := do
  let r ← (Lexeme.scan cs).foldlM Reading.step (.inside .value [])
  r.value?

/-! ### Reading what was printed -/

namespace Reading

variable {awaiting : Awaiting} {opened : List Partial} {x : Lexeme} {xs : List Lexeme} {r : Reading}
  {v : Json} {cs rest : List Char}

/-- A value may begin here. -/
def Opens (awaiting : Awaiting) (opened : List Partial) : Prop :=
  awaiting = .value ∨ awaiting = .item ∧ ∃ more, opened = .list [] :: more

theorem Opens.step_eq (h : Opens awaiting opened) (hx : x ≠ .mark ']') :
    step (inside awaiting opened) x = beginValue opened x := by
  rcases h with rfl | ⟨rfl, more, rfl⟩
  · rfl
  · rw [step]
    intro _ heq
    exact absurd heq hx

theorem foldlM_step_cons {r' : Reading} (h : step r x = some r') :
    (x :: xs).foldlM step r = xs.foldlM step r' := by
  rw [List.foldlM_cons, h]
  rfl

/-- Reading goes on behind a text as behind a value. -/
def Reads (v : Json) (cs : List Char) : Prop :=
  ∀ ⦃awaiting opened rest⦄, Opens awaiting opened → Stops rest →
    (Lexeme.scan (cs ++ rest)).foldlM step (inside awaiting opened) =
      put v opened >>= (Lexeme.scan rest).foldlM step

/-- A value of one piece. -/
theorem reads_piece (hx : x ≠ .mark ']') (hbegin : ∀ opened, beginValue opened x = put v opened)
    (hscan : ∀ rest, Stops rest → Lexeme.scan (cs ++ rest) = x :: Lexeme.scan rest) :
    Reads v cs := by
  intro awaiting opened rest hopens hrest
  rw [hscan rest hrest, List.foldlM_cons, hopens.step_eq hx, hbegin]

theorem reads_prettyItems {items : List Json} (level : Nat) (hne : items ≠ [])
    (h : ∀ v ∈ items, ∀ level, Reads v (pretty level v)) (before : List Json)
    (hopens : Opens awaiting (.list before :: opened)) (rest : List Char) :
    (Lexeme.scan (prettyItems level items ++ ']' :: rest)).foldlM step
        (inside awaiting (.list before :: opened)) =
      put (.list (before ++ items)) opened >>= (Lexeme.scan rest).foldlM step := by
  -- Behind the first item a value has to follow, and the items before it are one more.
  induction items generalizing awaiting before with
  | nil => exact absurd rfl hne
  | cons v items ih =>
    have hv := h v List.mem_cons_self (level + 1)
    cases items with
    | nil =>
      have hrest := (blanks_newline level).stops (stops_mark (c := ']') (by decide) rest)
      simp only [prettyItems, List.append_assoc]
      rw [Lexeme.scan_blanks (blanks_newline _), hv hopens hrest,
        Lexeme.scan_blanks (blanks_newline _), Lexeme.scan_mark (by decide)]
      rfl
    | cons w items =>
      have htail := ih (by simp) (fun u hu => h u (List.mem_cons_of_mem _ hu)) (before ++ [v])
        (.inl rfl)
      rw [prettyItems]
      · simp only [List.append_assoc, List.cons_append] at htail ⊢
        rw [Lexeme.scan_blanks (blanks_newline _), hv hopens (stops_mark (by decide) _),
          Lexeme.scan_mark (by decide)]
        exact htail
      · simp

/-- A key may stand here. -/
def AtKey (awaiting : Awaiting) : Prop := awaiting = .member ∨ awaiting = .key

theorem AtKey.step_eq (h : AtKey awaiting) (cs : List Char) (loose : Except Failure Unit) :
    step (inside awaiting opened) (.text (.ok cs) loose) =
      readKey opened (.text (.ok cs) loose) := by
  rcases h with rfl | rfl
  · rw [step]
    rintro _ ⟨⟩
  · rfl

theorem reads_member (hv : Reads v cs) (hawaiting : AtKey awaiting) (hrest : Stops rest)
    (level : Nat) (before : List (String × Json)) (key : String) :
    (Lexeme.scan (newline level ++ (quoted key.toList ++ ':' :: ' ' :: (cs ++ rest)))).foldlM step
        (inside awaiting (.record before :: opened)) =
      put v (.member before key :: opened) >>= (Lexeme.scan rest).foldlM step := by
  have hkey : step (inside awaiting (.record before :: opened)) (.text (.ok key.toList) (.ok ())) =
      some (inside .colon (.member before key :: opened)) := by
    rw [hawaiting.step_eq, readKey, String.ofList_toList]
  have hcolon : step (inside .colon (.member before key :: opened)) (.mark ':') =
      some (inside .value (.member before key :: opened)) := rfl
  have hspace : Lexeme.scan (' ' :: (cs ++ rest)) = Lexeme.scan (cs ++ rest) :=
    Lexeme.scan_blanks blanks_space _
  rw [Lexeme.scan_blanks (blanks_newline _), quoted, List.cons_append, List.append_assoc,
    List.singleton_append, Lexeme.scan_standsFor (standsFor_flatMap_escape key.toList),
    foldlM_step_cons hkey, Lexeme.scan_mark (by decide), foldlM_step_cons hcolon,
    hspace]
  exact hv (.inl rfl) hrest

theorem reads_prettyMembers {members : List (String × Json)} (level : Nat) (hne : members ≠ [])
    (h : ∀ m ∈ members, ∀ level, Reads m.2 (pretty level m.2)) (before : List (String × Json))
    (hawaiting : AtKey awaiting) (rest : List Char) :
    (Lexeme.scan (prettyMembers level members ++ '\x7d' :: rest)).foldlM step
        (inside awaiting (.record before :: opened)) =
      put (.record (before ++ members)) opened >>= (Lexeme.scan rest).foldlM step := by
  induction members generalizing awaiting before with
  | nil => exact absurd rfl hne
  | cons m members ih =>
    obtain ⟨key, v⟩ := m
    have hv : Reads v (pretty (level + 1) v) := h (key, v) List.mem_cons_self (level + 1)
    cases members with
    | nil =>
      have hrest := (blanks_newline level).stops (stops_mark (c := '\x7d') (by decide) rest)
      simp only [prettyMembers, List.append_assoc, List.cons_append]
      rw [reads_member hv hawaiting hrest, Lexeme.scan_blanks (blanks_newline _),
        Lexeme.scan_mark (by decide)]
      rfl
    | cons m' members =>
      have htail := ih (by simp) (fun u hu => h u (List.mem_cons_of_mem _ hu))
        (before ++ [(key, v)]) (.inr rfl)
      rw [prettyMembers]
      · simp only [List.append_assoc, List.cons_append] at htail ⊢
        rw [reads_member hv hawaiting (stops_mark (by decide) _), Lexeme.scan_mark (by decide)]
        exact htail
      · simp

/-- Printed values are read as what they are, at whichever level they are printed. -/
theorem reads_pretty (v : Json) : ∀ level, Reads v (pretty level v) := by
  induction v using Json.induction with
  | null =>
    intro level
    exact reads_piece (by simp) (fun _ => rfl) fun rest _ => Lexeme.scan_word (by simp) rest
  | number n =>
    intro level
    refine reads_piece (by simp) (fun opened => ?_) fun rest hrest => Lexeme.scan_toDigits n hrest
    rw [beginValue, Nat.ofDigitChars_ten_toDigits]
  | text cs =>
    intro level
    refine reads_piece (x := .text (.ok cs) (.ok ())) (by simp) (fun _ => rfl) fun rest _ => ?_
    rw [pretty, quoted, List.cons_append, List.append_assoc, List.singleton_append]
    exact Lexeme.scan_standsFor (standsFor_flatMap_escape cs) rest
  | list items ih =>
    intro level awaiting opened rest hopens _
    have hopen : step (inside awaiting opened) (.mark '[') =
        some (inside .item (.list [] :: opened)) := hopens.step_eq (by simp)
    rw [pretty, Lexeme.scan_enclosed (by decide), foldlM_step_cons hopen]
    cases items with
    | nil =>
      rw [prettyItems, List.nil_append, Lexeme.scan_mark (by decide)]
      rfl
    | cons v items => exact reads_prettyItems level (by simp) ih [] (.inr ⟨rfl, opened, rfl⟩) rest
  | record members ih =>
    intro level awaiting opened rest hopens _
    have hopen : step (inside awaiting opened) (.mark '\x7b') =
        some (inside .member (.record [] :: opened)) := hopens.step_eq (by simp)
    rw [pretty, Lexeme.scan_enclosed (by decide), foldlM_step_cons hopen]
    cases members with
    | nil =>
      rw [prettyMembers, List.nil_append, Lexeme.scan_mark (by decide)]
      rfl
    | cons m members => exact reads_prettyMembers level (by simp) ih [] (.inl rfl) rest

end Reading

/-- Reading undoes printing, with white space behind it or without. -/
theorem read_pretty (level : Nat) (v : Json) {b : List Char} (hb : Blanks b) :
    read (pretty level v ++ b) = some v := by
  have hstops : Stops b := by
    rw [← List.append_nil b]
    exact hb.stops stops_nil
  have hend : Lexeme.scan b = [] := by
    rw [← List.append_nil b, Lexeme.scan_blanks hb, Lexeme.scan_nil]
  rw [read, Reading.reads_pretty v level (.inl rfl) hstops, hend]
  rfl

end TemplateLexer.Json
