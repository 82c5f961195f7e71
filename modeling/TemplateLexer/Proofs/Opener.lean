import TemplateLexer.Lexer.Text
import TemplateLexer.Proofs.Cursor

/-!
# Where literal text ends

An opener is a left delimiter, or a marker with the name of a directive and an opening parenthesis.
`Opens` says that a text begins with one, by comparing spellings only. `Plain` says what a scan of
literal text passes, character by character: a marker that opens nothing goes as a whole, and any
other character that is no opener goes alone.

The search for openers hops from one promising byte to the next, and takes as the name behind a
marker the longest word. `seekOpener_eq` says that it stops exactly where `Plain` does.
-/

namespace TemplateLexer

open Text

/-! ### Names of directives -/

namespace Directive

/-- A name is a word. -/
theorem isWordChar_of_mem_spelling (dir : Directive) :
    ∀ c ∈ dir.spelling.toList, isWordChar c = true := by
  have hall : dir.spelling.toList.all isWordChar = true := by cases dir <;> decide
  exact List.all_eq_true.mp hall

theorem ofWord?_spelling (dir : Directive) : ofWord? dir.spelling.toList = some dir := by
  cases dir <;> decide

theorem eq_spelling_of_ofWord? {word : List Char} {dir : Directive} (h : ofWord? word = some dir) :
    word = dir.spelling.toList := by
  have := List.find?_some h
  simpa using (beq_iff_eq.mp this).symm

/-- Before a parenthesis, the longest word is the whole name. -/
theorem longestRun_spelling (dir : Directive) (cs : List Char) :
    LongestRun isWordChar dir.spelling.toList ('(' :: cs) where
  all := dir.isWordChar_of_mem_spelling
  stops := by
    intro c hc
    cases Option.some.inj hc
    decide

end Directive

/-- The state in which scanning goes on at an opener, or at the end. -/
def stateAt : Option Opener → State
  | some .delimiter => .leftDelim
  | some (.directive dir nameLen) => .directive dir nameLen
  | none => .eof

namespace Delimiters

/-! ### Openers -/

/-- What a directive begins with: the marker, its name and a parenthesis. -/
def head (d : Delimiters) (dir : Directive) : List Char := d.marker ++ dir.spelling.toList ++ ['(']

/-- A text begins with an opener. -/
def Opens (d : Delimiters) (cs : List Char) : Prop :=
  d.left <+: cs ∨ ∃ dir, d.head dir <+: cs

/-- The state that the text ahead calls for, at an opener or at the end. The left delimiter goes
before a directive. -/
inductive Calls (d : Delimiters) : List Char → State → Prop
  | delimiter {cs : List Char} : d.left <+: cs → Calls d cs .leftDelim
  | directive {dir : Directive} {cs : List Char} : ¬ d.left <+: d.head dir ++ cs →
      Calls d (d.head dir ++ cs) (.directive dir (size dir.spelling.toList))
  | eof : Calls d [] .eof

/-- Literal text: `run` is passed, and the scan stops before `rest`. -/
inductive Plain (d : Delimiters) : List Char → List Char → Prop
  | stop {rest : List Char} : rest = [] ∨ d.Opens rest → Plain d [] rest
  | marker {run rest : List Char} : ¬ d.Opens (d.marker ++ (run ++ rest)) → Plain d run rest →
      Plain d (d.marker ++ run) rest
  | char {c : Char} {run rest : List Char} : ¬ d.Opens (c :: (run ++ rest)) →
      ¬ d.marker <+: c :: (run ++ rest) → Plain d run rest → Plain d (c :: run) rest

variable {d : Delimiters} {c : Cursor} {front : List Char}

theorem exists_calls {cs : List Char} (h : cs = [] ∨ d.Opens cs) : ∃ s, Calls d cs s := by
  rcases h with rfl | h
  · exact ⟨_, .eof⟩
  by_cases hl : d.left <+: cs
  · exact ⟨_, .delimiter hl⟩
  rcases h with h | ⟨dir, tail, rfl⟩
  · exact absurd h hl
  · exact ⟨_, .directive hl⟩

theorem Calls.stops {cs : List Char} {s : State} (h : Calls d cs s) : cs = [] ∨ d.Opens cs := by
  cases h with
  | delimiter hl => exact .inr (.inl hl)
  | @directive dir cs => exact .inr (.inr ⟨dir, List.prefix_append _ _⟩)
  | eof => exact .inl rfl

theorem Plain.stops {run rest : List Char} (h : Plain d run rest) : rest = [] ∨ d.Opens rest := by
  induction h with
  | stop h => exact h
  | marker _ _ ih => exact ih
  | char _ _ _ ih => exact ih

/-- Every text begins with literal text, which may be empty. -/
theorem exists_plain (d : Delimiters) (cs : List Char) :
    ∃ run rest, cs = run ++ rest ∧ Plain d run rest := by
  induction hn : cs.length using Nat.strongRecOn generalizing cs with
  | _ n ih =>
    subst hn
    by_cases ho : cs = [] ∨ d.Opens cs
    · exact ⟨[], cs, rfl, .stop ho⟩
    rw [not_or] at ho
    by_cases hm : d.marker <+: cs
    · obtain ⟨tail, rfl⟩ := hm
      have hpos := List.length_pos_iff.mpr d.marker_ne
      obtain ⟨run, rest, rfl, hp⟩ := ih tail.length (by rw [List.length_append]; omega) tail rfl
      exact ⟨d.marker ++ run, rest, by rw [List.append_assoc], .marker ho.2 hp⟩
    · obtain ⟨x, tail, rfl⟩ := List.exists_cons_of_ne_nil ho.1
      obtain ⟨run, rest, rfl, hp⟩ := ih tail.length (by simp) tail rfl
      exact ⟨x :: run, rest, rfl, .char ho.2 hm hp⟩

/-! ### Recognizing an opener -/

/-- A directive at the cursor is recognized. -/
theorem directiveAt_head {dir : Directive} {cs : List Char}
    (h : c.Between front (d.head dir ++ cs)) :
    d.directiveAt c = .ok (some (.directive dir (size dir.spelling.toList))) := by
  have hcs : d.head dir ++ cs = d.marker ++ (dir.spelling.toList ++ '(' :: cs) := by simp [head]
  have hrun := dir.longestRun_spelling cs
  rw [hcs] at h
  rw [directiveAt, h.rest_eq]
  simp only [bind, Except.bind, drop?_append, hrun.takeWhile_eq, hrun.dropWhile_eq,
    dir.ofWord?_spelling, List.head?_cons]
  rfl

/-- A marker that opens nothing is recognized as such: the longest word behind it, if it were the
name of a directive and stood before a parenthesis, would make the text begin with an opener. -/
theorem directiveAt_eq_none {cs : List Char} (h : c.Between front (d.marker ++ cs))
    (ho : ¬ d.Opens (d.marker ++ cs)) : d.directiveAt c = .ok none := by
  rw [directiveAt, h.rest_eq]
  simp only [bind, Except.bind, drop?_append]
  split
  · next dir hw hp =>
    -- The word and the parenthesis behind it spell a directive.
    exfalso
    apply ho
    refine .inr ⟨dir, ?_⟩
    obtain ⟨cs', hcs'⟩ := List.head?_eq_some_iff.mp hp
    refine ⟨cs', ?_⟩
    rw [← List.takeWhile_append_dropWhile (p := isWordChar) (l := cs), hcs',
      Directive.eq_spelling_of_ofWord? hw]
    simp [head]
  · rfl

theorem openerAt_eq {cs : List Char} {s : State} (h : c.Between front cs) (hcs : cs ≠ [])
    (hs : Calls d cs s) :
    ∃ opener, d.openerAt c = .ok (some opener) ∧ stateAt (some opener) = s := by
  cases hs with
  | delimiter hl =>
    refine ⟨.delimiter, ?_, rfl⟩
    rw [openerAt, h.startsWith_eq]
    simp [bind, Except.bind, pure, Except.pure, List.isPrefixOf_iff_prefix.mpr hl]
  | @directive dir cs hl =>
    refine ⟨.directive dir (size dir.spelling.toList), ?_, rfl⟩
    rw [openerAt, h.startsWith_eq, h.startsWith_eq]
    have hl' := Bool.eq_false_iff.mpr (mt List.isPrefixOf_iff_prefix.mp hl)
    have hm : d.marker <+: d.head dir ++ cs := by simp [head]
    simp only [bind, Except.bind, hl', List.isPrefixOf_iff_prefix.mpr hm]
    exact directiveAt_head h
  | eof => exact absurd rfl hcs

theorem openerAt_eq_none {cs : List Char} (h : c.Between front cs) (ho : ¬ d.Opens cs) :
    d.openerAt c = .ok none := by
  have hl : d.left.isPrefixOf cs = false :=
    Bool.eq_false_iff.mpr fun hl => ho (.inl (List.isPrefixOf_iff_prefix.mp hl))
  rw [openerAt, h.startsWith_eq, h.startsWith_eq]
  simp only [bind, Except.bind, hl]
  by_cases hm : d.marker <+: cs
  · obtain ⟨tail, rfl⟩ := hm
    simp only [List.isPrefixOf_iff_prefix.mpr (List.prefix_append d.marker tail)]
    exact directiveAt_eq_none h ho
  · simp only [Bool.eq_false_iff.mpr (mt List.isPrefixOf_iff_prefix.mp hm)]
    rfl

/-! ### Passing on -/

theorem pass_marker {cs : List Char} (h : c.Between front (d.marker ++ cs)) :
    ∃ c', d.pass c = .ok c' ∧ c'.Between (front ++ d.marker) cs := by
  obtain ⟨c', ha, hc'⟩ := h.advanceBy_eq d.marker
  refine ⟨c', ?_, hc'⟩
  rw [pass, h.startsWith_eq]
  simpa [bind, Except.bind] using ha

theorem pass_char {x : Char} {cs : List Char} (h : c.Between front (x :: cs))
    (hm : ¬ d.marker <+: x :: cs) :
    ∃ c', d.pass c = .ok c' ∧ c'.Between (front ++ [x]) cs := by
  obtain ⟨c', hb, hc', -⟩ := h.bump_cons
  refine ⟨c', ?_, hc'⟩
  rw [pass, h.startsWith_eq]
  simp only [bind, Except.bind, Bool.eq_false_iff.mpr (mt List.isPrefixOf_iff_prefix.mp hm), hb]
  rfl

/-! ### The search -/

/-- At a character with which neither the left delimiter nor the marker begins, the search may as
well begin behind it. -/
theorem seekOpener_congr {c' : Cursor}
    (h : c.skipToEither d.leftLead d.markerLead = c'.skipToEither d.leftLead d.markerLead) :
    d.seekOpener c = d.seekOpener c' := by
  rw [seekOpener, seekOpener, h]

theorem seekOpener_end {c' : Cursor}
    (h : c.skipToEither d.leftLead d.markerLead = .ok (false, c')) :
    d.seekOpener c = .ok (none, c') := by
  rw [seekOpener]
  split <;> simp_all

theorem seekOpener_found {c' : Cursor} {opener : Opener}
    (h : c.skipToEither d.leftLead d.markerLead = .ok (true, c'))
    (ho : d.openerAt c' = .ok (some opener)) : d.seekOpener c = .ok (some opener, c') := by
  rw [seekOpener]
  split <;> simp_all

theorem seekOpener_pass {c' c'' : Cursor}
    (h : c.skipToEither d.leftLead d.markerLead = .ok (true, c'))
    (ho : d.openerAt c' = .ok none) (hp : d.pass c' = .ok c'') :
    d.seekOpener c = d.seekOpener c'' := by
  rw [seekOpener]
  split
  · simp_all
  · simp_all
  · next heq =>
    rw [h] at heq
    cases heq
    rw [ho]
    dsimp only
    split
    · simp_all
    · next heq' =>
      rw [hp] at heq'
      cases heq'
      rfl

/-- The first byte of a text that begins with the marker is the one searched for. -/
theorem leadByte_of_marker {x : Char} {cs : List Char} (h : d.marker <+: x :: cs) :
    leadByte x = d.markerLead := by
  rw [markerLead, List.IsPrefix.head h d.marker_ne, List.head_cons]

theorem leadByte_of_left {x : Char} {cs : List Char} (h : d.left <+: x :: cs) :
    leadByte x = d.leftLead := by
  rw [leftLead, List.IsPrefix.head h d.left_ne, List.head_cons]

/-- An opener begins with one of the two bytes searched for. -/
theorem leadByte_of_opens {x : Char} {cs : List Char} (h : d.Opens (x :: cs)) :
    leadByte x = d.leftLead ∨ leadByte x = d.markerLead := by
  rcases h with h | ⟨dir, h⟩
  · exact .inl (leadByte_of_left h)
  · have hm : d.marker <+: x :: cs := List.IsPrefix.trans (by simp [head]) h
    exact .inr (leadByte_of_marker hm)

/-- The search for an opener passes the literal text and stops behind it. -/
theorem seekOpener_eq {run rest : List Char} {s : State} (hp : Plain d run rest)
    (h : c.Between front (run ++ rest)) (hs : Calls d rest s) :
    ∃ opener c', d.seekOpener c = .ok (opener, c') ∧ c'.Between (front ++ run) rest ∧
      stateAt opener = s := by
  have hl : isContinuation d.leftLead = false := isContinuation_leadByte _
  have hm : isContinuation d.markerLead = false := isContinuation_leadByte _
  induction hp generalizing c front with
  | @stop rest hstop =>
    simp only [List.append_nil]
    cases rest with
    | nil =>
      obtain ⟨c', hskip, hc'⟩ := Cursor.Between.skipToEither_nil h
      refine ⟨none, c', seekOpener_end hskip, hc', ?_⟩
      generalize hnil : [] = cs at hs
      cases hs with
      | delimiter hl => subst hnil; exact absurd (List.prefix_nil.mp hl) d.left_ne
      | directive => simp [head] at hnil
      | eof => rfl
    | cons x rest =>
      have ho : d.Opens (x :: rest) := hstop.resolve_left (by simp)
      obtain ⟨c', hskip, hc'⟩ := Cursor.Between.skipToEither_pos hl hm h (leadByte_of_opens ho)
      obtain ⟨opener, hopener, hstate⟩ := openerAt_eq hc' (by simp) hs
      exact ⟨some opener, c', seekOpener_found hskip hopener, hc', hstate⟩
  | @marker run rest hno hp ih =>
    rw [List.append_assoc] at h
    obtain ⟨x, tail, hx⟩ :=
      List.exists_cons_of_ne_nil (List.append_ne_nil_of_left_ne_nil d.marker_ne (run ++ rest))
    have hlead : leadByte x = d.markerLead := 
      leadByte_of_marker (show d.marker <+: x :: tail by simp [← hx])
    rw [hx] at h
    obtain ⟨c', hskip, hc'⟩ := Cursor.Between.skipToEither_pos hl hm h (.inr hlead)
    rw [← hx] at hc'
    obtain ⟨c'', hpass, hc''⟩ := pass_marker hc'
    rw [seekOpener_pass hskip (openerAt_eq_none hc' hno) hpass, ← List.append_assoc]
    exact ih hc'' hs
  | @char x run rest hno hmarker hp ih =>
    rw [show front ++ x :: run = front ++ [x] ++ run by simp]
    by_cases hlead : leadByte x = d.leftLead ∨ leadByte x = d.markerLead
    · obtain ⟨c', hskip, hc'⟩ := Cursor.Between.skipToEither_pos hl hm h hlead
      obtain ⟨c'', hpass, hc''⟩ := pass_char hc' hmarker
      rw [seekOpener_pass hskip (openerAt_eq_none hc' hno) hpass]
      exact ih hc'' hs
    · -- The search hops over the character without looking at it.
      rw [not_or] at hlead
      obtain ⟨c', hc', hskip⟩ := Cursor.Between.skipToEither_neg hl hm h hlead.1 hlead.2
      rw [seekOpener_congr hskip]
      exact ih hc' hs

end Delimiters

end TemplateLexer
