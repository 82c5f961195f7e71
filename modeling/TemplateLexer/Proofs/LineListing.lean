import TemplateLexer.Listing
import TemplateLexer.Proofs.Delimited
import TemplateLexer.Proofs.Labels
import TemplateLexer.Text.Lines

/-!
# Listings in lines

A listing in lines shows a token as its kind, its offset and its text, with separators between them
that could as well be part of a text. Since every part is self-delimiting, a line still shows one
token only (`Listing.selfDelimiting_line`), and a listing one stream. No part holds a line feed, so
that there are as many lines as there are tokens, below the headline.
-/

namespace TemplateLexer

open Text

variable {hidden : Char → Bool}

/-! ### Errors and kinds -/

/-- A found character as it is shown behind the name of an error. -/
def framed (found : List Char) : List Char :=
  ' ' :: '\x7b' :: (" found: ".toList ++ (found ++ " \x7d".toList))

/-- What an error carries as it is shown behind the name of the error. -/
def Carried.text (hidden : Char → Bool) : Carried → List Char
  | nothing => []
  | maybe found => framed (LexicalError.term.maybe hidden found)
  | char found => framed (quotedChar hidden found)

theorem LexicalError.withFound_eq (e : LexicalError) (found : List Char) :
    term.withFound e found = e.label.toList ++ framed found := by
  show e.label.toList ++ " \x7b found: ".toList ++ found ++ " \x7d".toList = _
  simp only [List.append_assoc]
  rfl

theorem LexicalError.term_eq (hidden : Char → Bool) (e : LexicalError) :
    e.term hidden = e.label.toList ++ e.carried.text hidden := by
  cases e with
  | expectedQuote found | expectedCloseDirective found | unexpectedInDirective found
  | unrecognizedInAction found => exact withFound_eq _ _
  | _ => exact (List.append_nil _).symm

theorem LexicalError.maybe_none (hidden : Char → Bool) : term.maybe hidden none = "None".toList :=
  rfl

theorem LexicalError.maybe_some (hidden : Char → Bool) (c : Char) :
    term.maybe hidden (some c) = "Some(".toList ++ quotedChar hidden c ++ [')'] := rfl

theorem LexicalError.selfDelimiting_maybe (hidden : Char → Bool) :
    SelfDelimiting (term.maybe hidden) := by
  intro a b xs ys h
  cases a with
  | none =>
    cases b with
    | none => exact ⟨rfl, List.append_cancel_left h⟩
    | some d => simp [maybe_none, maybe_some] at h
  | some c =>
    cases b with
    | none => simp [maybe_none, maybe_some] at h
    | some d =>
      simp only [maybe_some, List.append_assoc, List.append_cancel_left_eq] at h
      obtain ⟨rfl, hrest⟩ := selfDelimiting_quotedChar hidden h
      exact ⟨rfl, List.append_cancel_left hrest⟩

/-- Behind a name, a character is not mistaken for one that may be missing. -/
theorem LexicalError.maybe_append_ne (hidden : Char → Bool) (found : Option Char) (c : Char)
    (xs ys : List Char) : term.maybe hidden found ++ xs ≠ quotedChar hidden c ++ ys := by
  intro h
  cases found with
  | none => simp [maybe_none, quotedChar, quoted] at h
  | some d => simp [maybe_some, quotedChar, quoted] at h

theorem framed_append_inj {found found' xs ys : List Char}
    (h : framed found ++ xs = framed found' ++ ys) :
    found ++ (" \x7d".toList ++ xs) = found' ++ (" \x7d".toList ++ ys) := by
  have h' : ' ' :: '\x7b' :: (" found: ".toList ++ (found ++ " \x7d".toList)) ++ xs =
      ' ' :: '\x7b' :: (" found: ".toList ++ (found' ++ " \x7d".toList)) ++ ys := h
  simpa only [List.cons_append, List.append_assoc, List.cons.injEq, true_and,
    List.append_cancel_left_eq] using h'

/-- Before a closing parenthesis, what an error carries shows where it ends. -/
theorem Carried.delimitedBy_text (hidden : Char → Bool) :
    DelimitedBy ')' (Carried.text hidden) := by
  intro a b xs ys h
  -- Something carried begins with a blank, and a character with an apostrophe.
  cases a with
  | nothing =>
    cases b with
    | nothing => exact ⟨rfl, (List.cons.inj h).2⟩
    | maybe found => cases (List.cons.inj h).1
    | char d => cases (List.cons.inj h).1
  | maybe found =>
    cases b with
    | nothing => cases (List.cons.inj h).1
    | maybe found' =>
      obtain ⟨rfl, hrest⟩ := LexicalError.selfDelimiting_maybe hidden (framed_append_inj h)
      exact ⟨rfl, (List.cons.inj (List.append_cancel_left hrest)).2⟩
    | char d =>
      exact absurd (framed_append_inj h) (LexicalError.maybe_append_ne hidden found d _ _)
  | char c =>
    cases b with
    | nothing => cases (List.cons.inj h).1
    | maybe found =>
      exact absurd (framed_append_inj h).symm (LexicalError.maybe_append_ne hidden found c _ _)
    | char d =>
      obtain ⟨rfl, hrest⟩ := selfDelimiting_quotedChar hidden (framed_append_inj h)
      exact ⟨rfl, (List.cons.inj (List.append_cancel_left hrest)).2⟩

theorem LexicalError.delimitedBy_term (hidden : Char → Bool) :
    DelimitedBy ')' (LexicalError.term hidden) := by
  intro a b xs ys h
  have hhead : ∀ (k : Carried) zs, ∀ c ∈ (k.text hidden ++ ')' :: zs).head?, c.isAlpha = false := by
    intro k zs c hc
    cases k <;> cases hc <;> decide
  rw [term_eq, term_eq, List.append_assoc, List.append_assoc] at h
  obtain ⟨hlabel, hrest⟩ := (LongestRun.mk a.isAlpha_of_mem_label (hhead a.carried xs)).unique
    ⟨b.isAlpha_of_mem_label, hhead b.carried ys⟩ h
  obtain ⟨hcarried, hrest⟩ := Carried.delimitedBy_text hidden hrest
  have ha := a.ofLabel?_label
  rw [hlabel, hcarried, b.ofLabel?_label] at ha
  exact ⟨(Option.some.inj ha).symm, hrest⟩

/-- What is shown of a kind behind its name. -/
def TokenKind.tail (hidden : Char → Bool) : TokenKind → List Char
  | error e => '(' :: (e.term hidden ++ [')'])
  | _ => []

theorem TokenKind.term_eq (hidden : Char → Bool) (kind : TokenKind) :
    kind.term hidden = kind.label.toList ++ kind.tail hidden := by
  cases kind with
  | error e =>
    have hname : "Error(".toList = "Error".toList ++ ['('] := by decide
    show "Error(".toList ++ e.term hidden ++ [')'] = _
    rw [hname, List.append_assoc, List.append_assoc]
    rfl
  | _ => exact (List.append_nil _).symm

theorem TokenKind.error_or_tail (kind : TokenKind) (hidden : Char → Bool) :
    (∃ e, kind = .error e) ∨ kind.isError = false ∧ kind.tail hidden = [] := by
  cases kind with
  | error e => exact .inl ⟨e, rfl⟩
  | _ => exact .inr ⟨rfl, rfl⟩

/-- Before a blank, a kind shows where it ends. -/
theorem TokenKind.delimitedBy_term (hidden : Char → Bool) :
    DelimitedBy ' ' (TokenKind.term hidden) := by
  intro a b xs ys h
  have hhead : ∀ (kind : TokenKind) zs, ∀ c ∈ (kind.tail hidden ++ ' ' :: zs).head?,
      c.isAlpha = false := by
    intro kind zs c hc
    cases kind <;> cases hc <;> decide
  rw [term_eq, term_eq, List.append_assoc, List.append_assoc] at h
  obtain ⟨hlabel, hrest⟩ := (LongestRun.mk a.isAlpha_of_mem_label (hhead a xs)).unique
    ⟨b.isAlpha_of_mem_label, hhead b ys⟩ h
  -- What follows the names tells an error from the other kinds.
  rcases a.error_or_tail hidden with ⟨e, rfl⟩ | ⟨ha, hatail⟩ <;>
    rcases b.error_or_tail hidden with ⟨e', rfl⟩ | ⟨hb, hbtail⟩
  · simp only [tail, List.cons_append, List.cons.injEq, true_and, List.append_assoc,
      List.nil_append] at hrest
    obtain ⟨rfl, hend⟩ := LexicalError.delimitedBy_term hidden hrest
    exact ⟨rfl, (List.cons.inj hend).2⟩
  · rw [hbtail] at hrest
    cases (List.cons.inj hrest).1
  · rw [hatail] at hrest
    cases (List.cons.inj hrest).1
  · rw [hatail, hbtail] at hrest
    have hkind := ofLabel?_label ha
    rw [hlabel, ofLabel?_label hb] at hkind
    exact ⟨(Option.some.inj hkind).symm, (List.cons.inj hrest).2⟩

/-! ### Lines -/

namespace Listing

/-- The line for a token, without the line feed that ends it. -/
def row (hidden : Char → Bool) (t : Token) : List Char :=
  ' ' :: ' ' :: (t.kind.term hidden ++ ' ' :: '@' :: ' ' :: (Nat.toDigits 10 t.offset ++
    ':' :: ' ' :: quotedText hidden t.text))

theorem line_eq (hidden : Char → Bool) (t : Token) : line hidden t = row hidden t ++ ['\n'] := by
  show ' ' :: ' ' :: t.kind.term hidden ++ " @ ".toList ++ Nat.toDigits 10 t.offset ++
    ": ".toList ++ quotedText hidden t.text ++ ['\n'] = _
  simp [row]

/-- A line shows one token only, with all of its parts. -/
theorem selfDelimiting_row (hidden : Char → Bool) : SelfDelimiting (row hidden) := by
  rintro ⟨kind, offset, text⟩ ⟨kind', offset', text'⟩ xs ys h
  simp only [row, List.cons_append, List.append_assoc, List.cons.injEq, true_and] at h
  obtain ⟨rfl, hoffset⟩ := TokenKind.delimitedBy_term hidden h
  simp only [List.cons.injEq, true_and] at hoffset
  obtain ⟨rfl, htext⟩ := delimitedBy_toDigits (by decide) hoffset
  obtain ⟨rfl, hend⟩ := selfDelimiting_quoted hidden (.inl rfl) (List.cons.inj htext).2
  exact ⟨rfl, hend⟩

theorem selfDelimiting_line (hidden : Char → Bool) : SelfDelimiting (line hidden) := by
  intro a b xs ys h
  rw [line_eq, line_eq, List.append_assoc, List.append_assoc] at h
  obtain ⟨rfl, hrest⟩ := selfDelimiting_row hidden h
  exact ⟨rfl, List.append_cancel_left hrest⟩

/-- The headline up to the number of tokens. -/
def lead (name : String) : List Char := "Tokens for '".toList ++ name.toList ++ "' (".toList

/-- The headline behind the number of tokens and a blank. -/
def trail : List Char := "tokens):".toList

/-- The headline without the line feed that ends it. -/
def title (name : String) (count : Nat) : List Char :=
  lead name ++ (Nat.toDigits 10 count ++ ' ' :: trail)

theorem headline_eq (name : String) (count : Nat) :
    headline name count = title name count ++ ['\n'] := by
  have htrail : " tokens):\n".toList = ' ' :: (trail ++ ['\n']) := by decide
  show lead name ++ Nat.toDigits 10 count ++ " tokens):\n".toList = _
  simp only [htrail, title, List.append_assoc, List.cons_append]

theorem selfDelimiting_headline (name : String) : SelfDelimiting (headline name) := by
  intro m n xs ys h
  simp only [headline_eq, title, List.append_assoc, List.append_cancel_left_eq,
    List.cons_append] at h
  obtain ⟨rfl, hrest⟩ := delimitedBy_toDigits (by decide) h
  exact ⟨rfl, (List.cons.inj (List.append_cancel_left hrest)).2⟩

/-- A listing shows one stream only. -/
theorem linesWith_injective (hidden : Char → Bool) (name : String) {ts us : List Token}
    (h : linesWith hidden name ts = linesWith hidden name us) : ts = us := by
  apply (selfDelimiting_line hidden).flatMap_injective
  · intro t
    rw [line_eq]
    simp
  · exact (selfDelimiting_headline name h).2

/-! ### One line a token -/

theorem lineFeed_not_mem_carried (hidden : Char → Bool) (k : Carried) :
    '\n' ∉ k.text hidden := by
  have hframed : ∀ found, '\n' ∉ found → '\n' ∉ framed found := by
    intro found hfound
    show '\n' ∉ ' ' :: '\x7b' :: (" found: ".toList ++ (found ++ " \x7d".toList))
    simp [hfound]
  have hchar : ∀ c, '\n' ∉ quotedChar hidden c := by
    intro c
    exact lineFeed_not_mem_quoted hidden (.inr rfl) [c]
  cases k with
  | nothing => exact List.not_mem_nil
  | char c => exact hframed _ (hchar c)
  | maybe found =>
    cases found with
    | none => exact hframed _ (by rw [LexicalError.maybe_none]; decide)
    | some c => exact hframed _ (by simp [LexicalError.maybe_some, hchar])

theorem lineFeed_not_mem_of_isAlpha {label : List Char} (h : ∀ c ∈ label, c.isAlpha = true) :
    '\n' ∉ label := by
  intro hmem
  exact absurd (h _ hmem) (by decide)

theorem lineFeed_not_mem_term (hidden : Char → Bool) (kind : TokenKind) :
    '\n' ∉ kind.term hidden := by
  rw [TokenKind.term_eq, List.mem_append, not_or]
  refine ⟨lineFeed_not_mem_of_isAlpha kind.isAlpha_of_mem_label, ?_⟩
  rcases kind.error_or_tail hidden with ⟨e, rfl⟩ | ⟨-, htail⟩
  · have hlabel := lineFeed_not_mem_of_isAlpha e.isAlpha_of_mem_label
    have hcarried := lineFeed_not_mem_carried hidden e.carried
    simp [TokenKind.tail, LexicalError.term_eq, hlabel, hcarried]
  · rw [htail]
    exact List.not_mem_nil

theorem lineFeed_not_mem_row (hidden : Char → Bool) (t : Token) : '\n' ∉ row hidden t := by
  have hkind := lineFeed_not_mem_term hidden t.kind
  have hoffset := lineFeed_not_mem_toDigits (n := t.offset) (show 1 < 10 by decide)
  have htext : '\n' ∉ quotedText hidden t.text := lineFeed_not_mem_quoted hidden (.inl rfl) t.text
  simp [row, hkind, hoffset, htext]

theorem lineFeed_not_mem_title {name : String} (h : '\n' ∉ name.toList) (count : Nat) :
    '\n' ∉ title name count := by
  have hlead : '\n' ∉ lead name := by
    show '\n' ∉ "Tokens for '".toList ++ name.toList ++ "' (".toList
    simp [h]
  have hcount := lineFeed_not_mem_toDigits (n := count) (show 1 < 10 by decide)
  have htrail : '\n' ∉ trail := by decide
  simp [title, hlead, hcount, htrail]

theorem linesWith_eq (hidden : Char → Bool) (name : String) (ts : List Token) :
    linesWith hidden name ts = unlines (title name ts.length :: ts.map (row hidden)) := by
  have hlines : ts.flatMap (line hidden) = (ts.map (row hidden)).flatMap (· ++ ['\n']) := by
    rw [List.flatMap_map]
    exact congrArg (fun f => ts.flatMap f) (funext (line_eq hidden))
  rw [linesWith, headline_eq, hlines, unlines, List.flatMap_cons]

/-- A listing has a line for every token, below the headline. -/
theorem exists_lines (hidden : Char → Bool) {name : String} (h : '\n' ∉ name.toList)
    (ts : List Token) :
    ∃ lines, linesWith hidden name ts = unlines lines ∧ lines.length = ts.length + 1 ∧
      ∀ line ∈ lines, '\n' ∉ line := by
  refine ⟨_, linesWith_eq hidden name ts, by simp, ?_⟩
  intro line hline
  rcases List.mem_cons.mp hline with rfl | hline
  · exact lineFeed_not_mem_title h _
  · obtain ⟨t, -, rfl⟩ := List.mem_map.mp hline
    exact lineFeed_not_mem_row hidden t

end Listing

end TemplateLexer
