import TemplateLexer.Token.Printer

/-!
# Names in listings

Listings name kinds and errors. A name stands for one kind, and for one error if what the error
carries is known as well; `TokenKind.ofLabel?` and `LexicalError.ofLabel?` find them. All names are
made of letters, so that they end where something else begins.
-/

namespace TemplateLexer

/-- Where names differ, what is found under a name is what has it. -/
theorem find?_name {α : Type} {name : α → String} {as : List α} {a : α}
    (hnames : as.Pairwise fun a b => name a ≠ name b) (ha : a ∈ as) :
    as.find? (fun b => (name b).toList == (name a).toList) = some a := by
  induction as with
  | nil => cases ha
  | cons b as ih =>
    obtain ⟨hb, hrest⟩ := List.pairwise_cons.mp hnames
    rcases List.mem_cons.mp ha with rfl | ha
    · simp
    · rw [List.find?_cons_of_neg (by simpa [String.toList_inj] using hb a ha)]
      exact ih hrest ha

/-! ### Kinds -/

namespace TokenKind

/-- The kinds that are no errors. -/
def plain : List TokenKind :=
  [text, eof, endOfLine, leftDelim, rightDelim, identifier, string, space, leftParen, rightParen,
    pipe, colonEquals, var, field, number, char, openDirective, closeDirective] ++
    Directive.all.map directive ++ (Keyword.dot :: Keyword.words).map keyword

/-- The kind with the given name. -/
def ofLabel? (label : List Char) : Option TokenKind := plain.find? (·.label.toList == label)

variable {kind : TokenKind}

theorem label_distinct : plain.Pairwise fun kind kind' => kind.label ≠ kind'.label := by
  decide +kernel

theorem mem_plain (h : kind.isError = false) : kind ∈ plain := by
  cases kind with
  | error e => cases h
  | directive d => cases d <;> decide
  | keyword k => cases k <;> decide
  | _ => decide

theorem ofLabel?_label (h : kind.isError = false) : ofLabel? kind.label.toList = some kind :=
  find?_name label_distinct (mem_plain h)

theorem isAlpha_of_mem_label (kind : TokenKind) : ∀ c ∈ kind.label.toList, c.isAlpha = true := by
  rw [← List.all_eq_true]
  cases kind with
  | error e => show "Error".toList.all Char.isAlpha = true; decide
  | directive d => cases d <;> decide
  | keyword k => cases k <;> decide
  | _ => decide

end TokenKind

/-! ### Errors -/

/-- What an error carries. -/
inductive Carried where
  | nothing
  /-- A character, or the end of the template. -/
  | maybe (found : Option Char)
  | char (found : Char)

/-- The errors that carry this. -/
def Carried.errors : Carried → List LexicalError
  | nothing =>
    [.unclosedComment, .commentEndsBeforeDelimiter, .unterminatedString, .unclosedDirective,
      .unclosedAction, .unclosedLeftParen, .unexpectedRightParen, .duplicateExtends,
      .misplacedExtends]
  | maybe found => [.expectedQuote found, .expectedCloseDirective found]
  | char found => [.unexpectedInDirective found, .unrecognizedInAction found]

namespace LexicalError

def carried : LexicalError → Carried
  | expectedQuote found => .maybe found
  | expectedCloseDirective found => .maybe found
  | unexpectedInDirective found => .char found
  | unrecognizedInAction found => .char found
  | _ => .nothing

/-- The error with the given name that carries this. -/
def ofLabel? (label : List Char) (carried : Carried) : Option LexicalError :=
  carried.errors.find? (·.label.toList == label)

theorem label_distinct (carried : Carried) :
    carried.errors.Pairwise fun e e' => e.label ≠ e'.label := by
  cases carried with
  | nothing => decide +kernel
  | maybe found => simp [Carried.errors, label]
  | char found => simp [Carried.errors, label]

theorem mem_errors (e : LexicalError) : e ∈ e.carried.errors := by
  cases e <;> simp [carried, Carried.errors]

theorem ofLabel?_label (e : LexicalError) : ofLabel? e.label.toList e.carried = some e :=
  find?_name (label_distinct e.carried) e.mem_errors

theorem isAlpha_of_mem_label (e : LexicalError) : ∀ c ∈ e.label.toList, c.isAlpha = true := by
  rw [← List.all_eq_true]
  cases e <;> (rw [label]; decide)

end LexicalError

end TemplateLexer
