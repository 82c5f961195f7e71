import TemplateLexer.Listing
import TemplateLexer.Proofs.Json.Reading
import TemplateLexer.Proofs.Labels

/-!
# JSON listings tell the stream

A listing in JSON is a valid text, and reading it as a list of records, each with a kind, an offset
and a text, gives the tokens that were listed. `Listing.read` is such a reader: it goes by keys and
names only.
-/

namespace TemplateLexer

namespace Listing

/-! ### Reading a listing -/

/-- What an error may carry, by the character that was found. -/
def readFound : Json → List Carried
  | .null => [.maybe none]
  | .text [c] => [.maybe (some c), .char c]
  | _ => []

/-- An error: a name, or a record with the character that was found under its name. -/
def readError : Json → Option LexicalError
  | .text label => LexicalError.ofLabel? label .nothing
  | .record [(label, .record [("found", found)])] =>
    (readFound found).findSome? (LexicalError.ofLabel? label.toList)
  | _ => none

/-- A kind: a name, or a record with an error. -/
def readKind : Json → Option TokenKind
  | .text label => TokenKind.ofLabel? label
  | .record [("Error", e)] => TokenKind.error <$> readError e
  | _ => none

def readOffset : Json → Option Nat
  | .number n => some n
  | _ => none

def readText : Json → Option (List Char)
  | .text cs => some cs
  | _ => none

/-- A token: a record with three keys. -/
def readToken : Json → Option Token
  | .record members => do
    let kind ← members.lookup "kind" >>= readKind
    let offset ← members.lookup "offset" >>= readOffset
    let text ← members.lookup "text" >>= readText
    return { kind, offset, text }
  | _ => none

/-- The tokens of a listing. -/
def read (cs : List Char) : Option (List Token) := do
  match ← Json.read cs with
  | .list items => items.mapM readToken
  | _ => none

/-! ### Reading what was listed -/

/-- What an error carries can be told from its name and the character. -/
theorem findSome?_readFound {e : LexicalError} {found : Option Char}
    (h : e.carried = .maybe found ∨ ∃ c, e.carried = .char c ∧ found = some c) :
    (readFound (found.elim .null fun c => .text [c])).findSome?
      (LexicalError.ofLabel? e.label.toList) = some e := by
  have hlabel := e.ofLabel?_label
  rcases h with h | ⟨c, h, rfl⟩
  · rw [h] at hlabel
    cases found with
    | none => simp [readFound, hlabel]
    | some c => simp [readFound, hlabel]
  · have hmaybe : LexicalError.ofLabel? e.label.toList (.maybe (some c)) = none := by
      cases e with
      | unexpectedInDirective c' => simp [LexicalError.ofLabel?, Carried.errors, LexicalError.label]
      | unrecognizedInAction c' => simp [LexicalError.ofLabel?, Carried.errors, LexicalError.label]
      | _ => cases h
    rw [h] at hlabel
    simp [readFound, hmaybe, hlabel]

theorem readError_errorValue (e : LexicalError) : readError (errorValue e) = some e := by
  cases e with
  | expectedQuote found => exact findSome?_readFound (.inl rfl)
  | expectedCloseDirective found => exact findSome?_readFound (.inl rfl)
  | unexpectedInDirective found => exact findSome?_readFound (.inr ⟨found, rfl, rfl⟩)
  | unrecognizedInAction found => exact findSome?_readFound (.inr ⟨found, rfl, rfl⟩)
  | _ => exact LexicalError.ofLabel?_label _

theorem readKind_kindValue (kind : TokenKind) : readKind (kindValue kind) = some kind := by
  cases kind with
  | error e =>
    show TokenKind.error <$> readError (errorValue e) = _
    rw [readError_errorValue]
    rfl
  | _ => exact TokenKind.ofLabel?_label rfl

theorem readToken_tokenValue (t : Token) : readToken (tokenValue t) = some t := by
  show (do
    let kind ← readKind (kindValue t.kind)
    some { kind, offset := t.offset, text := t.text } : Option Token) = some t
  rw [readKind_kindValue]
  rfl

theorem mapM_readToken (ts : List Token) : (ts.map tokenValue).mapM readToken = some ts := by
  induction ts with
  | nil => rfl
  | cons t ts ih => simp [readToken_tokenValue, ih]

/-- Reading undoes listing. -/
theorem read_json (ts : List Token) : read (json ts) = some ts := by
  have hblank : Json.Blanks ['\n'] := Json.blanks_newline 0
  rw [read, json, Json.read_pretty 0 _ hblank]
  exact mapM_readToken ts

end Listing

end TemplateLexer
