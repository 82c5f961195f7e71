import TemplateLexer.Json.Skip
import TemplateLexer.Options

/-!
# Options written in JSON

Options are written as a record with any of three known keys, or as a list of up to three strings
in the order of the keys. Other keys are passed over with their values; a known key may not occur
twice. The text is read from left to right, one piece at a time, and the first piece that cannot
stand where it stands decides the outcome.
-/

namespace TemplateLexer

open Json (Lexeme)

namespace Options

/-- The parts of options that can be given. -/
inductive Field where
  | marker
  | left
  | right
deriving DecidableEq, Repr

namespace Field

/-- The key of a part. -/
def key : Field → String
  | marker => "directive_marker"
  | left => "left_delim"
  | right => "right_delim"

/-- All parts, in the order of a list. -/
def all : List Field := [marker, left, right]

/-- The part with the given key. -/
def ofKey? (key : List Char) : Option Field := all.find? (·.key.toList == key)

end Field

/-- Options of which some parts were given. -/
structure Draft where
  /-- The marker, if it was given. -/
  marker : Option (List Char) := none
  /-- The left delimiter, if it was given. -/
  left : Option (List Char) := none
  /-- The right delimiter, if it was given. -/
  right : Option (List Char) := none
deriving DecidableEq, Repr

namespace Draft

/-- A part, if it was given. -/
def get? (d : Draft) : Field → Option (List Char)
  | .marker => d.marker
  | .left => d.left
  | .right => d.right

/-- Gives a part. -/
def set (d : Draft) (field : Field) (text : List Char) : Draft :=
  match field with
  | .marker => { d with marker := some text }
  | .left => { d with left := some text }
  | .right => { d with right := some text }

/-- The parts that were given, and those of `base` elsewhere. -/
def fillFrom (d : Draft) (base : Options) : Options where
  marker := d.marker.getD base.marker
  left := d.left.getD base.left
  right := d.right.getD base.right

end Draft

/-- Why a text is not the text of options. -/
inductive DecodeError where
  /-- It ends too early. -/
  | truncated
  /-- It is no JSON text, or goes on behind its end. -/
  | malformed
  /-- A value is not of the kind that it should be, or a known key occurs twice. -/
  | mistyped
deriving DecidableEq, Repr

/-- A failure to read a piece. -/
def DecodeError.ofFailure : Json.Failure → DecodeError
  | .truncated => truncated
  | .malformed => malformed

/-- What was read of a text of options. -/
inductive Phase where
  /-- Nothing. -/
  | start
  /-- The opening of a list. -/
  | listOpen
  /-- `count` items of a list. -/
  | listNext (count : Nat)
  /-- `count` items of a list and a comma. -/
  | listItem (count : Nat)
  /-- The opening of a record. -/
  | recordOpen
  /-- A member. -/
  | recordNext
  /-- A member and a comma. -/
  | recordKey
  /-- A key; `none` for one that is not known. -/
  | colon (field : Option Field)
  /-- A known key and a colon. -/
  | value (field : Field)
  /-- An unknown key, a colon, and some of a value. -/
  | skipping (skip : Json.Skip)
  /-- All of it. -/
  | done
deriving DecidableEq, Repr

/-- The text of a piece that has to be a string. -/
def readText : Lexeme → Except DecodeError (List Char)
  | .text exact _ => exact.mapError .ofFailure
  | x => .error (mismatch x)
where
  /-- What is wrong with a piece where something else is expected: it cannot be read, or it is of
  the wrong kind. -/
  mismatch : Lexeme → DecodeError
    | .mark c => if c = '[' ∨ c = '\x7b' then .mistyped else .malformed
    | .text exact _ => ofResult exact
    | .number _ parts => ofResult (Json.exactNumber parts)
    | .word _ exact => ofResult exact
    | .stray => .malformed
  /-- A piece that can be read is of the wrong kind. -/
  ofResult {α : Type} (r : Except Json.Failure α) : DecodeError :=
    match r with
    | .ok _ => .mistyped
    | .error f => .ofFailure f

/-- The item number `count` of a list. -/
def readItem (count : Nat) (d : Draft) (x : Lexeme) : Except DecodeError (Phase × Draft) := do
  let text ← readText x
  match Field.all[count]? with
  | some field => return (.listNext (count + 1), d.set field text)
  | none => throw .malformed

/-- A key of a record. -/
def readKey (d : Draft) (x : Lexeme) : Except DecodeError (Phase × Draft) :=
  match x with
  | .text exact _ => do
    let key ← exact.mapError .ofFailure
    match Field.ofKey? key with
    | none => return (.colon none, d)
    | some field =>
      if (d.get? field).isSome then throw .mistyped else return (.colon (some field), d)
  | _ => .error .malformed

/-- One piece further. -/
def readLexeme : Phase × Draft → Lexeme → Except DecodeError (Phase × Draft)
  | (.start, d), .mark '[' => .ok (.listOpen, d)
  | (.start, d), .mark '\x7b' => .ok (.recordOpen, d)
  | (.start, _), x => .error (readText.mismatch x)
  | (.listOpen, d), .mark ']' => .ok (.done, d)
  | (.listOpen, d), x => readItem 0 d x
  | (.listNext _, d), .mark ']' => .ok (.done, d)
  | (.listNext count, d), .mark ',' =>
    if count < Field.all.length then .ok (.listItem count, d) else .error .malformed
  | (.listItem count, d), x => readItem count d x
  | (.recordOpen, d), .mark '\x7d' => .ok (.done, d)
  | (.recordOpen, d), x => readKey d x
  | (.recordNext, d), .mark '\x7d' => .ok (.done, d)
  | (.recordNext, d), .mark ',' => .ok (.recordKey, d)
  | (.recordKey, d), x => readKey d x
  | (.colon (some field), d), .mark ':' => .ok (.value field, d)
  | (.colon none, d), .mark ':' => .ok (.skipping .start, d)
  | (.value field, d), x => do return (.recordNext, d.set field (← readText x))
  | (.skipping s, d), x => do
    match ← (s.step x).mapError .ofFailure with
    | none => return (.recordNext, d)
    | some s => return (.skipping s, d)
  | _, _ => .error .malformed

/-- The parts of options that a JSON text gives. -/
def decodeDraft (cs : List Char) : Except DecodeError Draft := do
  let (phase, d) ← (Lexeme.scan cs).foldlM readLexeme (.start, {})
  if phase = .done then return d else throw .truncated

/-- The options that a JSON text stands for; parts that it does not give are the defaults. -/
def decode (cs : List Char) : Except DecodeError Options := do
  return (← decodeDraft cs).fillFrom .default

end Options

end TemplateLexer
