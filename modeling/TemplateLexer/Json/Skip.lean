import TemplateLexer.Json.Lexeme

/-!
# Passing over a JSON value

A value of any depth is passed over piece by piece. What was opened and not yet closed is kept on a
stack, so that nothing but the next piece and the stack decides how to go on.
-/

namespace TemplateLexer.Json

/-- Something that was opened. -/
inductive Frame where
  | list
  | record
deriving DecidableEq, Repr

/-- What the next piece may be. -/
inductive Awaiting where
  /-- A value. -/
  | value
  /-- A value, or the end of a list that was just opened. -/
  | item
  /-- A key, or the end of a record that was just opened. -/
  | member
  /-- A key. -/
  | key
  /-- A colon. -/
  | colon
  /-- A comma, or the end of what was opened last. -/
  | next
deriving DecidableEq, Repr

/-- A value that is being passed over. -/
structure Skip where
  /-- What the next piece may be. -/
  awaiting : Awaiting
  /-- What is open, the innermost first. -/
  opened : List Frame
deriving DecidableEq, Repr

namespace Skip

/-- Before the first piece of a value. -/
def start : Skip := ⟨.value, []⟩

/-- Behind a value inside of `opened`; `none` where nothing is open, so that the whole is done. -/
def behind (opened : List Frame) : Option Skip :=
  if opened.isEmpty then none else some ⟨.next, opened⟩

/-- The first piece of a value. -/
def beginValue (opened : List Frame) : Lexeme → Except Failure (Option Skip)
  | .mark c =>
    if c = '[' then .ok (some ⟨.item, .list :: opened⟩)
    else if c = '\x7b' then .ok (some ⟨.member, .record :: opened⟩)
    else .error .malformed
  | .text _ loose => do loose; return behind opened
  | .number _ parts => do looseNumber parts; return behind opened
  | .word _ exact => do exact; return behind opened
  | .stray => .error .malformed

/-- A key. -/
def readKey (opened : List Frame) : Lexeme → Except Failure (Option Skip)
  | .text _ loose => do loose; return some ⟨.colon, opened⟩
  | _ => .error .malformed

/-- The mark that closes a frame. -/
def Frame.close : Frame → Char
  | .list => ']'
  | .record => '\x7d'

/-- What a comma in a frame is followed by. -/
def Frame.afterComma : Frame → Awaiting
  | .list => .value
  | .record => .key

/-- One piece further; `none` when the value ends with it. -/
def step (s : Skip) (x : Lexeme) : Except Failure (Option Skip) :=
  match s.awaiting, s.opened, x with
  | .value, opened, x => beginValue opened x
  | .item, frame :: opened, .mark c =>
    if c = Frame.close frame then .ok (behind opened) else beginValue (frame :: opened) x
  | .item, opened, x => beginValue opened x
  | .member, frame :: opened, .mark c =>
    if c = Frame.close frame then .ok (behind opened) else .error .malformed
  | .member, opened, x => readKey opened x
  | .key, opened, x => readKey opened x
  | .colon, opened, .mark ':' => .ok (some ⟨.value, opened⟩)
  | .next, frame :: opened, .mark c =>
    if c = Frame.close frame then .ok (behind opened)
    else if c = ',' then .ok (some ⟨Frame.afterComma frame, frame :: opened⟩)
    else .error .malformed
  | _, _, _ => .error .malformed

end Skip

end TemplateLexer.Json
