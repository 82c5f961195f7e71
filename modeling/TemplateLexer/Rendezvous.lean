import TemplateLexer.Lexer.Stream

/-!
# Handing tokens from a scanner to a consumer

The scanner of a rendezvous pulls tokens on its own, and offers each until the consumer takes it, so
that it is never more than one token ahead. It ends after the last token, or as soon as it offers a
token that nobody will take. The consumer asks for a number of tokens and then leaves.

`Rendezvous.Step` is what the two may do at any moment, in any order in which they are run.
`Scanner.receive` is what the consumer sees: asking, it lets the scanner run until a token is offered
or none is left.
-/

namespace TemplateLexer

/-- What the scanner is doing. -/
inductive Scanner where
  /-- Looking for the next token. -/
  | scanning (l : Lexer)
  /-- Holding a token that was not taken yet. -/
  | offering (t : Token) (l : Lexer)
  | finished

namespace Scanner

/-- Runs the scanner until it offers a token or is done. -/
def advance : Scanner → Except Fault Scanner
  | scanning l => do
    match ← l.pull with
    | (some t, l) => return offering t l
    | (none, _) => return finished
  | s => return s

/-- What a consumer gets that asks once, and the scanner behind it. -/
def receive (s : Scanner) : Except Fault (Option Token × Scanner) := do
  match ← s.advance with
  | offering t l => return (some t, scanning l)
  | s => return (none, s)

/-- What a consumer gets that asks `n` times. -/
def receiveMany : Nat → Scanner → Except Fault (List (Option Token))
  | 0, _ => return []
  | n + 1, s => do
    let (t, s) ← s.receive
    return t :: (← receiveMany n s)

/-- What a consumer gets that asks until there is nothing left, `n` times at most. -/
def receiveUpTo : Nat → Scanner → Except Fault (List Token)
  | 0, _ => return []
  | n + 1, s => do
    match ← s.receive with
    | (none, _) => return []
    | (some t, s) => return t :: (← receiveUpTo n s)

end Scanner

/-- What the consumer has yet to do. -/
inductive Consumer where
  /-- Ask `asks` times, then leave. -/
  | receiving (asks : Nat)
  /-- Nothing: it has left. -/
  | gone
deriving DecidableEq, Repr

/-- A scanner and a consumer, and what was handed over so far. -/
structure Rendezvous where
  scanner : Scanner
  consumer : Consumer
  /-- The answers that the consumer got, in order. -/
  received : List (Option Token)

namespace Rendezvous

/-- What may happen next. A token changes hands only while it is offered and asked for. -/
inductive Step : Rendezvous → Rendezvous → Prop
  /-- The scanner finds a token and offers it. -/
  | offer {l l' : Lexer} {t : Token} {consumer : Consumer} {received : List (Option Token)} :
      l.pull = .ok (some t, l') →
      Step ⟨.scanning l, consumer, received⟩ ⟨.offering t l', consumer, received⟩
  /-- The scanner finds that nothing is left. -/
  | finish {l l' : Lexer} {consumer : Consumer} {received : List (Option Token)} :
      l.pull = .ok (none, l') →
      Step ⟨.scanning l, consumer, received⟩ ⟨.finished, consumer, received⟩
  /-- The consumer takes the token that is offered. -/
  | take {l : Lexer} {t : Token} {asks : Nat} {received : List (Option Token)} :
      Step ⟨.offering t l, .receiving (asks + 1), received⟩
        ⟨.scanning l, .receiving asks, received ++ [some t]⟩
  /-- The consumer asks a scanner that is done. -/
  | refuse {asks : Nat} {received : List (Option Token)} :
      Step ⟨.finished, .receiving (asks + 1), received⟩
        ⟨.finished, .receiving asks, received ++ [none]⟩
  /-- The consumer leaves after its last question. -/
  | leave {scanner : Scanner} {received : List (Option Token)} :
      Step ⟨scanner, .receiving 0, received⟩ ⟨scanner, .gone, received⟩
  /-- The scanner sees that nobody will take its token. -/
  | abandon {l : Lexer} {t : Token} {received : List (Option Token)} :
      Step ⟨.offering t l, .gone, received⟩ ⟨.finished, .gone, received⟩

end Rendezvous

namespace Lexer

/-- All tokens of a lexer, as a consumer gets them that asks until there is nothing left. -/
def handedOver (l : Lexer) : Except Fault (List Token) :=
  (Scanner.scanning l).receiveUpTo (l.cursor.remaining + 2)

end Lexer

end TemplateLexer
