import TemplateLexer.Lexer.Stream
import TemplateLexer.Proofs.Opener
import TemplateLexer.Proofs.Quoted

/-!
# The rules of scanning

What a step of the lexer does can be said without cursors, bytes and faults. A state looks at the
text ahead, takes some characters from its beginning, and has one of three effects: the characters
finish a token, or they are dropped, or they are held as the beginning of a token that a later state
finishes. `Rule` lists the cases, one for each thing that can stand ahead in a state.

A `Place` is where a scan stands, with the template cut into what is behind, what is held and what
is ahead, and `Step` applies a rule to a place.
-/

namespace TemplateLexer

open Text

/-- What a lexer remembers besides its position and its state. -/
structure Memory where
  /-- How many parentheses of the current action are open. -/
  openParens : Nat
  /-- Whether an extends directive was seen. -/
  sawExtends : Bool
deriving DecidableEq

/-- What becomes of the characters that a state takes, and the state that follows. -/
inductive Effect where
  /-- They finish a token; the lexer halts where no state follows. -/
  | finish (kind : TokenKind) (next : Option State)
  /-- They are dropped. -/
  | drop (next : State)
  /-- They are held for the token that a later state finishes. -/
  | hold (next : State)

/-- They finish an error token. -/
abbrev Effect.fail (e : LexicalError) : Effect := .finish (.error e) none

/-- The tokens of actions that are one character and a run behind it, which is empty for some. -/
inductive ActionStart.Runs : ActionStart → TokenKind → (Char → Bool) → Prop
  | space : Runs .space .space isActionSpace
  | var : Runs .var .var isWordChar
  | number : Runs .number .number isNumberChar
  | field : Runs .field .field isWordChar
  | pipe : Runs .pipe .pipe fun _ => false
  | dot : Runs .dot (.keyword .dot) fun _ => false
  | char : Runs .char .char fun _ => false

/-- A line end inside a directive, before `rest`. -/
inductive LineEnd : List Char → List Char → Prop
  | feed {rest : List Char} : LineEnd ['\n'] rest
  | both {rest : List Char} : LineEnd ['\r', '\n'] rest
  | ret {rest : List Char} : rest.head? ≠ some '\n' → LineEnd ['\r'] rest

/-- A character with which something begins in the body of a directive. -/
def isBodyStart (c : Char) : Bool :=
  isInlineBlank c || isWordChar c || c == '"' || c == '\r' || c == '\n' || c == ')'

/-- The kind of a word. -/
def wordKind (word : List Char) : TokenKind := (Keyword.ofWord? word).elim .identifier .keyword

/-- A word is an identifier or a keyword, and then not the dot. -/
theorem wordKind_cases (word : List Char) :
    wordKind word = .identifier ∨ ∃ k, wordKind word = .keyword k ∧ k ≠ .dot := by
  rw [wordKind]
  cases hw : Keyword.ofWord? word with
  | none => exact .inl rfl
  | some k =>
    have hmem := List.mem_of_find?_eq_some hw
    refine .inr ⟨k, rfl, ?_⟩
    rintro rfl
    exact absurd hmem (by decide)

open Lexer (commentOpen commentClose) in
/-- `Rule d front s m taken rest e m'`: behind `front`, with `taken ++ rest` ahead, the state `s`
takes `taken`. -/
inductive Rule (d : Delimiters) (front : List Char) :
    State → Memory → List Char → List Char → Effect → Memory → Prop
  -- Literal text runs up to an opener or the end.
  | text {m run rest s} : run ≠ [] → d.Plain run rest → d.Calls rest s →
      Rule d front .text m run rest (.finish .text (some s)) m
  | opener {m rest s} : d.Calls rest s → Rule d front .text m [] rest (.hold s) m
  | eof {m} : Rule d front .eof m [] [] (.finish .eof none) m
  -- Behind a left delimiter stands a comment or an action.
  | openComment {m rest} : commentOpen <+: rest →
      Rule d front .leftDelim m d.left rest (.finish .leftDelim (some .comment)) m
  | openAction {m rest} : ¬ commentOpen <+: rest →
      Rule d front .leftDelim m d.left rest (.finish .leftDelim (some .action))
        { m with openParens := 0 }
  | comment {m body rest} : ¬ commentClose <:+: body →
      Rule d front .comment m (commentOpen ++ body ++ commentClose ++ d.right) rest (.drop .text) m
  | unclosedComment {m rest} : ¬ commentClose <:+: rest →
      Rule d front .comment m commentOpen rest (.fail .unclosedComment) m
  | earlyComment {m body rest} : ¬ commentClose <:+: body → ¬ d.right <+: rest →
      Rule d front .comment m (commentOpen ++ body ++ commentClose) rest
        (.fail .commentEndsBeforeDelimiter) m
  -- In an action the right delimiter goes before everything else.
  | closeAction {m rest} : m.openParens = 0 →
      Rule d front .action m d.right rest (.finish .rightDelim (some .text)) m
  | unclosedParen {m rest} : 0 < m.openParens → d.right <+: rest →
      Rule d front .action m [] rest (.fail .unclosedLeftParen) m
  | unclosedAction {m} : Rule d front .action m [] [] (.fail .unclosedAction) m
  | run {m c run rest start kind p} : ¬ d.right <+: c :: (run ++ rest) →
      ActionStart.of c (run ++ rest).head? = start → start.Runs kind p → LongestRun p run rest →
      Rule d front .action m (c :: run) rest (.finish kind (some .action)) m
  | colonEquals {m rest} : ¬ d.right <+: ':' :: '=' :: rest →
      Rule d front .action m [':', '='] rest (.finish .colonEquals (some .action)) m
  | leftParen {m rest} : ¬ d.right <+: '(' :: rest → m.openParens + 1 < depthBound →
      Rule d front .action m ['('] rest (.finish .leftParen (some .action))
        { m with openParens := m.openParens + 1 }
  | rightParen {m depth rest} : ¬ d.right <+: ')' :: rest → m.openParens = depth + 1 →
      Rule d front .action m [')'] rest (.finish .rightParen (some .action))
        { m with openParens := depth }
  | surplusParen {m rest} : ¬ d.right <+: ')' :: rest → m.openParens = 0 →
      Rule d front .action m [')'] rest (.fail .unexpectedRightParen) m
  | actionQuote {m rest} : ¬ d.right <+: '"' :: rest →
      Rule d front .action m ['"'] rest (.hold (.quote .action)) m
  | actionWord {m c rest} : ¬ d.right <+: c :: rest → ActionStart.of c rest.head? = .word →
      Rule d front .action m [] (c :: rest) (.hold (.identifier .action)) m
  | unrecognized {m c rest} : ¬ d.right <+: c :: rest →
      ActionStart.of c rest.head? = .unrecognized →
      Rule d front .action m [c] rest (.fail (.unrecognizedInAction c)) m
  -- Directives; an extends directive must be the first thing in a template.
  | directive {m dir rest} : (dir.isExtends = true → m.sawExtends = false ∧ front = []) →
      Rule d front (.directive dir (size dir.spelling.toList)) m
        (d.marker ++ dir.spelling.toList) ('(' :: rest)
        (.finish (.directive dir) (some (.openDirective dir.isExtends)))
        { m with sawExtends := m.sawExtends || dir.isExtends }
  | duplicateExtends {m dir nameLen rest} : dir.isExtends = true → m.sawExtends = true →
      Rule d front (.directive dir nameLen) m [] rest (.fail .duplicateExtends) m
  | misplacedExtends {m dir nameLen rest} : dir.isExtends = true → m.sawExtends = false →
      front ≠ [] → Rule d front (.directive dir nameLen) m [] rest (.fail .misplacedExtends) m
  | openDirective {m extends_ rest} :
      Rule d front (.openDirective extends_) m ['('] rest
        (.finish .openDirective (some (if extends_ then .extendsParam else .insideDirective))) m
  -- The body of a directive.
  | blanks {m run rest} : run ≠ [] → LongestRun isInlineBlank run rest →
      Rule d front .insideDirective m run rest (.drop .insideDirective) m
  | bodyQuote {m rest} :
      Rule d front .insideDirective m ['"'] rest (.hold (.quote .insideDirective)) m
  | bodyWord {m c rest} : isWordChar c = true →
      Rule d front .insideDirective m [] (c :: rest) (.hold (.identifier .insideDirective)) m
  | lineEnd {m eol rest} : LineEnd eol rest →
      Rule d front .insideDirective m eol rest (.finish .endOfLine (some .insideDirective)) m
  | closeDirective {m rest} :
      Rule d front .insideDirective m [')'] rest (.finish .closeDirective (some .text)) m
  | unclosedDirective {m} : Rule d front .insideDirective m [] [] (.fail .unclosedDirective) m
  | unexpected {m c rest} : isBodyStart c = false →
      Rule d front .insideDirective m [] (c :: rest) (.fail (.unexpectedInDirective c)) m
  -- The parameter of an extends directive and what follows it.
  | extendsQuote {m rest} :
      Rule d front .extendsParam m ['"'] rest (.hold (.quote .closeDirective)) m
  | expectedQuote {m rest} : rest.head? ≠ some '"' →
      Rule d front .extendsParam m [] rest (.fail (.expectedQuote rest.head?)) m
  | closeExtends {m rest} :
      Rule d front .closeDirective m [')'] rest (.finish .closeDirective (some .text)) m
  | expectedClose {m rest} : rest.head? ≠ some ')' →
      Rule d front .closeDirective m [] rest (.fail (.expectedCloseDirective rest.head?)) m
  -- Words and strings return to where they began.
  | word {m resume run rest} : run ≠ [] → LongestRun isWordChar run rest →
      Rule d front (.identifier resume) m run rest
        (.finish (wordKind run) (some resume.state)) m
  | string {m resume cs rest} : Contents cs →
      Rule d front (.quote resume) m (cs ++ ['"']) rest (.finish .string (some resume.state)) m
  | unterminated {m resume cs last rest} : Contents cs → Ending false last rest →
      Rule d front (.quote resume) m (cs ++ last) rest (.fail .unterminatedString) m

/-- Where a scan stands. -/
structure Place where
  /-- The state to run next, `none` after the scan has halted. -/
  state : Option State
  /-- The template before the token in progress. -/
  front : List Char
  /-- The characters of the token in progress. -/
  held : List Char
  /-- The template from here on. -/
  rest : List Char
  memory : Memory

/-- At the start of a template. -/
def Place.start (source : List Char) : Place := ⟨some .text, [], [], source, ⟨0, false⟩⟩

/-- A rule applied to a place, with the token that it finishes. -/
inductive Step (d : Delimiters) : Place → Option Token → Place → Prop
  | finish {s m front held taken rest kind next m'} :
      Rule d front s m taken rest (.finish kind next) m' →
      Step d ⟨some s, front, held, taken ++ rest, m⟩ (some ⟨kind, size front, held ++ taken⟩)
        ⟨next, front ++ (held ++ taken), [], rest, m'⟩
  | drop {s m front held taken rest next m'} :
      Rule d front s m taken rest (.drop next) m' →
      Step d ⟨some s, front, held, taken ++ rest, m⟩ none
        ⟨some next, front ++ (held ++ taken), [], rest, m'⟩
  | hold {s m front held taken rest next m'} :
      Rule d front s m taken rest (.hold next) m' →
      Step d ⟨some s, front, held, taken ++ rest, m⟩ none
        ⟨some next, front, held ++ taken, rest, m'⟩

end TemplateLexer
