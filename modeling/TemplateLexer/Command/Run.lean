import TemplateLexer.Command.Arguments
import TemplateLexer.Command.Files
import TemplateLexer.Listing
import TemplateLexer.Options.Decode
import TemplateLexer.Rendezvous
import TemplateLexer.Snippet

/-!
# Running the command

A run settles the options, reads the template, lists its tokens, and reports the error with which
they end, if they do. The options file is read first; its parts yield to those given on the command
line.
-/

namespace TemplateLexer.Command

open TemplateLexer

/-- How tokens get from the lexer to the listing. -/
inductive ScanMode where
  /-- They are pulled one by one. -/
  | pull
  /-- They are handed over by a scanner of its own. -/
  | threaded
deriving DecidableEq, Repr

/-- The settings of a run. -/
structure Config where
  /-- The marker and delimiters, as given. -/
  options : Options
  format : ListingFormat
  /-- How tokens are obtained. -/
  mode : ScanMode
deriving DecidableEq, Repr

/-- Why a run does not succeed. -/
inductive Failure where
  /-- A file cannot be read. -/
  | read (path : String) (error : ReadError)
  /-- The options file does not hold options. -/
  | options (path : String) (error : Options.DecodeError)
  /-- The template is not well formed; the report says where. -/
  | lexical (diagnostic : Diagnostic)
deriving DecidableEq, Repr

namespace Failure

/-- What is wrong with a text of options. -/
def decodeReason : Options.DecodeError → String
  | .truncated => "the text ends too early"
  | .malformed => "the text is not JSON"
  | .mistyped => "a value is not what it should be"

/-- The first words of a message: all of it, except for what is wrong inside of an options file. -/
def heading : Failure → String
  | read path error => "could not read '" ++ path ++ "': " ++ error.message
  | options path _ => "invalid lexer options in '" ++ path ++ "':"
  | lexical d => d.message

def message (f : Failure) : String :=
  match f with
  | options _ error => f.heading ++ " " ++ decodeReason error
  | _ => f.heading

/-- Whether the report has already said what is wrong. -/
def isReported : Failure → Bool
  | lexical _ => true
  | _ => false

end Failure

/-- What a run leaves behind. -/
structure Outcome where
  stdout : List Char := []
  /-- The report on the error with which the tokens end. -/
  report : List Char := []
  /-- Why the run did not succeed. -/
  failure : Option Failure := none
  /-- The settings, if they could be settled. -/
  config : Option Config := none

namespace Outcome

def exitCode (o : Outcome) : Nat := if o.failure.isSome then 1 else 0

/-- What is written for the user beside the listing: the report, or else the message. -/
def stderr (o : Outcome) : List Char :=
  match o.failure with
  | some f => if f.isReported then o.report else Text.unlines [("error: " ++ f.message).toList]
  | none => o.report

end Outcome

/-! ### Settings -/

namespace Invocation

/-- The parts of options that are given on the command line. -/
def draft (i : Invocation) : Options.Draft where
  marker := i.marker.map String.toList
  left := i.left.map String.toList
  right := i.right.map String.toList

/-- The options of the options file, or the defaults without one. -/
def fileOptions (i : Invocation) (read : String → Except ReadError (List Char)) :
    Except Failure Options :=
  match i.options with
  | none => .ok .default
  | some path => do
    let text ← (read path).mapError (.read path)
    (Options.decode text).mapError (.options path)

/-- The settings that a command line asks for. -/
def config (i : Invocation) (read : String → Except ReadError (List Char)) :
    Except Failure Config := do
  return { options := i.draft.fillFrom (← i.fileOptions read)
           format := if i.json then .json else .lines
           mode := if i.threaded then .threaded else .pull }

end Invocation

/-! ### Runs -/

/-- The tokens of a lexer, obtained in the given way. -/
def collect (mode : ScanMode) (l : Lexer) : Except Fault (List Token) :=
  match mode with
  | .pull => l.tokens
  | .threaded => l.handedOver

/-- A run on the text of a template. -/
def runOn (name : String) (source : List Char) (config : Config) : Except Fault Outcome := do
  let tokens ← collect config.mode (.ofSource name source config.options)
  let listed : Outcome :=
    { stdout := Listing.render config.format name tokens, config := some config }
  match tokens.getLast? with
  | none => return listed
  | some last =>
    match Diagnostic.ofToken? name source last with
    | none => return listed
    | some d =>
      let report ← last.report? name source
      return { listed with report := report.getD [], failure := some (.lexical d) }

/-- A run on the template and the options file that a command line names. -/
def run (i : Invocation) (read : String → Except ReadError (List Char)) :
    Except Fault Outcome :=
  match i.config read with
  | .error f => return { failure := some f }
  | .ok config =>
    match read i.file with
    | .error e => return { failure := some (.read i.file e), config := some config }
    | .ok source => runOn i.file source config

end TemplateLexer.Command
