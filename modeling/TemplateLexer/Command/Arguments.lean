/-!
# The command line

The tool has one command, `lex`, which takes a file, three flags and four options with a value. An
option is written `--name value` or `--name=value`; a value that begins with a dash needs the second
form, a single dash apart. Behind `--` nothing is an option any more.

Arguments are read from left to right. A value is checked only when the next option or file shows
that it is complete, so an argument that is not known at all is noticed before a bad value in front
of it.
-/

namespace TemplateLexer.Command

/-- Why arguments are not carried out. The first two are requests, not mistakes. -/
inductive ArgumentError where
  | help
  | version
  /-- There is nothing on the command line. -/
  | nothingGiven
  | missingCommand
  /-- There is no command of that name. -/
  | invalidCommand
  | missingFile
  /-- There is no option of that name, or a second file. -/
  | unknownArgument
  | givenTwice
  /-- A value is missing, or is an empty path. -/
  | invalidValue
  | unexpectedValue
deriving DecidableEq, Repr

/-- The exit code for arguments that are not carried out. -/
def ArgumentError.exitCode : ArgumentError → Nat
  | help | version => 0
  | _ => 2

/-- What a command line asks for. -/
structure Invocation where
  /-- Whether log output is shown as a tree. -/
  tree : Bool
  /-- Whether tokens are listed in JSON. -/
  json : Bool
  /-- Whether tokens are handed over by a scanner of its own. -/
  threaded : Bool
  /-- The path of the template. -/
  file : String
  /-- The path of a file with options. -/
  options : Option String
  marker : Option String
  left : Option String
  right : Option String
deriving DecidableEq, Repr

/-! ### The shape of an argument -/

/-- How an argument is written. -/
inductive Shape where
  /-- Two dashes. -/
  | escape
  /-- Two dashes and a name, and perhaps a value behind an equals sign. -/
  | long (name : List Char) (value : Option String)
  /-- A dash and letters. -/
  | short (letter : Char)
  | plain
deriving DecidableEq, Repr

def Shape.of (arg : String) : Shape :=
  match arg.toList with
  | ['-', '-'] => .escape
  | '-' :: '-' :: rest =>
    match rest.dropWhile (· != '=') with
    | [] => .long rest none
    | _ :: value => .long (rest.takeWhile (· != '=')) (some (String.ofList value))
  | '-' :: letter :: _ => .short letter
  | _ => .plain

/-! ### What can be given -/

/-- What is given without a value. -/
inductive Flag where
  | tree
  | json
  | threaded
deriving DecidableEq, Repr

/-- What is given with a value. -/
inductive Slot where
  | file
  | options
  | marker
  | left
  | right
deriving DecidableEq, Repr

/-- Paths may not be empty. -/
def Slot.isPath : Slot → Bool
  | file | options => true
  | _ => false

/-- What the name of an option means. -/
inductive OptionName where
  | help
  | flag (flag : Flag)
  | slot (slot : Slot)
deriving DecidableEq, Repr

/-- The options of the command. -/
def OptionName.table : List (String × OptionName) :=
  [("help", .help), ("tree", .flag .tree), ("json", .flag .json), ("threaded", .flag .threaded),
    ("options", .slot .options), ("marker", .slot .marker), ("left-delim", .slot .left),
    ("right-delim", .slot .right)]

/-- The option of the given name. -/
def OptionName.ofName? (name : List Char) : Option OptionName :=
  (table.find? (·.1.toList == name)).map (·.2)

/-- What was given so far. -/
structure Given where
  flags : List Flag := []
  values : List (Slot × String) := []
  /-- A slot whose value was not checked yet; `none` while there is no value. -/
  pending : Option (Slot × Option String) := none
  fileSeen : Bool := false
  /-- Whether two dashes were given, so that all that follows are files. -/
  literal : Bool := false

namespace Given

def value? (g : Given) (slot : Slot) : Option String := g.values.lookup slot

/-- Fills a slot that is still free. -/
def store (g : Given) (slot : Slot) (value : String) : Except ArgumentError Given :=
  if (g.value? slot).isSome then .error .givenTwice
  else if slot.isPath && value.isEmpty then .error .invalidValue
  else .ok { g with values := (slot, value) :: g.values }

/-- Checks the value that was given last. -/
def settle (g : Given) : Except ArgumentError Given :=
  match g.pending with
  | none => .ok g
  | some (_, none) => .error .invalidValue
  | some (slot, some value) => { g with pending := none }.store slot value

/-- Sets a flag that is not set yet. -/
def raise (g : Given) (flag : Flag) : Except ArgumentError Given :=
  if flag ∈ g.flags then .error .givenTwice else .ok { g with flags := flag :: g.flags }

/-- An argument that is no option. -/
def file (g : Given) (arg : String) : Except ArgumentError Given := do
  if g.fileSeen then throw .unknownArgument
  let g ← g.settle
  return { g with pending := some (.file, some arg), fileSeen := true }

/-- An option by its name. -/
def long (g : Given) (name : List Char) (value : Option String) : Except ArgumentError Given :=
  match OptionName.ofName? name, value with
  | none, _ => .error .unknownArgument
  | some .help, none => do
    let _ ← g.settle
    throw .help
  | some (.flag flag), none => do (← g.settle).raise flag
  | some .help, some _ => .error .unexpectedValue
  | some (.flag _), some _ => .error .unexpectedValue
  | some (.slot slot), none => do return { ← g.settle with pending := some (slot, none) }
  | some (.slot slot), some value => do (← g.settle).store slot value

/-- One argument of the command. -/
def argument (g : Given) (arg : String) : Except ArgumentError Given :=
  if g.literal then g.file arg
  else
    match Shape.of arg with
    | .escape => .ok { g with literal := true }
    | .long name value => g.long name value
    | .short 'h' => g.long "help".toList none
    | .short _ => .error .unknownArgument
    | .plain =>
      match g.pending with
      | some (slot, none) => .ok { g with pending := some (slot, some arg) }
      | _ => g.file arg

/-- What all arguments of the command ask for. -/
def invocation (g : Given) (tree : Bool) : Except ArgumentError Invocation := do
  let g ← g.settle
  match g.value? .file with
  | none => throw .missingFile
  | some file =>
    return { tree := tree || Flag.tree ∈ g.flags
             json := Flag.json ∈ g.flags
             threaded := Flag.threaded ∈ g.flags
             file := file
             options := g.value? .options
             marker := g.value? .marker
             left := g.value? .left
             right := g.value? .right }

end Given

/-! ### The whole command line -/

/-- Help on a command: only on those that there are, and they have no commands of their own. -/
def helpOn : List String → ArgumentError
  | [] | ["lex"] | ["help"] => .help
  | _ => .invalidCommand

/-- The command line before the command; `tree` says whether that flag was given there, and
`literal` whether two dashes were. -/
def readCommand (tree literal : Bool) : List String → Except ArgumentError Invocation
  | [] => .error (if tree then .missingCommand else .nothingGiven)
  | arg :: args =>
    if literal then
      .error (if arg = "lex" ∨ arg = "help" then .unknownArgument else .invalidCommand)
    else if arg = "lex" then do
      let given ← args.foldlM Given.argument {}
      given.invocation tree
    else if arg = "help" then .error (helpOn args)
    else
      match Shape.of arg with
      | .escape => readCommand tree true args
      | .long name value =>
        if name ∉ ["tree".toList, "help".toList, "version".toList] then .error .unknownArgument
        else if value.isSome then .error .unexpectedValue
        else if name = "help".toList then .error .help
        else if name = "version".toList then .error .version
        else if tree then .error .givenTwice
        else readCommand true literal args
      | .short 'h' => .error .help
      | .short 'V' => .error .version
      | .short _ => .error .unknownArgument
      | .plain => .error .invalidCommand

/-- What a command line asks for. -/
def Invocation.ofArgs (args : List String) : Except ArgumentError Invocation :=
  readCommand false false args

end TemplateLexer.Command
