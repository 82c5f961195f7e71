import TemplateLexer.Command.Run

/-!
# The command line tool

Reads the files that a command line names, runs the command on them, and writes what it leaves.
-/

namespace TemplateLexer.Command

/-- The lines that help shows. -/
def usage : String :=
  "Usage: templatelexer [--tree] lex <FILE> [--json] [--threaded] [--options <JSON>]\n" ++
    "         [--marker <MARKER>] [--left-delim <LEFT>] [--right-delim <RIGHT>]\n"

/-- The line that the version request shows. -/
def versionLine : String := "templatelexer 0.1.0\n"

/-- What is said about arguments that are not carried out. -/
def ArgumentError.text : ArgumentError → String
  | help | nothingGiven => usage
  | version => versionLine
  | missingCommand => "error: a command is missing\n" ++ usage
  | invalidCommand => "error: there is no such command\n" ++ usage
  | missingFile => "error: a file is missing\n" ++ usage
  | unknownArgument => "error: there is no such argument\n" ++ usage
  | givenTwice => "error: an argument is given twice\n" ++ usage
  | invalidValue => "error: a value is missing\n" ++ usage
  | unexpectedValue => "error: a flag takes no value\n" ++ usage

/-- Reads a file from the disk. -/
def readDisk (path : String) : IO (Except ReadError (List Char)) := do
  try
    return decodeText (← IO.FS.readBinFile path)
  catch e =>
    match e with
    | .noFileOrDirectory .. => return .error .notFound
    | .inappropriateType _ 21 _ => return .error .isDirectory
    | .inappropriateType .. => return .error .notDirectory
    | .invalidArgument _ code _ =>
      return .error (if code = 36 ∨ code = -36 then .nameTooLong else .other (toString e))
    | _ => return .error (.other (toString e))

/-- Runs the command on files from the disk. -/
def runOnDisk (i : Invocation) : IO UInt32 := do
  let paths := i.options.toList ++ [i.file]
  let texts ← paths.mapM fun path => return (path, ← readDisk path)
  match run i fun path => (texts.lookup path).getD (.error .notFound) with
  | .error f => throw (IO.userError (f.message?.getD "the lexer broke off"))
  | .ok outcome =>
    (← IO.getStdout).putStr (String.ofList outcome.stdout)
    (← IO.getStderr).putStr (String.ofList outcome.stderr)
    return outcome.exitCode.toUInt32

end TemplateLexer.Command

/-- The command line tool. -/
def main (args : List String) : IO UInt32 := do
  match TemplateLexer.Command.Invocation.ofArgs args with
  | .ok i => TemplateLexer.Command.runOnDisk i
  | .error e =>
    if e.exitCode = 0 then (← IO.getStdout).putStr e.text else (← IO.getStderr).putStr e.text
    return e.exitCode.toUInt32
