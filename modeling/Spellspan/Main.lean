import Spellspan.Command.Execution
import Spellspan.Files.Snapshot

/-!
The program. The directory to work in, with the parses of its source files, is one line of standard
input.
-/
set_option autoImplicit false

open Spellspan

def usageText : Command.UsageError → String
  | .help | .helpForNothing =>
    "Usage: wordscope [-v] check PATHS... [-c FILE] [--engine-cmd COMMAND | --engine-url URL] [--timeout-ms N] [-f FORMAT]\n" ++
    "       wordscope [-v] scopes FILE [-c FILE] [--checked-only]\n"
  | .version => s!"wordscope {Report.RunReport.version}\n"
  | .missingCommand => "error: a command is missing\n"
  | .unknownCommand => "error: unknown command\n"
  | .missingArgument => "error: a path is missing\n"
  | .unknownArgument => "error: unexpected argument\n"
  | .conflict => "error: conflicting arguments\n"
  | .invalidValue | .unreadableValue => "error: invalid value\n"
  | .unexpectedValue => "error: a flag takes no value\n"

def usageCode : Command.UsageError → UInt32
  | .help | .version => 0
  | _ => 2

def main (arguments : List String) : IO UInt32 := do
  match Command.Invocation.parse arguments with
  | .error error =>
    if usageCode error = 0 then IO.print (usageText error) else IO.eprint (usageText error)
    return usageCode error
  | .ok invocation =>
    let line ← (← IO.getStdin).getLine
    match Files.FileSystem.ofText? line with
    | none =>
      IO.eprintln "Error: standard input does not describe a directory"
      return 2
    | some system =>
      match invocation.run system false with
      | .error reason =>
        IO.eprintln ("Error: " ++ reason)
        return 2
      | .ok output =>
        IO.eprint output.stderr
        IO.print output.stdout
        return UInt32.ofNat output.code
