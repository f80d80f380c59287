import SourceCheck.Command.Run

/-! # The command line

Reads the input file, runs the check, writes its output, and sets the exit status.
-/

namespace SourceCheck.Command

def readFailure : IO.Error → ReadError
  | .permissionDenied .. => .denied
  | .inappropriateType _ code _ => if code = 21 then .isDirectory else .notDirectory
  | .invalidArgument .. => .nameTooLong
  | _ => .notFound

def readInput (path : String) : IO (Except ReadError String) := do
  try return decodeText (← IO.FS.readBinFile path)
  catch e => return .error (readFailure e)

def helpText : String :=
  "Usage: check [OPTIONS] <INPUT>\n\n" ++
  "Arguments:\n  <INPUT>  The input file\n\n" ++
  "Options:\n" ++
  "  -s, --source         Use the input as the source itself\n" ++
  "      --color <COLOR>  When to color diagnostics: auto, always, never\n" ++
  "  -h, --help           Print help\n"

def Usage.text : Usage → String
  | .help | .missingCommand => helpText
  | .version => "0.1.0\n"
  | .unknownCommand => "error: unrecognized subcommand\n"
  | .missingInput => "error: the input is missing\n"
  | .unknownArgument => "error: unexpected argument\n"
  | .invalidValue => "error: invalid value for --color\n"
  | .repeatedOption => "error: an option is given twice\n"
  | .unexpectedValue => "error: unexpected value\n"

end SourceCheck.Command

open SourceCheck.Command in
def main (arguments : List String) : IO UInt32 := do
  match readArgs arguments with
  | .error usage =>
    if usage.status = 0 then IO.print usage.text else IO.eprint usage.text
    return usage.status.toUInt32
  | .ok args =>
    let content ← if args.asSource then pure (.ok "") else readInput args.input
    let env : Environment := ⟨← IO.getEnv "TERM", ← IO.getEnv "NO_COLOR"⟩
    let outcome := args.outcome content env
    IO.print outcome.stdout
    IO.eprint outcome.stderr
    return outcome.status.toUInt32
