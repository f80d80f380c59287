import SourceCheck.Check
import SourceCheck.Command.Args
import SourceCheck.Command.Folder
import SourceCheck.Diagnostic.Receiver

/-! # Running a check

A check prints what it read to standard output and what it found wrong to standard error. It
succeeds if nothing was wrong.
-/

namespace SourceCheck.Command

structure Environment where
  term : Option String := none
  noColor : Option String := none
  deriving DecidableEq, Repr

/-- Colour is only chosen for a terminal that has it, unless it is asked for or forbidden. -/
def ColorChoice.palette (choice : ColorChoice) (env : Environment) : Palette :=
  match choice with
  | .always => .ansi
  | .never => .plain
  | .auto =>
    match env.term, env.noColor with
    | some term, none => if term = "dumb" then .plain else .ansi
    | _, _ => .plain

structure Outcome where
  status : Nat
  stdout : String
  stderr : String
  deriving DecidableEq, Repr

def unnamed : String := "<unnamed>"

def summary (name : String) (program : Program) : String :=
  "checked " ++ name ++ ": " ++ program.imports.length.repr ++ " import(s), " ++
    program.functions.length.repr ++ " function(s)\n"

def checkSource (source : Source) (palette : Palette) : Outcome :=
  let sources := [source]
  match check sources 0 with
  | none => ⟨0, "", ""⟩
  | some report =>
    let printer : Printer := report.diagnostics.foldl (fun p d => (p.emit sources d).1)
      { palette }
    let stdout := summary source.name report.program
    if printer.errors = 0 then ⟨0, stdout, printer.written⟩
    else ⟨1, stdout, printer.written ++ "found " ++ printer.errors.repr ++ " error(s)\n"⟩

/-- Runs a check whose input, if it is a path, was read with some result. -/
def CheckArgs.outcome (args : CheckArgs) (content : Except ReadError String)
    (env : Environment) : Outcome :=
  let palette := args.color.palette env
  if args.asSource then checkSource ⟨unnamed, args.input⟩ palette
  else match content with
    | .error e => ⟨1, "", e.message ++ "\n"⟩
    | .ok text => checkSource ⟨args.input, text⟩ palette

def run (folder : Folder) (env : Environment) (arguments : List String) :
    Except Usage Outcome := do
  let args ← readArgs arguments
  return args.outcome (folder.read args.input) env

end SourceCheck.Command
