/-! # Command-line arguments

The program has one command, `check`, which takes one input and two options. Arguments are read
from left to right and the first fault ends the reading. A value that stands apart from its
option is only looked at when the next argument is taken, so a fault in what follows can come
first.
-/

namespace SourceCheck.Command

inductive ColorChoice
  | auto | always | never
  deriving DecidableEq, Repr

def ColorChoice.ofString? (s : String) : Option ColorChoice :=
  if s = "auto" then some .auto
  else if s = "always" then some .always
  else if s = "never" then some .never
  else none

structure CheckArgs where
  input : String
  /-- Whether the input is the source itself and not the path of a file. -/
  asSource : Bool
  color : ColorChoice
  deriving DecidableEq, Repr

inductive Usage
  | help
  | version
  | missingCommand
  | unknownCommand
  | missingInput
  | unknownArgument
  | invalidValue
  | repeatedOption
  | unexpectedValue
  deriving DecidableEq, Repr

def Usage.status : Usage → Nat
  | help | version => 0
  | _ => 2

inductive Arg
  | dashes
  | long (name : String) (value : Option String)
  | short (letters : List Char)
  | plain (text : String)
  deriving DecidableEq, Repr

def splitValue (cs : List Char) : Arg :=
  match cs.dropWhile (· ≠ '=') with
  | [] => .long (String.ofList cs) none
  | _ :: value => .long (String.ofList (cs.takeWhile (· ≠ '='))) (some (String.ofList value))

def Arg.ofString (s : String) : Arg :=
  match s.toList with
  | ['-', '-'] => .dashes
  | '-' :: '-' :: cs => splitValue cs
  | '-' :: c :: cs => .short (c :: cs)
  | _ => .plain s

/-- A colour option that was named and not yet looked at. -/
inductive Pending
  | nothing
  | awaiting
  | value (text : String)
  deriving DecidableEq, Repr

structure Reader where
  input : Option String := none
  asSource : Bool := false
  color : Option ColorChoice := none
  pending : Pending := .nothing
  deriving DecidableEq, Repr

namespace Reader

/-- Looks at the pending option. It must have a value, must be the only one, and its value must
be a colour choice, in this order. -/
def settle (r : Reader) : Except Usage Reader :=
  match r.pending with
  | .nothing => .ok r
  | .awaiting => .error .invalidValue
  | .value text =>
    if r.color.isSome then .error .repeatedOption
    else match ColorChoice.ofString? text with
      | none => .error .invalidValue
      | some c => .ok { r with color := some c, pending := .nothing }

def setSource (r : Reader) : Except Usage Reader := do
  let r ← r.settle
  if r.asSource then throw .repeatedOption
  return { r with asSource := true }

def askHelp (r : Reader) : Except Usage Reader := do
  let _ ← r.settle
  throw .help

def takeLong (r : Reader) (name : String) (value : Option String) : Except Usage Reader :=
  match name, value with
  | "color", none => do return { ← r.settle with pending := .awaiting }
  | "color", some text => do settle { ← r.settle with pending := .value text }
  | "source", none => r.setSource
  | "help", none => r.askHelp
  | "source", some _ | "help", some _ => throw .unexpectedValue
  | _, _ => throw .unknownArgument

def takeShort (r : Reader) (letter : Char) : Except Usage Reader :=
  match letter with
  | 's' => r.setSource
  | 'h' => r.askHelp
  | _ => throw .unknownArgument

def takeInput (r : Reader) (text : String) : Except Usage Reader := do
  if r.input.isSome then throw .unknownArgument
  return { ← r.settle with input := some text }

/-- An argument that is no option: the value of the option in front of it, or the input. -/
def takePlain (r : Reader) (text : String) : Except Usage Reader :=
  if r.pending = .awaiting then .ok { r with pending := .value text } else r.takeInput text

def finish (r : Reader) : Except Usage CheckArgs := do
  let r ← r.settle
  match r.input with
  | none => throw .missingInput
  | some input => return ⟨input, r.asSource, r.color.getD .auto⟩

end Reader

/-- Reads the arguments of the check command. After the dashes every argument is an input. -/
def readCheck (r : Reader) : List String → Except Usage CheckArgs
  | [] => r.finish
  | s :: rest =>
    match Arg.ofString s with
    | .dashes => do (← rest.foldlM Reader.takeInput r).finish
    | .long name value => do readCheck (← r.takeLong name value) rest
    | .short letters => do readCheck (← letters.foldlM Reader.takeShort r) rest
    | .plain text => do readCheck (← r.takePlain text) rest

def helpOn : List String → Usage
  | [] | ["check"] | ["help"] => .help
  | _ => .unknownCommand

/-- Reads a command line, without the name of the program. -/
def readArgs : List String → Except Usage CheckArgs
  | [] | ["--"] => .error .missingCommand
  | s :: rest =>
    if s = "check" then readCheck {} rest
    else if s = "help" then .error (helpOn rest)
    else match Arg.ofString s with
      | .dashes =>
        if rest.head? = some "check" ∨ rest.head? = some "help" then .error .unknownArgument
        else .error .unknownCommand
      | .long "help" none => .error .help
      | .long "version" none => .error .version
      | .long "help" (some _) | .long "version" (some _) => .error .unexpectedValue
      | .long _ _ => .error .unknownArgument
      | .short ('h' :: _) => .error .help
      | .short ('V' :: _) => .error .version
      | .short _ => .error .unknownArgument
      | .plain _ => .error .unknownCommand

end SourceCheck.Command
