import SourceCheck.Diagnostic.Report
import SourceCheck.Parse.Program

/-! # Checking a source

A source is lexed and parsed, and everything found wrong is reported: the lexical errors first,
then the parse errors, each in the order of the source.
-/

namespace SourceCheck

structure Report where
  program : Program
  diagnostics : List Diagnostic
  deriving DecidableEq

/-- Checks the source at a place in the list. There is no report for a place outside it. -/
def check (sources : Sources) (id : Nat) : Option Report := do
  let source ← sources[id]?
  let lexed := lex source.text
  let parsed := parse lexed.stream
  some
    { program := parsed.program
      diagnostics := lexed.errors.map (·.diagnostic id) ++ parsed.errors.map (·.diagnostic id) }

end SourceCheck
