import SourceCheck.Diagnostic.Dump
import SourceCheck.Main
import SourceCheck.Proofs.Diagnostic.Shown
import SourceCheck.Proofs.Parse.FirstError
import SourceCheck.Text.Cursor
import SourceCheck.Tree.Equality
import SourceCheck.Proofs.Lex.Layout
import SourceCheck.Proofs.Parse.Markers
import SourceCheck.Proofs.Parse.Append
import SourceCheck.Proofs.Lex.Newline
import SourceCheck.Proofs.Parse.Fields
import SourceCheck.Proofs.Command.Verdict
import SourceCheck.Proofs.Parse.Runs
import SourceCheck.Proofs.Literal.Written
import SourceCheck.Proofs.Lex.Blanked
import SourceCheck.Proofs.Source.Correspondence
import SourceCheck.Proofs.Machine.Faults
import SourceCheck.Proofs.Parse.Cascade
import SourceCheck.Proofs.Parse.Alike
import SourceCheck.Proofs.Machine.Lines
import SourceCheck.Proofs.Diagnostic.Colour
import SourceCheck.Proofs.Token.Stream
import SourceCheck.Proofs.Tree.Search
import SourceCheck.Proofs.Tree.Equality
