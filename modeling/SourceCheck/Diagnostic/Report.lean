import SourceCheck.Diagnostic.Basic
import SourceCheck.Parse.Error
import SourceCheck.Token.Lex

/-! # Reports of lexing and parsing

The diagnostic of each error, with its code and a label on the token that shows it.
-/

namespace SourceCheck

inductive ErrorCode
  | invalidToken
  | invalidSyntax
  | invalidCharacter
  deriving DecidableEq, Repr

def ErrorCode.number : ErrorCode → Nat
  | invalidToken => 1
  | invalidSyntax => 2
  | invalidCharacter => 3

namespace ParseErrorKind

def code : ParseErrorKind → ErrorCode
  | mismatch .. | unexpectedStart .. | expectedExpression _ => .invalidToken
  | missingLeftOperand _ | invalidLiteral .. => .invalidSyntax

def label : ParseErrorKind → String
  | mismatch expected _ => "expected " ++ expected.text ++ " here"
  | unexpectedStart _ found => found.name ++ " cannot start a statement"
  | missingLeftOperand _ => "no left operand"
  | expectedExpression _ => "expected an expression here"
  | invalidLiteral .. => "this literal"

end ParseErrorKind

def ParseError.diagnostic (e : ParseError) (source : Nat) : Diagnostic :=
  ((Diagnostic.blank.withCode e.kind.code.number).withMessage e.kind.message).withSnippet
    ⟨e.kind.label, source, e.span⟩

def LexError.diagnostic (e : LexError) (source : Nat) : Diagnostic :=
  ((Diagnostic.blank.withCode ErrorCode.invalidCharacter.number).withMessage
    e.kind.message).withSnippet ⟨"this token", source, e.span⟩

end SourceCheck
