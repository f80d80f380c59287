import SourceCheck.Token.Stream

/-! # Parse errors

What parsing can find wrong, each error at the token that shows it.
-/

namespace SourceCheck

inductive Expectation
  | kind (kind : TokenKind)
  | typeName
  deriving DecidableEq, Repr

namespace Expectation

def text : Expectation → String
  | kind k => k.name
  | typeName => "a type"

def accepts : Expectation → TokenKind → Bool
  | kind k, found => found == k
  | typeName, found => found.isTypeName

end Expectation

inductive StmtContext
  | topLevel
  | body
  deriving DecidableEq, Repr

def StmtContext.text : StmtContext → String
  | topLevel => "an import or function"
  | body => "a statement"

inductive LiteralKind
  | int | float | char
  deriving DecidableEq, Repr

def LiteralKind.text : LiteralKind → String
  | int => "integer"
  | float => "float"
  | char => "character"

inductive ParseErrorKind
  | mismatch (expected : Expectation) (found : TokenKind)
  | unexpectedStart (context : StmtContext) (found : TokenKind)
  | missingLeftOperand (op : BinaryOp)
  | expectedExpression (found : TokenKind)
  | invalidLiteral (kind : LiteralKind) (text : String)
  deriving DecidableEq, Repr

def ParseErrorKind.message : ParseErrorKind → String
  | mismatch expected found => "expected " ++ expected.text ++ ", found " ++ found.name
  | unexpectedStart context found => "expected " ++ context.text ++ ", found " ++ found.name
  | missingLeftOperand op =>
    "operator `" ++ op.symbol ++ "` must have an expression on its left side"
  | expectedExpression found => "expected an expression, found " ++ found.name
  | invalidLiteral kind text => "invalid " ++ kind.text ++ " literal `" ++ text ++ "`"

structure ParseError where
  kind : ParseErrorKind
  span : Span
  position : Position
  deriving DecidableEq, Repr

namespace ParseError

def atToken (t : Token) (kind : ParseErrorKind) : ParseError := ⟨kind, t.span, t.position⟩

def message (e : ParseError) : String := e.kind.message ++ " at " ++ e.position.text

def mismatch (expected : Expectation) (t : Token) : ParseError :=
  atToken t (.mismatch expected t.kind)

def unexpectedStart (context : StmtContext) (t : Token) : ParseError :=
  atToken t (.unexpectedStart context t.kind)

def expectedExpression (t : Token) : ParseError := atToken t (.expectedExpression t.kind)

end ParseError

end SourceCheck
