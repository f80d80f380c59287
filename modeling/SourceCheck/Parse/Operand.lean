import SourceCheck.Parse.Error
import SourceCheck.Tree.Expr

/-! # Operands

What a token is where an operand is asked for. A literal token has a value only if its text
converts.
-/

namespace SourceCheck

inductive Operand
  | value (e : Expr)
  /-- A literal whose text has no value. -/
  | malformed (kind : LiteralKind)
  | operator (op : BinaryOp)
  | absent
  deriving DecidableEq, Repr

def character? (text : String) : Option Char :=
  match text.toList with
  | [c] => some c
  | _ => none

def Operand.ofLiteral (kind : LiteralKind) : Option Expr → Operand
  | some e => .value e
  | none => .malformed kind

def Token.operand (t : Token) : Operand :=
  match t.kind with
  | .keyword .trueKw => .value (.bool true)
  | .keyword .falseKw => .value (.bool false)
  | .integer => .ofLiteral .int ((Literal.integer? t.text).map .int)
  | .float => .ofLiteral .float ((Literal.single? t.text).map .float)
  | .string => .value (.string t.text)
  | .char => .ofLiteral .char ((character? t.text).map .char)
  | .operator op => .operator op
  | _ => .absent

end SourceCheck
