import SourceCheck.Token.Stream
import SourceCheck.Tree.Expr

/-! # The grammar of expressions

An expression is a chain: a literal, and then operators each with a literal. The tree of a chain
is grouped in two steps. It is cut at the operators of sums; each piece is folded to the left,
and then the pieces are.
-/

namespace SourceCheck.Grammar

/-- A token that is a literal, and its value. The text of a number has to convert, and a character
literal has to hold exactly one character. -/
inductive IsLiteral : Token → Expr → Prop
  | true {t : Token} : t.kind = .keyword .trueKw → IsLiteral t (.bool true)
  | false {t : Token} : t.kind = .keyword .falseKw → IsLiteral t (.bool false)
  | int {t : Token} {n : Int32} : t.kind = .integer → Literal.integer? t.text = some n →
      IsLiteral t (.int n)
  | float {t : Token} {x : Literal.Single} : t.kind = .float →
      Literal.single? t.text = some x → IsLiteral t (.float x)
  | string {t : Token} : t.kind = .string → IsLiteral t (.string t.text)
  | char {t : Token} {c : Char} : t.kind = .char → t.text.toList = [c] → IsLiteral t (.char c)

structure Chain where
  first : Expr
  rest : List (BinaryOp × Expr)
  deriving DecidableEq, Repr

inductive Links : List Token → List (BinaryOp × Expr) → Prop
  | nil : Links [] []
  | cons {t u : Token} {ts : List Token} {op : BinaryOp} {e : Expr}
      {rest : List (BinaryOp × Expr)} : t.kind = .operator op → IsLiteral u e →
      Links ts rest → Links (t :: u :: ts) ((op, e) :: rest)

namespace Chain

inductive Spelled : List Token → Chain → Prop
  | intro {t : Token} {ts : List Token} {e : Expr} {rest : List (BinaryOp × Expr)} :
      IsLiteral t e → Links ts rest → Spelled (t :: ts) ⟨e, rest⟩

def fold (c : Chain) : Expr :=
  c.rest.foldl (fun lhs (op, rhs) => .binary op lhs rhs) c.first

/-- Cuts a chain at the operators of sums. -/
def split (first : Expr) : List (BinaryOp × Expr) → Chain × List (BinaryOp × Chain)
  | [] => (⟨first, []⟩, [])
  | (op, e) :: rest =>
    let (head, more) := split e rest
    if op.level = .term then (⟨first, []⟩, (op, head) :: more)
    else (⟨first, (op, head.first) :: head.rest⟩, more)

def tree (c : Chain) : Expr :=
  let (head, more) := split c.first c.rest
  fold ⟨head.fold, more.map fun (op, product) => (op, product.fold)⟩

end Chain

def IsExpr (ts : List Token) (e : Expr) : Prop := ∃ c : Chain, c.Spelled ts ∧ c.tree = e

end SourceCheck.Grammar
