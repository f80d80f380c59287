import SourceCheck.Parse.Operand
import SourceCheck.Parse.Step

/-! # Reading expressions

Expressions are read by precedence climbing: an operand, and then every operator that binds
tighter than the level asked for, each with a right operand read at its own level. Reading
reports nothing itself; it gives a tree or the one error that stopped it.
-/

namespace SourceCheck

structure Reading where
  result : Except ParseError Expr
  used : Nat

mutual

def readAt (level : Level) (eof : Token) : List Token → Reading
  | [] => ⟨.error (.expectedExpression eof), 0⟩
  | t :: ts =>
    match t.operand with
    | .value e =>
      let more := extend level e eof ts
      ⟨more.result, more.used + 1⟩
    | .malformed kind => ⟨.error (.atToken t (.invalidLiteral kind t.text)), 1⟩
    | .operator op => ⟨.error (.atToken t (.missingLeftOperand op)), 1⟩
    | .absent => ⟨.error (.expectedExpression t), 0⟩
termination_by ts => ts.length
decreasing_by exact Nat.lt_succ_self _

def extend (level : Level) (lhs : Expr) (eof : Token) : List Token → Reading
  | [] => ⟨.ok lhs, 0⟩
  | t :: ts =>
    match t.kind with
    | .operator op =>
      if op.continues level then
        let right := readAt op.level eof ts
        match right.result with
        | .error e => ⟨.error e, right.used + 1⟩
        | .ok rhs =>
          let more := extend level (.binary op lhs rhs) eof (ts.drop right.used)
          ⟨more.result, more.used + right.used + 1⟩
      else ⟨.ok lhs, 0⟩
    | _ => ⟨.ok lhs, 0⟩
termination_by ts => ts.length
decreasing_by
  · exact Nat.lt_succ_self _
  · exact length_drop_lt_length_cons ..

end

def readExpr (eof : Token) (ts : List Token) : Reading := readAt .lowest eof ts

/-- A required expression. If it cannot be read, the error is reported and a marker stands in
its place. -/
def Parse.expr : Parse Expr := ⟨fun eof ts =>
  let reading := readExpr eof ts
  match reading.result with
  | .ok e => ⟨e, [], reading.used⟩
  | .error e => ⟨.error, [e], reading.used⟩⟩

end SourceCheck
