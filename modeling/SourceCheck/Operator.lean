/-! # Binary operators

The five operators and how tightly they bind.
-/

namespace SourceCheck

inductive BinaryOp
  | add | sub | mul | div | mod
  deriving DecidableEq, Repr

/-- How tightly an expression is read, from a whole expression to a single operand. -/
inductive Level
  | lowest | term | factor
  deriving DecidableEq, Repr

namespace Level

def rank : Level → Nat
  | lowest => 0
  | term => 1
  | factor => 2

end Level

namespace BinaryOp

def symbol : BinaryOp → String
  | add => "+"
  | sub => "-"
  | mul => "*"
  | div => "/"
  | mod => "%"

def level : BinaryOp → Level
  | add | sub => .term
  | mul | div | mod => .factor

/-- Whether an operator continues an expression that is read at a level. An operator does not
continue its own right operand, so chains group to the left. -/
def continues (op : BinaryOp) (level : Level) : Bool :=
  level.rank < op.level.rank

end BinaryOp

end SourceCheck
