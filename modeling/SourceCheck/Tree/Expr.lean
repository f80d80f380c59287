import SourceCheck.Literal.Single
import SourceCheck.Operator

/-! # Expressions

Expression trees, with a marker where an expression could not be read. The search for a marker
keeps its own list of trees still to visit, so a long operator chain needs no deep recursion.
-/

namespace SourceCheck

inductive Expr
  | binary (op : BinaryOp) (lhs rhs : Expr)
  | int (value : Int32)
  | float (value : Literal.Single)
  | string (value : String)
  | char (value : Char)
  | bool (value : Bool)
  | error
  deriving DecidableEq, Repr

namespace Expr

def size : Expr → Nat
  | binary _ lhs rhs => lhs.size + rhs.size + 1
  | _ => 1

def totalSize : List Expr → Nat
  | [] => 0
  | e :: rest => e.size + totalSize rest

/-- Whether a marker occurs in one of the trees that are still to visit. -/
def anyError : List Expr → Bool
  | [] => false
  | e :: rest =>
    match e with
    | binary _ lhs rhs => anyError (rhs :: lhs :: rest)
    | error => true
    | int _ | float _ | string _ | char _ | bool _ => anyError rest
termination_by todo => totalSize todo
decreasing_by all_goals simp only [totalSize, size]; omega

def containsError (e : Expr) : Bool := anyError [e]

end Expr

end SourceCheck
