import SourceCheck.Tree.Program

/-! # Equality of programs

Two programs have the same value if they have the same shape and equal leaves, where numbers are
compared as values. A program that holds a leaf which is not a number does not even equal itself.
-/

namespace SourceCheck

def Expr.sameValue : Expr → Expr → Bool
  | .binary op lhs rhs, .binary op' lhs' rhs' =>
    op == op' && lhs.sameValue lhs' && rhs.sameValue rhs'
  | .int n, .int n' => n == n'
  | .float x, .float x' => x.sameValue x'
  | .string s, .string s' => s == s'
  | .char c, .char c' => c == c'
  | .bool b, .bool b' => b == b'
  | .error, .error => true
  | _, _ => false

def Stmt.sameValue : Stmt → Stmt → Bool
  | .declare type name init, .declare type' name' init' =>
    type == type' && name == name' && init.toList.isEqv init'.toList Expr.sameValue
  | .invoke callee args, .invoke callee' args' =>
    callee == callee' && args.isEqv args' Expr.sameValue
  | .foreign content, .foreign content' => content == content'
  | .ret value, .ret value' => value.sameValue value'
  | .error, .error => true
  | _, _ => false

def Function.sameValue (f g : Function) : Bool :=
  f.name == g.name && f.params == g.params && f.returns == g.returns &&
    f.body.isEqv g.body Stmt.sameValue

def Item.sameValue : Item → Item → Bool
  | .imported decl, .imported decl' => decl == decl'
  | .function decl, .function decl' => decl.sameValue decl'
  | .error, .error => true
  | _, _ => false

def Program.sameValue (p q : Program) : Bool := p.items.isEqv q.items Item.sameValue

end SourceCheck
