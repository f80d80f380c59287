import SourceCheck.Tree.Expr

/-! # Programs

The tree of a program: imports and functions, with markers for what could not be read.
-/

namespace SourceCheck

structure Param where
  type : String
  name : String
  deriving DecidableEq, Repr

inductive Stmt
  | declare (type name : String) (init : Option Expr)
  | invoke (callee : String) (args : List Expr)
  | foreign (content : String)
  | ret (value : Expr)
  | error
  deriving DecidableEq, Repr

structure Import where
  space : String
  name : String
  deriving DecidableEq, Repr

structure Function where
  name : String
  params : List Param
  returns : String
  body : List Stmt
  deriving DecidableEq, Repr

inductive Item
  | imported (decl : Import)
  | function (decl : Function)
  | error
  deriving DecidableEq, Repr

structure Program where
  items : List Item
  deriving DecidableEq, Repr

namespace Stmt

def exprs : Stmt → List Expr
  | declare _ _ init => init.toList
  | invoke _ args => args
  | ret value => [value]
  | foreign _ | error => []

def containsError : Stmt → Bool
  | error => true
  | s => s.exprs.any Expr.containsError

end Stmt

def Function.containsError (f : Function) : Bool := f.body.any Stmt.containsError

def Item.containsError : Item → Bool
  | imported _ => false
  | function decl => decl.containsError
  | error => true

namespace Program

def imports (p : Program) : List Import :=
  p.items.filterMap fun
    | .imported decl => some decl
    | _ => none

def functions (p : Program) : List Function :=
  p.items.filterMap fun
    | .function decl => some decl
    | _ => none

def containsError (p : Program) : Bool := p.items.any Item.containsError

end Program

end SourceCheck
