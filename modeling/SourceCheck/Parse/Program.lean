import SourceCheck.Parse.Expression
import SourceCheck.Tree.Program

/-! # Parsing programs

The productions of statements, items and programs. A statement and an item look at the token that
they start with, and always use it.
-/

namespace SourceCheck

namespace Parse

def initializer : Parse (Option Expr) := do
  if ← accept .assign then
    return some (← expr)
  else
    return none

def declaration : Parse Stmt := do
  let type ← typeName
  let name ← text .identifier
  let init ← initializer
  skip .semicolon
  return .declare type name init

/-- The name that is called. Only an identifier can be called; a built-in type in its place is
reported and kept. -/
def callee : Parse String := do
  let t ← peek
  if t.kind ≠ .identifier then report (.mismatch (.kind .identifier) t)
  return (← advance).text

def invocation : Parse Stmt := do
  let name ← callee
  skip .leftParen
  let args ← commaList .rightParen expr
  skip .rightParen
  skip .semicolon
  return .invoke name args

def foreignCall : Parse Stmt := do
  skip (.keyword .callKw)
  skip .leftBrace
  let content ← text .string
  skip .rightBrace
  skip .semicolon
  return .foreign content

def returnStmt : Parse Stmt := do
  skip (.keyword .returnKw)
  let value ← expr
  skip .semicolon
  return .ret value

/-- A type name starts a call if a parenthesis follows it, and a declaration otherwise. -/
def stmt : Parse Stmt := do
  let kind ← kindAt 0
  if kind = .keyword .returnKw then returnStmt
  else if kind = .keyword .callKw then foreignCall
  else if kind.isTypeName then
    if (← kindAt 1) = .leftParen then invocation else declaration
  else
    skipUnexpected .body
    return .error

def param : Parse Param := do
  let type ← typeName
  let name ← text .identifier
  return ⟨type, name⟩

def importDecl : Parse Import := do
  skip (.keyword .importKw)
  let space ← text .identifier
  skip .doubleColon
  let name ← text .identifier
  skip .semicolon
  return ⟨space, name⟩

section Advances

variable {eof t : Token} {ts : List Token}

theorem run_callee : callee.run eof (t :: ts) =
    ⟨t.text, if t.kind = .identifier then [] else [.mismatch (.kind .identifier) t], 1⟩ := by
  by_cases h : t.kind = .identifier
  · simp [callee, peek, peekNth, advance, h]
  · simp [callee, peek, peekNth, advance, report, h]

theorem stmt_advances : stmt.Advances := by
  intro eof t ts
  rw [stmt, run_kindAt_zero_bind]
  split
  next h => exact used_bind_pos (by simp [run_skip h])
  split
  next h => exact used_bind_pos (by simp [run_skip h])
  split
  next h =>
    rw [run_kindAt_bind]
    split
    · exact used_bind_pos (by simp [run_callee])
    · exact used_bind_pos (by simp [run_typeName h])
  next => exact used_bind_pos Nat.one_pos

end Advances

def body : Parse (List Stmt) := do
  skip .leftBrace
  let stmts ← many (· == .rightBrace) stmt stmt_advances
  skip .rightBrace
  return stmts

def functionDecl : Parse Function := do
  skip (.keyword .fnKw)
  let name ← text .identifier
  skip .leftParen
  let params ← commaList .rightParen param
  skip .rightParen
  skip .colon
  let returns ← typeName
  let stmts ← body
  return ⟨name, params, returns, stmts⟩

def item : Parse Item := do
  let kind ← kindAt 0
  if kind = .keyword .importKw then return .imported (← importDecl)
  else if kind = .keyword .fnKw then return .function (← functionDecl)
  else
    skipUnexpected .topLevel
    return .error

theorem item_advances : item.Advances := by
  intro eof t ts
  rw [item, run_kindAt_zero_bind]
  split
  next h => exact used_bind_pos (used_bind_pos (by simp [run_skip h]))
  split
  next h => exact used_bind_pos (used_bind_pos (by simp [run_skip h]))
  next => exact used_bind_pos Nat.one_pos

def program : Parse Program := do
  return ⟨← many (fun _ => false) item item_advances⟩

end Parse

/-- A program and the errors found in it. The program is only complete if there are none. -/
structure ParseResult where
  program : Program
  errors : List ParseError
  deriving DecidableEq

def parse (stream : TokenStream) : ParseResult :=
  let step := Parse.program.run stream.eof stream.tokens
  ⟨step.value, step.errors⟩

end SourceCheck
