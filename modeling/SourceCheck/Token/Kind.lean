import SourceCheck.Operator

/-! # Token kinds

The kinds of token, and the names that messages give them.
-/

namespace SourceCheck

inductive Keyword
  | importKw | fnKw | returnKw | callKw | trueKw | falseKw
  deriving DecidableEq, Repr

/-- The built-in type names. Any identifier is a type name as well. -/
inductive PrimitiveType
  | void | int | string | float | char
  deriving DecidableEq, Repr

inductive TokenKind
  | keyword (word : Keyword)
  | primitive (type : PrimitiveType)
  | identifier
  | integer
  | float
  | string
  | char
  | leftParen
  | rightParen
  | leftBrace
  | rightBrace
  | colon
  | doubleColon
  | semicolon
  | comma
  | assign
  | operator (op : BinaryOp)
  | eof
  deriving DecidableEq, Repr

def Keyword.spelling : Keyword → String
  | importKw => "import"
  | fnKw => "fn"
  | returnKw => "return"
  | callKw => "call"
  | trueKw => "true"
  | falseKw => "false"

def PrimitiveType.spelling : PrimitiveType → String
  | void => "void"
  | int => "int"
  | string => "string"
  | float => "float"
  | char => "char"

namespace TokenKind

def name : TokenKind → String
  | keyword word => "keyword `" ++ word.spelling ++ "`"
  | primitive type => "type `" ++ type.spelling ++ "`"
  | identifier => "identifier"
  | integer => "integer"
  | float => "float"
  | string => "string"
  | char => "character"
  | leftParen => "`(`"
  | rightParen => "`)`"
  | leftBrace => "`\x7b`"
  | rightBrace => "`\x7d`"
  | colon => "`:`"
  | doubleColon => "`::`"
  | semicolon => "`;`"
  | comma => "`,`"
  | assign => "`=`"
  | operator op => "`" ++ op.symbol ++ "`"
  | eof => "end of file"

def isTypeName : TokenKind → Bool
  | primitive _ | identifier => true
  | _ => false

end TokenKind

def wordKind (word : String) : TokenKind :=
  if word = "import" then .keyword .importKw
  else if word = "fn" then .keyword .fnKw
  else if word = "return" then .keyword .returnKw
  else if word = "call" then .keyword .callKw
  else if word = "true" then .keyword .trueKw
  else if word = "false" then .keyword .falseKw
  else if word = "void" then .primitive .void
  else if word = "int" then .primitive .int
  else if word = "string" then .primitive .string
  else if word = "float" then .primitive .float
  else if word = "char" then .primitive .char
  else .identifier

@[simp] theorem wordKind_keyword (word : Keyword) : wordKind word.spelling = .keyword word := by
  cases word <;> rfl

@[simp] theorem wordKind_primitive (type : PrimitiveType) :
    wordKind type.spelling = .primitive type := by
  cases type <;> rfl

end SourceCheck
