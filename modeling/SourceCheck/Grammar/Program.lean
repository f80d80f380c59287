import SourceCheck.Grammar.Chain
import SourceCheck.Tree.Program

/-! # The grammar of programs

Which tokens spell a program, and which one.
-/

namespace SourceCheck.Grammar

variable {α : Type}

inductive Sequence (element : List Token → α → Prop) : List Token → List α → Prop
  | nil : Sequence element [] []
  | cons {ts us : List Token} {a : α} {as : List α} : element ts a → Sequence element us as →
      Sequence element (ts ++ us) (a :: as)

/-- Elements with commas between them, and perhaps a comma after the last. -/
inductive CommaSeparated (element : List Token → α → Prop) : List Token → List α → Prop
  | nil : CommaSeparated element [] []
  | last {ts : List Token} {a : α} : element ts a → CommaSeparated element ts [a]
  | cons {ts us : List Token} {comma : Token} {a : α} {as : List α} : element ts a →
      comma.kind = .comma → CommaSeparated element us as →
      CommaSeparated element (ts ++ comma :: us) (a :: as)

inductive IsStmt : List Token → Stmt → Prop
  | ret {kw semi : Token} {ts : List Token} {e : Expr} :
      kw.kind = .keyword .returnKw → IsExpr ts e → semi.kind = .semicolon →
      IsStmt (kw :: (ts ++ [semi])) (.ret e)
  | foreign {kw l content r semi : Token} :
      kw.kind = .keyword .callKw → l.kind = .leftBrace → content.kind = .string →
      r.kind = .rightBrace → semi.kind = .semicolon →
      IsStmt [kw, l, content, r, semi] (.foreign content.text)
  | invoke {callee l r semi : Token} {ts : List Token} {args : List Expr} :
      callee.kind = .identifier → l.kind = .leftParen → CommaSeparated IsExpr ts args →
      r.kind = .rightParen → semi.kind = .semicolon →
      IsStmt (callee :: l :: (ts ++ [r, semi])) (.invoke callee.text args)
  | declare {type name semi : Token} :
      type.kind.isTypeName = true → name.kind = .identifier → semi.kind = .semicolon →
      IsStmt [type, name, semi] (.declare type.text name.text none)
  | define {type name eq semi : Token} {ts : List Token} {e : Expr} :
      type.kind.isTypeName = true → name.kind = .identifier → eq.kind = .assign →
      IsExpr ts e → semi.kind = .semicolon →
      IsStmt (type :: name :: eq :: (ts ++ [semi])) (.declare type.text name.text (some e))

inductive IsParam : List Token → Param → Prop
  | intro {type name : Token} : type.kind.isTypeName = true → name.kind = .identifier →
      IsParam [type, name] ⟨type.text, name.text⟩

inductive IsItem : List Token → Item → Prop
  | imported {kw space colons name semi : Token} :
      kw.kind = .keyword .importKw → space.kind = .identifier → colons.kind = .doubleColon →
      name.kind = .identifier → semi.kind = .semicolon →
      IsItem [kw, space, colons, name, semi] (.imported ⟨space.text, name.text⟩)
  | function {kw name lp rp colon returns lb rb : Token} {ps bs : List Token}
      {params : List Param} {body : List Stmt} :
      kw.kind = .keyword .fnKw → name.kind = .identifier → lp.kind = .leftParen →
      CommaSeparated IsParam ps params → rp.kind = .rightParen → colon.kind = .colon →
      returns.kind.isTypeName = true → lb.kind = .leftBrace → Sequence IsStmt bs body →
      rb.kind = .rightBrace →
      IsItem (kw :: name :: lp :: (ps ++ rp :: colon :: returns :: lb :: (bs ++ [rb])))
        (.function ⟨name.text, params, returns.text, body⟩)

def IsProgram (ts : List Token) (p : Program) : Prop := Sequence IsItem ts p.items

end SourceCheck.Grammar
