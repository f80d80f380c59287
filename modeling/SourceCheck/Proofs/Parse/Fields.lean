import SourceCheck.Proofs.Parse.Expression
import SourceCheck.Proofs.Parse.Recovery

/-! # Fields and tokens

Nothing in a tree is invented, and nothing comes twice or out of order, however much is wrong with
the tokens. Every field of a program is read from a token of its own, further on than that of the
field before it; only a name, a type or the content of a foreign call may have none, and then the
text of the end stands in and the missing token is reported. The fields of a value are those that
the acts of its production read, and an act reads them from the tokens that it uses.
-/

namespace SourceCheck

open Grammar

def TokenKind.isPrimitive : TokenKind → Bool
  | primitive _ => true
  | _ => false

/-- A text of a tree, or a literal or an operator of its expressions. -/
inductive Field
  | name (text : String)
  | type (text : String)
  | callee (text : String)
  | content (text : String)
  | symbol (s : Symbol)
  deriving DecidableEq, Repr

section Fields

def Expr.fields (e : Expr) : List Field := e.symbols.map .symbol

def Stmt.fields : Stmt → List Field
  | declare type name init => .type type :: .name name :: init.toList.flatMap Expr.fields
  | invoke callee args => .callee callee :: args.flatMap Expr.fields
  | foreign content => [.content content]
  | ret value => value.fields
  | error => []

def Param.fields (p : Param) : List Field := [.type p.type, .name p.name]

def Import.fields (i : Import) : List Field := [.name i.space, .name i.name]

def Function.fields (f : Function) : List Field :=
  .name f.name :: (f.params.flatMap Param.fields ++
    .type f.returns :: f.body.flatMap Stmt.fields)

def Item.fields : Item → List Field
  | imported decl => decl.fields
  | function decl => decl.fields
  | error => []

def Program.fields (p : Program) : List Field := p.items.flatMap Item.fields

end Fields

namespace Field

/-- A field is read from a token: it has the token's text, or the literal or operator that the
token is, and the token is of a kind that the field can be read from. -/
def IsReadFrom : Field → Token → Prop
  | name text, t => t.kind = .identifier ∧ text = t.text
  | type text, t | callee text, t => t.kind.isTypeName = true ∧ text = t.text
  | content text, t => t.kind = .string ∧ text = t.text
  | symbol s, t => s.Spells t

/-- A field has the text of the end, which stands in for a missing token. -/
def IsDefault (eof : Token) : Field → Prop
  | name text | type text | content text => text = eof.text
  | callee _ | symbol _ => False

def isCallee : Field → Bool
  | callee _ => true
  | _ => false

end Field

/-- A field, and the index of the token that it is read from if there is one. -/
structure Origin where
  field : Field
  index : Option Nat
  deriving DecidableEq, Repr

namespace Origin

def IsIn (eof : Token) (ts : List Token) (o : Origin) : Prop :=
  match o.index with
  | some i => ∃ t, ts[i]? = some t ∧ o.field.IsReadFrom t
  | none => o.field.IsDefault eof

def isMissing (o : Origin) : Bool := o.index.isNone

def isBuiltinCallee (ts : List Token) (o : Origin) : Bool :=
  o.field.isCallee && (o.index.bind (ts[·]?)).any (·.kind.isPrimitive)

def shift (n : Nat) (o : Origin) : Origin := { o with index := o.index.map (n + ·) }

variable {eof : Token} {ts : List Token} {n : Nat} {o : Origin}

theorem isIn_shift : (o.shift n).IsIn eof ts ↔ o.IsIn eof (ts.drop n) := by
  obtain ⟨field, index⟩ := o
  cases index <;> simp [IsIn, shift, List.getElem?_drop]

theorem isMissing_shift : (o.shift n).isMissing = o.isMissing := by
  simp [isMissing, shift]

theorem isBuiltinCallee_shift :
    (o.shift n).isBuiltinCallee ts = o.isBuiltinCallee (ts.drop n) := by
  obtain ⟨field, index⟩ := o
  cases index <;> simp [isBuiltinCallee, shift, List.getElem?_drop]

theorem map_field_shift (os : List Origin) :
    (os.map (shift n)).map Origin.field = os.map Origin.field := by
  simp [shift]

theorem filterMap_shift (os : List Origin) :
    (os.map (shift n)).filterMap Origin.index = (os.filterMap Origin.index).map (n + ·) := by
  rw [List.filterMap_map, List.map_filterMap]
  rfl

end Origin

def Expectation.givesField : Expectation → Bool
  | kind .identifier | kind .string | typeName => true
  | kind _ => false

def ParseErrorKind.missesField : ParseErrorKind → Bool
  | mismatch wanted _ => wanted.givesField
  | _ => false

def missedFields (errors : List ParseError) : Nat := errors.countP (·.kind.missesField)

theorem missedFields_append (es es' : List ParseError) :
    missedFields (es ++ es') = missedFields es + missedFields es' :=
  List.countP_append

theorem missedFields_mismatch (wanted : Expectation) (t : Token) :
    missedFields [.mismatch wanted t] = if wanted.givesField then 1 else 0 := by
  simp [missedFields, List.countP_cons, ParseError.mismatch, ParseError.atToken,
    ParseErrorKind.missesField]

/-- Fields that are read from the first `n` of some tokens while these errors are reported. Every
such error is that of a field without a token, or of a callee that is a built-in type. -/
structure Drawn (eof : Token) (ts : List Token) (n : Nat) (errors : List ParseError)
    (os : List Origin) : Prop where
  isIn : ∀ o ∈ os, o.IsIn eof ts
  index_lt : ∀ i ∈ os.filterMap Origin.index, i < n
  increasing : (os.filterMap Origin.index).Pairwise (· < ·)
  count : os.countP Origin.isMissing + os.countP (Origin.isBuiltinCallee ts) =
    missedFields errors

namespace Drawn

variable {eof t : Token} {ts : List Token} {n n' : Nat} {es es' : List ParseError}
  {os os' : List Origin} {f : Field}

theorem nil (h : missedFields es = 0) : Drawn eof ts n es [] where
  isIn := by simp
  index_lt := by simp
  increasing := .nil
  count := h.symm

theorem one (h : f.IsReadFrom t)
    (hcount : (if Origin.isBuiltinCallee (t :: ts) ⟨f, some 0⟩ then 1 else 0) =
      missedFields es) : Drawn eof (t :: ts) 1 es [⟨f, some 0⟩] where
  isIn := by simpa [Origin.IsIn] using h
  index_lt := by simp
  increasing := by simp
  count := by simpa [List.countP_cons, Origin.isMissing] using hcount

theorem default (h : f.IsDefault eof) (hcount : missedFields es = 1) :
    Drawn eof ts 0 es [⟨f, none⟩] where
  isIn := by simpa [Origin.IsIn] using h
  index_lt := by simp
  increasing := by simp
  count := by
    simpa [List.countP_cons, Origin.isMissing, Origin.isBuiltinCallee] using hcount.symm

theorem append (h : Drawn eof ts n es os) (h' : Drawn eof (ts.drop n) n' es' os') :
    Drawn eof ts (n + n') (es ++ es') (os ++ os'.map (Origin.shift n)) where
  isIn := by
    intro o ho
    rcases List.mem_append.mp ho with ho | ho
    · exact h.isIn o ho
    · obtain ⟨o', ho', rfl⟩ := List.mem_map.mp ho
      exact Origin.isIn_shift.mpr (h'.isIn o' ho')
  index_lt := by
    rw [List.filterMap_append, Origin.filterMap_shift]
    intro i hi
    rcases List.mem_append.mp hi with hi | hi
    · exact Nat.lt_of_lt_of_le (h.index_lt i hi) (Nat.le_add_right ..)
    · obtain ⟨j, hj, rfl⟩ := List.mem_map.mp hi
      exact Nat.add_lt_add_left (h'.index_lt j hj) n
  increasing := by
    rw [List.filterMap_append, Origin.filterMap_shift, List.pairwise_append, List.pairwise_map]
    refine ⟨h.increasing, h'.increasing.imp (Nat.add_lt_add_left · n), ?_⟩
    intro i hi j hj
    obtain ⟨j, -, rfl⟩ := List.mem_map.mp hj
    exact Nat.lt_of_lt_of_le (h.index_lt i hi) (Nat.le_add_right ..)
  count := by
    have hmissing : Origin.isMissing ∘ Origin.shift n = Origin.isMissing :=
      funext fun _ => Origin.isMissing_shift
    have hbuiltin : Origin.isBuiltinCallee ts ∘ Origin.shift n =
        Origin.isBuiltinCallee (ts.drop n) := funext fun _ => Origin.isBuiltinCallee_shift
    simp only [List.countP_append, List.countP_map, hmissing, hbuiltin, missedFields_append,
      ← h.count, ← h'.count]
    omega

end Drawn

def Expectation.fields (text : String) : Expectation → List Field
  | kind .identifier => [.name text]
  | kind .string => [.content text]
  | typeName => [.type text]
  | kind _ => []

def Act.fields (eof : Token) : Act → List Field
  | look .. | accept .. | pass .. => []
  | ask wanted seen => wanted.fields (wanted.textOf eof seen)
  | callee t => [.callee t.text]
  | expr _ result => (Reading.expr result).fields

section Drawing

variable {eof t : Token} {ts : List Token}

theorem Expectation.exists_drawn_of_missing (wanted : Expectation) (t : Token) :
    ∃ os, os.map Origin.field = wanted.fields eof.text ∧
      Drawn eof ts 0 [.mismatch wanted t] os := by
  have hcount := missedFields_mismatch wanted t
  unfold Expectation.fields
  split
  · exact ⟨[⟨.name eof.text, none⟩], rfl, .default rfl hcount⟩
  · exact ⟨[⟨.content eof.text, none⟩], rfl, .default rfl hcount⟩
  · exact ⟨[⟨.type eof.text, none⟩], rfl, .default rfl hcount⟩
  next k hname hcontent =>
    have hgives : (Expectation.kind k).givesField = false := by
      unfold Expectation.givesField
      split <;> simp_all
    exact ⟨[], rfl, .nil (by simp [hcount, hgives])⟩

theorem Expectation.exists_drawn_of_accepts {wanted : Expectation}
    (h : wanted.accepts t.kind = true) :
    ∃ os, os.map Origin.field = wanted.fields t.text ∧ Drawn eof (t :: ts) 1 [] os := by
  unfold Expectation.fields
  split
  · exact ⟨[⟨.name t.text, some 0⟩], rfl, .one ⟨eq_of_beq h, rfl⟩ rfl⟩
  · exact ⟨[⟨.content t.text, some 0⟩], rfl, .one ⟨eq_of_beq h, rfl⟩ rfl⟩
  · exact ⟨[⟨.type t.text, some 0⟩], rfl, .one ⟨h, rfl⟩ rfl⟩
  · exact ⟨[], rfl, .nil rfl⟩

theorem Act.exists_drawn_ask (wanted : Expectation) :
    ∃ os, os.map Origin.field = (ask wanted ts.head?).fields eof ∧
      Drawn eof ts (ask wanted ts.head?).tokens.length ((ask wanted ts.head?).errors eof) os := by
  cases ts with
  | nil => exact wanted.exists_drawn_of_missing eof
  | cons t ts =>
    cases ht : wanted.accepts t.kind with
    | true =>
      rw [List.head?_cons, tokens_ask ht, errors_ask ht]
      simpa [fields, Expectation.textOf, Option.filter_some, ht] using
        Expectation.exists_drawn_of_accepts ht
    | false =>
      simpa [fields, tokens, errors, Expectation.textOf, Option.filter_some, ht] using
        wanted.exists_drawn_of_missing t

theorem Act.exists_drawn_callee (h : t.kind.isTypeName = true) :
    ∃ os, os.map Origin.field = (callee t).fields eof ∧
      Drawn eof (t :: ts) 1 ((callee t).errors eof) os := by
  have hread : (Field.callee t.text).IsReadFrom t := ⟨h, rfl⟩
  refine ⟨[⟨.callee t.text, some 0⟩], rfl, .one hread ?_⟩
  by_cases hk : t.kind = .identifier
  · simp [errors, Origin.isBuiltinCallee, hk, TokenKind.isPrimitive, missedFields]
  · have hprimitive : t.kind.isPrimitive = true := by
      revert h hk
      cases t.kind <;> simp [TokenKind.isTypeName, TokenKind.isPrimitive]
    simp [errors, hk, Origin.isBuiltinCallee, Field.isCallee, hprimitive, missedFields_mismatch,
      Expectation.givesField]

theorem exists_drawn_of_spells {symbols : List Symbol} {us : List Token}
    (h : List.Forall₂ Symbol.Spells symbols us) (rest : List Token) :
    ∃ os, os.map Origin.field = symbols.map Field.symbol ∧
      Drawn eof (us ++ rest) us.length [] os := by
  induction h with
  | nil => exact ⟨[], rfl, .nil rfl⟩
  | @cons s t symbols us hs _ ih =>
    obtain ⟨os, hf, hos⟩ := ih
    have hone : Drawn eof (t :: (us ++ rest)) 1 [] [⟨.symbol s, some 0⟩] := .one hs rfl
    refine ⟨⟨.symbol s, some 0⟩ :: os.map (Origin.shift 1), ?_, ?_⟩
    · rw [List.map_cons, List.map_cons, Origin.map_field_shift, hf]
    · rw [List.length_cons, Nat.add_comm]
      exact hone.append hos

theorem NoOperand.missedFields {e : ParseError} {n : Nat} (h : NoOperand eof ts e n) :
    missedFields [e] = 0 := by
  cases h <;> rfl

theorem Act.exists_drawn_expr {us : List Token} {result : Except ParseError Expr}
    (h : readExpr eof ts = ⟨result, us.length⟩) :
    ∃ os, os.map Origin.field = (expr us result).fields eof ∧
      Drawn eof ts us.length ((expr us result).errors eof) os := by
  have hr : ReadsChain .lowest eof ts (readExpr eof ts) := readsChain ..
  rw [h] at hr
  generalize us.length = used at hr
  cases hr with
  | ok hc => exact exists_drawn_of_spells hc.spells _
  | error _ hn => exact ⟨[], rfl, .nil hn.missedFields⟩

/-- The fields of an act are read from the tokens that it uses. -/
theorem Act.At.exists_drawn {a : Act} (h : a.At eof ts) :
    ∃ os, os.map Origin.field = a.fields eof ∧ Drawn eof ts a.tokens.length (a.errors eof) os := by
  cases a with
  | look | accept => exact ⟨[], rfl, .nil rfl⟩
  | ask wanted seen =>
    obtain ⟨rfl, -⟩ := h
    exact exists_drawn_ask wanted
  | callee t =>
    obtain ⟨us, rfl⟩ := List.head?_eq_some_iff.mp h.1
    exact exists_drawn_callee h.2
  | pass context t => exact ⟨[], rfl, .nil rfl⟩
  | expr us result => exact exists_drawn_expr h.2

theorem Happens.exists_drawn {as : List Act} {rest : List Token} (h : Happens eof ts as rest) :
    ∃ os, os.map Origin.field = as.flatMap (Act.fields eof) ∧
      Drawn eof ts (tokensOf as).length (errorsOf eof as) os := by
  induction h with
  | nil => exact ⟨[], rfl, .nil rfl⟩
  | @cons a _ _ _ hat _ ih =>
    obtain ⟨os, hf, hos⟩ := hat.exists_drawn
    obtain ⟨os', hf', hos'⟩ := ih
    refine ⟨os ++ os'.map (Origin.shift a.tokens.length), ?_, ?_⟩
    · rw [List.map_append, Origin.map_field_shift, hf, hf', List.flatMap_cons]
    · rw [tokensOf_cons, List.length_append]
      exact hos.append hos'

end Drawing

section Productions

variable {eof : Token} {as : List Act}

@[simp] theorem Act.fields_look (n : Nat) (seen : Option Token) :
    (look n seen).fields eof = [] := rfl

@[simp] theorem Act.fields_accept (kind : TokenKind) (seen : Option Token) :
    (accept kind seen).fields eof = [] := rfl

theorem ExprActs.fields_eq {e : Expr} (h : ExprActs eof as e) :
    as.flatMap (Act.fields eof) = e.fields := by
  cases h
  exact List.append_nil _

theorem InitActs.fields_eq {init : Option Expr} (h : InitActs eof as init) :
    as.flatMap (Act.fields eof) = init.toList.flatMap Expr.fields := by
  cases h with
  | absent => rfl
  | given _ he => simp [he.fields_eq]

theorem StmtActs.fields_eq {s : Stmt} (h : StmtActs eof as s) :
    as.flatMap (Act.fields eof) = s.fields := by
  cases h with
  | ret _ he => simp [Act.fields, Expectation.fields, he.fields_eq, Stmt.fields]
  | foreign => rfl
  | invoke _ _ hargs =>
    have hlist := hargs.flatMap_eq (by simp) (by simp) fun _ _ => ExprActs.fields_eq
    simp [Act.fields, Expectation.fields, hlist, Stmt.fields]
  | declare htype hinit =>
    simp [Act.fields, Expectation.fields, Expectation.typeName.textOf_of_accepts htype,
      hinit.fields_eq, Stmt.fields]
  | error => rfl

theorem ParamActs.fields_eq {p : Param} (h : ParamActs eof as p) :
    as.flatMap (Act.fields eof) = p.fields := by
  cases h
  rfl

theorem ItemActs.fields_eq {i : Item} (h : ItemActs eof as i) :
    as.flatMap (Act.fields eof) = i.fields := by
  cases h with
  | imported => rfl
  | function _ hparams hbody =>
    obtain ⟨hstmts⟩ := hbody
    have hlist := hparams.flatMap_eq (by simp) (by simp) fun _ _ => ParamActs.fields_eq
    have hbodies := hstmts.flatMap_eq (by simp) fun _ _ => StmtActs.fields_eq
    simp [Act.fields, Expectation.fields, hlist, hbodies, Item.fields, Function.fields]
  | error => rfl

end Productions

theorem exists_drawn (s : TokenStream) :
    ∃ os, os.map Origin.field = (parse s).program.fields ∧
      Drawn s.eof s.tokens s.tokens.length (parse s).errors os := by
  obtain ⟨as, h⟩ := exists_acts s
  have hfields : as.flatMap (Act.fields s.eof) = (parse s).program.fields :=
    h.items.flatMap_eq (by simp) fun _ _ hi => hi.2.fields_eq
  rw [h.errors_eq, congrArg List.length h.tokens_eq, ← hfields]
  exact h.happens.exists_drawn

/-- Every field of a program is read from a token of its own, and in the order of the tokens,
except for texts that the end stands in for. There is one error for each of these, and for each
callee that is a built-in type. -/
theorem parse_fields (s : TokenStream) :
    ∃ os : List Origin, os.map Origin.field = (parse s).program.fields ∧
      (∀ o ∈ os, o.IsIn s.eof s.tokens) ∧ (os.filterMap Origin.index).Pairwise (· < ·) ∧
      os.countP Origin.isMissing + os.countP (Origin.isBuiltinCallee s.tokens) =
        (parse s).errors.countP (·.kind.missesField) := by
  obtain ⟨os, hfields, hos⟩ := exists_drawn s
  exact ⟨os, hfields, hos.isIn, hos.increasing, hos.count⟩

end SourceCheck
