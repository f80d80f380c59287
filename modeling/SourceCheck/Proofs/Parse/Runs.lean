import SourceCheck.Grammar.Program
import SourceCheck.Proofs.Parse.Reads
import SourceCheck.Proofs.Parse.Recovery

/-! # The tokens of an item

Parsing comes to the end of the file, and uses every token once, whatever is wrong with the
tokens. They fall into runs, one for each item in order, and what is left of the grammar in a run
is its parts in order, each of which may be missing. A run has at least one token, for an item and
for a statement; and in a list every element but the last has a comma after it. So every loop goes
on only with fewer tokens in front of it.
-/

namespace SourceCheck

open Grammar

variable {α β : Type}

/-- What some of the tokens of a run have to be. -/
abbrev Portion := List Token → Prop

/-- The token that is asked for, or none if it is missing. -/
def Portion.AtMost (wanted : Expectation) : Portion := fun us =>
  us = [] ∨ ∃ t, us = [t] ∧ wanted.accepts t.kind = true

/-- Any tokens. An expression that cannot be read may stop after any number of them. -/
def Portion.Any : Portion := fun _ => True

def ConsistsOf (parts : List Portion) (us : List Token) : Prop :=
  Sequence (fun vs part => part vs) us parts

/-- A value, with the tokens that it is read from and the errors that are reported with it. -/
structure Run (α : Type) where
  value : α
  tokens : List Token
  errors : List ParseError

open Portion

section Runs

def IsParamRun (us : List Token) (_ : Param) : Prop :=
  ConsistsOf [AtMost .typeName, AtMost (.kind .identifier)] us

inductive IsStmtRun : List Token → Stmt → Prop
  | ret {kw : Token} {us : List Token} {e : Expr} : kw.kind = .keyword .returnKw →
      ConsistsOf [Any, AtMost (.kind .semicolon)] us → IsStmtRun (kw :: us) (.ret e)
  | foreign {kw : Token} {us : List Token} {content : String} : kw.kind = .keyword .callKw →
      ConsistsOf [AtMost (.kind .leftBrace), AtMost (.kind .string), AtMost (.kind .rightBrace),
        AtMost (.kind .semicolon)] us → IsStmtRun (kw :: us) (.foreign content)
  | invoke {callee : Token} {us : List Token} {args : List Expr} :
      callee.kind.isTypeName = true →
      ConsistsOf [AtMost (.kind .leftParen), (CommaSeparated (fun vs _ => Any vs) · args),
        AtMost (.kind .rightParen), AtMost (.kind .semicolon)] us →
      IsStmtRun (callee :: us) (.invoke callee.text args)
  | declare {type : Token} {us : List Token} {name : String} {init : Option Expr} :
      type.kind.isTypeName = true →
      ConsistsOf [AtMost (.kind .identifier), AtMost (.kind .assign), Any,
        AtMost (.kind .semicolon)] us → IsStmtRun (type :: us) (.declare type.text name init)
  | error {t : Token} : IsStmtRun [t] .error

/-- The tokens that an item is read from. Where there is no item, they are the one that is
reported. -/
inductive IsItemRun : Run Item → Prop
  | imported {kw : Token} {us : List Token} {decl : Import} {errors : List ParseError} :
      kw.kind = .keyword .importKw →
      ConsistsOf [AtMost (.kind .identifier), AtMost (.kind .doubleColon),
        AtMost (.kind .identifier), AtMost (.kind .semicolon)] us →
      IsItemRun ⟨.imported decl, kw :: us, errors⟩
  | function {kw : Token} {us : List Token} {decl : Function} {errors : List ParseError} :
      kw.kind = .keyword .fnKw →
      ConsistsOf [AtMost (.kind .identifier), AtMost (.kind .leftParen),
        (CommaSeparated IsParamRun · decl.params), AtMost (.kind .rightParen),
        AtMost (.kind .colon), AtMost .typeName, AtMost (.kind .leftBrace),
        (Sequence IsStmtRun · decl.body), AtMost (.kind .rightBrace)] us →
      IsItemRun ⟨.function decl, kw :: us, errors⟩
  | error {t : Token} : IsItemRun ⟨.error, [t], [.unexpectedStart .topLevel t]⟩

end Runs

theorem ConsistsOf.length_le {parts : List Portion} {us : List Token} (h : ConsistsOf parts us)
    (hparts : ∀ part ∈ parts, ∃ wanted, part = AtMost wanted) : us.length ≤ parts.length := by
  induction h with
  | nil => exact Nat.le_refl 0
  | cons hpart _ ih =>
    obtain ⟨⟨wanted, rfl⟩, htail⟩ := List.forall_mem_cons.mp hparts
    have hrest := ih htail
    rw [List.length_append, List.length_cons]
    rcases hpart with rfl | ⟨t, rfl, -⟩
    · exact Nat.le_succ_of_le (by simpa using hrest)
    · rw [Nat.add_comm]
      exact Nat.succ_le_succ hrest

section Acts

variable {eof : Token} {R : List Act → α → Prop} {S : Language α} {as : List Act} {as' : List α}

theorem atMost_ask (wanted : Expectation) (seen : Option Token) :
    AtMost wanted (Act.ask wanted seen).tokens := by
  cases seen with
  | none => exact .inl rfl
  | some t =>
    cases ht : wanted.accepts t.kind with
    | true => exact .inr ⟨t, Act.tokens_ask ht, ht⟩
    | false => exact .inl (by simp [Act.tokens, Option.filter_some, ht])

theorem tokensOf_ask (wanted : Expectation) {t : Token} (h : wanted.accepts t.kind = true)
    (as : List Act) : tokensOf (.ask wanted (some t) :: as) = t :: tokensOf as := by
  rw [tokensOf_cons, Act.tokens_ask h, List.singleton_append]

theorem tokensOf_keyword {t : Token} {kind : TokenKind} (h : t.kind = kind) (as : List Act) :
    tokensOf (.look 0 (some t) :: .ask (.kind kind) (some t) :: as) = t :: tokensOf as :=
  tokensOf_ask (.kind kind) (beq_iff_eq.mpr h) as

theorem ConsistsOf.nil : ConsistsOf [] (tokensOf []) := Sequence.nil

theorem ConsistsOf.ask {parts : List Portion} {wanted : Expectation} {seen : Option Token}
    (h : ConsistsOf parts (tokensOf as)) :
    ConsistsOf (AtMost wanted :: parts) (tokensOf (.ask wanted seen :: as)) :=
  .cons (atMost_ask wanted seen) h

theorem ConsistsOf.acts {part : Portion} {parts : List Portion} {bs : List Act}
    (has : part (tokensOf as)) (hbs : ConsistsOf parts (tokensOf bs)) :
    ConsistsOf (part :: parts) (tokensOf (as ++ bs)) := by
  rw [tokensOf_append]
  exact .cons has hbs

theorem ManyActs.sequence {stops : TokenKind → Bool} (h : ManyActs stops R as as')
    (hR : ∀ as a, R as a → S (tokensOf as) a) : Sequence S (tokensOf as) as' := by
  induction h with
  | nil => exact .nil
  | cons _ ha _ ih =>
    rw [tokensOf_cons, tokensOf_append, Act.tokens_look, List.nil_append]
    exact .cons (hR _ _ ha) ih

/-- Every element of a list but the last uses a comma as well. -/
theorem CommaActs.commaSeparated {close : TokenKind} (h : CommaActs close R as as')
    (hR : ∀ as a, R as a → S (tokensOf as) a) : CommaSeparated S (tokensOf as) as' := by
  induction h with
  | nil => exact .nil
  | last _ ha hcomma =>
    have hlast := hR _ _ ha
    simpa [Act.tokens_accept_of_ne hcomma] using CommaSeparated.last hlast
  | cons _ ha hcomma _ ih =>
    have hlist := CommaSeparated.cons (hR _ _ ha) hcomma ih
    simpa [Act.tokens_accept hcomma] using hlist

theorem ConsistsOf.initializer {parts : List Portion} {bs : List Act} {init : Option Expr}
    (h : InitActs eof as init) (hbs : ConsistsOf parts (tokensOf bs)) :
    ConsistsOf (AtMost (.kind .assign) :: Any :: parts) (tokensOf (as ++ bs)) := by
  cases h with
  | absent h =>
    rw [List.singleton_append, tokensOf_cons, Act.tokens_accept_of_ne h]
    have hvalue : ConsistsOf (Any :: parts) ([] ++ tokensOf bs) := .cons trivial hbs
    exact .cons (.inl rfl) hvalue
  | @given eq as _ heq _ =>
    rw [List.cons_append, tokensOf_cons, Act.tokens_accept heq]
    exact .cons (.inr ⟨eq, rfl, beq_iff_eq.mpr heq⟩) (ConsistsOf.acts trivial hbs)

theorem StmtActs.isStmtRun {s : Stmt} (h : StmtActs eof as s) : IsStmtRun (tokensOf as) s := by
  cases h with
  | ret hkw _ =>
    rw [tokensOf_keyword hkw]
    exact .ret hkw (.acts trivial (.ask .nil))
  | foreign hkw =>
    rw [tokensOf_keyword hkw]
    exact .foreign hkw (.ask (.ask (.ask (.ask .nil))))
  | invoke hcallee _ hargs =>
    have hlist := hargs.commaSeparated (S := fun vs _ => Any vs) fun _ _ _ => trivial
    exact .invoke hcallee (.ask (.acts hlist (.ask (.ask .nil))))
  | declare htype hinit =>
    have hfirst := tokensOf_ask .typeName htype
    exact hfirst _ ▸ .declare htype (.ask (.initializer hinit (.ask .nil)))
  | error => exact .error

theorem ParamActs.isParamRun {p : Param} (h : ParamActs eof as p) :
    IsParamRun (tokensOf as) p := by
  cases h
  exact .ask (.ask .nil)

theorem ItemActs.isItemRun {i : Item} (h : ItemActs eof as i) :
    IsItemRun ⟨i, tokensOf as, errorsOf eof as⟩ := by
  cases h with
  | imported hkw =>
    rw [tokensOf_keyword hkw]
    exact .imported hkw (.ask (.ask (.ask (.ask .nil))))
  | function hkw hparams hbody =>
    obtain ⟨hstmts⟩ := hbody
    have hlist := hparams.commaSeparated fun _ _ => ParamActs.isParamRun
    have hbodies := hstmts.sequence fun _ _ => StmtActs.isStmtRun
    rw [tokensOf_keyword hkw]
    exact .function hkw (.ask (.ask (.acts hlist (.ask (.ask (.ask (.ask
      (.acts hbodies (.ask .nil)))))))))
  | error => exact .error

theorem ManyActs.exists_itemRuns {R : List Act → Item → Prop} {items : List Item}
    (h : ManyActs (fun _ => false) R as items) (hR : ∀ as i, R as i → ItemActs eof as i) :
    ∃ runs : List (Run Item), runs.map Run.value = items ∧
      runs.flatMap Run.tokens = tokensOf as ∧ runs.flatMap Run.errors = errorsOf eof as ∧
      ∀ r ∈ runs, IsItemRun r := by
  induction h with
  | nil => exact ⟨[], rfl, rfl, rfl, by simp⟩
  | @cons t as bs i items _ hi _ ih =>
    obtain ⟨runs, hvalues, htokens, herrors, hruns⟩ := ih
    refine ⟨⟨i, tokensOf as, errorsOf eof as⟩ :: runs, ?_, ?_, ?_, ?_⟩
    · rw [List.map_cons, hvalues]
    · simp [htokens]
    · simp [herrors]
    · exact List.forall_mem_cons.mpr ⟨(hR _ _ hi).isItemRun, hruns⟩

end Acts

theorem IsItemRun.tokens_ne_nil {r : Run Item} (h : IsItemRun r) : r.tokens ≠ [] := by
  cases h <;> exact List.cons_ne_nil _ _

theorem IsItemRun.length_le_of_imported {r : Run Item} {decl : Import} (h : IsItemRun r)
    (hr : r.value = .imported decl) : r.tokens.length ≤ 5 := by
  cases h with
  | imported _ hus =>
    apply Nat.succ_le_succ
    refine hus.length_le ?_
    simp only [List.forall_mem_cons]
    exact ⟨⟨_, rfl⟩, ⟨_, rfl⟩, ⟨_, rfl⟩, ⟨_, rfl⟩, by simp⟩
  | function | error => cases hr

/-- Parsing ends at the end of the file with every token used once, since an item and a statement
use at least one token of what is in front of them. The tokens, and the errors with them, fall into
runs, one for each item in order, and each of at least one token. An import is read from at most
five tokens. -/
theorem parse_itemRuns (s : TokenStream) :
    (∀ t ts, 0 < (Parse.item.run s.eof (t :: ts)).used ∧
      0 < (Parse.stmt.run s.eof (t :: ts)).used) ∧
      (Parse.program.run s.eof s.tokens).used = s.tokens.length ∧
      ∃ runs : List (Run Item), runs.map Run.value = (parse s).program.items ∧
        runs.flatMap Run.tokens = s.tokens ∧ runs.flatMap Run.errors = (parse s).errors ∧
        ∀ r ∈ runs, IsItemRun r ∧ r.tokens ≠ [] ∧
          ∀ decl, r.value = .imported decl → r.tokens.length ≤ 5 := by
  obtain ⟨as, h⟩ := exists_acts s
  obtain ⟨runs, hvalues, htokens, herrors, hruns⟩ := h.items.exists_itemRuns fun _ _ hi => hi.2
  have hadvances : ∀ t ts, 0 < (Parse.item.run s.eof (t :: ts)).used ∧
      0 < (Parse.stmt.run s.eof (t :: ts)).used :=
    fun t ts => ⟨Parse.item_advances s.eof t ts, Parse.stmt_advances s.eof t ts⟩
  refine ⟨hadvances, h.used_eq, runs, hvalues, ?_, ?_, ?_⟩
  · rw [htokens, h.tokens_eq]
  · rw [herrors, h.errors_eq]
  · intro r hr
    have hrun := hruns r hr
    exact ⟨hrun, hrun.tokens_ne_nil, fun _ => hrun.length_le_of_imported⟩

end SourceCheck
