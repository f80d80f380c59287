import SourceCheck.Proofs.Literal.Value
import SourceCheck.Proofs.Literal.Written
import SourceCheck.Proofs.Tree.Nodes
import SourceCheck.Tree.Equality

/-! # Equality of programs is a partial equivalence

Trees are compared through a form of their own: two of them are equal exactly if no number in
either lacks a value, and they become the same tree when every zero loses its sign. From this it
follows at once that equality is symmetric and transitive, and that a tree equals itself exactly
if all its numbers have values. Those that are written in a source always do.
-/

namespace SourceCheck

open Literal

/-- A comparison that holds of two things exactly if both are good and have the same form. -/
def ComparesBy {α β : Type} (r : α → α → Bool) (good : α → Prop) (form : α → β) : Prop :=
  ∀ a b, r a b = true ↔ good a ∧ good b ∧ form a = form b

namespace ComparesBy

variable {α β : Type} {r : α → α → Bool} {good : α → Prop} {form : α → β}

theorem symm (h : ComparesBy r good form) {a b : α} (hab : r a b = true) : r b a = true := by
  obtain ⟨ha, hb, hform⟩ := (h a b).mp hab
  exact (h b a).mpr ⟨hb, ha, hform.symm⟩

theorem trans (h : ComparesBy r good form) {a b c : α} (hab : r a b = true)
    (hbc : r b c = true) : r a c = true := by
  obtain ⟨ha, -, hform⟩ := (h a b).mp hab
  obtain ⟨-, hc, hform'⟩ := (h b c).mp hbc
  exact (h a c).mpr ⟨ha, hc, hform.trans hform'⟩

theorem self_iff (h : ComparesBy r good form) (a : α) : r a a = true ↔ good a := by
  rw [h a a]
  exact ⟨And.left, fun ha => ⟨ha, ha, rfl⟩⟩

theorem list (h : ComparesBy r good form) :
    ComparesBy (·.isEqv · r) (fun as : List α => ∀ a ∈ as, good a) (List.map form) := by
  intro as bs
  induction as generalizing bs with
  | nil => cases bs <;> simp [List.isEqv]
  | cons a as ih =>
    cases bs with
    | nil => simp [List.isEqv]
    | cons b bs =>
      have hab := h a b
      have htail := ih bs
      simp only [List.isEqv, Bool.and_eq_true, List.forall_mem_cons, List.map_cons,
        List.cons.injEq, hab, htail]
      tauto

end ComparesBy

section Canonical

/-- An expression without the signs of its zeros. -/
def Expr.canonical : Expr → Expr
  | binary op lhs rhs => binary op lhs.canonical rhs.canonical
  | float x => float x.canonical
  | e => e

def Stmt.canonical : Stmt → Stmt
  | declare type name init => declare type name (init.map Expr.canonical)
  | invoke callee args => invoke callee (args.map Expr.canonical)
  | ret value => ret value.canonical
  | s => s

def Item.canonical : Item → Item
  | function f => function { f with body := f.body.map Stmt.canonical }
  | i => i

def Program.canonical (p : Program) : Program := ⟨p.items.map Item.canonical⟩

end Canonical

/-- A node that is no number, or a number with a value. -/
def Node.HasValue : Node → Prop
  | expr (.float x) => x.isNaN = false
  | _ => True

section Comparison

theorem Literal.Single.comparesBy : ComparesBy sameValue (·.isNaN = false) canonical := by
  intro x y
  rw [sameValue_iff, canonical_eq_iff]

theorem Expr.sameValue_eq (a b : Expr) : a.sameValue b = match a, b with
    | binary op lhs rhs, binary op' lhs' rhs' =>
      op == op' && lhs.sameValue lhs' && rhs.sameValue rhs'
    | int n, int n' => n == n'
    | float x, float x' => x.sameValue x'
    | string s, string s' => s == s'
    | char c, char c' => c == c'
    | bool b, bool b' => b == b'
    | error, error => true
    | _, _ => false := by
  cases a <;> cases b <;> rfl

theorem Expr.comparesBy :
    ComparesBy sameValue (fun e => Node.All Node.HasValue (.expr e)) canonical := by
  intro a b
  induction a generalizing b with
  | binary op lhs rhs hlhs hrhs =>
    rw [sameValue_eq]
    cases b with
    | binary op' lhs' rhs' =>
      simp only [canonical, Bool.and_eq_true, beq_iff_eq, hlhs, hrhs, Node.all_binary_iff,
        Node.HasValue, true_and, binary.injEq]
      tauto
    | _ => simp [canonical]
  | float x =>
    rw [sameValue_eq]
    cases b with
    | float y =>
      have hxy := Single.comparesBy x y
      simp [canonical, Node.all_expr_iff_of_leaf, Node.HasValue, hxy]
    | _ => simp [canonical]
  | _ =>
    rw [sameValue_eq]
    cases b <;> simp [canonical, Node.all_expr_iff_of_leaf, Node.HasValue]

theorem Stmt.comparesBy :
    ComparesBy sameValue (fun s => Node.All Node.HasValue (.stmt s)) canonical := by
  intro s s'
  simp only [Node.all_stmt_iff]
  cases s with
  | declare type name init =>
    cases s' with
    | declare type' name' init' =>
      have hlist := Expr.comparesBy.list init.toList init'.toList
      have hform : init.toList.map Expr.canonical = init'.toList.map Expr.canonical ↔
          init.map Expr.canonical = init'.map Expr.canonical := by
        cases init <;> cases init' <;> simp
      simp only [sameValue, canonical, Bool.and_eq_true, beq_iff_eq, hlist, hform, Node.HasValue,
        true_and, exprs, declare.injEq]
      tauto
    | _ => simp [sameValue, canonical]
  | invoke callee args =>
    cases s' with
    | invoke callee' args' =>
      have hlist := Expr.comparesBy.list args args'
      simp only [sameValue, canonical, Bool.and_eq_true, beq_iff_eq, hlist, Node.HasValue,
        true_and, exprs, invoke.injEq]
      tauto
    | _ => simp [sameValue, canonical]
  | ret value =>
    cases s' with
    | ret value' =>
      have hvalue := Expr.comparesBy value value'
      simp [sameValue, canonical, hvalue, Node.HasValue, exprs]
    | _ => simp [sameValue, canonical]
  | _ => cases s' <;> simp [sameValue, canonical, Node.HasValue, exprs]

theorem Item.comparesBy :
    ComparesBy sameValue (fun i => Node.All Node.HasValue (.item i)) canonical := by
  intro i i'
  cases i with
  | function f =>
    cases i' with
    | function g =>
      have hlist := Stmt.comparesBy.list f.body g.body
      simp only [sameValue, Function.sameValue, canonical, Bool.and_eq_true, beq_iff_eq, hlist,
        Node.all_function_iff, Node.HasValue, true_and, function.injEq, Function.mk.injEq]
      tauto
    | _ => simp [sameValue, canonical]
  | _ => cases i' <;> simp [sameValue, canonical, Node.all_item_iff_of_leaf, Node.HasValue]

theorem Program.comparesBy :
    ComparesBy sameValue (fun p => Node.All Node.HasValue (.program p)) canonical := by
  intro p q
  have hlist := Item.comparesBy.list p.items q.items
  simp only [sameValue, canonical, hlist, Node.all_program_iff, Node.HasValue, true_and,
    Program.mk.injEq]

end Comparison

section Sources

def Node.fields : Node → List Field
  | program p => p.fields
  | item i => i.fields
  | stmt s => s.fields
  | expr e => e.fields

theorem Node.PartOf.fields_subset {m n : Node} (h : m.PartOf n) : m.fields ⊆ n.fields := by
  intro f hf
  cases h with
  | item hi => exact List.mem_flatMap.mpr ⟨_, hi, hf⟩
  | @body decl s hs =>
    have hbody : f ∈ decl.body.flatMap Stmt.fields := List.mem_flatMap.mpr ⟨s, hs, hf⟩
    simp only [fields, Item.fields, Function.fields, List.mem_cons, List.mem_append, hbody, or_true]
  | @argument callee args e he =>
    have hargs : f ∈ args.flatMap Expr.fields := List.mem_flatMap.mpr ⟨e, he, hf⟩
    exact List.mem_cons_of_mem _ hargs
  | @initializer type name e =>
    have hinit : f ∈ (some e).toList.flatMap Expr.fields :=
      List.mem_flatMap.mpr ⟨e, List.mem_singleton.mpr rfl, hf⟩
    exact List.mem_cons_of_mem _ (List.mem_cons_of_mem _ hinit)
  | returned => exact hf
  | lhs =>
    simp only [fields, Expr.fields, Expr.symbols, List.map_append, List.mem_append]
    exact .inl hf
  | rhs =>
    simp only [fields, Expr.fields, Expr.symbols, List.map_append, List.mem_append]
    exact .inr (List.mem_cons_of_mem _ hf)

theorem Node.OccursIn.fields_subset {m n : Node} (h : m.OccursIn n) : m.fields ⊆ n.fields := by
  induction h with
  | refl => exact List.Subset.refl _
  | tail _ hpart ih => exact List.Subset.trans ih hpart.fields_subset

theorem all_hasValue_parse_lex (source : String) :
    Node.All Node.HasValue (.program (parse (lex source).stream).program) := by
  intro m hm
  cases m with
  | expr e =>
    cases e with
    | float x =>
      have hmem : .symbol (.literal (.float x)) ∈ (parse (lex source).stream).program.fields :=
        hm.fields_subset (List.mem_singleton.mpr rfl)
      exact (isUnsigned_of_mem_fields hmem).1
    | _ => trivial
  | _ => trivial

end Sources

theorem Program.all_hasValue_iff (p : Program) : Node.All Node.HasValue (.program p) ↔
    ∀ x : Single, Node.OccursIn (.expr (.float x)) (.program p) → x.isNaN = false := by
  constructor
  · exact fun h x hx => h _ hx
  · intro h m hm
    cases m with
    | expr e =>
      cases e with
      | float x => exact h x hm
      | _ => trivial
    | _ => trivial

/-- Numbers are compared by their values, and programs with them by a partial equivalence. Only a
program in which some number has no value differs from itself, and none that is written in a source
does. -/
theorem sameValue_partialEquivalence :
    (∀ x y : Single, x.sameValue y = true ↔ ∃ v, x.value? = some v ∧ y.value? = some v) ∧
    (∀ p q : Program, p.sameValue q = true → q.sameValue p = true) ∧
    (∀ p q r : Program, p.sameValue q = true → q.sameValue r = true → p.sameValue r = true) ∧
    (∀ p : Program, p.sameValue p = true ↔
      ∀ x : Single, Node.OccursIn (.expr (.float x)) (.program p) → x.isNaN = false) ∧
    ∀ source : String,
      (parse (lex source).stream).program.sameValue (parse (lex source).stream).program = true := by
  refine ⟨fun x y => Single.sameValue_iff_value, fun p q => Program.comparesBy.symm,
    fun p q r => Program.comparesBy.trans, ?_, ?_⟩
  · intro p
    rw [Program.comparesBy.self_iff, Program.all_hasValue_iff]
  · intro source
    exact (Program.comparesBy.self_iff _).mpr (all_hasValue_parse_lex source)

def returning (bits : UInt32) : Program :=
  ⟨[.function ⟨"f", [], "float", [.ret (.float ⟨bits⟩)]⟩]⟩

theorem sameValue_partialEquivalence_zeros :
    let zero := returning 0
    let negative := returning 0x80000000
    (zero.sameValue negative = true ∧ negative.sameValue zero = true) ∧
      zero.sameValue zero = true ∧
      Node.OccursIn (.expr (.float ⟨0⟩)) (.program zero) ∧ (⟨0⟩ : Single).isNaN = false := by
  intro zero negative
  have h : zero.sameValue negative = true := by decide
  have hsymm := sameValue_partialEquivalence.2.1 zero negative h
  have hself := sameValue_partialEquivalence.2.2.1 zero negative zero h hsymm
  have hoccurs : Node.OccursIn (.expr (.float ⟨0⟩)) (.program zero) :=
    .tail (.tail (.single .returned) (.body (List.mem_singleton.mpr rfl)))
      (.item (List.mem_singleton.mpr rfl))
  exact ⟨⟨h, hsymm⟩, hself, hoccurs,
    (sameValue_partialEquivalence.2.2.2.1 zero).mp hself _ hoccurs⟩

end SourceCheck
