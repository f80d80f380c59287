import Mathlib.Logic.Relation
import SourceCheck.Tree.Program

/-! # What stands in a program

A program is a tree of nodes: its items, the statements of their bodies, the expressions of these
and the operands of the expressions. `OccursIn` relates a node to every tree that it stands in.
What holds of every node of a tree is found by going through the parts of each node in turn.
-/

namespace SourceCheck

inductive Node
  | program (p : Program)
  | item (i : Item)
  | stmt (s : Stmt)
  | expr (e : Expr)

namespace Node

/-- A node stands directly in another. -/
inductive PartOf : Node → Node → Prop
  | item {p : Program} {i : Item} : i ∈ p.items → PartOf (.item i) (.program p)
  | body {f : Function} {s : Stmt} : s ∈ f.body → PartOf (.stmt s) (.item (.function f))
  | initializer {type name : String} {e : Expr} :
      PartOf (.expr e) (.stmt (.declare type name (some e)))
  | argument {callee : String} {args : List Expr} {e : Expr} :
      e ∈ args → PartOf (.expr e) (.stmt (.invoke callee args))
  | returned {e : Expr} : PartOf (.expr e) (.stmt (.ret e))
  | lhs {op : BinaryOp} {lhs rhs : Expr} : PartOf (.expr lhs) (.expr (.binary op lhs rhs))
  | rhs {op : BinaryOp} {lhs rhs : Expr} : PartOf (.expr rhs) (.expr (.binary op lhs rhs))

/-- A node stands in another, at any depth. Every node occurs in itself. -/
def OccursIn : Node → Node → Prop := Relation.ReflTransGen PartOf

def All (P : Node → Prop) (n : Node) : Prop := ∀ m : Node, m.OccursIn n → P m

section Parts

variable {m : Node}

theorem partOf_program_iff {p : Program} :
    m.PartOf (.program p) ↔ ∃ i ∈ p.items, m = .item i := by
  constructor
  · intro h
    cases h with
    | item hi => exact ⟨_, hi, rfl⟩
  · rintro ⟨i, hi, rfl⟩
    exact .item hi

theorem partOf_function_iff {f : Function} :
    m.PartOf (.item (.function f)) ↔ ∃ s ∈ f.body, m = .stmt s := by
  constructor
  · intro h
    cases h with
    | body hs => exact ⟨_, hs, rfl⟩
  · rintro ⟨s, hs, rfl⟩
    exact .body hs

theorem partOf_stmt_iff {s : Stmt} : m.PartOf (.stmt s) ↔ ∃ e ∈ s.exprs, m = .expr e := by
  constructor
  · intro h
    cases h with
    | initializer => exact ⟨_, List.mem_singleton.mpr rfl, rfl⟩
    | argument he => exact ⟨_, he, rfl⟩
    | returned => exact ⟨_, List.mem_singleton.mpr rfl, rfl⟩
  · rintro ⟨e, he, rfl⟩
    cases s with
    | declare type name init =>
      cases Option.mem_toList.mp he
      exact .initializer
    | invoke => exact .argument he
    | ret =>
      cases List.mem_singleton.mp he
      exact .returned
    | foreign => cases he
    | error => cases he

theorem partOf_binary_iff {op : BinaryOp} {lhs rhs : Expr} :
    m.PartOf (.expr (.binary op lhs rhs)) ↔ m = .expr lhs ∨ m = .expr rhs := by
  constructor
  · intro h
    cases h with
    | lhs => exact .inl rfl
    | rhs => exact .inr rfl
  · rintro (rfl | rfl)
    · exact .lhs
    · exact .rhs

theorem OccursIn.exists_eq_expr {e : Expr} (h : m.OccursIn (.expr e)) :
    ∃ e' : Expr, m = .expr e' := by
  induction h using Relation.ReflTransGen.head_induction_on with
  | refl => exact ⟨e, rfl⟩
  | head hpart _ ih =>
    obtain ⟨e', rfl⟩ := ih
    cases hpart <;> exact ⟨_, rfl⟩

end Parts

section All

variable {P : Node → Prop} {n : Node}

theorem all_iff : n.All P ↔ P n ∧ ∀ m : Node, m.PartOf n → m.All P := by
  constructor
  · intro h
    exact ⟨h n .refl, fun m hm k hk => h k (hk.tail hm)⟩
  · rintro ⟨hn, hparts⟩ k hk
    rcases hk.cases_tail with rfl | ⟨m, hkm, hm⟩
    · exact hn
    · exact hparts m hm k hkm

theorem all_iff_of_parts {α : Type} {part : α → Node} {as : List α}
    (h : ∀ m : Node, m.PartOf n ↔ ∃ a ∈ as, m = part a) :
    n.All P ↔ P n ∧ ∀ a ∈ as, (part a).All P := by
  rw [all_iff]
  refine and_congr_right fun _ => ⟨fun hall a ha => hall _ ((h _).mpr ⟨a, ha, rfl⟩), ?_⟩
  intro hall m hm
  obtain ⟨a, ha, rfl⟩ := (h m).mp hm
  exact hall a ha

theorem all_program_iff {p : Program} :
    All P (.program p) ↔ P (.program p) ∧ ∀ i ∈ p.items, All P (.item i) :=
  all_iff_of_parts fun _ => partOf_program_iff

theorem all_function_iff {f : Function} :
    All P (.item (.function f)) ↔ P (.item (.function f)) ∧ ∀ s ∈ f.body, All P (.stmt s) :=
  all_iff_of_parts fun _ => partOf_function_iff

theorem all_stmt_iff {s : Stmt} :
    All P (.stmt s) ↔ P (.stmt s) ∧ ∀ e ∈ s.exprs, All P (.expr e) :=
  all_iff_of_parts fun _ => partOf_stmt_iff

theorem all_binary_iff {op : BinaryOp} {lhs rhs : Expr} :
    All P (.expr (.binary op lhs rhs)) ↔
      P (.expr (.binary op lhs rhs)) ∧ All P (.expr lhs) ∧ All P (.expr rhs) := by
  rw [all_iff]
  simp [partOf_binary_iff]

theorem all_iff_of_no_parts (h : ∀ m : Node, ¬ m.PartOf n) : n.All P ↔ P n := by
  rw [all_iff]
  simp [h]

theorem all_expr_iff_of_leaf {e : Expr} (h : ∀ op lhs rhs, e ≠ .binary op lhs rhs) :
    All P (.expr e) ↔ P (.expr e) := by
  apply all_iff_of_no_parts
  rintro m (_ | _ | _ | _ | _ | _ | _) <;> exact h _ _ _ rfl

theorem all_item_iff_of_leaf {i : Item} (h : ∀ f, i ≠ .function f) :
    All P (.item i) ↔ P (.item i) := by
  apply all_iff_of_no_parts
  rintro m (_ | _ | _ | _ | _ | _ | _)
  exact h _ rfl

end All

end Node

end SourceCheck
