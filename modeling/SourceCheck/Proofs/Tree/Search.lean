import Mathlib.Logic.Basic
import SourceCheck.Proofs.Parse.Markers
import SourceCheck.Proofs.Tree.Nodes

/-! # The search for markers

A program contains an error exactly if a marker stands somewhere in it, however the program came
about. Within an expression the search keeps a list of trees that are still to visit. The list may
grow from turn to turn, but the trees on it lose one node each time, so the search comes to an end.
-/

namespace SourceCheck

def Node.IsMarker : Node → Prop
  | item .error | stmt .error | expr .error => True
  | _ => False

section Termination

namespace Expr

/-- One turn of the search: the answer, or the trees that are still to visit after it. -/
def turn : List Expr → Bool ⊕ List Expr
  | [] => .inl false
  | binary _ lhs rhs :: rest => .inr (rhs :: lhs :: rest)
  | error :: _ => .inl true
  | _ :: rest => .inr rest

def searchWithin : Nat → List Expr → Option Bool
  | 0, _ => none
  | turns + 1, todo =>
    match turn todo with
    | .inl answer => some answer
    | .inr todo => searchWithin turns todo

variable {todo todo' : List Expr}

theorem anyError_eq_turn (todo : List Expr) : anyError todo = (turn todo).elim id anyError := by
  cases todo with
  | nil => rw [anyError]; rfl
  | cons e rest => cases e <;> rw [anyError] <;> rfl

/-- A turn takes one node off the trees that are still to visit. -/
theorem totalSize_of_turn (h : turn todo = .inr todo') : totalSize todo' + 1 = totalSize todo := by
  cases todo with
  | nil => cases h
  | cons e rest =>
    cases e <;> cases h <;> simp only [totalSize, size] <;> omega

/-- A turn for each node is enough, and one more to find nothing left. -/
theorem searchWithin_eq_anyError {turns : Nat} (h : totalSize todo < turns) :
    searchWithin turns todo = some (anyError todo) := by
  induction turns generalizing todo with
  | zero => exact absurd h (Nat.not_lt_zero _)
  | succ turns ih =>
    rw [searchWithin, anyError_eq_turn]
    cases hturn : turn todo with
    | inl answer => rfl
    | inr todo' =>
      have hsize := totalSize_of_turn hturn
      exact ih (by omega)

end Expr

end Termination

section Occurrence

theorem Expr.markersAs_eq_nil_iff_all (whole : Marker) (e : Expr) :
    e.markersAs whole = [] ↔ Node.All (¬ ·.IsMarker) (.expr e) := by
  induction e generalizing whole with
  | binary op lhs rhs hlhs hrhs =>
    rw [Node.all_binary_iff, markersAs, List.append_eq_nil_iff, hlhs, hrhs]
    simp [Node.IsMarker]
  | _ => simp [markersAs, Node.all_expr_iff_of_leaf, Node.IsMarker]

theorem Stmt.markers_eq_nil_iff (s : Stmt) :
    s.markers = [] ↔ Node.All (¬ ·.IsMarker) (.stmt s) := by
  rw [Node.all_stmt_iff]
  cases s with
  | error => simp [markers, Node.IsMarker]
  | _ => simp [markers, Node.IsMarker, Expr.markers, Expr.markersAs_eq_nil_iff_all]

theorem Item.markers_eq_nil_iff (i : Item) :
    i.markers = [] ↔ Node.All (¬ ·.IsMarker) (.item i) := by
  cases i with
  | function f =>
    rw [Node.all_function_iff]
    simp [markers, Node.IsMarker, Stmt.markers_eq_nil_iff]
  | _ => simp [markers, Node.all_item_iff_of_leaf, Node.IsMarker]

theorem Program.markers_eq_nil_iff (p : Program) :
    p.markers = [] ↔ Node.All (¬ ·.IsMarker) (.program p) := by
  rw [Node.all_program_iff]
  simp [markers, Node.IsMarker, Item.markers_eq_nil_iff]

theorem Node.all_not_isMarker_expr_iff (e : Expr) :
    All (¬ ·.IsMarker) (.expr e) ↔ ¬ OccursIn (.expr .error) (.expr e) := by
  constructor
  · intro h hoccurs
    exact h _ hoccurs trivial
  · intro h m hm hmarker
    obtain ⟨e', rfl⟩ := hm.exists_eq_expr
    cases e' with
    | error => exact h hm
    | _ => exact hmarker

end Occurrence

/-- The search through an expression comes to an end, after no more than one turn for each node
and one, and it finds a marker exactly if one stands somewhere in the tree. The same holds of
programs, with the markers of items, statements and expressions. -/
theorem containsError_iff_occurs :
    (∀ e : Expr, Expr.searchWithin (e.size + 1) [e] = some e.containsError ∧
      (e.containsError = true ↔ Node.OccursIn (.expr .error) (.expr e))) ∧
    ∀ p : Program, p.containsError = true ↔ ∃ m : Node, m.IsMarker ∧ m.OccursIn (.program p) := by
  constructor
  · intro e
    refine ⟨Expr.searchWithin_eq_anyError (Nat.lt_succ_self _), ?_⟩
    rw [← Bool.not_eq_false, Expr.containsError_eq_false_iff, Expr.markers,
      Expr.markersAs_eq_nil_iff_all, Node.all_not_isMarker_expr_iff, not_not]
  · intro p
    rw [← Bool.not_eq_false, Program.containsError_eq_false_iff, Program.markers_eq_nil_iff]
    simp only [Node.All, not_forall, not_not, exists_prop, and_comm]

end SourceCheck
