import SourceCheck.Proofs.Parse.Recovery

/-! # Markers and errors

Where something cannot be read, parsing reports an error and leaves a marker in the tree. The two
correspond one to one: the markers of a program, in the order of the source, are those of its
errors, where a mismatch leaves none. The markers of a value are those that the acts of its
production leave, in order.
-/

namespace SourceCheck

open Grammar

variable {eof : Token}

inductive Marker
  | item
  | stmt
  | expr
  | operand
  deriving DecidableEq, Repr

/-- The marker that an error leaves behind. A mismatch leaves none. -/
def ParseErrorKind.marker? : ParseErrorKind → Option Marker
  | mismatch _ _ => none
  | unexpectedStart .topLevel _ => some .item
  | unexpectedStart .body _ => some .stmt
  | missingLeftOperand _ | expectedExpression _ | invalidLiteral _ _ => some .expr

theorem ParseErrorKind.marker?_eq_none_iff (kind : ParseErrorKind) :
    kind.marker? = none ↔ ∃ wanted found, kind = .mismatch wanted found := by
  cases kind with
  | unexpectedStart context found => cases context <;> simp [marker?]
  | _ => simp [marker?]

theorem ParseErrorKind.marker?_ne_operand (kind : ParseErrorKind) :
    kind.marker? ≠ some .operand := by
  cases kind with
  | unexpectedStart context found => cases context <;> simp [marker?]
  | _ => simp [marker?]

def markersOf (errors : List ParseError) : List Marker := errors.filterMap (·.kind.marker?)

@[simp] theorem markersOf_append (es es' : List ParseError) :
    markersOf (es ++ es') = markersOf es ++ markersOf es' :=
  List.filterMap_append

/-- The markers anywhere in an expression. If it is one itself, that is given. -/
def Expr.markersAs (whole : Marker) : Expr → List Marker
  | error => [whole]
  | binary _ lhs rhs => lhs.markersAs .operand ++ rhs.markersAs .operand
  | int _ | float _ | string _ | char _ | bool _ => []

def Expr.markers (e : Expr) : List Marker := e.markersAs .expr

def Stmt.markers : Stmt → List Marker
  | error => [.stmt]
  | s => s.exprs.flatMap Expr.markers

def Item.markers : Item → List Marker
  | imported _ => []
  | function decl => decl.body.flatMap Stmt.markers
  | error => [.item]

def Program.markers (p : Program) : List Marker := p.items.flatMap Item.markers

section ContainsError

theorem Expr.markersAs_eq_nil_iff (m m' : Marker) (e : Expr) :
    e.markersAs m = [] ↔ e.markersAs m' = [] := by
  cases e <;> simp [markersAs]

theorem Expr.anyError_eq_false_iff (todo : List Expr) :
    anyError todo = false ↔ ∀ e ∈ todo, e.markers = [] := by
  fun_induction anyError todo with
  | case1 => simp
  | case2 rest op lhs rhs ih =>
    have hl := markersAs_eq_nil_iff .operand .expr lhs
    have hr := markersAs_eq_nil_iff .operand .expr rhs
    simp only [List.forall_mem_cons] at ih ⊢
    rw [ih, markers, markers, markers, markersAs, List.append_eq_nil_iff, hl, hr]
    exact ⟨fun ⟨hr, hl, h⟩ => ⟨⟨hl, hr⟩, h⟩, fun ⟨⟨hl, hr⟩, h⟩ => ⟨hr, hl, h⟩⟩
  | case3 rest => simp [markers, markersAs]
  | case4 rest _ ih | case5 rest _ ih | case6 rest _ ih | case7 rest _ ih | case8 rest _ ih =>
    simpa [markers, markersAs] using ih

theorem Expr.containsError_eq_false_iff (e : Expr) :
    e.containsError = false ↔ e.markers = [] := by
  simp [containsError, anyError_eq_false_iff]

theorem Stmt.containsError_eq_false_iff (s : Stmt) :
    s.containsError = false ↔ s.markers = [] := by
  cases s <;> simp [containsError, markers, Expr.containsError_eq_false_iff]

theorem Item.containsError_eq_false_iff (i : Item) :
    i.containsError = false ↔ i.markers = [] := by
  cases i <;>
    simp [containsError, Function.containsError, markers, Stmt.containsError_eq_false_iff]

theorem Program.containsError_eq_false_iff (p : Program) :
    p.containsError = false ↔ p.markers = [] := by
  simp [containsError, markers, Item.containsError_eq_false_iff]

end ContainsError

section Reading

theorem Grammar.IsLiteral.markersAs {t : Token} {e : Expr} (h : IsLiteral t e) (m : Marker) :
    e.markersAs m = [] := by
  cases h <;> rfl

theorem Grammar.Links.markersAs {us : List Token} {links : List (BinaryOp × Expr)}
    (h : Links us links) : ∀ l ∈ links, ∀ m, l.2.markersAs m = [] := by
  induction h with
  | nil => simp
  | cons _ hu _ ih => exact List.forall_mem_cons.mpr ⟨hu.markersAs, ih⟩

theorem Grammar.Chain.Spelled.markers_tree {us : List Token} {c : Chain} (h : c.Spelled us) :
    c.tree.markers = [] := by
  have hall : c.All fun e => ∀ m, e.markersAs m = [] := by
    obtain ⟨ht, hl⟩ := h
    exact ⟨ht.markersAs, hl.markersAs⟩
  refine Chain.tree_induction ?_ hall .expr
  intro op lhs rhs hlhs hrhs m
  simp [Expr.markersAs, hlhs, hrhs]

theorem NoOperand.markersOf {eof : Token} {ts : List Token} {e : ParseError} {n : Nat}
    (h : NoOperand eof ts e n) : markersOf [e] = [.expr] := by
  cases h <;> rfl

end Reading

def Act.markers (eof : Token) (a : Act) : List Marker := markersOf (a.errors eof)

theorem markersOf_errorsOf (as : List Act) :
    markersOf (errorsOf eof as) = as.flatMap (Act.markers eof) := by
  induction as with
  | nil => rfl
  | cons a as ih => rw [errorsOf_cons, markersOf_append, ih, List.flatMap_cons, Act.markers]

section Acts

@[simp] theorem Act.markers_look (n : Nat) (seen : Option Token) :
    (look n seen).markers eof = [] := rfl

@[simp] theorem Act.markers_ask (wanted : Expectation) (seen : Option Token) :
    (ask wanted seen).markers eof = [] := by
  rw [markers, errors]
  split <;> rfl

@[simp] theorem Act.markers_accept (kind : TokenKind) (seen : Option Token) :
    (accept kind seen).markers eof = [] := rfl

@[simp] theorem Act.markers_callee (t : Token) : (callee t).markers eof = [] := by
  rw [markers, errors]
  split <;> rfl

variable {as : List Act}

theorem ExprActs.markers_eq {e : Expr} (h : ExprActs eof as e) :
    as.flatMap (Act.markers eof) = e.markers := by
  obtain @⟨ts, us, result, -, hread⟩ := h
  have hr : ReadsChain .lowest eof ts (readExpr eof ts) := readsChain ..
  generalize readExpr eof ts = reading at hr hread
  cases hr with
  | ok hc =>
    obtain ⟨rfl, -⟩ := Reading.mk.inj hread
    exact hc.markers_tree.symm
  | error _ hn =>
    obtain ⟨rfl, -⟩ := Reading.mk.inj hread
    exact (List.append_nil _).trans hn.markersOf

theorem InitActs.markers_eq {init : Option Expr} (h : InitActs eof as init) :
    as.flatMap (Act.markers eof) = init.toList.flatMap Expr.markers := by
  cases h with
  | absent => simp
  | given _ he => simp [he.markers_eq]

theorem StmtActs.markers_eq {s : Stmt} (h : StmtActs eof as s) :
    as.flatMap (Act.markers eof) = s.markers := by
  cases h with
  | ret _ he => simp [he.markers_eq, Stmt.markers, Stmt.exprs]
  | foreign => simp [Stmt.markers, Stmt.exprs]
  | invoke _ _ hargs =>
    have hlist := hargs.flatMap_eq (by simp) (by simp) fun _ _ => ExprActs.markers_eq
    simp [hlist, Stmt.markers, Stmt.exprs]
  | declare _ hinit => simp [hinit.markers_eq, Stmt.markers, Stmt.exprs]
  | error => rfl

theorem ParamActs.markers_eq {p : Param} (h : ParamActs eof as p) :
    as.flatMap (Act.markers eof) = [] := by
  cases h
  simp

theorem ItemActs.markers_eq {i : Item} (h : ItemActs eof as i) :
    as.flatMap (Act.markers eof) = i.markers := by
  cases h with
  | imported => simp [Item.markers]
  | function _ hparams hbody =>
    obtain ⟨hstmts⟩ := hbody
    have hnone := hparams.flatMap_eq (by simp) (by simp) fun _ _ => ParamActs.markers_eq
    have hlist := hstmts.flatMap_eq (by simp) fun _ _ => StmtActs.markers_eq
    simp [hnone, hlist, Item.markers]
  | error => rfl

end Acts

/-- The markers of a program are those of its errors, one for each that is no mismatch, and in
the same order. So none is an operand, and a program holds a marker exactly if an error other
than a mismatch is reported. -/
theorem parse_markers (s : TokenStream) :
    (parse s).errors.filterMap (·.kind.marker?) = (parse s).program.markers ∧
      Marker.operand ∉ (parse s).program.markers ∧
      ((parse s).program.containsError = true ↔
        ∃ e ∈ (parse s).errors, ∀ wanted found, e.kind ≠ .mismatch wanted found) := by
  have h : markersOf (parse s).errors = (parse s).program.markers := by
    obtain ⟨as, h⟩ := exists_acts s
    rw [h.errors_eq, markersOf_errorsOf]
    exact h.items.flatMap_eq (by simp) fun _ _ hi => hi.2.markers_eq
  refine ⟨h, ?_, ?_⟩
  · rw [← h]
    intro hmem
    obtain ⟨e, -, he⟩ := List.mem_filterMap.mp hmem
    exact e.kind.marker?_ne_operand he
  · rw [← Bool.not_eq_false, Program.containsError_eq_false_iff, ← h, markersOf,
      List.filterMap_eq_nil_iff]
    simp [ParseErrorKind.marker?_eq_none_iff]

end SourceCheck
