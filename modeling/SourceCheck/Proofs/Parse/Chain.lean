import SourceCheck.Grammar.Chain
import SourceCheck.Parse.Expression

/-! # Reading chains

Precedence climbing reads the longest chain of literals and operators. Its tree is the tree of
the chain, and its error stands where the chain asks for a literal that is not there.
-/

namespace SourceCheck

open Grammar

theorem operand_eq_value_iff {t : Token} {e : Expr} :
    t.operand = .value e ↔ IsLiteral t e := by
  constructor
  · intro h
    unfold Token.operand at h
    split at h
    next hk => cases h; exact .true hk
    next hk => cases h; exact .false hk
    next hk =>
      cases hn : Literal.integer? t.text <;> simp [hn, Operand.ofLiteral] at h
      exact h ▸ .int hk hn
    next hk =>
      cases hx : Literal.single? t.text <;> simp [hx, Operand.ofLiteral] at h
      exact h ▸ .float hk hx
    next hk => cases h; exact .string hk
    next hk =>
      cases hc : character? t.text with
      | none => simp [hc, Operand.ofLiteral] at h
      | some c =>
        simp only [hc, Option.map_some, Operand.ofLiteral, Operand.value.injEq] at h
        unfold character? at hc
        split at hc
        next d hd => cases hc; exact h ▸ .char hk hd
        next => cases hc
    next => cases h
    next => cases h
  · intro h
    cases h with
    | true hk => simp [Token.operand, hk]
    | false hk => simp [Token.operand, hk]
    | int hk hn => simp [Token.operand, hk, hn, Operand.ofLiteral]
    | float hk hx => simp [Token.operand, hk, hx, Operand.ofLiteral]
    | string hk => simp [Token.operand, hk]
    | char hk hc => simp [Token.operand, hk, character?, hc, Operand.ofLiteral]

theorem operand_eq_operator_iff {t : Token} {op : BinaryOp} :
    t.operand = .operator op ↔ t.kind = .operator op := by
  constructor
  · intro h
    unfold Token.operand at h
    split at h
    next => cases h
    next => cases h
    next => cases hn : Literal.integer? t.text <;> simp [hn, Operand.ofLiteral] at h
    next => cases hx : Literal.single? t.text <;> simp [hx, Operand.ofLiteral] at h
    next => cases h
    next => cases hc : character? t.text <;> simp [hc, Operand.ofLiteral] at h
    next hk => cases h; exact hk
    next => cases h
  · intro h
    simp [Token.operand, h]

theorem Grammar.IsLiteral.unique {t : Token} {e e' : Expr} (h : IsLiteral t e)
    (h' : IsLiteral t e') : e = e' := by
  have := (operand_eq_value_iff.mpr h).symm.trans (operand_eq_value_iff.mpr h')
  exact Operand.value.inj this

theorem Grammar.IsLiteral.not_operator {t : Token} {e : Expr} (h : IsLiteral t e)
    (op : BinaryOp) : t.kind ≠ .operator op := by
  intro hk
  have := (operand_eq_value_iff.mpr h).symm.trans (operand_eq_operator_iff.mpr hk)
  cases this

namespace Grammar.Chain

variable {x y lhs : Expr} {links more : List (BinaryOp × Expr)} {op : BinaryOp}

/-- Only the first operand of the first piece depends on the first operand of a chain. -/
theorem split_eq (x y : Expr) (links : List (BinaryOp × Expr)) :
    split x links = (⟨x, (split y links).1.rest⟩, (split y links).2) := by
  cases links with
  | nil => rfl
  | cons link rest =>
    obtain ⟨op, e⟩ := link
    simp only [split]
    split <;> rfl

theorem split_append (x y : Expr) (hl : ∀ l ∈ links, l.1.level = .factor)
    (hm : ∀ l ∈ more.head?, l.1.level = .term) :
    split x (links ++ more) = (⟨x, links⟩, (split y more).2) := by
  induction links generalizing x with
  | nil =>
    cases more with
    | nil => rfl
    | cons l more =>
      have ht : l.1.level = .term := hm l (by simp)
      simp [split, ht]
  | cons l links ih =>
    have hf : l.1.level = .factor := hl l (by simp)
    have hr := ih l.2 (fun m hm => hl m (List.mem_cons_of_mem _ hm))
    simp [split, hr, hf]

theorem tree_eq_fold (hl : ∀ l ∈ links, l.1.level = .factor) :
    tree ⟨x, links⟩ = fold ⟨x, links⟩ := by
  have h : split x (links ++ []) = _ := split_append x x hl (by simp)
  rw [List.append_nil] at h
  simp only [tree, h, split, List.map_nil]
  rfl

theorem tree_cons_factor (h : op.level = .factor) :
    tree ⟨lhs, (op, x) :: links⟩ = tree ⟨.binary op lhs x, links⟩ := by
  have hs := split_eq (.binary op lhs x) x links
  have hx := split_eq x lhs links
  simp only [tree, split, h, reduceCtorEq, if_false, hs]
  rw [hx]
  rfl

theorem tree_cons_term (h : op.level = .term) (hl : ∀ l ∈ links, l.1.level = .factor)
    (hm : ∀ l ∈ more.head?, l.1.level = .term) :
    tree ⟨lhs, (op, x) :: (links ++ more)⟩ = tree ⟨.binary op lhs (fold ⟨x, links⟩), more⟩ := by
  have hs := split_append x x hl hm
  have hp : split (.binary op lhs (fold ⟨x, links⟩)) ([] ++ more) = _ :=
    split_append _ x (by simp) hm
  rw [List.nil_append] at hp
  simp only [tree, split, hs, h, hp, if_true, List.map_cons]
  rfl

/-- An operator takes the chain that is read at its own level as its right operand. -/
theorem tree_cons_append (hl : ∀ l ∈ links, l.1.continues op.level = true)
    (hm : ∀ l ∈ more.head?, l.1.continues op.level = false) :
    tree ⟨lhs, (op, x) :: (links ++ more)⟩ = tree ⟨.binary op lhs (tree ⟨x, links⟩), more⟩ := by
  cases h : op.level with
  | lowest => cases op <;> cases h
  | term =>
    have hl' : ∀ l ∈ links, l.1.level = .factor := by
      intro l hmem
      have hc := hl l hmem
      rw [h] at hc
      revert hc
      cases l.1 <;> decide
    have hm' : ∀ l ∈ more.head?, l.1.level = .term := by
      intro l hmem
      have hc := hm l hmem
      rw [h] at hc
      revert hc
      cases l.1 <;> decide
    rw [tree_cons_term h hl' hm', tree_eq_fold hl']
  | factor =>
    have hn : links = [] := by
      apply List.eq_nil_iff_forall_not_mem.mpr
      intro l hmem
      have hc := hl l hmem
      rw [h] at hc
      revert hc
      cases l.1 <;> decide
    subst hn
    rw [List.nil_append, tree_cons_factor h]
    rfl

def All (P : Expr → Prop) (c : Chain) : Prop := P c.first ∧ ∀ l ∈ c.rest, P l.2

variable {P : Expr → Prop} {c : Chain}

theorem fold_induction (hb : ∀ op lhs rhs, P lhs → P rhs → P (.binary op lhs rhs))
    (h : c.All P) : P c.fold := by
  obtain ⟨x, links⟩ := c
  induction links generalizing x with
  | nil => exact h.1
  | cons l links ih =>
    obtain ⟨hx, hl⟩ := h
    obtain ⟨hl, hlinks⟩ := List.forall_mem_cons.mp hl
    exact ih _ ⟨hb l.1 x l.2 hx hl, hlinks⟩

theorem all_split (x : Expr) (links : List (BinaryOp × Expr)) (h : All P ⟨x, links⟩) :
    (split x links).1.All P ∧ ∀ p ∈ (split x links).2, p.2.All P := by
  induction links generalizing x with
  | nil => exact ⟨h, by simp [split]⟩
  | cons l links ih =>
    obtain ⟨hx, hl⟩ := h
    obtain ⟨hl, hlinks⟩ := List.forall_mem_cons.mp hl
    obtain ⟨hhead, hmore⟩ := ih l.2 ⟨hl, hlinks⟩
    simp only [split]
    split
    · exact ⟨⟨hx, by simp⟩, List.forall_mem_cons.mpr ⟨hhead, hmore⟩⟩
    · exact ⟨⟨hx, List.forall_mem_cons.mpr hhead⟩, hmore⟩

theorem tree_induction (hb : ∀ op lhs rhs, P lhs → P rhs → P (.binary op lhs rhs))
    (h : c.All P) : P c.tree := by
  obtain ⟨hhead, hmore⟩ := all_split c.first c.rest h
  refine fold_induction hb ⟨fold_induction hb hhead, ?_⟩
  rintro l hl
  obtain ⟨p, hp, rfl⟩ := List.mem_map.mp hl
  exact fold_induction hb (hmore p hp)

end Grammar.Chain

/-- Tokens after which a literal is asked for: none, or a chain and an operator. -/
inductive AwaitsOperand : List Token → Prop
  | nil : AwaitsOperand []
  | cons {t u : Token} {ts : List Token} {e : Expr} {op : BinaryOp} : IsLiteral t e →
      u.kind = .operator op → AwaitsOperand ts → AwaitsOperand (t :: u :: ts)

/-- Tokens that do not start with a literal, the error that this is, and how many of them the
error uses. -/
inductive NoOperand (eof : Token) : List Token → ParseError → Nat → Prop
  | finished : NoOperand eof [] (.expectedExpression eof) 0
  | malformed {t : Token} {ts : List Token} {kind : LiteralKind} : t.operand = .malformed kind →
      NoOperand eof (t :: ts) (.atToken t (.invalidLiteral kind t.text)) 1
  | operator {t : Token} {ts : List Token} {op : BinaryOp} : t.kind = .operator op →
      NoOperand eof (t :: ts) (.atToken t (.missingLeftOperand op)) 1
  | absent {t : Token} {ts : List Token} : t.operand = .absent →
      NoOperand eof (t :: ts) (.expectedExpression t) 0

/-- Tokens that do not continue an expression that is read at a level. -/
def Level.Stops (level : Level) (ts : List Token) : Prop :=
  ∀ t ∈ ts.head?, ∀ op, t.kind = .operator op → op.continues level = false

/-- What is read at a level: the longest chain of operators that continue it, or the error where
such a chain has no literal. -/
inductive ReadsChain (level : Level) (eof : Token) : List Token → Reading → Prop
  | ok {us rest : List Token} {c : Chain} : c.Spelled us →
      (∀ l ∈ c.rest, l.1.continues level = true) → level.Stops rest →
      ReadsChain level eof (us ++ rest) ⟨.ok c.tree, us.length⟩
  | error {us rest : List Token} {e : ParseError} {n : Nat} : AwaitsOperand us →
      NoOperand eof rest e n → ReadsChain level eof (us ++ rest) ⟨.error e, us.length + n⟩

inductive ExtendsChain (level : Level) (lhs : Expr) (eof : Token) : List Token → Reading → Prop
  | ok {us rest : List Token} {links : List (BinaryOp × Expr)} : Links us links →
      (∀ l ∈ links, l.1.continues level = true) → level.Stops rest →
      ExtendsChain level lhs eof (us ++ rest) ⟨.ok (Chain.tree ⟨lhs, links⟩), us.length⟩
  | error {t : Token} {us rest : List Token} {op : BinaryOp} {e : ParseError} {n : Nat} :
      t.kind = .operator op → AwaitsOperand us → NoOperand eof rest e n →
      ExtendsChain level lhs eof (t :: (us ++ rest)) ⟨.error e, us.length + n + 1⟩

theorem BinaryOp.continues_of_continues {op op' : BinaryOp} {level : Level}
    (h : op.continues level = true) (h' : op'.continues op.level = true) :
    op'.continues level = true := by
  simp only [continues, decide_eq_true_eq] at *
  exact Nat.lt_trans h h'

theorem Grammar.Links.append {us vs : List Token} {links more : List (BinaryOp × Expr)}
    (h : Links us links) (h' : Links vs more) : Links (us ++ vs) (links ++ more) := by
  induction h with
  | nil => exact h'
  | cons ht hu _ ih => exact .cons ht hu ih

theorem Grammar.Links.awaits {us vs : List Token} {links : List (BinaryOp × Expr)} {t u : Token}
    {e : Expr} {op : BinaryOp} (h : Links us links) (ht : IsLiteral t e)
    (hu : u.kind = .operator op) (hv : AwaitsOperand vs) :
    AwaitsOperand (t :: (us ++ u :: vs)) := by
  induction h generalizing t e with
  | nil => exact .cons ht hu hv
  | cons hop hlit _ ih => exact .cons ht hop (ih hlit)

theorem ExtendsChain.of_stops {level : Level} {lhs : Expr} {eof : Token} {ts : List Token}
    (h : level.Stops ts) : ExtendsChain level lhs eof ts ⟨.ok lhs, 0⟩ :=
  .ok .nil (by simp) h

theorem readsChain_of_extendsChain {level : Level} {eof t : Token} {ts : List Token} {x : Expr}
    {r : Reading} (ht : IsLiteral t x) (h : ExtendsChain level x eof ts r) :
    ReadsChain level eof (t :: ts) ⟨r.result, r.used + 1⟩ := by
  cases h with
  | @ok us rest links hl hc hs =>
    have hr : ReadsChain level eof (t :: us ++ rest) _ := .ok (.intro ht hl) hc hs
    exact hr
  | @error u us rest op e n hu hw hn =>
    have hr : ReadsChain level eof _ _ := .error (.cons ht hu hw) hn
    simpa [Nat.add_assoc, Nat.add_comm, Nat.add_left_comm] using hr

theorem extendsChain_cons {level : Level} {lhs : Expr} {eof t : Token} {op : BinaryOp}
    {us rest : List Token} {c : Chain} {r : Reading} (ht : t.kind = .operator op)
    (hop : op.continues level = true) (hc : c.Spelled us)
    (hl : ∀ l ∈ c.rest, l.1.continues op.level = true) (hs : op.level.Stops rest)
    (h : ExtendsChain level (.binary op lhs c.tree) eof rest r) :
    ExtendsChain level lhs eof (t :: (us ++ rest)) ⟨r.result, r.used + us.length + 1⟩ := by
  obtain ⟨hlit, hlinks⟩ := hc
  rename_i u us x links
  cases h with
  | @ok vs rest more hm hcm hsm =>
    have hhead : ∀ l ∈ more.head?, l.1.continues op.level = false := by
      cases hm with
      | nil => simp
      | cons hv _ _ =>
        rintro l hmem
        cases hmem
        exact hs _ (by simp) _ hv
    have htree : Chain.tree ⟨lhs, (op, x) :: (links ++ more)⟩ = _ :=
      Chain.tree_cons_append hl hhead
    have hall : ∀ l ∈ (op, x) :: (links ++ more), l.1.continues level = true := by
      intro l hmem
      rcases List.mem_cons.mp hmem with rfl | hmem
      · exact hop
      · rcases List.mem_append.mp hmem with hmem | hmem
        · exact BinaryOp.continues_of_continues hop (hl l hmem)
        · exact hcm l hmem
    have hr : ExtendsChain level lhs eof _ _ := .ok (.cons ht hlit (hlinks.append hm)) hall hsm
    rw [htree] at hr
    simpa [Nat.add_assoc, Nat.add_comm, Nat.add_left_comm] using hr
  | @error v vs rest op' e n hv hw hn =>
    have hr : ExtendsChain level lhs eof _ _ := .error ht (hlinks.awaits hlit hv hw) hn
    simpa [Nat.add_assoc, Nat.add_comm, Nat.add_left_comm] using hr

theorem readsChain_and_extendsChain (eof : Token) :
    (∀ level ts, ReadsChain level eof ts (readAt level eof ts)) ∧
      ∀ level lhs ts, ExtendsChain level lhs eof ts (extend level lhs eof ts) := by
  apply readAt.mutual_induct eof
  case case1 =>
    intro level
    rw [readAt]
    exact .error .nil .finished
  case case2 =>
    intro level t ts e ht ih
    rw [readAt, ht]
    exact readsChain_of_extendsChain (operand_eq_value_iff.mp ht) ih
  case case3 =>
    intro level t ts kind ht
    rw [readAt, ht]
    exact .error .nil (.malformed ht)
  case case4 =>
    intro level t ts op ht
    rw [readAt, ht]
    exact .error .nil (.operator (operand_eq_operator_iff.mp ht))
  case case5 =>
    intro level t ts ht
    rw [readAt, ht]
    exact .error .nil (.absent ht)
  case case6 =>
    intro level lhs
    rw [extend]
    exact .of_stops (by simp [Level.Stops])
  case case7 =>
    intro level lhs t ts op ht hop right e hr ih
    rw [extend, ht]
    simp only [hop, if_true]
    change (readAt op.level eof ts).result = _ at hr
    generalize readAt op.level eof ts = reading at ih hr
    cases ih with
    | ok => cases hr
    | error hw hn => exact .error ht hw hn
  case case8 =>
    intro level lhs t ts op ht hop right rhs hr ih ih'
    rw [extend, ht]
    simp only [hop, if_true]
    change (readAt op.level eof ts).result = _ at hr
    change ExtendsChain level (.binary op lhs rhs) eof (ts.drop (readAt op.level eof ts).used)
      (extend level (.binary op lhs rhs) eof (ts.drop (readAt op.level eof ts).used)) at ih'
    generalize readAt op.level eof ts = reading at ih ih' hr
    cases ih with
    | ok hc hl hs =>
      cases hr
      simp only [List.drop_left] at ih' ⊢
      exact extendsChain_cons ht hop hc hl hs ih'
    | error => cases hr
  case case9 =>
    intro level lhs t ts op ht hop
    rw [extend, ht]
    simp only [hop]
    apply ExtendsChain.of_stops
    rintro u hu op' hop'
    cases hu
    cases ht.symm.trans hop'
    simpa using hop
  case case10 =>
    intro level lhs t ts ht
    rw [extend]
    split
    next op hop => exact (ht op hop).elim
    next =>
      apply ExtendsChain.of_stops
      rintro u hu op hop
      cases hu
      exact (ht op hop).elim

theorem readsChain (level : Level) (eof : Token) (ts : List Token) :
    ReadsChain level eof ts (readAt level eof ts) :=
  (readsChain_and_extendsChain eof).1 level ts

theorem NoOperand.le_length {eof : Token} {ts : List Token} {e : ParseError} {n : Nat}
    (h : NoOperand eof ts e n) : n ≤ ts.length := by
  cases h <;> simp

theorem used_readExpr_le (eof : Token) (ts : List Token) :
    (readExpr eof ts).used ≤ ts.length := by
  have hr : ReadsChain .lowest eof ts (readExpr eof ts) := readsChain ..
  generalize readExpr eof ts = reading at hr
  cases hr with
  | ok => simp
  | error _ hn =>
    have hle := hn.le_length
    simpa using hle

theorem Level.stops_lowest_iff {ts : List Token} :
    Level.lowest.Stops ts ↔ ∀ t ∈ ts.head?, ∀ op, t.kind ≠ .operator op := by
  have hc : ∀ op : BinaryOp, op.continues .lowest = true := by
    intro op; cases op <;> rfl
  simp [Level.Stops, hc]

theorem Grammar.Links.unique {us vs rest rest' : List Token}
    {links links' : List (BinaryOp × Expr)} (h : Links us links) (h' : Links vs links')
    (he : us ++ rest = vs ++ rest') (hs : Level.lowest.Stops rest)
    (hs' : Level.lowest.Stops rest') : us = vs ∧ links = links' := by
  rw [Level.stops_lowest_iff] at hs hs'
  induction h generalizing vs links' with
  | nil =>
    cases h' with
    | nil => exact ⟨rfl, rfl⟩
    | cons ht =>
      cases he
      exact (hs _ (by simp) _ ht).elim
  | cons ht hu _ ih =>
    cases h' with
    | nil =>
      cases he
      exact (hs' _ (by simp) _ ht).elim
    | cons ht' hu' hl =>
      simp only [List.cons_append, List.cons.injEq] at he
      obtain ⟨rfl, rfl, he⟩ := he
      obtain ⟨rfl, rfl⟩ := ih hl he
      cases ht.symm.trans ht'
      cases hu.unique hu'
      exact ⟨rfl, rfl⟩

theorem Grammar.Chain.Spelled.unique {us vs rest rest' : List Token} {c c' : Chain}
    (h : c.Spelled us) (h' : c'.Spelled vs) (he : us ++ rest = vs ++ rest')
    (hs : Level.lowest.Stops rest) (hs' : Level.lowest.Stops rest') : us = vs ∧ c = c' := by
  obtain ⟨ht, hl⟩ := h
  obtain ⟨ht', hl'⟩ := h'
  simp only [List.cons_append, List.cons.injEq] at he
  obtain ⟨rfl, he⟩ := he
  obtain ⟨rfl, rfl⟩ := hl.unique hl' he hs hs'
  cases ht.unique ht'
  exact ⟨rfl, rfl⟩

theorem NoOperand.not_literal {eof t : Token} {ts : List Token} {e : ParseError} {n : Nat}
    (h : NoOperand eof (t :: ts) e n) (x : Expr) : ¬ IsLiteral t x := by
  intro hx
  have hv := operand_eq_value_iff.mpr hx
  cases h with
  | malformed ht => cases hv.symm.trans ht
  | operator ht => exact hx.not_operator _ ht
  | absent ht => cases hv.symm.trans ht

theorem AwaitsOperand.not_spelled {eof : Token} {us rest vs rest' : List Token} {e : ParseError}
    {n : Nat} {c : Chain} (h : AwaitsOperand us) (hn : NoOperand eof rest e n)
    (hc : c.Spelled vs) (hs : Level.lowest.Stops rest') : us ++ rest ≠ vs ++ rest' := by
  rw [Level.stops_lowest_iff] at hs
  induction h generalizing vs c with
  | nil =>
    obtain ⟨ht, _⟩ := hc
    rintro rfl
    exact hn.not_literal _ ht
  | cons ht hu _ ih =>
    obtain ⟨ht', hl⟩ := hc
    intro he
    simp only [List.cons_append, List.cons.injEq] at he
    obtain ⟨rfl, he⟩ := he
    cases hl with
    | nil =>
      rw [List.nil_append] at he
      subst he
      exact hs _ (by simp) _ hu
    | cons _ hu' hl =>
      simp only [List.cons_append, List.cons.injEq] at he
      exact ih (.intro hu' hl) he.2

/-- A chain is read to its end. -/
theorem readExpr_of_spelled (eof : Token) {us rest : List Token} {c : Chain} (h : c.Spelled us)
    (hs : Level.lowest.Stops rest) : readExpr eof (us ++ rest) = ⟨.ok c.tree, us.length⟩ := by
  have hr := readsChain .lowest eof (us ++ rest)
  change ReadsChain _ _ _ (readExpr eof (us ++ rest)) at hr
  generalize he : us ++ rest = ts at hr ⊢
  generalize readExpr eof ts = reading at hr ⊢
  cases hr with
  | ok h' _ hs' =>
    obtain ⟨rfl, rfl⟩ := h.unique h' he hs hs'
    rfl
  | error hw hn => exact (hw.not_spelled hn h hs he.symm).elim

theorem NoOperand.unique {eof : Token} {ts : List Token} {e e' : ParseError} {n n' : Nat}
    (h : NoOperand eof ts e n) (h' : NoOperand eof ts e' n') : e = e' ∧ n = n' := by
  cases h with
  | finished =>
    cases h'
    exact ⟨rfl, rfl⟩
  | malformed ht =>
    cases h' with
    | malformed ht' =>
      cases ht.symm.trans ht'
      exact ⟨rfl, rfl⟩
    | operator ht' => cases ht.symm.trans (operand_eq_operator_iff.mpr ht')
    | absent ht' => cases ht.symm.trans ht'
  | operator ht =>
    cases h' with
    | malformed ht' => cases ht'.symm.trans (operand_eq_operator_iff.mpr ht)
    | operator ht' =>
      cases ht.symm.trans ht'
      exact ⟨rfl, rfl⟩
    | absent ht' => cases ht'.symm.trans (operand_eq_operator_iff.mpr ht)
  | absent ht =>
    cases h' with
    | malformed ht' => cases ht.symm.trans ht'
    | operator ht' => cases ht.symm.trans (operand_eq_operator_iff.mpr ht')
    | absent => exact ⟨rfl, rfl⟩

theorem AwaitsOperand.unique {eof : Token} {us rest vs rest' : List Token} {e e' : ParseError}
    {n n' : Nat} (h : AwaitsOperand us) (hn : NoOperand eof rest e n) (h' : AwaitsOperand vs)
    (hn' : NoOperand eof rest' e' n') (he : us ++ rest = vs ++ rest') : us = vs := by
  induction h generalizing vs with
  | nil =>
    cases h' with
    | nil => rfl
    | cons ht =>
      subst he
      exact (hn.not_literal _ ht).elim
  | cons ht _ _ ih =>
    cases h' with
    | nil =>
      subst he
      exact (hn'.not_literal _ ht).elim
    | cons _ _ hv =>
      simp only [List.cons_append, List.cons.injEq] at he
      obtain ⟨rfl, rfl, he⟩ := he
      rw [ih hv he]

/-- Tokens that ask for a literal which is not there give the error that this is. -/
theorem readExpr_of_awaits (eof : Token) {us rest : List Token} {e : ParseError} {n : Nat}
    (h : AwaitsOperand us) (hn : NoOperand eof rest e n) :
    readExpr eof (us ++ rest) = ⟨.error e, us.length + n⟩ := by
  have hr := readsChain .lowest eof (us ++ rest)
  change ReadsChain _ _ _ (readExpr eof (us ++ rest)) at hr
  generalize he : us ++ rest = ts at hr ⊢
  generalize readExpr eof ts = reading at hr ⊢
  cases hr with
  | ok hc _ hs => exact (h.not_spelled hn hc hs he).elim
  | error h' hn' =>
    obtain rfl := h.unique hn h' hn' he
    obtain rfl := List.append_cancel_left he
    obtain ⟨rfl, rfl⟩ := hn.unique hn'
    rfl

end SourceCheck
