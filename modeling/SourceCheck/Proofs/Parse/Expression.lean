import Mathlib.Data.List.Forall2
import SourceCheck.Proofs.Parse.Chain

/-! # Expressions are read exactly

From any place in a stream, the longest chain of literals and operators is read, to the tree of
that chain. Read in order, the tree gives the tokens of the chain back; its operators are grouped
by how tightly they bind; and reading it nests no deeper than there are levels. Where there is no
chain, the error is at the first token that ought to be a literal and is none.
-/

namespace SourceCheck

open Grammar

section Symbols

/-- A literal or an operator, as it stands in an expression. -/
inductive Symbol
  | literal (e : Expr)
  | operator (op : BinaryOp)
  deriving DecidableEq, Repr

def Symbol.Spells : Symbol → Token → Prop
  | literal e, t => IsLiteral t e
  | operator op, t => t.kind = .operator op

/-- The literals and operators of an expression from left to right. A marker gives none. -/
def Expr.symbols : Expr → List Symbol
  | binary op lhs rhs => lhs.symbols ++ .operator op :: rhs.symbols
  | error => []
  | e => [.literal e]

namespace Grammar

theorem IsLiteral.symbols {t : Token} {e : Expr} (h : IsLiteral t e) :
    e.symbols = [.literal e] := by
  cases h <;> rfl

namespace Chain

def linkSymbols (links : List (BinaryOp × Expr)) : List Symbol :=
  links.flatMap fun l => .operator l.1 :: l.2.symbols

def symbols (c : Chain) : List Symbol := c.first.symbols ++ linkSymbols c.rest

variable {c : Chain}

theorem symbols_fold (c : Chain) : c.fold.symbols = c.symbols := by
  obtain ⟨x, links⟩ := c
  induction links generalizing x with
  | nil => simp [fold, symbols, linkSymbols]
  | cons l links ih =>
    have h := ih (.binary l.1 x l.2)
    simp only [fold, symbols, linkSymbols, List.foldl_cons, List.flatMap_cons] at h ⊢
    rw [h]
    simp [Expr.symbols]

theorem symbols_split (x : Expr) (links : List (BinaryOp × Expr)) :
    (split x links).1.symbols ++
        (split x links).2.flatMap (fun p => .operator p.1 :: p.2.symbols) =
      symbols ⟨x, links⟩ := by
  induction links generalizing x with
  | nil => simp [split]
  | cons l links ih =>
    have h := ih l.2
    simp only [symbols, linkSymbols, List.append_assoc, List.flatMap_cons] at h ⊢
    rw [List.cons_append, ← h]
    simp only [split]
    split <;> simp

theorem symbols_tree (c : Chain) : c.tree.symbols = c.symbols := by
  have h := symbols_split c.first c.rest
  rw [tree, symbols_fold, ← h]
  simp [symbols, linkSymbols, symbols_fold, List.flatMap_map]

end Chain

theorem Links.spells {us : List Token} {links : List (BinaryOp × Expr)} (h : Links us links) :
    List.Forall₂ Symbol.Spells (Chain.linkSymbols links) us := by
  induction h with
  | nil => exact .nil
  | @cons t u ts op e rest ht hu hl ih =>
    have hsymbols : Chain.linkSymbols ((op, e) :: rest) =
        .operator op :: .literal e :: Chain.linkSymbols rest := by
      simp [Chain.linkSymbols, hu.symbols]
    rw [hsymbols]
    exact .cons ht (.cons hu ih)

theorem Chain.Spelled.spells {us : List Token} {c : Chain} (h : c.Spelled us) :
    List.Forall₂ Symbol.Spells c.tree.symbols us := by
  rw [symbols_tree]
  obtain ⟨ht, hl⟩ := h
  rw [symbols, ht.symbols]
  exact .cons ht hl.spells

end Grammar

end Symbols

section Grouping

def Expr.operator? : Expr → Option BinaryOp
  | binary op _ _ => some op
  | _ => none

/-- Every operator binds at most as tightly as one at the root of its left operand, and less
tightly than one at the root of its right operand. -/
def Expr.Grouped : Expr → Prop
  | binary op lhs rhs => lhs.Grouped ∧ rhs.Grouped ∧
      (∀ o ∈ lhs.operator?, op.level.rank ≤ o.level.rank) ∧
      ∀ o ∈ rhs.operator?, op.level.rank < o.level.rank
  | _ => True

theorem Expr.Grouped.of_operator? {e : Expr} (h : e.operator? = none) : e.Grouped := by
  cases e with
  | binary => cases h
  | _ => trivial

theorem Grammar.IsLiteral.operator? {t : Token} {e : Expr} (h : IsLiteral t e) :
    e.operator? = none := by
  cases h <;> rfl

theorem Grammar.Links.operator? {us : List Token} {links : List (BinaryOp × Expr)}
    (h : Links us links) : ∀ l ∈ links, l.2.operator? = none := by
  induction h with
  | nil => simp
  | cons _ hu _ ih => exact List.forall_mem_cons.mpr ⟨hu.operator?, ih⟩

namespace Grammar.Chain

variable {x : Expr} {links : List (BinaryOp × Expr)} {level : Level}

theorem grouped_fold (hl : ∀ l ∈ links, l.1.level = level) (hx : x.Grouped)
    (hroot : ∀ o ∈ x.operator?, level.rank ≤ o.level.rank)
    (hlinks : ∀ l ∈ links, l.2.Grouped ∧ ∀ o ∈ l.2.operator?, level.rank < o.level.rank) :
    (fold ⟨x, links⟩).Grouped ∧
      ∀ o ∈ (fold ⟨x, links⟩).operator?, level.rank ≤ o.level.rank := by
  induction links generalizing x with
  | nil => exact ⟨hx, hroot⟩
  | cons l links ih =>
    obtain ⟨rfl, hl⟩ := List.forall_mem_cons.mp hl
    obtain ⟨⟨hg, htighter⟩, hlinks⟩ := List.forall_mem_cons.mp hlinks
    apply ih hl (x := .binary l.1 x l.2) ⟨hx, hg, hroot, htighter⟩ _ hlinks
    rintro o ho
    cases ho
    exact Nat.le_refl _

theorem level_split (x : Expr) (links : List (BinaryOp × Expr)) :
    (∀ l ∈ (split x links).1.rest, l.1.level = .factor) ∧
      ∀ p ∈ (split x links).2, p.1.level = .term ∧ ∀ l ∈ p.2.rest, l.1.level = .factor := by
  induction links generalizing x with
  | nil => simp [split]
  | cons l links ih =>
    obtain ⟨hhead, hmore⟩ := ih l.2
    simp only [split]
    split
    next ht => exact ⟨by simp, List.forall_mem_cons.mpr ⟨⟨ht, hhead⟩, hmore⟩⟩
    next ht =>
      have hf : l.1.level = .factor := by
        revert ht
        cases l.1 <;> decide
      exact ⟨List.forall_mem_cons.mpr ⟨hf, hhead⟩, hmore⟩

theorem grouped_product {c : Chain} (hl : ∀ l ∈ c.rest, l.1.level = .factor)
    (h : c.All fun e => e.operator? = none) :
    c.fold.Grouped ∧ ∀ o ∈ c.fold.operator?, Level.factor.rank ≤ o.level.rank := by
  apply grouped_fold hl (.of_operator? h.1)
  · simp [h.1]
  · intro l hmem
    have hnone := h.2 l hmem
    exact ⟨.of_operator? hnone, by simp [hnone]⟩

theorem grouped_tree {c : Chain} (h : c.All fun e => e.operator? = none) : c.tree.Grouped := by
  obtain ⟨hhead, hmore⟩ := all_split c.first c.rest h
  obtain ⟨lhead, lmore⟩ := level_split c.first c.rest
  obtain ⟨hg, hroot⟩ := grouped_product lhead hhead
  have hlt : Level.term.rank < Level.factor.rank := by decide
  have hterm : ∀ l ∈ (split c.first c.rest).2.map fun p => (p.1, p.2.fold),
      l.1.level = Level.term := by
    simp only [List.forall_mem_map]
    exact fun p hp => (lmore p hp).1
  refine (grouped_fold hterm hg ?_ ?_).1
  · exact fun o ho => Nat.le_trans (Nat.le_of_lt hlt) (hroot o ho)
  · simp only [List.forall_mem_map]
    intro p hp
    obtain ⟨hg, hroot⟩ := grouped_product (lmore p hp).2 (hmore p hp)
    exact ⟨hg, fun o ho => Nat.lt_of_lt_of_le hlt (hroot o ho)⟩

theorem Spelled.grouped_tree {us : List Token} {c : Chain} (h : c.Spelled us) :
    c.tree.Grouped := by
  obtain ⟨ht, hl⟩ := h
  exact Chain.grouped_tree ⟨ht.operator?, hl.operator?⟩

end Grammar.Chain

end Grouping

section Nesting

mutual

/-- Reads an operand and what continues it, and gives up where readings nest deeper than `depth`. -/
def readWithin (depth : Nat) (level : Level) (eof : Token) (ts : List Token) : Option Reading :=
  match depth, ts with
  | 0, _ => none
  | _ + 1, [] => some ⟨.error (.expectedExpression eof), 0⟩
  | depth + 1, t :: ts =>
    match t.operand with
    | .value e => do
      let more ← extendWithin depth level e eof ts
      return ⟨more.result, more.used + 1⟩
    | .malformed kind => some ⟨.error (.atToken t (.invalidLiteral kind t.text)), 1⟩
    | .operator op => some ⟨.error (.atToken t (.missingLeftOperand op)), 1⟩
    | .absent => some ⟨.error (.expectedExpression t), 0⟩
termination_by ts.length
decreasing_by exact Nat.lt_succ_self _

def extendWithin (depth : Nat) (level : Level) (lhs : Expr) (eof : Token) :
    List Token → Option Reading
  | [] => some ⟨.ok lhs, 0⟩
  | t :: ts =>
    match t.kind with
    | .operator op =>
      if op.continues level then do
        let right ← readWithin depth op.level eof ts
        match right.result with
        | .error e => return ⟨.error e, right.used + 1⟩
        | .ok rhs =>
          let more ← extendWithin depth level (.binary op lhs rhs) eof (ts.drop right.used)
          return ⟨more.result, more.used + right.used + 1⟩
      else some ⟨.ok lhs, 0⟩
    | _ => some ⟨.ok lhs, 0⟩
termination_by ts => ts.length
decreasing_by
  · exact Nat.lt_succ_self _
  · exact length_drop_lt_length_cons ..

end

theorem Level.rank_le (level : Level) : level.rank ≤ 2 := by
  cases level <;> decide

theorem exists_depth_of_continues {op : BinaryOp} {level : Level} {depth : Nat}
    (hop : op.continues level = true) (h : 2 ≤ depth + level.rank) :
    ∃ d, depth = d + 1 ∧ 2 ≤ d + op.level.rank := by
  have hlt : level.rank < op.level.rank := of_decide_eq_true hop
  have hle := op.level.rank_le
  exact ⟨depth - 1, by omega, by omega⟩

/-- A right operand is read at a tighter level, so the levels left bound how deep readings nest. -/
theorem readWithin_and_extendWithin (eof : Token) :
    (∀ level ts, ∀ depth, 2 ≤ depth + level.rank →
        readWithin (depth + 1) level eof ts = some (readAt level eof ts)) ∧
      ∀ level lhs ts, ∀ depth, 2 ≤ depth + level.rank →
        extendWithin depth level lhs eof ts = some (extend level lhs eof ts) := by
  apply readAt.mutual_induct eof
  case case1 =>
    intro level depth _
    rw [readWithin, readAt]
  case case2 =>
    intro level t ts e ht ih depth h
    rw [readWithin, readAt]
    simp [ht, ih depth h]
  case case3 =>
    intro level t ts kind ht depth _
    rw [readWithin, readAt]
    simp [ht]
  case case4 =>
    intro level t ts op ht depth _
    rw [readWithin, readAt]
    simp [ht]
  case case5 =>
    intro level t ts ht depth _
    rw [readWithin, readAt]
    simp [ht]
  case case6 =>
    intro level lhs depth _
    rw [extendWithin, extend]
  case case7 =>
    intro level lhs t ts op ht hop right e hr ih depth h
    obtain ⟨d, rfl, hd⟩ := exists_depth_of_continues hop h
    change (readAt op.level eof ts).result = _ at hr
    rw [extendWithin, extend]
    simp [ht, hop, ih d hd, hr]
  case case8 =>
    intro level lhs t ts op ht hop right rhs hr ih ih' depth h
    obtain ⟨d, rfl, hd⟩ := exists_depth_of_continues hop h
    have hmore := ih' (d + 1) h
    change (readAt op.level eof ts).result = _ at hr
    rw [extendWithin, extend]
    simp [ht, hop, ih d hd, hr, hmore, right]
  case case9 =>
    intro level lhs t ts op ht hop depth _
    rw [extendWithin, extend]
    simp [ht, hop]
  case case10 =>
    intro level lhs t ts ht depth _
    rw [extendWithin, extend]
    cases hk : t.kind with
    | operator op => exact (ht op hk).elim
    | _ => rfl

theorem readWithin_lowest (eof : Token) (ts : List Token) :
    readWithin 3 .lowest eof ts = some (readExpr eof ts) :=
  (readWithin_and_extendWithin eof).1 .lowest ts 2 (Nat.le_refl 2)

end Nesting

section Errors

inductive Grammar.IsMalformed : Token → LiteralKind → Prop
  | int {t : Token} : t.kind = .integer → Literal.integer? t.text = none → IsMalformed t .int
  | float {t : Token} : t.kind = .float → Literal.single? t.text = none → IsMalformed t .float
  | char {t : Token} : t.kind = .char → t.text.toList.length ≠ 1 → IsMalformed t .char

theorem Operand.ofLiteral_eq_malformed_iff {kind kind' : LiteralKind} {value : Option Expr} :
    ofLiteral kind value = .malformed kind' ↔ value = none ∧ kind = kind' := by
  cases value <;> simp [ofLiteral]

theorem character?_eq_none_iff {text : String} :
    character? text = none ↔ text.toList.length ≠ 1 := by
  unfold character?
  split
  next c hc => simp [hc]
  next h =>
    simp only [true_iff]
    intro hlen
    obtain ⟨c, hc⟩ := List.length_eq_one_iff.mp hlen
    exact h c hc

theorem operand_eq_malformed_iff {t : Token} {kind : LiteralKind} :
    t.operand = .malformed kind ↔ IsMalformed t kind := by
  constructor
  · intro h
    unfold Token.operand at h
    split at h <;> try cases h
    next hk =>
      obtain ⟨hn, rfl⟩ := Operand.ofLiteral_eq_malformed_iff.mp h
      exact .int hk (Option.map_eq_none_iff.mp hn)
    next hk =>
      obtain ⟨hx, rfl⟩ := Operand.ofLiteral_eq_malformed_iff.mp h
      exact .float hk (Option.map_eq_none_iff.mp hx)
    next hk =>
      obtain ⟨hc, rfl⟩ := Operand.ofLiteral_eq_malformed_iff.mp h
      exact .char hk (character?_eq_none_iff.mp (Option.map_eq_none_iff.mp hc))
  · intro h
    cases h with
    | int hk hn => simp [Token.operand, hk, hn, Operand.ofLiteral]
    | float hk hx => simp [Token.operand, hk, hx, Operand.ofLiteral]
    | char hk hc =>
      simp [Token.operand, hk, character?_eq_none_iff.mpr hc, Operand.ofLiteral]

/-- Tokens that do not start with a literal, by their first token: what is wrong with it in the
place of a literal, and how many tokens that uses. -/
inductive Grammar.BadOperand (t : Token) : ParseError → Nat → Prop
  | operator {op : BinaryOp} : t.kind = .operator op →
      BadOperand t (.atToken t (.missingLeftOperand op)) 1
  | malformed {kind : LiteralKind} : IsMalformed t kind →
      BadOperand t (.atToken t (.invalidLiteral kind t.text)) 1
  | other : (∀ op, t.kind ≠ .operator op) → (∀ kind, ¬ IsMalformed t kind) →
      (∀ e, ¬ IsLiteral t e) → BadOperand t (.expectedExpression t) 0

theorem operand_eq_absent_iff {t : Token} :
    t.operand = .absent ↔ (∀ op, t.kind ≠ .operator op) ∧ (∀ kind, ¬ IsMalformed t kind) ∧
      ∀ e, ¬ IsLiteral t e := by
  simp only [ne_eq, ← operand_eq_operator_iff, ← operand_eq_malformed_iff, ← operand_eq_value_iff]
  cases t.operand <;> simp

theorem noOperand_iff {eof : Token} (heof : eof.kind = .eof) {rest : List Token} {e : ParseError}
    {n : Nat} : NoOperand eof rest e n ↔ BadOperand (rest.head?.getD eof) e n := by
  have hend : eof.operand = .absent := by simp [Token.operand, heof]
  constructor
  · intro h
    cases h with
    | finished =>
      obtain ⟨hop, hmalformed, hlit⟩ := operand_eq_absent_iff.mp hend
      exact .other hop hmalformed hlit
    | malformed ht => exact .malformed (operand_eq_malformed_iff.mp ht)
    | operator ht => exact .operator ht
    | absent ht =>
      obtain ⟨hop, hmalformed, hlit⟩ := operand_eq_absent_iff.mp ht
      exact .other hop hmalformed hlit
  · intro h
    cases rest with
    | nil =>
      cases h with
      | operator ht => cases heof.symm.trans ht
      | malformed ht => cases hend.symm.trans (operand_eq_malformed_iff.mpr ht)
      | other => exact .finished
    | cons t rest =>
      cases h with
      | operator ht => exact .operator ht
      | malformed ht => exact .malformed (operand_eq_malformed_iff.mpr ht)
      | other hop hmalformed hlit =>
        exact .absent (operand_eq_absent_iff.mpr ⟨hop, hmalformed, hlit⟩)

end Errors

section Longest

variable {us vs rest : List Token}

theorem Grammar.Links.length_le {links links' : List (BinaryOp × Expr)} (h : Links us links)
    (hs : ∀ t ∈ rest.head?, ∀ op, t.kind ≠ .operator op) (h' : Links vs links')
    (hp : vs <+: us ++ rest) : vs.length ≤ us.length := by
  induction h generalizing vs links' with
  | nil =>
    cases h' with
    | nil => exact Nat.le_refl 0
    | cons ht =>
      obtain ⟨more, rfl⟩ := hp
      exact (hs _ rfl _ ht).elim
  | cons _ _ _ ih =>
    cases h' with
    | nil => exact Nat.zero_le _
    | cons _ _ hl =>
      obtain ⟨-, hp⟩ := List.cons_prefix_cons.mp hp
      obtain ⟨-, hp⟩ := List.cons_prefix_cons.mp hp
      simpa using ih hl hp

/-- A chain that no operator follows is the longest in its place. -/
theorem Grammar.Chain.Spelled.length_le {c c' : Chain} (h : c.Spelled us)
    (hs : ∀ t ∈ rest.head?, ∀ op, t.kind ≠ .operator op) (h' : c'.Spelled vs)
    (hp : vs <+: us ++ rest) : vs.length ≤ us.length := by
  obtain ⟨_, hl⟩ := h
  obtain ⟨_, hl'⟩ := h'
  obtain ⟨-, hp⟩ := List.cons_prefix_cons.mp hp
  simpa using hl.length_le hs hl' hp

end Longest

/-- An expression that is read from some tokens, of which it uses `n`: the tree of a chain that no
operator follows. -/
def IsReadFrom (ts : List Token) (e : Expr) (n : Nat) : Prop :=
  ∃ us rest, ∃ c : Chain, ts = us ++ rest ∧ c.Spelled us ∧
    (∀ t ∈ rest.head?, ∀ op, t.kind ≠ .operator op) ∧ e = c.tree ∧ n = us.length

/-- The error of tokens that start with no expression, and how many of them it uses: those in
front of the first operand that is none, and what that operand uses. -/
def IsMissedIn (eof : Token) (ts : List Token) (e : ParseError) (n : Nat) : Prop :=
  ∃ us rest m, ts = us ++ rest ∧ AwaitsOperand us ∧ BadOperand (rest.head?.getD eof) e m ∧
    n = us.length + m

theorem readExpr_ok_iff (eof : Token) (ts : List Token) (e : Expr) (n : Nat) :
    readExpr eof ts = ⟨.ok e, n⟩ ↔ IsReadFrom ts e n := by
  constructor
  · intro h
    have hr : ReadsChain .lowest eof ts (readExpr eof ts) := readsChain ..
    rw [h] at hr
    cases hr with
    | @ok us rest c hc _ hs =>
      exact ⟨us, rest, c, rfl, hc, Level.stops_lowest_iff.mp hs, rfl, rfl⟩
  · rintro ⟨us, rest, c, rfl, hc, hs, rfl, rfl⟩
    exact readExpr_of_spelled eof hc (Level.stops_lowest_iff.mpr hs)

theorem readExpr_error_iff {eof : Token} (heof : eof.kind = .eof) (ts : List Token)
    (e : ParseError) (n : Nat) : readExpr eof ts = ⟨.error e, n⟩ ↔ IsMissedIn eof ts e n := by
  constructor
  · intro h
    have hr : ReadsChain .lowest eof ts (readExpr eof ts) := readsChain ..
    rw [h] at hr
    cases hr with
    | @error us rest _ m hw hn => exact ⟨us, rest, m, rfl, hw, (noOperand_iff heof).mp hn, rfl⟩
  · rintro ⟨us, rest, m, rfl, hw, hn, rfl⟩
    exact readExpr_of_awaits eof hw ((noOperand_iff heof).mpr hn)

/-- From every place in a stream, an expression is read exactly if a chain starts there that no
operator follows. It is the longest chain there, and it is used up; the expression is its tree,
which has the symbols of the chain in order and is grouped by precedence. Otherwise there is one
error, at the first token that ought to be a literal and is none. Only that error is reported for
a required expression, and readings nest at most three deep. -/
theorem readExpr_exact (s : TokenStream) (i : Nat) :
    let ts := s.tokens.drop i
    (∀ e n, readExpr s.eof ts = ⟨.ok e, n⟩ ↔ IsReadFrom ts e n) ∧
      (∀ e n, IsReadFrom ts e n → e.Grouped ∧ List.Forall₂ Symbol.Spells e.symbols (ts.take n) ∧
        ∀ (c : Chain) vs, vs <+: ts → c.Spelled vs → vs.length ≤ n) ∧
      (∀ e n, readExpr s.eof ts = ⟨.error e, n⟩ ↔ IsMissedIn s.eof ts e n) ∧
      (∀ e n, IsMissedIn s.eof ts e n → (Parse.expr.run s.eof ts).errors = [e]) ∧
      (∀ e n, IsReadFrom ts e n → (Parse.expr.run s.eof ts).errors = []) ∧
      readWithin 3 .lowest s.eof ts = some (readExpr s.eof ts) := by
  intro ts
  refine ⟨readExpr_ok_iff s.eof ts, ?_, readExpr_error_iff s.eof_kind ts, ?_, ?_,
    readWithin_lowest s.eof ts⟩
  · rintro e n ⟨us, rest, c, hts, hc, hs, rfl, rfl⟩
    rw [hts, List.take_left]
    exact ⟨hc.grouped_tree, hc.spells, fun c' vs hp hc' => hc.length_le hs hc' hp⟩
  · intro e n h
    have hread := (readExpr_error_iff s.eof_kind ts e n).mpr h
    simp [Parse.expr, hread]
  · intro e n h
    have hread := (readExpr_ok_iff s.eof ts e n).mpr h
    simp [Parse.expr, hread]

end SourceCheck
