import SourceCheck.Proofs.Parse.Productions

/-! # Parsing and the grammar

A word of the grammar is read to its end without an error, whatever follows it. Together with the
languages of the productions, this makes parsing without errors and derivation the same.
-/

namespace SourceCheck

open Grammar

variable {α β : Type} {eof : Token}

namespace Parse

variable {t : Token} {ts us rest : List Token}

theorem run_param {p : Param} (h : IsParam us p) :
    param.run eof (us ++ rest) = ⟨p, [], us.length⟩ := by
  obtain ⟨htype, hname⟩ := h
  simp [param, run_typeName htype, run_text hname]

theorem run_expr {e : Expr} (h : IsExpr us e) (hs : Level.lowest.Stops rest) :
    expr.run eof (us ++ rest) = ⟨e, [], us.length⟩ := by
  obtain ⟨c, hc, rfl⟩ := h
  exact run_expr_of_ok (readExpr_of_spelled eof hc hs)

theorem stops_of_kind (h : ∀ op, t.kind ≠ .operator op) : Level.lowest.Stops (t :: ts) := by
  rw [Level.stops_lowest_iff]
  rintro u hu
  cases hu
  exact h

end Parse

namespace Grammar

theorem IsExpr.head {us : List Token} {e : Expr} (h : IsExpr us e) :
    ∃ t ts, us = t :: ts ∧ t.kind ≠ .rightParen := by
  obtain ⟨c, ⟨ht, _⟩, rfl⟩ := h
  refine ⟨_, _, rfl, ?_⟩
  cases ht <;> simp_all

theorem IsParam.head {us : List Token} {p : Param} (h : IsParam us p) :
    ∃ t ts, us = t :: ts ∧ t.kind ≠ .rightParen := by
  obtain ⟨htype, hname⟩ := h
  refine ⟨_, _, rfl, ?_⟩
  intro hk
  simp [hk, TokenKind.isTypeName] at htype

theorem IsStmt.head {us : List Token} {s : Stmt} (h : IsStmt us s) :
    ∃ t ts, us = t :: ts ∧ (t.kind == .rightBrace) = false := by
  cases h with
  | ret hk => exact ⟨_, _, rfl, by simp [hk]⟩
  | foreign hk => exact ⟨_, _, rfl, by simp [hk]⟩
  | invoke hk => exact ⟨_, _, rfl, by simp [hk]⟩
  | declare hk =>
    refine ⟨_, _, rfl, beq_eq_false_iff_ne.mpr ?_⟩
    intro ht
    simp [ht, TokenKind.isTypeName] at hk
  | define hk =>
    refine ⟨_, _, rfl, beq_eq_false_iff_ne.mpr ?_⟩
    intro ht
    simp [ht, TokenKind.isTypeName] at hk

theorem IsItem.head {us : List Token} {i : Item} (h : IsItem us i) : ∃ t ts, us = t :: ts := by
  cases h <;> exact ⟨_, _, rfl⟩

end Grammar

namespace Reads

variable {R : Language α}

theorem manyRun_of_sequence {stops : TokenKind → Bool} {element : Parse α}
    {us rest : List Token} {as : List α} (h : Sequence R us as)
    (hhead : ∀ us a, R us a → ∃ t ts, us = t :: ts ∧ stops t.kind = false)
    (hrun : ∀ us a rest, R us a →
      element.run eof (us ++ rest) = ⟨a, [], us.length⟩)
    (hs : ∀ t ∈ rest.head?, stops t.kind = true) :
    ManyRun stops element eof R rest us as := by
  induction h with
  | nil => exact .nil hs
  | @cons us vs a as hR _ ih =>
    obtain ⟨t, ts, rfl, ht⟩ := hhead us a hR
    exact .cons ht hR (hrun _ a _ hR) ih

/-- A comma list is read up to its closing token if every element is read up to a comma or that
token. -/
theorem commaRun_of_commaSeparated {close : TokenKind} {element : Parse α} {c : Token}
    {us rest : List Token} {as : List α} (h : CommaSeparated R us as) (hc : c.kind = close)
    (hne : close ≠ .comma) (hhead : ∀ us a, R us a → ∃ t ts, us = t :: ts ∧ t.kind ≠ close)
    (hrun : ∀ us a d rest, R us a → d.kind = .comma ∨ d.kind = close →
      element.run eof (us ++ d :: rest) = ⟨a, [], us.length⟩) :
    CommaRun close element eof R (c :: rest) us as := by
  induction h with
  | nil => exact .nil (by simpa using hc)
  | @last us a hR =>
    obtain ⟨t, ts, rfl, ht⟩ := hhead us a hR
    exact .last rfl ht hR (hrun _ a _ _ hR (.inr hc)) (by simpa [hc] using hne)
  | @cons us vs d a as hR hd _ ih =>
    obtain ⟨t, ts, rfl, ht⟩ := hhead us a hR
    exact .cons rfl ht hR (hrun _ a _ _ hR (.inl hd)) hd ih

end Reads

namespace Parse

variable {us rest : List Token} {c : Token}

theorem run_args {args : List Expr} (h : CommaSeparated IsExpr us args)
    (hc : c.kind = .rightParen) :
    (commaList .rightParen expr).run eof (us ++ c :: rest) = ⟨args, [], us.length⟩ := by
  apply Reads.CommaRun.run_eq
  apply Reads.commaRun_of_commaSeparated h hc (by simp) (fun _ _ => IsExpr.head)
  rintro us e d rest he hd
  apply run_expr he (stops_of_kind _)
  rintro op hop
  rcases hd with hd | hd <;> cases hop.symm.trans hd

theorem run_params {params : List Param} (h : CommaSeparated IsParam us params)
    (hc : c.kind = .rightParen) :
    (commaList .rightParen param).run eof (us ++ c :: rest) = ⟨params, [], us.length⟩ := by
  apply Reads.CommaRun.run_eq
  apply Reads.commaRun_of_commaSeparated h hc (by simp) (fun _ _ => IsParam.head)
  intro us p d rest hp _
  exact run_param hp

theorem stops_semicolon {semi : Token} (h : semi.kind = .semicolon) :
    Level.lowest.Stops (semi :: rest) := by
  apply stops_of_kind
  simp [h]

theorem run_stmt {s : Stmt} (h : IsStmt us s) (rest : List Token) :
    stmt.run eof (us ++ rest) = ⟨s, [], us.length⟩ := by
  cases h with
  | @ret kw semi ts e hk he hsemi =>
    have hr : expr.run eof (ts ++ semi :: rest) = _ := run_expr he (stops_semicolon hsemi)
    simp [stmt, hk, returnStmt, run_skip hk, hr, run_skip hsemi]
    omega
  | foreign hk hl hc hr hsemi =>
    simp [stmt, hk, foreignCall, run_skip hk, run_skip hl, run_text hc,
      run_skip hr, run_skip hsemi]
  | @invoke callee l r semi ts args hk hl hargs hr hsemi =>
    have ha : (commaList .rightParen expr).run eof (ts ++ r :: semi :: rest) = _ :=
      run_args hargs hr
    have htype : callee.kind.isTypeName = true := by rw [hk]; rfl
    simp [run_stmt_of_isTypeName htype, hl, invocation, run_callee, hk, run_skip hl, ha,
      run_skip hr, run_skip hsemi]
    omega
  | declare hk hname hsemi =>
    simp [run_stmt_of_isTypeName hk, hname, declaration, run_typeName hk, run_text hname,
      initializer, accept, hsemi, run_skip hsemi]
  | @define type name eq semi ts e hk hname heq he hsemi =>
    have hr : expr.run eof (ts ++ semi :: rest) = _ := run_expr he (stops_semicolon hsemi)
    simp [run_stmt_of_isTypeName hk, hname, declaration, run_typeName hk, run_text hname,
      initializer, accept, heq, hr, run_skip hsemi]
    omega

theorem run_stmts {stmts : List Stmt} (h : Sequence IsStmt us stmts) {rb : Token}
    (hrb : rb.kind = .rightBrace) :
    (many (· == .rightBrace) stmt stmt_advances).run eof (us ++ rb :: rest) =
      ⟨stmts, [], us.length⟩ := by
  apply Reads.ManyRun.run_eq
  apply Reads.manyRun_of_sequence h (fun _ _ => IsStmt.head) (fun _ _ rest hs => run_stmt hs rest)
  simp [hrb]

theorem run_item {i : Item} (h : IsItem us i) (rest : List Token) :
    item.run eof (us ++ rest) = ⟨i, [], us.length⟩ := by
  cases h with
  | imported hk hspace hcolons hname hsemi =>
    simp [item, hk, importDecl, run_skip hk, run_text hspace,
      run_skip hcolons, run_text hname, run_skip hsemi]
  | @function kw name lp rp colon returns lb rb ps bs params stmts hk hname hlp hps hrp hcolon
      hreturns hlb hbs hrb =>
    have hp : (commaList .rightParen param).run eof
        (ps ++ rp :: colon :: returns :: lb :: (bs ++ rb :: rest)) = _ := run_params hps hrp
    have hb : (many (· == .rightBrace) stmt stmt_advances).run eof (bs ++ rb :: rest) = _ :=
      run_stmts hbs hrb
    simp [item, hk, functionDecl, body, run_skip hk, run_text hname,
      run_skip hlp, hp, run_skip hrp, run_skip hcolon, run_typeName hreturns, run_skip hlb, hb,
      run_skip hrb]
    omega

theorem run_program {p : Program} (h : IsProgram us p) :
    program.run eof us = ⟨p, [], us.length⟩ := by
  have hhead : ∀ us i, IsItem us i → ∃ t ts, us = t :: ts ∧ false = false := by
    intro us i hi
    obtain ⟨t, ts, rfl⟩ := hi.head
    exact ⟨t, ts, rfl, rfl⟩
  have hm : (many (fun _ => false) item item_advances).run eof (us ++ []) = _ :=
    Reads.ManyRun.run_eq
      (Reads.manyRun_of_sequence h hhead (fun _ _ rest hi => run_item hi rest) (by simp))
  rw [List.append_nil] at hm
  simp [program, hm]

/-- Nothing is left over: tokens that are read without an error are all part of the program. -/
theorem isProgram_of_errors_eq_nil (heof : eof.kind = .eof)
    (h : (program.run eof us).errors = []) : IsProgram us (program.run eof us).value := by
  have hm : (manyFrom (fun _ => false) item item_advances eof us).errors = [] :=
    (List.append_eq_nil_iff.mp h).1
  obtain ⟨vs, rest, items, rfl, hrun⟩ := (Reads.item heof).exists_manyRun us hm
  have hrest : rest = [] := by
    cases rest with
    | nil => rfl
    | cons t rest => cases hrun.stops_head t rfl
  subst hrest
  have hr : (many (fun _ => false) item item_advances).run eof (vs ++ []) = _ := hrun.run_eq
  rw [List.append_nil] at hr ⊢
  simpa [program, hr, IsProgram] using hrun.sequence

end Parse

/-- Parsing reports nothing exactly if the tokens spell a program, and then it gives that program.
So no tokens spell two programs. -/
theorem parse_iff_isProgram (s : TokenStream) :
    ((parse s).errors = [] ↔ ∃ p, IsProgram s.tokens p) ∧
      ∀ p, IsProgram s.tokens p ↔ parse s = ⟨p, []⟩ := by
  have hsound : (parse s).errors = [] → IsProgram s.tokens (parse s).program :=
    Parse.isProgram_of_errors_eq_nil s.eof_kind
  have hcomplete : ∀ p, IsProgram s.tokens p → parse s = ⟨p, []⟩ := by
    intro p hp
    simp [parse, Parse.run_program hp]
  refine ⟨⟨fun h => ⟨_, hsound h⟩, ?_⟩, fun p => ⟨hcomplete p, ?_⟩⟩
  · rintro ⟨p, hp⟩
    rw [hcomplete p hp]
  · intro h
    have hp := hsound (by rw [h])
    rwa [h] at hp

end SourceCheck
