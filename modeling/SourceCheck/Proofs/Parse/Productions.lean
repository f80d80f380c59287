import SourceCheck.Parse.Program
import SourceCheck.Proofs.Parse.Repetition

/-! # The languages of the productions

Every production reads the language that the grammar gives it.
-/

namespace SourceCheck

open Grammar

variable {α β : Type} {eof : Token}

def Step.after (s : Step α) : Step α := { s with used := 1 + s.used }

theorem AwaitsOperand.spelled {us : List Token} {t : Token} {e : Expr} (h : AwaitsOperand us)
    (ht : IsLiteral t e) : ∃ c : Chain, c.Spelled (us ++ [t]) := by
  induction h with
  | nil => exact ⟨_, .intro ht .nil⟩
  | @cons _ _ us _ _ hl hop _ ih =>
    obtain ⟨c, hc⟩ := ih
    rw [List.cons_append, List.cons_append]
    generalize us ++ [t] = vs at hc
    obtain ⟨ht', hlinks⟩ := hc
    exact ⟨_, .intro hl (.cons hop ht' hlinks)⟩

theorem NoOperand.isAt {ts : List Token} {e : ParseError} {n : Nat} (h : NoOperand eof ts e n) :
    e.IsAt (ts.head?.getD eof) := by
  cases h <;> exact ⟨rfl, rfl⟩

theorem NoOperand.tail {t : Token} {ts : List Token} {e : ParseError} {n : Nat}
    (h : NoOperand eof (t :: ts) e n) (ts' : List Token) : NoOperand eof (t :: ts') e n := by
  cases h with
  | malformed ht => exact .malformed ht
  | operator ht => exact .operator ht
  | absent ht => exact .absent ht

theorem Level.Stops.congr {level : Level} {ts ts' : List Token} (h : level.Stops ts)
    (hh : ts'.head? = ts.head?) : level.Stops ts' := by
  unfold Level.Stops
  rw [hh]
  exact h

theorem exists_isExpr : ∃ us e, IsExpr us e := by
  exact ⟨[.ofKind (.keyword .trueKw)], _, ⟨.bool true, []⟩, .intro (.true rfl) .nil, rfl⟩

namespace Parse

theorem run_expr_of_ok {ts : List Token} {e : Expr} {n : Nat}
    (h : readExpr eof ts = ⟨.ok e, n⟩) : Parse.expr.run eof ts = ⟨e, [], n⟩ := by
  simp [Parse.expr, h]

theorem run_expr_of_error {ts : List Token} {e : ParseError} {n : Nat}
    (h : readExpr eof ts = ⟨.error e, n⟩) : Parse.expr.run eof ts = ⟨.error, [e], n⟩ := by
  simp [Parse.expr, h]

theorem exists_spelled (ts : List Token) (he : (Parse.expr.run eof ts).errors = []) :
    ∃ us rest c, ts = us ++ rest ∧ Chain.Spelled us c ∧ Level.lowest.Stops rest ∧
      Parse.expr.run eof ts = ⟨c.tree, [], us.length⟩ := by
  have hr : ReadsChain .lowest eof ts (readExpr eof ts) := readsChain ..
  generalize h : readExpr eof ts = reading at hr
  cases hr with
  | @ok us rest c hc _ hs => exact ⟨us, rest, c, rfl, hc, hs, run_expr_of_ok h⟩
  | error =>
    rw [run_expr_of_error h] at he
    cases he

theorem run_stmt_of_isTypeName {t : Token} (h : t.kind.isTypeName = true) (ts : List Token) :
    stmt.run eof (t :: ts) = if (ts.head?.getD eof).kind = .leftParen
      then invocation.run eof (t :: ts) else declaration.run eof (t :: ts) := by
  have hret : t.kind ≠ .keyword .returnKw := by
    intro hk
    simp [hk, TokenKind.isTypeName] at h
  have hcall : t.kind ≠ .keyword .callKw := by
    intro hk
    simp [hk, TokenKind.isTypeName] at h
  rw [stmt, run_kindAt_zero_bind, if_neg hret, if_neg hcall, if_pos h, run_kindAt_bind,
    List.getElem?_cons_succ, ← List.head?_eq_getElem?]
  split <;> rfl

end Parse

namespace Reads

theorem expr : Reads eof Parse.expr IsExpr where
  inhabited := exists_isExpr
  sound ts he := by
    obtain ⟨us, rest, c, hts, hc, -, hr⟩ := Parse.exists_spelled ts he
    exact ⟨us, rest, c.tree, hts, ⟨c, hc, rfl⟩, hr⟩
  lookahead us rest rest' e hr hh := by
    obtain ⟨vs, ws, c, hts, hc, hs, hr'⟩ :=
      Parse.exists_spelled (us ++ rest) (congrArg Step.errors hr)
    obtain ⟨rfl, -, hlen⟩ := Step.mk.inj (hr.symm.trans hr')
    obtain ⟨rfl, rfl⟩ := List.append_inj hts hlen
    exact Parse.run_expr_of_ok (readExpr_of_spelled eof hc (hs.congr hh))
  firstError ts he := by
    have hr : ReadsChain .lowest eof ts (readExpr eof ts) := readsChain ..
    generalize h : readExpr eof ts = reading at hr
    cases hr with
    | ok =>
      rw [Parse.run_expr_of_ok h] at he
      exact (he rfl).elim
    | @error us rest e n hw hn =>
      refine ⟨us, rest, e, rfl, ?_, hn.isAt, ?_, ?_⟩
      · simp [Parse.run_expr_of_error h]
      · have ht : IsLiteral (.ofKind (.keyword .trueKw)) (.bool true) := .true rfl
        obtain ⟨c, hc⟩ := hw.spelled ht
        exact ⟨_, _, List.prefix_append us _, c, hc, rfl⟩
      · cases rest with
        | nil => exact .finished
        | cons t rest =>
          apply Stuck.token
          intro ws
          rw [List.append_assoc, List.singleton_append]
          simp [Parse.expr, readExpr_of_awaits eof hw (hn.tail ws)]

theorem text (kind : TokenKind) : Reads eof (Parse.text kind) fun us s =>
    ∃ t : Token, us = [t] ∧ t.kind = kind ∧ s = t.text := by
  apply (Reads.bind (expect (.kind kind) ⟨kind, by simp [Expectation.accepts]⟩)
    fun t => Reads.pure t.text).mono
  rintro us s ⟨vs, ws, t, rfl, ⟨rfl, ht⟩, rfl, rfl⟩
  exact ⟨t, rfl, by simpa [Expectation.accepts] using ht, rfl⟩

theorem skip (kind : TokenKind) : Reads eof (Parse.skip kind) fun us _ =>
    ∃ t : Token, us = [t] ∧ t.kind = kind := by
  apply (Reads.bind (expect (.kind kind) ⟨kind, by simp [Expectation.accepts]⟩)
    fun _ => Reads.pure ()).mono
  rintro us - ⟨vs, ws, t, rfl, ⟨rfl, ht⟩, rfl, -⟩
  exact ⟨t, rfl, by simpa [Expectation.accepts] using ht⟩

theorem typeName : Reads eof Parse.typeName fun us s =>
    ∃ t : Token, us = [t] ∧ t.kind.isTypeName = true ∧ s = t.text := by
  apply (Reads.bind (expect .typeName ⟨.identifier, rfl⟩) fun t => Reads.pure t.text).mono
  rintro us s ⟨vs, ws, t, rfl, ⟨rfl, ht⟩, rfl, rfl⟩
  exact ⟨t, rfl, ht, rfl⟩

theorem param : Reads eof Parse.param IsParam := by
  apply (typeName.bind fun _ => (text .identifier).bind fun _ => Reads.pure _).mono
  rintro us p ⟨_, _, _, rfl, ⟨type, rfl, htype, rfl⟩, _, _, _, rfl, ⟨name, rfl, hname, rfl⟩,
    rfl, rfl⟩
  exact .intro htype hname

theorem initializer : Reads eof Parse.initializer fun us init =>
    (∃ eq ts e, us = eq :: ts ∧ eq.kind = .assign ∧ IsExpr ts e ∧ init = some e) ∨
      us = [] ∧ init = none := by
  have hinit (assigned : Bool) :
      Reads eof (if assigned then Parse.expr >>= fun e => pure (some e) else pure none)
        fun us init =>
          if assigned then ∃ e, IsExpr us e ∧ init = some e else us = [] ∧ init = none := by
    cases assigned with
    | false => exact Reads.pure none
    | true =>
      apply (expr.bind fun e => Reads.pure (some e)).mono
      rintro us init ⟨ts, _, e, rfl, he, rfl, rfl⟩
      exact ⟨e, by simpa using he, rfl⟩
  apply ((accept .assign).bind hinit).mono
  rintro us init ⟨_, ts, assigned, rfl, ⟨eq, rfl, heq, rfl⟩ | ⟨rfl, rfl⟩, hs⟩
  · obtain ⟨e, he, rfl⟩ := hs
    exact .inl ⟨eq, ts, e, rfl, heq, he, rfl⟩
  · exact .inr hs

/-- How an element is read from its first token on. What follows the token is read on its own, or
the token is reported; the token behind it may decide which. -/
inductive Leads (eof : Token) (element : Parse α) (R : Language α) (t : Token) (ts : List Token) :
    Prop
  | reads {m : Parse α} : Reads eof m (fun us a => R (t :: us) a) →
      (∀ ts', ts'.head? = ts.head? → element.run eof (t :: ts') = (m.run eof ts').after) →
      Leads eof element R t ts
  | stuck {e : ParseError} {es : List ParseError} :
      (element.run eof (t :: ts)).errors = e :: es → e.IsAt t →
      Stuck (fun us => (element.run eof us).errors) [] (t :: ts) → Leads eof element R t ts

section Leading

variable {element : Parse α} {R : Language α} {t : Token}

theorem Leads.of_bind {p : Parse α} {m : Parse β} {f : β → Parse α} {b : β} {ts : List Token}
    (hp : p = m >>= f) (hm : ∀ ts, m.run eof (t :: ts) = ⟨b, [], 1⟩)
    (hrun : ∀ ts', ts'.head? = ts.head? → element.run eof (t :: ts') = p.run eof (t :: ts'))
    (hf : Reads eof (f b) fun us a => R (t :: us) a) : Leads eof element R t ts := by
  refine .reads hf fun ts' hh => ?_
  rw [hrun ts' hh, hp]
  simp [hm, Step.after]

theorem Leads.refuses {e : ParseError} (hat : e.IsAt t)
    (h : ∀ ts, ∃ es, (element.run eof (t :: ts)).errors = e :: es) (ts : List Token) :
    Leads eof element R t ts := by
  obtain ⟨es, hes⟩ := h ts
  refine .stuck hes hat (.token fun rest => ?_)
  obtain ⟨es', hes'⟩ := h rest
  simp [hes']

theorem of_leads (hi : ∃ us a, R us a) (hadv : element.Advances)
    (hend : ∃ e es, (element.run eof []).errors = e :: es ∧ e.IsAt eof)
    (h : ∀ t ts, Leads eof element R t ts) : Reads eof element R where
  inhabited := hi
  sound ts he := by
    cases ts with
    | nil =>
      obtain ⟨e, es, hes, -⟩ := hend
      cases hes.symm.trans he
    | cons t ts =>
      cases h t ts with
      | reads hm hr =>
        have hr := hr ts rfl
        rw [hr] at he ⊢
        obtain ⟨us, rest, a, rfl, hR, hr'⟩ := hm.sound ts he
        exact ⟨t :: us, rest, a, rfl, hR, by simp [hr', Step.after, Nat.add_comm]⟩
      | stuck hes => cases hes.symm.trans he
  lookahead us rest rest' a hr hh := by
    have he := congrArg Step.errors hr
    cases us with
    | nil =>
      cases rest with
      | nil =>
        obtain ⟨e, es, hes, -⟩ := hend
        cases hes.symm.trans he
      | cons t rest =>
        have hused := hadv eof t rest
        rw [← List.nil_append (t :: rest), hr] at hused
        cases hused
    | cons t us =>
      cases h t (us ++ rest) with
      | @reads m hm hrun =>
        have hhead := head?_append_congr us hh
        have hr' := (hrun _ rfl).symm.trans hr
        simp only [Step.after, Step.mk.injEq, List.length_cons, Nat.add_comm 1,
          Nat.add_right_cancel_iff] at hr'
        obtain ⟨hv, he, hu⟩ := hr'
        have hrun' : m.run eof (us ++ rest) = ⟨a, [], us.length⟩ := by rw [← hv, ← he, ← hu]
        rw [List.cons_append, hrun _ hhead, hm.lookahead us rest rest' a hrun' hh]
        simp [Step.after, Nat.add_comm]
      | stuck hes => cases hes.symm.trans he
  firstError ts he := by
    have hv : R.Viable [] := by
      obtain ⟨us, a, hR⟩ := hi
      exact ⟨us, a, List.nil_prefix, hR⟩
    cases ts with
    | nil =>
      obtain ⟨e, es, hes, hat⟩ := hend
      have hhead : (element.run eof []).errors.head? = some e := by simp [hes]
      apply FirstError.of_head hhead hat hv
      rintro (_ | ⟨u, rest⟩) hh
      · simp [hes]
      · cases hh
    | cons t ts =>
      cases h t ts with
      | @reads m hm hrun =>
        rw [hrun ts rfl] at he
        rw [← List.singleton_append]
        apply (hm.firstError ts he).shift
        · simp [hrun ts rfl, Step.after]
        · intro rest hh hne
          simpa [hrun rest hh, Step.after] using hne
        · rintro vs ⟨ws, a, hp, hR⟩
          exact ⟨t :: ws, a, by simpa using hp, hR⟩
      | @stuck e es hes hat hs => exact ⟨[], t :: ts, e, rfl, by simp [hes], hat, hv, hs⟩

end Leading

section Statements

variable {t : Token} {ts : List Token}

theorem leads_returnStmt (h : t.kind = .keyword .returnKw) :
    Leads eof Parse.stmt IsStmt t ts := by
  refine .of_bind (p := Parse.returnStmt) rfl (fun _ => Parse.run_skip h) (fun ts' _ => ?_) ?_
  · rw [Parse.stmt, Parse.run_kindAt_zero_bind, if_pos h]
  · apply (expr.bind fun _ => (skip .semicolon).bind fun _ => Reads.pure _).mono
    rintro us s ⟨ts, _, e, rfl, he, _, _, _, rfl, ⟨semi, rfl, hsemi⟩, rfl, rfl⟩
    exact .ret h he hsemi

theorem leads_foreignCall (h : t.kind = .keyword .callKw) :
    Leads eof Parse.stmt IsStmt t ts := by
  have hret : t.kind ≠ .keyword .returnKw := by simp [h]
  refine .of_bind (p := Parse.foreignCall) rfl (fun _ => Parse.run_skip h) (fun ts' _ => ?_) ?_
  · rw [Parse.stmt, Parse.run_kindAt_zero_bind, if_neg hret, if_pos h]
  · apply ((skip .leftBrace).bind fun _ => (text .string).bind fun _ =>
      (skip .rightBrace).bind fun _ => (skip .semicolon).bind fun _ => Reads.pure _).mono
    rintro us s ⟨_, _, _, rfl, ⟨l, rfl, hl⟩, _, _, _, rfl, ⟨content, rfl, hc, rfl⟩, _, _, _, rfl,
      ⟨r, rfl, hr⟩, _, _, _, rfl, ⟨semi, rfl, hsemi⟩, rfl, rfl⟩
    exact .foreign h hl hc hr hsemi

theorem leads_declaration (h : t.kind.isTypeName = true)
    (hts : (ts.head?.getD eof).kind ≠ .leftParen) : Leads eof Parse.stmt IsStmt t ts := by
  refine .of_bind (p := Parse.declaration) rfl (fun _ => Parse.run_typeName h)
    (fun ts' hh => ?_) ?_
  · rw [Parse.run_stmt_of_isTypeName h, hh, if_neg hts]
  · apply ((text .identifier).bind fun _ => initializer.bind fun _ =>
      (skip .semicolon).bind fun _ => Reads.pure _).mono
    rintro us s ⟨_, _, _, rfl, ⟨name, rfl, hname, rfl⟩, _, _, init, rfl,
      ⟨eq, ts, e, rfl, heq, he, rfl⟩ | ⟨rfl, rfl⟩, _, _, _, rfl, ⟨semi, rfl, hsemi⟩, rfl, rfl⟩
    · exact .define h hname heq he hsemi
    · exact .declare h hname hsemi

theorem leads_invocation (h : t.kind = .identifier)
    (hts : (ts.head?.getD eof).kind = .leftParen) : Leads eof Parse.stmt IsStmt t ts := by
  have htype : t.kind.isTypeName = true := by rw [h]; rfl
  have hcallee (ts : List Token) : Parse.callee.run eof (t :: ts) = ⟨t.text, [], 1⟩ := by
    rw [Parse.run_callee, if_pos h]
  refine .of_bind (p := Parse.invocation) rfl hcallee (fun ts' hh => ?_) ?_
  · rw [Parse.run_stmt_of_isTypeName htype, hh, if_pos hts]
  · apply ((skip .leftParen).bind fun _ => expr.commaList.bind fun _ =>
      (skip .rightParen).bind fun _ => (skip .semicolon).bind fun _ => Reads.pure _).mono
    rintro us s ⟨_, _, _, rfl, ⟨l, rfl, hl⟩, ts, _, args, rfl, hargs, _, _, _, rfl, ⟨r, rfl, hr⟩,
      _, _, _, rfl, ⟨semi, rfl, hsemi⟩, rfl, rfl⟩
    exact .invoke h hl hargs hr hsemi

/-- A built-in type is only reported in front of a parenthesis. -/
theorem leads_builtinCallee {type : PrimitiveType} (h : t.kind = .primitive type) {u : Token}
    (hu : u.kind = .leftParen) (us : List Token) : Leads eof Parse.stmt IsStmt t (u :: us) := by
  have htype : t.kind.isTypeName = true := by rw [h]; rfl
  have hne : t.kind ≠ .identifier := by simp [h]
  have hrun (us : List Token) : ∃ es, (Parse.stmt.run eof (t :: u :: us)).errors =
      .mismatch (.kind .identifier) t :: es := by
    rw [Parse.run_stmt_of_isTypeName htype, List.head?_cons, Option.getD_some, if_pos hu,
      Parse.invocation, Parse.run_bind, Parse.run_callee, if_neg hne]
    exact ⟨_, rfl⟩
  obtain ⟨es, hes⟩ := hrun us
  refine .stuck hes ⟨rfl, rfl⟩ (.callee h hu fun rest => ?_)
  obtain ⟨es', hes'⟩ := hrun rest
  simp [hes']

end Statements

theorem stmt (heof : eof.kind = .eof) : Reads eof Parse.stmt IsStmt := by
  apply of_leads
  · exact ⟨[.ofKind .identifier, .ofKind .identifier, .ofKind .semicolon], _, .declare rfl rfl rfl⟩
  · exact Parse.stmt_advances
  · refine ⟨.unexpectedStart .body eof, [], ?_, rfl, rfl⟩
    simp [Parse.stmt, heof, TokenKind.isTypeName,
      Parse.skipUnexpected, Parse.advance, Parse.report]
  intro t ts
  by_cases hret : t.kind = .keyword .returnKw
  · exact leads_returnStmt hret
  by_cases hcall : t.kind = .keyword .callKw
  · exact leads_foreignCall hcall
  by_cases htype : t.kind.isTypeName = true
  · by_cases hparen : (ts.head?.getD eof).kind = .leftParen
    · cases ht : t.kind <;> simp [ht, TokenKind.isTypeName] at htype
      case primitive type =>
        cases ts with
        | nil => simp [heof] at hparen
        | cons u us => exact leads_builtinCallee ht hparen us
      case identifier => exact leads_invocation ht hparen
    · exact leads_declaration htype hparen
  · refine .refuses (e := .unexpectedStart .body t) ⟨rfl, rfl⟩ (fun ts => ⟨[], ?_⟩) ts
    rw [Parse.stmt, Parse.run_kindAt_zero_bind, if_neg hret, if_neg hcall, if_neg htype]
    rfl

theorem body (heof : eof.kind = .eof) : Reads eof Parse.body fun us stmts =>
    ∃ lb rb bs, us = lb :: (bs ++ [rb]) ∧ lb.kind = .leftBrace ∧ Sequence IsStmt bs stmts ∧
      rb.kind = .rightBrace := by
  apply ((skip .leftBrace).bind fun _ => (stmt heof).many.bind fun _ =>
    (skip .rightBrace).bind fun _ => Reads.pure _).mono
  rintro us stmts ⟨_, _, _, rfl, ⟨lb, rfl, hlb⟩, bs, _, _, rfl, hbs, _, _, _, rfl,
    ⟨rb, rfl, hrb⟩, rfl, rfl⟩
  exact ⟨lb, rb, bs, rfl, hlb, hbs, hrb⟩

section Items

variable {t : Token} {ts : List Token}

theorem leads_importDecl (h : t.kind = .keyword .importKw) : Leads eof Parse.item IsItem t ts := by
  refine .of_bind (p := .imported <$> Parse.importDecl) (bind_assoc ..)
    (fun _ => Parse.run_skip h) (fun ts' _ => ?_) ?_
  · rw [Parse.item, Parse.run_kindAt_zero_bind, if_pos h]
    rfl
  · apply (((text .identifier).bind fun _ => (skip .doubleColon).bind fun _ =>
      (text .identifier).bind fun _ => (skip .semicolon).bind fun _ => Reads.pure _).bind
        fun _ => Reads.pure _).mono
    rintro us i ⟨_, _, decl, rfl, ⟨_, _, _, rfl, ⟨space, rfl, hspace, rfl⟩, _, _, _, rfl,
      ⟨colons, rfl, hcolons⟩, _, _, _, rfl, ⟨name, rfl, hname, rfl⟩, _, _, _, rfl,
      ⟨semi, rfl, hsemi⟩, rfl, rfl⟩, rfl, rfl⟩
    exact .imported h hspace hcolons hname hsemi

theorem leads_functionDecl (heof : eof.kind = .eof) (h : t.kind = .keyword .fnKw) :
    Leads eof Parse.item IsItem t ts := by
  have himport : t.kind ≠ .keyword .importKw := by simp [h]
  refine .of_bind (p := .function <$> Parse.functionDecl) (bind_assoc ..)
    (fun _ => Parse.run_skip h) (fun ts' _ => ?_) ?_
  · rw [Parse.item, Parse.run_kindAt_zero_bind, if_neg himport, if_pos h]
    rfl
  · apply (((text .identifier).bind fun _ => (skip .leftParen).bind fun _ =>
      param.commaList.bind fun _ => (skip .rightParen).bind fun _ => (skip .colon).bind fun _ =>
      typeName.bind fun _ => (body heof).bind fun _ => Reads.pure _).bind
        fun _ => Reads.pure _).mono
    rintro us i ⟨_, _, decl, rfl, ⟨_, _, _, rfl, ⟨name, rfl, hname, rfl⟩, _, _, _, rfl,
      ⟨lp, rfl, hlp⟩, ps, _, params, rfl, hps, _, _, _, rfl, ⟨rp, rfl, hrp⟩, _, _, _, rfl,
      ⟨colon, rfl, hcolon⟩, _, _, _, rfl, ⟨returns, rfl, hreturns, rfl⟩, _, _, stmts, rfl,
      ⟨lb, rb, bs, rfl, hlb, hbs, hrb⟩, rfl, rfl⟩, rfl, rfl⟩
    rw [List.append_nil, List.append_nil]
    exact .function h hname hlp hps hrp hcolon hreturns hlb hbs hrb

end Items

theorem item (heof : eof.kind = .eof) : Reads eof Parse.item IsItem := by
  apply of_leads
  · exact ⟨[.ofKind (.keyword .importKw), .ofKind .identifier, .ofKind .doubleColon,
      .ofKind .identifier, .ofKind .semicolon], _, .imported rfl rfl rfl rfl rfl⟩
  · exact Parse.item_advances
  · refine ⟨.unexpectedStart .topLevel eof, [], ?_, rfl, rfl⟩
    simp [Parse.item, heof, Parse.skipUnexpected, Parse.advance,
      Parse.report]
  intro t ts
  by_cases himport : t.kind = .keyword .importKw
  · exact leads_importDecl himport
  by_cases hfn : t.kind = .keyword .fnKw
  · exact leads_functionDecl heof hfn
  · refine .refuses (e := .unexpectedStart .topLevel t) ⟨rfl, rfl⟩ (fun ts => ⟨[], ?_⟩) ts
    rw [Parse.item, Parse.run_kindAt_zero_bind, if_neg himport, if_neg hfn]
    rfl

theorem program (heof : eof.kind = .eof) : Reads eof Parse.program IsProgram := by
  apply ((item heof).many.bind fun _ => Reads.pure _).mono
  rintro us p ⟨vs, _, items, rfl, hi, rfl, rfl⟩
  simpa [IsProgram] using hi

end Reads

end SourceCheck
