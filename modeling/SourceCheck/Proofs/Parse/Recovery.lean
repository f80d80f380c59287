import SourceCheck.Proofs.Parse.Acts
import SourceCheck.Proofs.Parse.Chain

/-! # The acts of the productions

What each production does on any tokens, whatever is wrong with them: its acts in order, and the
value that it gives for them. Every list of tokens is read by acts of this form.
-/

namespace SourceCheck

variable {α β : Type} (eof : Token)

inductive ExprActs : List Act → Expr → Prop
  | intro {ts us : List Token} {result : Except ParseError Expr} : us <+: ts →
      readExpr eof ts = ⟨result, us.length⟩ →
      ExprActs [.expr us result] (Reading.expr result)

/-- Elements one after another, up to a token that stops them or to the end. -/
inductive ManyActs (stops : TokenKind → Bool) (R : List Act → α → Prop) :
    List Act → List α → Prop
  | nil {seen : Option Token} : (∀ t ∈ seen, stops t.kind = true) →
      ManyActs stops R [.look 0 seen] []
  | cons {t : Token} {as bs : List Act} {a : α} {as' : List α} : stops t.kind = false → R as a →
      ManyActs stops R bs as' → ManyActs stops R (.look 0 (some t) :: (as ++ bs)) (a :: as')

/-- Elements with a comma behind each, except perhaps the last. -/
inductive CommaActs (close : TokenKind) (R : List Act → α → Prop) : List Act → List α → Prop
  | nil {seen : Option Token} : (∀ t ∈ seen, t.kind = close) →
      CommaActs close R [.look 0 seen] []
  | last {t : Token} {as : List Act} {a : α} {seen : Option Token} : t.kind ≠ close → R as a →
      (∀ c ∈ seen, c.kind ≠ .comma) →
      CommaActs close R (.look 0 (some t) :: (as ++ [.accept .comma seen])) [a]
  | cons {t c : Token} {as bs : List Act} {a : α} {as' : List α} : t.kind ≠ close → R as a →
      c.kind = .comma → CommaActs close R bs as' →
      CommaActs close R (.look 0 (some t) :: (as ++ .accept .comma (some c) :: bs)) (a :: as')

inductive InitActs : List Act → Option Expr → Prop
  | absent {seen : Option Token} : (∀ t ∈ seen, t.kind ≠ .assign) →
      InitActs [.accept .assign seen] none
  | given {eq : Token} {as : List Act} {e : Expr} : eq.kind = .assign → ExprActs eof as e →
      InitActs (.accept .assign (some eq) :: as) (some e)

inductive StmtActs : List Act → Stmt → Prop
  | ret {kw : Token} {semi : Option Token} {as : List Act} {e : Expr} :
      kw.kind = .keyword .returnKw → ExprActs eof as e →
      StmtActs (.look 0 (some kw) :: .ask (.kind (.keyword .returnKw)) (some kw) ::
        (as ++ [.ask (.kind .semicolon) semi])) (.ret e)
  | foreign {kw : Token} {l content r semi : Option Token} : kw.kind = .keyword .callKw →
      StmtActs [.look 0 (some kw), .ask (.kind (.keyword .callKw)) (some kw),
          .ask (.kind .leftBrace) l, .ask (.kind .string) content, .ask (.kind .rightBrace) r,
          .ask (.kind .semicolon) semi]
        (.foreign ((Expectation.kind .string).textOf eof content))
  | invoke {callee l : Token} {r semi : Option Token} {as : List Act} {args : List Expr} :
      callee.kind.isTypeName = true → l.kind = .leftParen →
      CommaActs .rightParen (ExprActs eof) as args →
      StmtActs (.look 0 (some callee) :: .look 1 (some l) :: .callee callee ::
        .ask (.kind .leftParen) (some l) ::
          (as ++ [.ask (.kind .rightParen) r, .ask (.kind .semicolon) semi]))
        (.invoke callee.text args)
  | declare {type : Token} {name semi : Option Token} {as : List Act} {init : Option Expr} :
      type.kind.isTypeName = true → InitActs eof as init →
      StmtActs (.look 0 (some type) :: .look 1 name :: .ask .typeName (some type) ::
        .ask (.kind .identifier) name :: (as ++ [.ask (.kind .semicolon) semi]))
        (.declare type.text ((Expectation.kind .identifier).textOf eof name) init)
  | error {t : Token} : StmtContext.body.Refuses t.kind →
      StmtActs [.look 0 (some t), .pass .body t] .error

inductive ParamActs : List Act → Param → Prop
  | intro {type name : Option Token} :
      ParamActs [.ask .typeName type, .ask (.kind .identifier) name]
        ⟨Expectation.typeName.textOf eof type, (Expectation.kind .identifier).textOf eof name⟩

inductive BodyActs : List Act → List Stmt → Prop
  | intro {l r : Option Token} {as : List Act} {stmts : List Stmt} :
      ManyActs (· == .rightBrace) (StmtActs eof) as stmts →
      BodyActs (.ask (.kind .leftBrace) l :: (as ++ [.ask (.kind .rightBrace) r])) stmts

inductive ItemActs : List Act → Item → Prop
  | imported {kw : Token} {space colons name semi : Option Token} :
      kw.kind = .keyword .importKw →
      ItemActs [.look 0 (some kw), .ask (.kind (.keyword .importKw)) (some kw),
          .ask (.kind .identifier) space, .ask (.kind .doubleColon) colons,
          .ask (.kind .identifier) name, .ask (.kind .semicolon) semi]
        (.imported ⟨(Expectation.kind .identifier).textOf eof space,
          (Expectation.kind .identifier).textOf eof name⟩)
  | function {kw : Token} {name l r colon returns : Option Token} {as bs : List Act}
      {params : List Param} {stmts : List Stmt} : kw.kind = .keyword .fnKw →
      CommaActs .rightParen (ParamActs eof) as params → BodyActs eof bs stmts →
      ItemActs (.look 0 (some kw) :: .ask (.kind (.keyword .fnKw)) (some kw) ::
        .ask (.kind .identifier) name :: .ask (.kind .leftParen) l ::
          (as ++ .ask (.kind .rightParen) r :: .ask (.kind .colon) colon ::
            .ask .typeName returns :: bs))
        (.function ⟨(Expectation.kind .identifier).textOf eof name, params,
          Expectation.typeName.textOf eof returns, stmts⟩)
  | error {t : Token} : StmtContext.topLevel.Refuses t.kind →
      ItemActs [.look 0 (some t), .pass .topLevel t] .error

section Lists

variable {γ : Type} {R : List Act → α → Prop} {g : Act → List γ} {f : α → List γ} {as : List Act}
  {as' : List α}

/-- What is gathered from the acts of every element is gathered from those of a repetition, if
looking at a token gives nothing. -/
theorem ManyActs.flatMap_eq {stops : TokenKind → Bool} (h : ManyActs stops R as as')
    (hlook : ∀ n seen, g (.look n seen) = []) (hR : ∀ as a, R as a → as.flatMap g = f a) :
    as.flatMap g = as'.flatMap f := by
  induction h with
  | nil => simp [hlook]
  | cons _ ha _ ih => simp [hlook, hR _ _ ha, ih]

theorem CommaActs.flatMap_eq {close : TokenKind} (h : CommaActs close R as as')
    (hlook : ∀ n seen, g (.look n seen) = []) (haccept : ∀ kind seen, g (.accept kind seen) = [])
    (hR : ∀ as a, R as a → as.flatMap g = f a) : as.flatMap g = as'.flatMap f := by
  induction h with
  | nil => simp [hlook]
  | last _ ha => simp [hlook, haccept, hR _ _ ha]
  | cons _ ha _ _ ih => simp [hlook, haccept, hR _ _ ha, ih]

end Lists

/-- On some tokens a parse does acts that go with its value. -/
def Traces (m : Parse α) (ts : List Token) (R : List Act → α → Prop) : Prop :=
  ∃ as a rest, Does eof m as a ∧ Happens eof ts as rest ∧ R as a

namespace Traces

variable {eof} {m : Parse α} {f : α → Parse β} {ts : List Token} {R : List Act → β → Prop}
  {S : List Act → α → Prop}

theorem and_does (h : Traces eof m ts S) :
    Traces eof m ts fun as a => Does eof m as a ∧ S as a := by
  obtain ⟨as, a, rest, hdo, has, hS⟩ := h
  exact ⟨as, a, rest, hdo, has, hdo, hS⟩

protected theorem pure {b : β} (h : R [] b) : Traces eof (pure b) ts R :=
  ⟨[], b, ts, .pure b, .nil, h⟩

theorem step {act : Act} {a : α} (hdo : Does eof m [act] a) (hat : act.At eof ts)
    (h : Traces eof (f a) (ts.drop act.tokens.length) fun bs b => R (act :: bs) b) :
    Traces eof (m >>= f) ts R := by
  obtain ⟨bs, b, rest, hf, hbs, hR⟩ := h
  exact ⟨act :: bs, b, rest, hdo.bind hf, .cons hat hbs, hR⟩

section Ask

variable {kind : TokenKind} {g : Unit → Parse β} {k : String → Parse β}

theorem skip (hend : (Expectation.kind kind).accepts .eof = false)
    (h : Traces eof (g ()) (ts.drop (Act.ask (.kind kind) ts.head?).tokens.length)
      fun bs b => R (.ask (.kind kind) ts.head? :: bs) b) :
    Traces eof (Parse.skip kind >>= g) ts R :=
  step (.skip kind _) ⟨rfl, hend⟩ h

theorem text (hend : (Expectation.kind kind).accepts .eof = false)
    (hcarries : kind.carriesText = true)
    (h : Traces eof (k ((Expectation.kind kind).textOf eof ts.head?))
      (ts.drop (Act.ask (.kind kind) ts.head?).tokens.length)
      fun bs b => R (.ask (.kind kind) ts.head? :: bs) b) :
    Traces eof (Parse.text kind >>= k) ts R :=
  step (.text kind _ hcarries) ⟨rfl, hend⟩ h

theorem typeName (h : Traces eof (k (Expectation.typeName.textOf eof ts.head?))
      (ts.drop (Act.ask .typeName ts.head?).tokens.length)
      fun bs b => R (.ask .typeName ts.head? :: bs) b) :
    Traces eof (Parse.typeName >>= k) ts R :=
  step (.typeName _) ⟨rfl, rfl⟩ h

end Ask

protected theorem bind (hm : Traces eof m ts S)
    (hf : ∀ as a rest, S as a → Traces eof (f a) rest fun bs b => R (as ++ bs) b) :
    Traces eof (m >>= f) ts R := by
  obtain ⟨as, a, mid, hdo, has, hS⟩ := hm
  obtain ⟨bs, b, rest, hf, hbs, hR⟩ := hf as a mid hS
  exact ⟨as ++ bs, b, rest, hdo.bind hf, has.append hbs, hR⟩

theorem expr : Traces eof Parse.expr ts (ExprActs eof) := by
  have hread : readExpr eof ts =
      ⟨(readExpr eof ts).result, (ts.take (readExpr eof ts).used).length⟩ := by
    rw [List.length_take_of_le (used_readExpr_le eof ts)]
  have hused : ts.take (readExpr eof ts).used <+: ts := List.take_prefix ..
  exact ⟨_, _, _, .expr _ _, .one ⟨hused, hread⟩, .intro hused hread⟩

section Lists

variable {element : Parse α} {hadv : element.Advances} {stops : TokenKind → Bool}
  {close : TokenKind}

theorem many (h : ∀ t ts, stops t.kind = false → Traces eof element (t :: ts) S)
    (ts : List Token) : Traces eof (Parse.many stops element hadv) ts (ManyActs stops S) := by
  induction hn : ts.length using Nat.strongRecOn generalizing ts with
  | ind n ih =>
    cases ts with
    | nil => exact ⟨[.look 0 none], [], [], .many_nil (by simp), .cons rfl .nil, .nil (by simp)⟩
    | cons t ts =>
      cases ht : stops t.kind with
      | true =>
        have hstops : ∀ u ∈ some t, stops u.kind = true := by simpa using ht
        exact ⟨[.look 0 (some t)], [], t :: ts, .many_nil hstops, .cons rfl .nil, .nil hstops⟩
      | false =>
        obtain ⟨as, a, mid, hdo, has, hS⟩ := h t ts ht
        have hused : 0 < (element.run eof (t :: ts)).used := hadv eof t ts
        have hlength := congrArg List.length has.eq_append
        rw [hdo.run_eq has] at hused
        simp only [List.length_append] at hused hlength
        obtain ⟨bs, as', rest, hmore, hbs, hlist⟩ := ih mid.length (by omega) mid rfl
        exact ⟨.look 0 (some t) :: (as ++ bs), a :: as', rest, .many_cons ht hdo hmore,
          .cons rfl (has.append hbs), .cons ht hS hlist⟩

theorem commaList (h : ∀ ts, Traces eof element ts S) (ts : List Token) :
    Traces eof (Parse.commaList close element) ts (CommaActs close S) := by
  induction hn : ts.length using Nat.strongRecOn generalizing ts with
  | ind n ih =>
    cases ts with
    | nil =>
      exact ⟨[.look 0 none], [], [], .commaList_nil (by simp), .cons rfl .nil, .nil (by simp)⟩
    | cons t ts =>
      by_cases ht : t.kind = close
      · have hclose : ∀ u ∈ some t, u.kind = close := by simpa using ht
        exact ⟨[.look 0 (some t)], [], t :: ts, .commaList_nil hclose, .cons rfl .nil, .nil hclose⟩
      obtain ⟨as, a, mid, hdo, has, hS⟩ := h (t :: ts)
      by_cases hcomma : ∀ c ∈ mid.head?, c.kind ≠ .comma
      · have hend : Happens eof mid [.accept .comma mid.head?] _ := .one rfl
        exact ⟨.look 0 (some t) :: (as ++ [.accept .comma mid.head?]), [a], _,
          .commaList_last ht hdo hcomma, .cons rfl (has.append hend), .last ht hS hcomma⟩
      · cases mid with
        | nil => simp at hcomma
        | cons c mid =>
          have hc : c.kind = .comma := by simpa using hcomma
          have hlength := congrArg List.length has.eq_append
          rw [List.length_append, List.length_cons (a := c)] at hlength
          obtain ⟨bs, as', rest, hmore, hbs, hlist⟩ := ih mid.length (by omega) mid rfl
          have hbs' : Happens eof (c :: mid) (.accept .comma (some c) :: bs) rest := by
            refine .cons rfl ?_
            rwa [Act.tokens_accept hc]
          exact ⟨.look 0 (some t) :: (as ++ .accept .comma (some c) :: bs), a :: as', rest,
            .commaList_cons ht hdo hc hmore, .cons rfl (has.append hbs'), .cons ht hS hc hlist⟩

end Lists

section Productions

theorem initializer : Traces eof Parse.initializer ts (InitActs eof) := by
  refine .step (.accept _ ts.head?) rfl ?_
  by_cases h : ∀ t ∈ ts.head?, t.kind ≠ .assign
  · have hany : (ts.head?.any fun t => t.kind = .assign) = false := by
      simpa [Option.any_eq_false] using h
    rw [hany]
    exact .pure (.absent h)
  · cases ts with
    | nil => simp at h
    | cons eq ts =>
      have heq : eq.kind = .assign := by simpa using h
      have hany : ((eq :: ts).head?.any fun t => t.kind = .assign) = true := by simpa using heq
      rw [hany]
      exact expr.bind fun _ _ _ hvalue => .pure (by simpa using .given heq hvalue)

section Statements

variable {t : Token} (heof : eof.kind = .eof)

theorem returnStmt (h : t.kind = .keyword .returnKw) :
    Traces eof Parse.returnStmt (t :: ts) fun as s => StmtActs eof (.look 0 (some t) :: as) s :=
  .skip rfl <| expr.bind fun _ _ _ hvalue => .skip rfl <| .pure (.ret h hvalue)

theorem foreignCall (h : t.kind = .keyword .callKw) :
    Traces eof Parse.foreignCall (t :: ts) fun as s => StmtActs eof (.look 0 (some t) :: as) s :=
  .skip rfl <| .skip rfl <| .text rfl rfl <| .skip rfl <| .skip rfl <| .pure (.foreign h)

theorem invocation {l : Token} (h : t.kind.isTypeName = true) (hl : l.kind = .leftParen) :
    Traces eof Parse.invocation (t :: l :: ts)
      fun as s => StmtActs eof (.look 0 (some t) :: .look 1 (some l) :: as) s :=
  .step (.callee t) ⟨rfl, h⟩ <| .skip rfl <|
    (commaList (fun _ => expr) _).bind fun _ _ _ hargs =>
      .skip rfl <| .skip rfl <| .pure (.invoke h hl hargs)

theorem declaration (h : t.kind.isTypeName = true) :
    Traces eof Parse.declaration (t :: ts)
      fun as s => StmtActs eof (.look 0 (some t) :: .look 1 ts.head? :: as) s := by
  refine .typeName <| .text rfl rfl <|
    initializer.bind fun _ _ _ hinit => .skip rfl <| .pure ?_
  have htype : Expectation.typeName.accepts t.kind = true := h
  rw [List.head?_cons, Expectation.typeName.textOf_of_accepts htype, Act.tokens_ask htype]
  exact .declare h hinit

include heof in
theorem stmt (h : t.kind ≠ .rightBrace) : Traces eof Parse.stmt (t :: ts) (StmtActs eof) := by
  refine .step (.kindAt 0 (some t)) rfl ?_
  rw [Option.getD_some]
  split
  next hret => exact returnStmt hret
  next hret =>
  split
  next hcall => exact foreignCall hcall
  next hcall =>
  split
  next htype =>
    refine .step (.kindAt 1 ts.head?) ?_ ?_
    · exact List.head?_eq_getElem?.symm
    split
    next hparen =>
      cases ts with
      | nil => simp [heof] at hparen
      | cons l ts => exact invocation htype hparen
    next => exact declaration htype
  next htype =>
    have hrefuses : StmtContext.body.Refuses t.kind :=
      ⟨Bool.eq_false_iff.mpr htype, by simp [hret, hcall, h]⟩
    exact .step (.skipUnexpected .body t) ⟨rfl, hrefuses⟩ (.pure (.error hrefuses))

end Statements

theorem param : Traces eof Parse.param ts (ParamActs eof) :=
  .typeName <| .text rfl rfl <| .pure .intro

theorem importDecl {t : Token} (h : t.kind = .keyword .importKw) :
    Traces eof Parse.importDecl (t :: ts)
      fun as decl => ItemActs eof (.look 0 (some t) :: as) (.imported decl) :=
  .skip rfl <| .text rfl rfl <| .skip rfl <| .text rfl rfl <| .skip rfl <| .pure (.imported h)

variable (heof : eof.kind = .eof)
include heof

theorem body : Traces eof Parse.body ts (BodyActs eof) :=
  .skip rfl <|
    (many (fun _ _ h => stmt heof (ne_of_beq_false h)) _).bind fun _ _ _ hstmts =>
      .skip rfl <| .pure (.intro hstmts)

theorem functionDecl {t : Token} (h : t.kind = .keyword .fnKw) :
    Traces eof Parse.functionDecl (t :: ts)
      fun as decl => ItemActs eof (.look 0 (some t) :: as) (.function decl) :=
  .skip rfl <| .text rfl rfl <| .skip rfl <|
    (commaList (fun _ => param) _).bind fun _ _ _ hparams =>
      .skip rfl <| .skip rfl <| .typeName <|
        (body heof).bind fun _ _ _ hbody => .pure (by simpa using .function h hparams hbody)

theorem item (t : Token) : Traces eof Parse.item (t :: ts) (ItemActs eof) := by
  refine .step (.kindAt 0 (some t)) rfl ?_
  rw [Option.getD_some]
  split
  next himport =>
    exact (importDecl himport).bind fun _ _ _ hitem => .pure (by simpa using hitem)
  next himport =>
  split
  next hfn => exact (functionDecl heof hfn).bind fun _ _ _ hitem => .pure (by simpa using hitem)
  next hfn =>
    have hrefuses : StmtContext.topLevel.Refuses t.kind := by
      simp [StmtContext.Refuses, himport, hfn]
    exact .step (.skipUnexpected .topLevel t) ⟨rfl, hrefuses⟩ (.pure (.error hrefuses))

theorem program : Traces eof Parse.program ts fun as p =>
    ManyActs (fun _ => false) (fun as i => Does eof Parse.item as i ∧ ItemActs eof as i) as
      p.items :=
  (many (fun t _ _ => (item heof t).and_does) _).bind fun _ _ _ hitems =>
    .pure (by simpa using hitems)

end Productions

end Traces

variable {eof} in
theorem ManyActs.stops_head {stops : TokenKind → Bool} {R : List Act → α → Prop} {as : List Act}
    {as' : List α} {ts rest : List Token} (h : ManyActs stops R as as')
    (hhappens : Happens eof ts as rest) : ∀ t ∈ rest.head?, stops t.kind = true := by
  induction h generalizing ts with
  | nil hstops =>
    obtain _ | ⟨hat, hnil⟩ := hhappens
    cases hnil
    cases hat
    rwa [← List.head?_eq_getElem?] at hstops
  | cons _ _ _ ih =>
    obtain ⟨_, -, hmore⟩ := hhappens.of_look.2.exists_of_append
    exact ih hmore

/-- A stream is parsed by these acts. They happen on its tokens, and use all of them. -/
structure ParsedBy (s : TokenStream) (as : List Act) : Prop where
  does : Does s.eof Parse.program as (parse s).program
  happens : Happens s.eof s.tokens as []
  items : ManyActs (fun _ => false) (fun as i => Does s.eof Parse.item as i ∧ ItemActs s.eof as i)
    as (parse s).program.items

theorem exists_acts (s : TokenStream) : ∃ as, ParsedBy s as := by
  have htraces : Traces s.eof Parse.program s.tokens _ := .program s.eof_kind
  obtain ⟨as, p, rest, hdo, has, hitems⟩ := htraces
  obtain rfl : rest = [] := by
    cases rest with
    | nil => rfl
    | cons t rest => cases hitems.stops_head has t rfl
  have hp : (parse s).program = p := by rw [parse, hdo.run_eq has]
  exact ⟨as, hp ▸ hdo, has, hp ▸ hitems⟩

namespace ParsedBy

variable {s : TokenStream} {as : List Act}

theorem tokens_eq (h : ParsedBy s as) : s.tokens = tokensOf as := by
  rw [h.happens.eq_append, List.append_nil]

theorem errors_eq (h : ParsedBy s as) : (parse s).errors = errorsOf s.eof as := by
  rw [parse, h.does.run_eq h.happens]

theorem used_eq (h : ParsedBy s as) :
    (Parse.program.run s.eof s.tokens).used = s.tokens.length := by
  rw [h.does.run_eq h.happens, ← h.tokens_eq]

end ParsedBy

end SourceCheck
