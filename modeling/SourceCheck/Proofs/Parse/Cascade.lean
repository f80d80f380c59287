import SourceCheck.Proofs.Parse.Runs

/-! # Cascades of errors

A token that is not the one asked for is reported and left in place, so one token may be reported
several times. Every token that is used pays for a number of errors. Statements live on four errors
a token. A function asks for nine tokens, more than its keyword pays for, but then its body uses
another one.
-/

namespace SourceCheck

variable {α : Type} {eof : Token} {as bs : List Act} {ts rest : List Token}

/-- The tokens that acts use pay for the errors that they report, at so many errors a token, but
for some that are still to be paid. -/
def Affords (eof : Token) (rate debt : Nat) (as : List Act) : Prop :=
  (errorsOf eof as).length ≤ rate * (tokensOf as).length + debt

namespace Affords

variable {rate debt debt' : Nat}

theorem nil : Affords eof rate 0 [] := Nat.le_refl 0

theorem append (h : Affords eof rate debt as) (h' : Affords eof rate debt' bs) :
    Affords eof rate (debt' + debt) (as ++ bs) := by
  simp only [Affords, errorsOf_append, tokensOf_append, List.length_append, Nat.mul_add] at *
  omega

theorem mono {rate' : Nat} (h : Affords eof rate debt as) (hrate : rate ≤ rate')
    (hdebt : debt ≤ debt') : Affords eof rate' debt' as :=
  Nat.le_trans h (Nat.add_le_add (Nat.mul_le_mul_right _ hrate) hdebt)

theorem look {n : Nat} {seen : Option Token} (h : Affords eof rate debt as) :
    Affords eof rate debt (.look n seen :: as) := h

theorem ask {wanted : Expectation} {seen : Option Token} (h : Affords eof rate debt as) :
    Affords eof rate (debt + 1) (.ask wanted seen :: as) := by
  have hask : ((Act.ask wanted seen).errors eof).length ≤ 1 := by
    rw [Act.errors]
    split <;> simp
  simp only [Affords, errorsOf_cons, tokensOf_cons, List.length_append, Nat.mul_add] at *
  omega

theorem taken (wanted : Expectation) {t : Token} (ht : wanted.accepts t.kind = true)
    (h : Affords eof rate debt as) (hdebt : debt ≤ rate) :
    Affords eof rate 0 (.ask wanted (some t) :: as) := by
  simp only [Affords, errorsOf_cons, tokensOf_cons, Act.errors_ask ht, Act.tokens_ask ht,
    List.length_append, List.length_nil, List.length_singleton, Nat.mul_add] at *
  omega

theorem keyword {t : Token} {kind : TokenKind} (ht : t.kind = kind)
    (h : Affords eof rate debt as) (hdebt : debt ≤ rate) :
    Affords eof rate 0 (.look 0 (some t) :: .ask (.kind kind) (some t) :: as) :=
  look (taken _ (beq_iff_eq.mpr ht) h hdebt)

theorem callee {t : Token} (h : Affords eof rate debt as) (hdebt : debt < rate) :
    Affords eof rate 0 (.callee t :: as) := by
  have hcallee : ((Act.callee t).errors eof).length ≤ 1 := by
    rw [Act.errors]
    split <;> simp
  simp only [Affords, errorsOf_cons, tokensOf_cons, Act.tokens_callee, List.length_append,
    List.length_singleton, Nat.mul_add] at *
  omega

theorem expr {e : Expr} (h : ExprActs eof as e) : Affords eof rate 1 as := by
  obtain @⟨_, us, result, -, -⟩ := h
  cases result with
  | ok => exact Nat.zero_le _
  | error => exact Nat.le_add_left _ _

theorem initializer {init : Option Expr} (h : InitActs eof as init) : Affords eof rate 1 as := by
  cases h with
  | absent => exact Nat.zero_le _
  | given _ he =>
    have hexpr : Affords eof rate 1 _ := expr he
    simp only [Affords, errorsOf_cons, tokensOf_cons, Act.errors_accept, List.nil_append,
      List.length_append, Nat.mul_add] at *
    omega

section Lists

variable {R : List Act → α → Prop} {as' : List α}

theorem many {stops : TokenKind → Bool} (h : ManyActs stops R as as')
    (hhappens : Happens eof ts as rest)
    (hR : ∀ as a ts rest, R as a → Happens eof ts as rest → Affords eof rate 0 as) :
    Affords eof rate 0 as := by
  induction h generalizing ts with
  | nil => exact look nil
  | cons _ ha _ ih =>
    obtain ⟨mid, has, hbs⟩ := hhappens.of_look.2.exists_of_append
    exact look ((hR _ _ _ _ ha has).append (ih hbs))

/-- The comma after an element pays for it. The last element is still to be paid. -/
theorem commaList {close : TokenKind} (h : CommaActs close R as as') (hrate : debt ≤ rate)
    (hR : ∀ as a, R as a → Affords eof rate debt as) : Affords eof rate debt as := by
  induction h with
  | nil => exact (look nil).mono (Nat.le_refl _) (Nat.zero_le _)
  | last _ ha hcomma =>
    have hfirst := hR _ _ ha
    simpa [Affords, Act.tokens_accept_of_ne hcomma] using hfirst
  | cons _ ha hcomma _ ih =>
    have hfirst := hR _ _ ha
    simp only [Affords, errorsOf_cons, errorsOf_append, tokensOf_cons, tokensOf_append,
      Act.errors_look, Act.tokens_look, Act.errors_accept, Act.tokens_accept hcomma,
      List.nil_append, List.length_append, List.length_singleton, Nat.mul_add] at *
    omega

end Lists

theorem stmt {s : Stmt} (h : StmtActs eof as s) : Affords eof 4 0 as := by
  cases h with
  | ret hkw he => exact keyword hkw ((expr he).append (ask nil)) (by decide)
  | foreign hkw => exact keyword hkw (ask (ask (ask (ask nil)))) (by decide)
  | invoke _ hl hargs =>
    have hlist : Affords eof 4 1 _ := commaList hargs (by decide) fun _ _ => expr
    exact look (look (callee (taken _ (beq_iff_eq.mpr hl) (hlist.append (ask (ask nil)))
      (by decide)) (by decide)))
  | declare htype hinit =>
    exact look (look (taken .typeName htype (ask ((initializer hinit).append (ask nil)))
      (by decide)))
  | error => exact Nat.le_add_left ..

theorem param {p : Param} (h : ParamActs eof as p) : Affords eof rate 2 as := by
  cases h
  exact ask (ask nil)

theorem body {stmts : List Stmt} (h : BodyActs eof as stmts) (hhappens : Happens eof ts as rest) :
    Affords eof 4 2 as := by
  obtain ⟨hstmts⟩ := h
  obtain _ | ⟨-, hmore⟩ := hhappens
  obtain ⟨_, hlist, -⟩ := hmore.exists_of_append
  exact ask ((many hstmts hlist fun _ _ _ _ hs _ => stmt hs).append (ask nil))

end Affords

section Use

theorem StmtActs.tokens_ne_nil {s : Stmt} (h : StmtActs eof as s) : tokensOf as ≠ [] := by
  have hrun := h.isStmtRun
  generalize tokensOf as = us at hrun
  cases hrun <;> exact List.cons_ne_nil _ _

theorem Happens.of_append_of_nil (h : Happens eof ts (as ++ bs) rest) (hnone : tokensOf as = []) :
    Happens eof ts as ts ∧ Happens eof ts bs rest := by
  obtain ⟨mid, has, hbs⟩ := h.exists_of_append
  obtain rfl : ts = mid := by simpa [hnone] using has.eq_append
  exact ⟨has, hbs⟩

/-- A body uses the brace that opens it, a statement, or the brace that closes it. -/
theorem BodyActs.tokens_ne_nil {t : Token} {stmts : List Stmt} (h : BodyActs eof as stmts)
    (hhappens : Happens eof (t :: ts) as rest) : tokensOf as ≠ [] := by
  intro hnone
  obtain @⟨l, r, list, _, hstmts⟩ := h
  simp only [tokensOf_cons, tokensOf_append, List.append_eq_nil_iff] at hnone
  obtain ⟨hopen, hlist, hclose, -⟩ := hnone
  have hopened : tokensOf [.ask (.kind .leftBrace) l] = [] := by simpa using hopen
  have hacts : Happens eof (t :: ts) ([.ask (.kind .leftBrace) l] ++
      (list ++ [.ask (.kind .rightBrace) r])) rest := hhappens
  obtain ⟨-, hmore⟩ := hacts.of_append_of_nil hopened
  obtain ⟨hstays, hend⟩ := hmore.of_append_of_nil hlist
  cases hstmts with
  | nil hstops =>
    obtain _ | ⟨hat, -⟩ := hstays
    cases hat
    obtain _ | ⟨⟨rfl, -⟩, -⟩ := hend
    have hbrace : (Expectation.kind .rightBrace).accepts t.kind = true := hstops t rfl
    rw [List.head?_cons, Act.tokens_ask hbrace] at hclose
    exact List.cons_ne_nil _ _ hclose
  | cons _ hs _ =>
    rw [tokensOf_cons, tokensOf_append, List.append_eq_nil_iff, List.append_eq_nil_iff] at hlist
    exact hs.tokens_ne_nil hlist.2.1

theorem CommaActs.affords_at_end {R : List Act → α → Prop} {close : TokenKind} {as' : List α}
    {rate : Nat} (h : CommaActs close R as as') (hhappens : Happens eof [] as rest) :
    Affords eof rate 0 as := by
  cases h with
  | nil => exact .look .nil
  | last | cons => obtain _ | ⟨hat, -⟩ := hhappens; cases hat

/-- After its keyword a function asks for seven tokens, and for two more if there is a parameter.
They owe at most seven errors: either one of them is used, or none is there. -/
theorem Affords.signature {opening closing : List Act} {params : List Param} {stmts : List Stmt}
    (hopening : ∀ rate, Affords eof rate 2 opening)
    (hparams : CommaActs .rightParen (ParamActs eof) as params)
    (hclosing : ∀ rate, Affords eof rate 3 closing) (hbody : BodyActs eof bs stmts)
    (hhappens : Happens eof ts (opening ++ (as ++ (closing ++ bs))) rest) :
    Affords eof 7 7 (opening ++ (as ++ (closing ++ bs))) := by
  obtain ⟨_, -, hafterOpening⟩ := hhappens.exists_of_append
  obtain ⟨_, -, hafterParams⟩ := hafterOpening.exists_of_append
  obtain ⟨_, -, hafterClosing⟩ := hafterParams.exists_of_append
  have hstmts : Affords eof 4 2 bs := body hbody hafterClosing
  by_cases hnone : tokensOf (opening ++ (as ++ (closing ++ bs))) = []
  · simp only [tokensOf_append, List.append_eq_nil_iff] at hnone
    obtain ⟨hopeningNone, hparamsNone, hclosingNone, hbodyNone⟩ := hnone
    obtain ⟨-, hnext⟩ := hhappens.of_append_of_nil hopeningNone
    obtain ⟨hlist, hnext⟩ := hnext.of_append_of_nil hparamsNone
    obtain ⟨-, hlast⟩ := hnext.of_append_of_nil hclosingNone
    cases ts with
    | nil =>
      have hempty : Affords eof 7 0 as := hparams.affords_at_end hlist
      exact (hopening 7).append (hempty.append ((hclosing 7).append
        (hstmts.mono (by decide) (Nat.le_refl 2))))
    | cons t ts => exact absurd hbodyNone (hbody.tokens_ne_nil hlast)
  · have hlist : Affords eof 4 2 as := commaList hparams (by decide) fun _ _ => param
    have hnine : Affords eof 4 9 (opening ++ (as ++ (closing ++ bs))) :=
      (hopening 4).append (hlist.append ((hclosing 4).append hstmts))
    have hused := List.length_pos_iff.mpr hnone
    unfold Affords at hnine ⊢
    omega

theorem Affords.item {i : Item} (h : ItemActs eof as i) (hhappens : Happens eof ts as rest) :
    Affords eof 7 0 as := by
  cases h with
  | imported hkw => exact keyword hkw (ask (ask (ask (ask nil)))) (by decide)
  | function hkw hparams hbody =>
    obtain _ | ⟨-, hmore⟩ := hhappens.of_look.2
    exact keyword hkw (signature (fun _ => ask (ask nil)) hparams (fun _ => ask (ask (ask nil)))
      hbody hmore) (by decide)
  | error => exact Nat.le_add_left ..

end Use

/-- There are at most seven errors for each token of a stream. -/
theorem length_errors_parse_le (s : TokenStream) :
    (parse s).errors.length ≤ 7 * s.tokens.length := by
  obtain ⟨as, h⟩ := exists_acts s
  rw [h.errors_eq, h.tokens_eq]
  exact Affords.many h.items h.happens fun _ _ _ _ hi => .item hi.2

example : (parse ⟨[.ofKind (.keyword .fnKw)], .ofKind .eof, rfl, by decide⟩).errors.length = 7 := by
  decide +kernel

end SourceCheck
