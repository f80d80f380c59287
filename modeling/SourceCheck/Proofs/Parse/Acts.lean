import SourceCheck.Parse.Program

/-! # What a parse does

A parse looks at tokens, asks for them, or reads an expression. Each such act says what it saw, and
so which tokens it uses and what it reports. The acts of a parse determine its value; where they
happen, they also determine its errors and the tokens that it uses (`Does.run_eq`).
-/

namespace SourceCheck

variable {α β : Type}

def Reading.expr (result : Except ParseError Expr) : Expr := result.toOption.getD .error

/-- The text of the token that is asked for, or that of the end if another one is seen. -/
def Expectation.textOf (wanted : Expectation) (eof : Token) (seen : Option Token) : String :=
  ((seen.filter fun t => wanted.accepts t.kind).getD eof).text

theorem Expectation.textOf_of_accepts (wanted : Expectation) {eof t : Token}
    (h : wanted.accepts t.kind = true) : wanted.textOf eof (some t) = t.text := by
  simp [textOf, Option.filter_some, h]

/-- Whether tokens of a kind are read for their text. The text of the end of the file stands in
for a text that is missing. -/
def TokenKind.carriesText : TokenKind → Bool
  | identifier | primitive _ | integer | float | string | char | eof => true
  | _ => false

def StmtContext.Refuses : StmtContext → TokenKind → Prop
  | topLevel, kind => kind ∉ [.keyword .importKw, .keyword .fnKw]
  | body, kind =>
    kind.isTypeName = false ∧ kind ∉ [.keyword .returnKw, .keyword .callKw, .rightBrace]

/-- Something that a parse does, with the token that it sees there. Past the end it sees none. -/
inductive Act
  | look (ahead : Nat) (seen : Option Token)
  | ask (wanted : Expectation) (seen : Option Token)
  | accept (kind : TokenKind) (seen : Option Token)
  | callee (t : Token)
  | pass (context : StmtContext) (t : Token)
  | expr (us : List Token) (result : Except ParseError Expr)

variable {eof : Token}

namespace Act

def tokens : Act → List Token
  | look .. => []
  | ask wanted seen => (seen.filter fun t => wanted.accepts t.kind).toList
  | accept kind seen => (seen.filter fun t => t.kind = kind).toList
  | callee t | pass _ t => [t]
  | expr us _ => us

def errors (eof : Token) : Act → List ParseError
  | look .. | accept .. => []
  | ask wanted seen =>
    if seen.any fun t => wanted.accepts t.kind then [] else [.mismatch wanted (seen.getD eof)]
  | callee t => if t.kind = .identifier then [] else [.mismatch (.kind .identifier) t]
  | pass context t => [.unexpectedStart context t]
  | expr _ (.ok _) => []
  | expr _ (.error e) => [e]

section Tokens

variable {t : Token} {seen : Option Token} {wanted : Expectation} {kind : TokenKind}

@[simp] theorem tokens_look (ahead : Nat) (seen : Option Token) : (look ahead seen).tokens = [] :=
  rfl

@[simp] theorem tokens_callee (t : Token) : (callee t).tokens = [t] := rfl

theorem tokens_ask (h : wanted.accepts t.kind = true) : (ask wanted (some t)).tokens = [t] := by
  simp [tokens, Option.filter_some, h]

theorem tokens_accept (h : t.kind = kind) : (accept kind (some t)).tokens = [t] := by
  simp [tokens, Option.filter_some, h]

theorem tokens_accept_of_ne (h : ∀ t ∈ seen, t.kind ≠ kind) : (accept kind seen).tokens = [] := by
  cases seen with
  | none => rfl
  | some t => simp [tokens, Option.filter_some, h t rfl]

@[simp] theorem errors_look (ahead : Nat) (seen : Option Token) :
    (look ahead seen).errors eof = [] := rfl

@[simp] theorem errors_accept (kind : TokenKind) (seen : Option Token) :
    (accept kind seen).errors eof = [] := rfl

theorem errors_ask (h : wanted.accepts t.kind = true) :
    (ask wanted (some t)).errors eof = [] := by
  simp [errors, h]

end Tokens

/-- What the act sees is there. The end of the file is never asked for. -/
def At (eof : Token) (ts : List Token) : Act → Prop
  | look ahead seen => ts[ahead]? = seen
  | ask wanted seen => ts.head? = seen ∧ wanted.accepts .eof = false
  | accept _ seen => ts.head? = seen
  | callee t => ts.head? = some t ∧ t.kind.isTypeName = true
  | pass context t => ts.head? = some t ∧ context.Refuses t.kind
  | expr us result => us <+: ts ∧ readExpr eof ts = ⟨result, us.length⟩

theorem At.tokens_prefix {a : Act} {ts : List Token} (h : a.At eof ts) : a.tokens <+: ts := by
  have hhead {p : Token → Bool} : (ts.head?.filter p).toList <+: ts := by
    cases ts with
    | nil => exact List.nil_prefix
    | cons t ts =>
      cases hp : p t with
      | true => simp [Option.filter_some, hp]
      | false => simp [Option.filter_some, hp]
  cases a with
  | look => exact List.nil_prefix
  | ask wanted seen =>
    cases h.1
    exact hhead
  | accept kind seen =>
    cases h
    exact hhead
  | callee t | pass _ t =>
    obtain ⟨ts, rfl⟩ := List.head?_eq_some_iff.mp h.1
    exact ⟨ts, rfl⟩
  | expr => exact h.1

end Act

def tokensOf (acts : List Act) : List Token := acts.flatMap Act.tokens

def errorsOf (eof : Token) (acts : List Act) : List ParseError := acts.flatMap (Act.errors eof)

section Lists

variable (a : Act) (as bs : List Act)

@[simp] theorem tokensOf_nil : tokensOf [] = [] := rfl

@[simp] theorem tokensOf_cons : tokensOf (a :: as) = a.tokens ++ tokensOf as := rfl

@[simp] theorem tokensOf_append : tokensOf (as ++ bs) = tokensOf as ++ tokensOf bs :=
  List.flatMap_append

@[simp] theorem errorsOf_nil : errorsOf eof [] = [] := rfl

@[simp] theorem errorsOf_cons : errorsOf eof (a :: as) = a.errors eof ++ errorsOf eof as := rfl

@[simp] theorem errorsOf_append : errorsOf eof (as ++ bs) = errorsOf eof as ++ errorsOf eof bs :=
  List.flatMap_append

end Lists

/-- Acts that happen one after another on some tokens, and leave the rest of them. -/
inductive Happens (eof : Token) : List Token → List Act → List Token → Prop
  | nil {ts : List Token} : Happens eof ts [] ts
  | cons {a : Act} {as : List Act} {ts rest : List Token} : a.At eof ts →
      Happens eof (ts.drop a.tokens.length) as rest → Happens eof ts (a :: as) rest

namespace Happens

variable {as bs : List Act} {ts mid rest : List Token}

theorem one {a : Act} (h : a.At eof ts) : Happens eof ts [a] (ts.drop a.tokens.length) :=
  .cons h .nil

theorem eq_append (h : Happens eof ts as rest) : ts = tokensOf as ++ rest := by
  induction h with
  | nil => rfl
  | cons hat _ ih =>
    obtain ⟨vs, rfl⟩ := hat.tokens_prefix
    rw [List.drop_left] at ih
    rw [tokensOf_cons, List.append_assoc, ih]

theorem append (h : Happens eof ts as mid) (h' : Happens eof mid bs rest) :
    Happens eof ts (as ++ bs) rest := by
  induction h with
  | nil => exact h'
  | cons hat _ ih => exact .cons hat (ih h')

theorem of_look {n : Nat} {seen : Option Token} (h : Happens eof ts (.look n seen :: as) rest) :
    ts[n]? = seen ∧ Happens eof ts as rest := by
  obtain _ | ⟨hat, h⟩ := h
  exact ⟨hat, h⟩

theorem exists_of_append (h : Happens eof ts (as ++ bs) rest) :
    ∃ mid, Happens eof ts as mid ∧ Happens eof mid bs rest := by
  induction as generalizing ts with
  | nil => exact ⟨ts, .nil, h⟩
  | cons a as ih =>
    cases h with
    | cons hat h =>
      obtain ⟨mid, has, hbs⟩ := ih h
      exact ⟨mid, .cons hat has, hbs⟩

end Happens

/-- A parse does some acts and gives a value. -/
inductive Does (eof : Token) : {α : Type} → Parse α → List Act → α → Prop
  | pure {α : Type} (a : α) : Does eof (pure a) [] a
  | bind {α β : Type} {m : Parse α} {f : α → Parse β} {as bs : List Act} {a : α} {b : β} :
      Does eof m as a → Does eof (f a) bs b → Does eof (m >>= f) (as ++ bs) b
  | kindAt (n : Nat) (seen : Option Token) :
      Does eof (Parse.kindAt n) [.look n seen] (seen.getD eof).kind
  | skip (kind : TokenKind) (seen : Option Token) :
      Does eof (Parse.skip kind) [.ask (.kind kind) seen] ()
  | text (kind : TokenKind) (seen : Option Token) : kind.carriesText = true →
      Does eof (Parse.text kind) [.ask (.kind kind) seen]
        ((Expectation.kind kind).textOf eof seen)
  | typeName (seen : Option Token) :
      Does eof Parse.typeName [.ask .typeName seen] (Expectation.typeName.textOf eof seen)
  | accept (kind : TokenKind) (seen : Option Token) :
      Does eof (Parse.accept kind) [.accept kind seen] (seen.any fun t => t.kind = kind)
  | callee (t : Token) : Does eof Parse.callee [.callee t] t.text
  | skipUnexpected (context : StmtContext) (t : Token) :
      Does eof (Parse.skipUnexpected context) [.pass context t] ()
  | expr (us : List Token) (result : Except ParseError Expr) :
      Does eof Parse.expr [.expr us result] (Reading.expr result)
  | many_nil {α : Type} {stops : TokenKind → Bool} {element : Parse α} {h : element.Advances}
      {seen : Option Token} : (∀ t ∈ seen, stops t.kind = true) →
      Does eof (Parse.many stops element h) [.look 0 seen] []
  | many_cons {α : Type} {stops : TokenKind → Bool} {element : Parse α} {h : element.Advances}
      {t : Token} {as bs : List Act} {a : α} {as' : List α} : stops t.kind = false →
      Does eof element as a → Does eof (Parse.many stops element h) bs as' →
      Does eof (Parse.many stops element h) (.look 0 (some t) :: (as ++ bs)) (a :: as')
  | commaList_nil {α : Type} {close : TokenKind} {element : Parse α} {seen : Option Token} :
      (∀ t ∈ seen, t.kind = close) →
      Does eof (Parse.commaList close element) [.look 0 seen] []
  | commaList_last {α : Type} {close : TokenKind} {element : Parse α} {t : Token}
      {as : List Act} {a : α} {seen : Option Token} : t.kind ≠ close → Does eof element as a →
      (∀ c ∈ seen, c.kind ≠ .comma) →
      Does eof (Parse.commaList close element)
        (.look 0 (some t) :: (as ++ [.accept .comma seen])) [a]
  | commaList_cons {α : Type} {close : TokenKind} {element : Parse α} {t c : Token}
      {as bs : List Act} {a : α} {as' : List α} : t.kind ≠ close → Does eof element as a →
      c.kind = .comma → Does eof (Parse.commaList close element) bs as' →
      Does eof (Parse.commaList close element)
        (.look 0 (some t) :: (as ++ .accept .comma (some c) :: bs)) (a :: as')

section Run

variable {ts rest : List Token}

theorem Parse.run_expect_eq (wanted : Expectation) (eof : Token) (ts : List Token) :
    (expect wanted).run eof ts = ⟨(ts.head?.filter fun t => wanted.accepts t.kind).getD eof,
      (Act.ask wanted ts.head?).errors eof, (Act.ask wanted ts.head?).tokens.length⟩ := by
  cases ts with
  | nil => rfl
  | cons t ts => cases ht : wanted.accepts t.kind <;>
    simp [expect, Act.errors, Act.tokens, Option.filter_some, ht]

theorem Parse.run_accept_eq (kind : TokenKind) (eof : Token) (ts : List Token) :
    (accept kind).run eof ts = ⟨ts.head?.any fun t => t.kind = kind, [],
      (Act.accept kind ts.head?).tokens.length⟩ := by
  cases ts with
  | nil => rfl
  | cons t ts => by_cases ht : t.kind = kind <;>
    simp [accept, Act.tokens, Option.filter_some, ht]

theorem Parse.run_expr_eq {us : List Token} {result : Except ParseError Expr}
    (h : readExpr eof ts = ⟨result, us.length⟩) :
    expr.run eof ts = ⟨Reading.expr result, (Act.expr us result).errors eof, us.length⟩ := by
  cases result <;> simp [expr, h, Reading.expr, Act.errors, Except.toOption]

/-- The acts of a parse determine what it comes to where they happen. -/
theorem Does.run_eq {m : Parse α} {as : List Act} {a : α} (h : Does eof m as a)
    (hhappens : Happens eof ts as rest) :
    m.run eof ts = ⟨a, errorsOf eof as, (tokensOf as).length⟩ := by
  induction h generalizing ts rest with
  | pure => rfl
  | bind _ _ ihm ihf =>
    obtain ⟨mid, has, hbs⟩ := hhappens.exists_of_append
    rw [Parse.run_bind, ihm has, has.eq_append]
    simp [ihf hbs]
  | kindAt n seen =>
    obtain _ | ⟨hat, _⟩ := hhappens
    cases hat
    simp [Act.tokens, Act.errors]
  | skip kind seen =>
    obtain _ | ⟨⟨rfl, _⟩, _⟩ := hhappens
    simp [Parse.skip, Parse.run_expect_eq]
  | text kind seen _ =>
    obtain _ | ⟨⟨rfl, _⟩, _⟩ := hhappens
    simp [Parse.text, Parse.run_expect_eq, Expectation.textOf]
  | typeName seen =>
    obtain _ | ⟨⟨rfl, _⟩, _⟩ := hhappens
    simp [Parse.typeName, Parse.run_expect_eq, Expectation.textOf]
  | accept kind seen =>
    obtain _ | ⟨hat, _⟩ := hhappens
    cases hat
    simp [Parse.run_accept_eq, Act.errors]
  | callee t =>
    obtain _ | ⟨hat, _⟩ := hhappens
    obtain ⟨us, rfl⟩ := List.head?_eq_some_iff.mp hat.1
    simp [Parse.run_callee, Act.errors, Act.tokens]
  | skipUnexpected context t =>
    obtain _ | ⟨hat, _⟩ := hhappens
    obtain ⟨us, rfl⟩ := List.head?_eq_some_iff.mp hat.1
    simp [Parse.run_skipUnexpected, Act.errors, Act.tokens]
  | expr us result =>
    obtain _ | ⟨hat, _⟩ := hhappens
    simp [Parse.run_expr_eq hat.2, Act.tokens]
  | many_nil hstops =>
    obtain _ | ⟨hat, _⟩ := hhappens
    cases hat
    rw [← List.head?_eq_getElem?] at hstops
    exact Parse.manyFrom_of_stops hstops
  | @many_cons _ stops element h t as bs a as' hstops _ _ ih ihs =>
    obtain _ | ⟨hat, hlist⟩ := hhappens
    obtain ⟨mid, has, hbs⟩ := hlist.exists_of_append
    have hfirst := ih has
    have hmore : Parse.manyFrom stops element h eof mid = _ := ihs hbs
    obtain rfl : ts = tokensOf as ++ mid := has.eq_append
    have hhead := List.head?_eq_getElem?.trans hat
    rw [Parse.run_many, Parse.manyFrom_append hhead hstops hfirst, hmore]
    simp
  | commaList_nil hclose =>
    obtain _ | ⟨hat, _⟩ := hhappens
    cases hat
    rw [← List.head?_eq_getElem?] at hclose
    exact Parse.commaListFrom_of_close hclose
  | commaList_last hclose _ hcomma ih =>
    obtain _ | ⟨hat, hlist⟩ := hhappens
    obtain ⟨mid, has, hend⟩ := hlist.exists_of_append
    obtain _ | ⟨rfl, _⟩ := hend
    have hfirst := ih has
    obtain rfl : ts = tokensOf _ ++ mid := has.eq_append
    have hhead := List.head?_eq_getElem?.trans hat
    rw [Parse.run_commaList, Parse.commaListFrom_of_last hhead hclose hfirst hcomma]
    simp [Act.tokens_accept_of_ne hcomma]
  | @commaList_cons _ close element t c as bs a as' hclose _ hcomma _ ih ihs =>
    obtain _ | ⟨hat, hlist⟩ := hhappens
    obtain ⟨_, has, hmore⟩ := hlist.exists_of_append
    obtain _ | ⟨hat', hbs⟩ := hmore
    obtain ⟨mid, rfl⟩ := List.head?_eq_some_iff.mp hat'
    rw [Act.tokens_accept hcomma] at hbs
    have hfirst := ih has
    have hlater : Parse.commaListFrom close element eof mid = _ := ihs hbs
    obtain rfl : ts = tokensOf as ++ c :: mid := has.eq_append
    have hhead := List.head?_eq_getElem?.trans hat
    rw [Parse.run_commaList, Parse.commaListFrom_of_comma hhead hclose hfirst hcomma, hlater]
    simp [Act.tokens_accept hcomma, Nat.add_assoc, Nat.add_comm 1]

end Run

end SourceCheck
