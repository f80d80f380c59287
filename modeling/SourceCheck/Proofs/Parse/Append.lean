import SourceCheck.Proofs.Parse.Productions
import SourceCheck.Proofs.Parse.Recovery
import SourceCheck.Token.Lex

/-! # One stream after another

If no error of a stream was found at its end, then what follows the stream does not change how it
is read, whatever else is wrong with it: its items and errors come first, and those of what
follows come after them.

A parse looks at most one token past those it uses. Where a parse may look past the end and say
nothing, the one after it asks for a token that is not there, and so reports the end.
-/

namespace SourceCheck

open Grammar

variable {α β : Type} {eof : Token}

/-- The kind of token that an error was found at. An operator without a left operand and a literal
without a value are reported for themselves. -/
def ParseErrorKind.found? : ParseErrorKind → Option TokenKind
  | mismatch _ found | unexpectedStart _ found | expectedExpression found => some found
  | missingLeftOperand _ | invalidLiteral _ _ => none

def TokenStream.append (a b : TokenStream) : TokenStream where
  tokens := a.tokens ++ b.tokens
  eof := b.eof
  eof_kind := b.eof_kind
  tokens_kind t ht := by
    rcases List.mem_append.mp ht with ht | ht
    · exact a.tokens_kind t ht
    · exact b.tokens_kind t ht

/-- Some error was found at the end of the file. -/
def MeetsEnd (errors : List ParseError) : Prop := ∃ e ∈ errors, e.kind.found? = some .eof

@[simp] theorem meetsEnd_append {es es' : List ParseError} :
    MeetsEnd (es ++ es') ↔ MeetsEnd es ∨ MeetsEnd es' := by
  simp only [MeetsEnd, List.mem_append, or_and_right, exists_or]

theorem meetsEnd_mismatch (heof : eof.kind = .eof) (wanted : Expectation) :
    MeetsEnd [.mismatch wanted eof] :=
  ⟨_, List.mem_singleton_self _, congrArg some heof⟩

theorem not_meetsEnd_append {es es' : List ParseError} (h : ¬ MeetsEnd (es ++ es')) :
    ¬ MeetsEnd es ∧ ¬ MeetsEnd es' := by
  rwa [meetsEnd_append, not_or] at h

section Acts

variable {a : Act} {as bs : List Act} {ts rest : List Token}

theorem head?_append_of_eq_some {t : Token} (h : ts.head? = some t) (more : List Token) :
    (ts ++ more).head? = some t := by
  rw [List.head?_append, h, Option.some_or]

theorem NoOperand.append {e : ParseError} {n : Nat} (heof : eof.kind = .eof)
    (h : NoOperand eof ts e n) (hn : ¬ MeetsEnd [e]) (more : List Token) :
    NoOperand eof (ts ++ more) e n := by
  cases ts with
  | nil =>
    cases h
    exact (hn ⟨_, List.mem_singleton_self _, congrArg some heof⟩).elim
  | cons t ts => exact h.tail _

theorem readExpr_append (heof : eof.kind = .eof) {result : Except ParseError Expr} {n : Nat}
    (h : readExpr eof ts = ⟨result, n⟩) (hn : ∀ e, result = .error e → ¬ MeetsEnd [e])
    (hrest : ts.drop n ≠ []) (more : List Token) :
    readExpr eof (ts ++ more) = ⟨result, n⟩ := by
  have hr : ReadsChain .lowest eof ts (readExpr eof ts) := readsChain ..
  rw [h] at hr
  cases hr with
  | @ok us vs c hc _ hs =>
    have hstops : Level.lowest.Stops (vs ++ more) := by
      apply hs.congr
      cases vs with
      | nil => simp at hrest
      | cons v vs => rfl
    rw [List.append_assoc]
    exact readExpr_of_spelled eof hc hstops
  | error hw hno =>
    rw [List.append_assoc]
    exact readExpr_of_awaits eof hw (hno.append heof (hn _ rfl) more)

/-- An act that leaves a token is the same whatever follows, unless it looked further ahead. -/
theorem Act.At.append (heof : eof.kind = .eof) (h : a.At eof ts)
    (hn : ¬ MeetsEnd (a.errors eof)) (hlook : ∀ n, a ≠ .look (n + 1) none)
    (hrest : ts.drop a.tokens.length ≠ []) (more : List Token) : a.At eof (ts ++ more) := by
  have hhead : (ts ++ more).head? = ts.head? := by
    cases ts with
    | nil => simp at hrest
    | cons t ts => rfl
  cases a with
  | look n seen =>
    cases seen with
    | none =>
      cases n with
      | zero => exact absurd (List.head?_eq_none_iff.mp (List.head?_eq_getElem?.trans h)) hrest
      | succ n => exact absurd rfl (hlook n)
    | some t =>
      obtain ⟨hlt, -⟩ := List.getElem?_eq_some_iff.mp h
      exact (List.getElem?_append_left hlt).trans h
  | ask wanted seen => exact ⟨hhead.trans h.1, h.2⟩
  | accept kind seen => exact hhead.trans h
  | callee t | pass _ t => exact ⟨hhead.trans h.1, h.2⟩
  | expr us result =>
    have herror : ∀ e, result = .error e → ¬ MeetsEnd [e] := by
      rintro e rfl
      exact hn
    exact ⟨h.1.trans (List.prefix_append ..), readExpr_append heof h.2 herror hrest more⟩

theorem Happens.append_tokens (heof : eof.kind = .eof) (h : Happens eof ts as rest)
    (hn : ¬ MeetsEnd (errorsOf eof as)) (hlook : ∀ n, Act.look (n + 1) none ∉ as)
    (hrest : rest ≠ []) (more : List Token) : Happens eof (ts ++ more) as (rest ++ more) := by
  induction h with
  | nil => exact .nil
  | cons hat htail ih =>
    obtain ⟨hfirst, hlater⟩ := not_meetsEnd_append hn
    simp only [List.mem_cons, not_or] at hlook
    refine .cons (hat.append heof hfirst (fun n => (hlook n).1 ∘ Eq.symm) ?_ more) ?_
    · rw [htail.eq_append]
      exact fun hnil => hrest (List.append_eq_nil_iff.mp hnil).2
    · rw [List.drop_append_of_le_length hat.tokens_prefix.length_le]
      exact ih hlater (fun n => (hlook n).2) hrest

/-- An act that reports the end if no token is there. -/
inductive Act.Final : Act → Prop
  | ask {wanted : Expectation} {seen : Option Token} : Final (.ask wanted seen)
  | pass {context : StmtContext} {t : Token} : Final (.pass context t)

theorem Act.Final.exists_head (heof : eof.kind = .eof) (h : a.Final) (hat : a.At eof ts)
    (hn : ¬ MeetsEnd (a.errors eof)) : ∃ t, ts.head? = some t := by
  cases h with
  | ask =>
    obtain ⟨rfl, -⟩ := hat
    cases ts with
    | nil => exact (hn (meetsEnd_mismatch heof _)).elim
    | cons t ts => exact ⟨t, rfl⟩
  | pass => exact ⟨_, hat.1⟩

theorem Act.Final.append (h : a.Final) {t : Token} (hat : a.At eof ts) (hhead : ts.head? = some t)
    (more : List Token) : a.At eof (ts ++ more) := by
  have hmore := (head?_append_of_eq_some hhead more).trans hhead.symm
  cases h with
  | ask | pass => exact ⟨hmore.trans hat.1, hat.2⟩

/-- Acts that end with a final one are the same whatever follows, if none meets the end. -/
theorem Happens.append_of_final (heof : eof.kind = .eof) (h : Happens eof ts (as ++ [a]) rest)
    (hfinal : a.Final) (hn : ¬ MeetsEnd (errorsOf eof (as ++ [a])))
    (hlook : ∀ n, Act.look (n + 1) none ∉ as) (more : List Token) :
    Happens eof (ts ++ more) (as ++ [a]) (rest ++ more) := by
  obtain ⟨mid, has, hlast⟩ := h.exists_of_append
  rw [errorsOf_append] at hn
  obtain ⟨hbefore, hend⟩ := not_meetsEnd_append hn
  obtain _ | ⟨hat, hnil⟩ := hlast
  cases hnil
  rw [errorsOf_cons, errorsOf_nil, List.append_nil] at hend
  obtain ⟨t, hhead⟩ := hfinal.exists_head heof hat hend
  have hmid : mid ≠ [] := by
    rintro rfl
    cases hhead
  refine (has.append_tokens heof hbefore hlook hmid more).append
    (.cons (hfinal.append hat hhead more) ?_)
  rw [List.drop_append_of_le_length hat.tokens_prefix.length_le]
  exact .nil

end Acts

section Productions

variable {as : List Act} {n : Nat}

theorem ExprActs.not_mem_look {e : Expr} (h : ExprActs eof as e) :
    Act.look (n + 1) none ∉ as := by
  cases h
  simp

theorem InitActs.not_mem_look {init : Option Expr} (h : InitActs eof as init) :
    Act.look (n + 1) none ∉ as := by
  cases h with
  | absent => simp
  | given _ he => simpa using he.not_mem_look

theorem ParamActs.not_mem_look {p : Param} (h : ParamActs eof as p) :
    Act.look (n + 1) none ∉ as := by
  cases h
  simp

section Lists

variable {R : List Act → α → Prop} {as' : List α}

theorem CommaActs.not_mem_look {close : TokenKind} (h : CommaActs close R as as')
    (hR : ∀ as a, R as a → Act.look (n + 1) none ∉ as) : Act.look (n + 1) none ∉ as := by
  induction h with
  | nil => simp
  | last _ ha => simpa using hR _ _ ha
  | cons _ ha _ _ ih => simpa using ⟨hR _ _ ha, ih⟩

theorem ManyActs.meetsEnd_of_look {stops : TokenKind → Bool} (h : ManyActs stops R as as')
    (hR : ∀ as a, R as a → Act.look (n + 1) none ∈ as → MeetsEnd (errorsOf eof as))
    (hmem : Act.look (n + 1) none ∈ as) : MeetsEnd (errorsOf eof as) := by
  induction h with
  | nil => simp at hmem
  | cons _ ha _ ih =>
    simp only [errorsOf_cons, errorsOf_append, meetsEnd_append]
    rcases List.mem_append.mp (List.mem_of_ne_of_mem (by simp) hmem) with hmem | hmem
    · exact .inr (.inl (hR _ _ ha hmem))
    · exact .inr (.inr (ih hmem))

end Lists

variable (heof : eof.kind = .eof)
include heof

/-- Only a declaration looks past its first token, and then it asks for the token there. -/
theorem StmtActs.meetsEnd_of_look {s : Stmt} (h : StmtActs eof as s)
    (hmem : Act.look (n + 1) none ∈ as) : MeetsEnd (errorsOf eof as) := by
  cases h with
  | ret _ he => simp [he.not_mem_look] at hmem
  | foreign => simp at hmem
  | invoke _ _ hargs =>
    have hlist := hargs.not_mem_look (n := n) fun _ _ => ExprActs.not_mem_look
    simp [hlist] at hmem
  | @declare _ name _ _ _ _ hinit =>
    obtain ⟨-, rfl⟩ : n = 0 ∧ none = name := by simpa [hinit.not_mem_look] using hmem
    simp only [errorsOf_cons, meetsEnd_append]
    exact .inr (.inr (.inr (.inl (meetsEnd_mismatch heof _))))
  | error => simp at hmem

theorem ItemActs.meetsEnd_of_look {i : Item} (h : ItemActs eof as i)
    (hmem : Act.look (n + 1) none ∈ as) : MeetsEnd (errorsOf eof as) := by
  cases h with
  | imported => simp at hmem
  | function _ hparams hbody =>
    obtain ⟨hstmts⟩ := hbody
    have hlist := hparams.not_mem_look (n := n) fun _ _ => ParamActs.not_mem_look
    have hbodies := hstmts.meetsEnd_of_look (n := n) fun _ _ => StmtActs.meetsEnd_of_look heof
    simp only [List.mem_cons, List.mem_append, hlist, reduceCtorEq] at hmem
    simp [hbodies (by simpa using hmem)]
  | error => simp at hmem

omit heof in
theorem ItemActs.exists_final {i : Item} (h : ItemActs eof as i) :
    ∃ a, as.getLast? = some a ∧ a.Final := by
  cases h with
  | imported | error => exact ⟨_, rfl, by constructor⟩
  | function _ _ hbody =>
    obtain @⟨_, r⟩ := hbody
    exact ⟨.ask (.kind .rightBrace) r, by simp [List.getLast?_cons, List.getLast?_append], .ask⟩

theorem ItemActs.happens_append {i : Item} {ts rest : List Token} (h : ItemActs eof as i)
    (hhappens : Happens eof ts as rest) (hn : ¬ MeetsEnd (errorsOf eof as)) (more : List Token) :
    Happens eof (ts ++ more) as (rest ++ more) := by
  obtain ⟨a, hlast, hfinal⟩ := h.exists_final
  obtain ⟨before, rfl⟩ := List.getLast?_eq_some_iff.mp hlast
  refine hhappens.append_of_final heof hfinal hn ?_ more
  exact fun _ hmem => hn (h.meetsEnd_of_look heof (List.mem_append_left _ hmem))

theorem Parse.items_append {items : List Item} {ts : List Token}
    (h : ManyActs (fun _ => false) (fun as i => Does eof item as i ∧ ItemActs eof as i) as items)
    (hhappens : Happens eof ts as []) (hn : ¬ MeetsEnd (errorsOf eof as)) (more : List Token) :
    manyFrom (fun _ => false) item item_advances eof (ts ++ more) =
      let rest := manyFrom (fun _ => false) item item_advances eof more
      ⟨items ++ rest.value, errorsOf eof as ++ rest.errors, ts.length + rest.used⟩ := by
  induction h generalizing ts with
  | nil =>
    obtain rfl : ts = [] := by simpa using hhappens.eq_append
    simp
  | @cons t as bs i items _ hi _ ih =>
    obtain ⟨hat, hlist⟩ := hhappens.of_look
    obtain ⟨mid, has, hbs⟩ := hlist.exists_of_append
    simp only [errorsOf_cons, errorsOf_append, meetsEnd_append, not_or] at hn
    have hmore := hi.2.happens_append heof has hn.2.1 more
    have hfirst := hi.1.run_eq hmore
    obtain rfl : ts = tokensOf as ++ mid := has.eq_append
    have hhead := head?_append_of_eq_some (List.head?_eq_getElem?.trans hat) more
    rw [List.append_assoc] at hfirst hhead ⊢
    rw [manyFrom_append hhead rfl hfirst, ih hbs hn.2.2]
    simp [Nat.add_assoc]

end Productions

theorem parse_eq (s : TokenStream) :
    parse s =
      let items := Parse.manyFrom (fun _ => false) Parse.item Parse.item_advances s.eof s.tokens
      ⟨⟨items.value⟩, items.errors⟩ := by
  simp [parse, Parse.program, Parse.run_many, -bind_pure_comp]

/-- Two streams are parsed one after the other if no error of the first is found at its end. -/
theorem parse_append (a b : TokenStream) (heof : a.eof = b.eof)
    (h : ∀ e ∈ (parse a).errors, e.kind.found? ≠ some .eof) :
    parse (a.append b) = ⟨⟨(parse a).program.items ++ (parse b).program.items⟩,
      (parse a).errors ++ (parse b).errors⟩ := by
  obtain ⟨as, ha⟩ := exists_acts a
  have hn : ¬ MeetsEnd (errorsOf a.eof as) := by
    rintro ⟨e, he, hfound⟩
    exact h e (ha.errors_eq ▸ he) hfound
  rw [parse_eq (a.append b), parse_eq b, ha.errors_eq]
  simp only [TokenStream.append, ← heof, Parse.items_append a.eof_kind ha.items ha.happens hn]

theorem parse_append_after_errors :
    let a := (lex "import a: b; fn f(): void \x7b g(1 + ); return 'ab' \x7d").stream
    let b : TokenStream := { (lex "( fn").stream with eof := a.eof, eof_kind := a.eof_kind }
    a.eof = b.eof ∧ (∀ e ∈ (parse a).errors, e.kind.found? ≠ some .eof) ∧
      parse (a.append b) = ⟨⟨(parse a).program.items ++ (parse b).program.items⟩,
        (parse a).errors ++ (parse b).errors⟩ := by
  intro a b
  have h : ∀ e ∈ (parse a).errors, e.kind.found? ≠ some .eof := by decide +kernel
  exact ⟨rfl, h, parse_append a b rfl h⟩

end SourceCheck
