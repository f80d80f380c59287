import Mathlib.Data.List.Nodup
import SourceCheck.Proofs.Parse.Expression
import SourceCheck.Proofs.Parse.Reads
import SourceCheck.Proofs.Parse.Recovery

/-! # The order of parse errors

Every error is at a token of the stream that shows it: what the error says about the token is true
of it, and a text that the error quotes is the token's. Errors are reported in the order of their
tokens, and a token that is passed over shows no other error. This is said of one act at a time.
-/

namespace SourceCheck

open Grammar

variable {α β : Type}

/-- What is wrong with a token where it stands. -/
inductive Token.Shows (t : Token) : ParseError → Prop
  | mismatch {wanted : Expectation} : wanted.accepts t.kind = false → t.Shows (.mismatch wanted t)
  | noStart {context : StmtContext} : context.Refuses t.kind →
      t.Shows (.unexpectedStart context t)
  | noOperand {e : ParseError} {n : Nat} : BadOperand t e n → t.Shows e

def ParseError.IsOf (e : ParseError) (t : Token) : Prop :=
  e.IsAt t ∧ ∀ kind text, e.kind = .invalidLiteral kind text → text = t.text

theorem Grammar.BadOperand.isOf {t : Token} {e : ParseError} {n : Nat} (h : BadOperand t e n) :
    e.IsOf t := by
  cases h with
  | operator | other => exact ⟨⟨rfl, rfl⟩, nofun⟩
  | malformed =>
    refine ⟨⟨rfl, rfl⟩, ?_⟩
    intro _ _ hk
    cases hk
    rfl

theorem Token.Shows.isOf {t : Token} {e : ParseError} (h : t.Shows e) : e.IsOf t := by
  cases h with
  | mismatch | noStart => exact ⟨⟨rfl, rfl⟩, nofun⟩
  | noOperand h => exact h.isOf

/-- The token that shows the error is passed over. -/
def ParseErrorKind.passes : ParseErrorKind → Bool
  | unexpectedStart .. | missingLeftOperand _ | invalidLiteral .. => true
  | mismatch .. | expectedExpression _ => false

/-- An error, and the index of the token that shows it. -/
structure Sighting where
  error : ParseError
  index : Nat
  deriving DecidableEq, Repr

namespace Sighting

def next (a : Sighting) : Nat := a.index + a.error.kind.passes.toNat

def shift (n : Nat) (a : Sighting) : Sighting := { a with index := n + a.index }

@[simp] theorem next_shift (n : Nat) (a : Sighting) : (a.shift n).next = n + a.next :=
  Nat.add_assoc ..

theorem index_le_next (a : Sighting) : a.index ≤ a.next := Nat.le_add_right ..

theorem index_lt_next {a : Sighting} (h : a.error.kind.passes = true) : a.index < a.next := by
  simp [next, h]

end Sighting

/-- Errors that are reported in order while the first `n` of some tokens are used, the end-of-file
token standing behind them all. -/
structure Sighted (eof : Token) (ts : List Token) (n : Nat) (errors : List ParseError)
    (as : List Sighting) : Prop where
  errors_eq : as.map Sighting.error = errors
  shows : ∀ a ∈ as, ∃ t, (ts ++ [eof])[a.index]? = some t ∧ t.Shows a.error
  next_le : ∀ a ∈ as, a.next ≤ n
  ordered : as.Pairwise fun a b => a.next ≤ b.index
  used_le : n ≤ ts.length

namespace Sighted

variable {eof t : Token} {ts : List Token} {n n' : Nat} {es es' : List ParseError}
  {as as' : List Sighting} {e : ParseError}

theorem nil (h : n ≤ ts.length) : Sighted eof ts n [] [] where
  errors_eq := rfl
  shows := by simp
  next_le := by simp
  ordered := .nil
  used_le := h

theorem one (ht : (ts ++ [eof])[0]? = some t) (h : t.Shows e) (hnext : e.kind.passes.toNat ≤ n)
    (hn : n ≤ ts.length) : Sighted eof ts n [e] [⟨e, 0⟩] where
  errors_eq := rfl
  shows := by
    intro a ha
    cases List.mem_singleton.mp ha
    exact ⟨t, ht, h⟩
  next_le := by simpa [Sighting.next] using hnext
  ordered := List.pairwise_singleton ..
  used_le := hn

theorem append (h : Sighted eof ts n es as) (h' : Sighted eof (ts.drop n) n' es' as') :
    Sighted eof ts (n + n') (es ++ es') (as ++ as'.map (Sighting.shift n)) where
  errors_eq := by
    rw [List.map_append, List.map_map, h.errors_eq, ← h'.errors_eq]
    rfl
  shows := by
    intro a ha
    rcases List.mem_append.mp ha with ha | ha
    · exact h.shows a ha
    · obtain ⟨b, hb, rfl⟩ := List.mem_map.mp ha
      obtain ⟨t, ht, hs⟩ := h'.shows b hb
      refine ⟨t, ?_, hs⟩
      rw [← List.drop_append_of_le_length h.used_le, List.getElem?_drop] at ht
      exact ht
  next_le := by
    intro a ha
    rcases List.mem_append.mp ha with ha | ha
    · exact Nat.le_trans (h.next_le a ha) (Nat.le_add_right ..)
    · obtain ⟨b, hb, rfl⟩ := List.mem_map.mp ha
      rw [Sighting.next_shift]
      exact Nat.add_le_add_left (h'.next_le b hb) n
  ordered := by
    rw [List.pairwise_append, List.pairwise_map]
    refine ⟨h.ordered, ?_, ?_⟩
    · refine h'.ordered.imp fun {a b} hab => ?_
      rw [Sighting.next_shift]
      exact Nat.add_le_add_left hab n
    · intro a ha b hb
      obtain ⟨b, -, rfl⟩ := List.mem_map.mp hb
      exact Nat.le_trans (h.next_le a ha) (Nat.le_add_right ..)
  used_le := by
    have := h.used_le
    have := h'.used_le
    rw [List.length_drop] at this
    omega

end Sighted

theorem NoOperand.sighted {eof : Token} (heof : eof.kind = .eof) {ts : List Token} {e : ParseError}
    {n : Nat} (h : NoOperand eof ts e n) : Sighted eof ts n [e] [⟨e, 0⟩] := by
  have hshows : (ts.head?.getD eof).Shows e := .noOperand ((noOperand_iff heof).mp h)
  have hhead : (ts ++ [eof])[0]? = some (ts.head?.getD eof) := by cases ts <;> rfl
  cases h <;> exact .one hhead hshows (Nat.le_refl _) (by simp)

namespace Act

variable {eof t : Token} {ts : List Token} {n : Nat}

theorem exists_sighted_ask (heof : eof.kind = .eof) {wanted : Expectation}
    (hend : wanted.accepts .eof = false) :
    ∃ as, Sighted eof ts (ask wanted ts.head?).tokens.length ((ask wanted ts.head?).errors eof)
      as := by
  cases ts with
  | nil =>
    have hshows : eof.Shows (.mismatch wanted eof) := .mismatch (heof ▸ hend)
    exact ⟨_, .one rfl hshows (Nat.le_refl 0) (Nat.le_refl 0)⟩
  | cons t ts =>
    cases ht : wanted.accepts t.kind with
    | true =>
      rw [List.head?_cons, tokens_ask ht, errors_ask ht]
      exact ⟨[], .nil (by simp)⟩
    | false =>
      simp only [List.head?_cons, tokens, errors, Option.filter_some, Option.any_some, ht,
        Bool.false_eq_true, if_false, Option.getD_some]
      exact ⟨_, .one rfl (.mismatch ht) (Nat.le_refl 0) (Nat.zero_le _)⟩

theorem exists_sighted_expr (heof : eof.kind = .eof) {us : List Token}
    {result : Except ParseError Expr} (h : readExpr eof ts = ⟨result, us.length⟩) :
    ∃ as, Sighted eof ts us.length ((expr us result).errors eof) as := by
  have hr : ReadsChain .lowest eof ts (readExpr eof ts) := readsChain .lowest eof ts
  rw [h] at hr
  generalize us.length = used at hr
  cases hr with
  | ok => exact ⟨[], .nil (by simp)⟩
  | @error us' rest e n _ hn =>
    have hlead : Sighted eof (us' ++ rest) us'.length [] [] := .nil (by simp)
    have hmissed : Sighted eof rest n [e] [⟨e, 0⟩] := hn.sighted heof
    have hdrop : (us' ++ rest).drop us'.length = rest := List.drop_left
    rw [← hdrop] at hmissed
    exact ⟨_, hlead.append hmissed⟩

/-- What an act reports is shown by the token in front of it, or by one that it uses. -/
theorem At.exists_sighted (heof : eof.kind = .eof) {a : Act} (h : a.At eof ts) :
    ∃ as, Sighted eof ts a.tokens.length (a.errors eof) as := by
  have hused : a.tokens.length ≤ ts.length := h.tokens_prefix.length_le
  cases a with
  | look | accept => exact ⟨[], .nil hused⟩
  | ask wanted seen =>
    obtain ⟨rfl, hend⟩ := h
    exact exists_sighted_ask heof hend
  | callee t =>
    obtain ⟨us, rfl⟩ := List.head?_eq_some_iff.mp h.1
    by_cases ht : t.kind = .identifier
    · simp only [errors, ht, if_true]
      exact ⟨[], .nil hused⟩
    · simp only [errors, ht, if_false]
      have hshows : t.Shows (.mismatch (.kind .identifier) t) := .mismatch (beq_false_of_ne ht)
      exact ⟨_, .one rfl hshows (Nat.zero_le _) hused⟩
  | pass context t =>
    obtain ⟨us, rfl⟩ := List.head?_eq_some_iff.mp h.1
    exact ⟨_, .one rfl (.noStart h.2) (Nat.le_refl 1) hused⟩
  | expr us result => exact exists_sighted_expr heof h.2

end Act

theorem Happens.exists_sighted {eof : Token} (heof : eof.kind = .eof) {as : List Act}
    {ts rest : List Token} (h : Happens eof ts as rest) :
    ∃ sightings, Sighted eof ts (tokensOf as).length (errorsOf eof as) sightings := by
  induction h with
  | nil => exact ⟨[], .nil (Nat.zero_le _)⟩
  | cons hat _ ih =>
    obtain ⟨_, hfirst⟩ := hat.exists_sighted heof
    obtain ⟨_, hmore⟩ := ih
    rw [tokensOf_cons, List.length_append]
    exact ⟨_, hfirst.append hmore⟩

theorem exists_sighted (s : TokenStream) :
    ∃ as, Sighted s.eof s.tokens s.tokens.length (parse s).errors as := by
  obtain ⟨as, h⟩ := exists_acts s
  rw [h.errors_eq, congrArg List.length h.tokens_eq]
  exact h.happens.exists_sighted s.eof_kind

theorem exists_isOf_of_mem_errors {s : TokenStream} {e : ParseError}
    (h : e ∈ (parse s).errors) : ∃ t ∈ s.toList, e.IsOf t := by
  obtain ⟨as, has⟩ := exists_sighted s
  rw [← has.errors_eq] at h
  obtain ⟨a, ha, rfl⟩ := List.mem_map.mp h
  obtain ⟨t, ht, hshows⟩ := has.shows a ha
  exact ⟨t, List.mem_of_getElem? ht, hshows.isOf⟩

section Truth

namespace TokenKind

def all : List TokenKind :=
  [.keyword .importKw, .keyword .fnKw, .keyword .returnKw, .keyword .callKw, .keyword .trueKw,
    .keyword .falseKw, .primitive .void, .primitive .int, .primitive .string, .primitive .float,
    .primitive .char, .identifier, .integer, .float, .string, .char, .leftParen, .rightParen,
    .leftBrace, .rightBrace, .colon, .doubleColon, .semicolon, .comma, .assign, .operator .add,
    .operator .sub, .operator .mul, .operator .div, .operator .mod, .eof]

theorem mem_all (kind : TokenKind) : kind ∈ all := by
  cases kind with
  | keyword word => cases word <;> decide
  | primitive type => cases type <;> decide
  | operator op => cases op <;> decide
  | _ => decide

theorem name_injective : Function.Injective name := by
  have hnodup : (all.map name).Nodup := by decide +kernel
  intro a b h
  exact List.inj_on_of_nodup_map hnodup a.mem_all b.mem_all h

theorem name_ne_text_typeName (kind : TokenKind) : kind.name ≠ Expectation.typeName.text := by
  have hall : ∀ k ∈ all, k.name ≠ Expectation.typeName.text := by decide +kernel
  exact hall kind kind.mem_all

def isLiteral : TokenKind → Bool
  | keyword .trueKw | keyword .falseKw | integer | float | string | char => true
  | _ => false

end TokenKind

theorem Expectation.name_ne_text {wanted : Expectation} {kind : TokenKind}
    (h : wanted.accepts kind = false) : kind.name ≠ wanted.text := by
  cases wanted with
  | kind k => exact fun hname => ne_of_beq_false h (TokenKind.name_injective hname)
  | typeName => exact kind.name_ne_text_typeName

theorem isLiteral_of_operand_eq_absent {t : Token} (h : t.operand = .absent) :
    t.kind.isLiteral = false := by
  unfold Token.operand Operand.ofLiteral at h
  unfold TokenKind.isLiteral
  split at h <;> simp_all
  all_goals split at h <;> cases h

/-- What an error says of the token that it is at. -/
def ParseErrorKind.IsTrueOf (t : Token) : ParseErrorKind → Prop
  | mismatch wanted found => found = t.kind ∧ t.kind.name ≠ wanted.text ∧
      (wanted.text = Expectation.typeName.text → t.kind.isTypeName = false)
  | unexpectedStart .topLevel found => found = t.kind ∧
      t.kind ∉ [.keyword .importKw, .keyword .fnKw, .eof]
  | unexpectedStart .body found => found = t.kind ∧ t.kind.isTypeName = false ∧
      t.kind ∉ [.keyword .returnKw, .keyword .callKw, .rightBrace, .eof]
  | expectedExpression found => found = t.kind ∧ t.kind.isLiteral = false ∧
      ∀ op, t.kind ≠ .operator op
  | missingLeftOperand op => t.kind = .operator op
  | invalidLiteral kind text => text = t.text ∧ IsMalformed t kind

theorem Grammar.BadOperand.isTrueOf {t : Token} {e : ParseError} {n : Nat}
    (h : BadOperand t e n) : e.kind.IsTrueOf t := by
  cases h with
  | operator hop => exact hop
  | malformed hmalformed => exact ⟨rfl, hmalformed⟩
  | other hop hmalformed hlit =>
    have habsent : t.operand = .absent := operand_eq_absent_iff.mpr ⟨hop, hmalformed, hlit⟩
    exact ⟨rfl, isLiteral_of_operand_eq_absent habsent, hop⟩

theorem Token.Shows.isTrueOf {t : Token} {e : ParseError} (h : t.Shows e)
    (hend : e.kind.passes = true → t.kind ≠ .eof) : e.kind.IsTrueOf t := by
  cases h with
  | @mismatch wanted haccepts =>
    refine ⟨rfl, Expectation.name_ne_text haccepts, ?_⟩
    intro htext
    cases wanted with
    | kind k => exact (k.name_ne_text_typeName htext).elim
    | typeName => exact haccepts
  | @noStart context hrefuses =>
    have hnotEnd : t.kind ≠ .eof := hend rfl
    cases context with
    | topLevel => exact ⟨rfl, by simpa [StmtContext.Refuses, hnotEnd] using hrefuses⟩
    | body => exact ⟨rfl, by simpa [StmtContext.Refuses, hnotEnd] using hrefuses⟩
  | noOperand h => exact h.isTrueOf

theorem Sighted.exists_isTrueOf {s : TokenStream} {n : Nat} {es : List ParseError}
    {as : List Sighting} (h : Sighted s.eof s.tokens n es as) {a : Sighting} (ha : a ∈ as) :
    ∃ t, s.toList[a.index]? = some t ∧ a.error.IsAt t ∧ a.error.kind.IsTrueOf t := by
  obtain ⟨t, ht, hshows⟩ := h.shows a ha
  refine ⟨t, ht, hshows.isOf.1, hshows.isTrueOf ?_⟩
  intro hpasses
  have hlt : a.index < s.tokens.length := calc
    a.index < a.next := Sighting.index_lt_next hpasses
    _ ≤ n := h.next_le a ha
    _ ≤ s.tokens.length := h.used_le
  rw [List.getElem?_append_left hlt] at ht
  exact s.tokens_kind t (List.mem_of_getElem? ht)

end Truth

/-- The errors of a stream are at tokens that come in the order of the errors, the end of the file
last. Each error is true of its token, and a token that is passed over comes before that of the
next error. -/
theorem parse_errors_inOrder (s : TokenStream) :
    ∃ as : List Sighting, as.map Sighting.error = (parse s).errors ∧
      (∀ a ∈ as, ∃ t, s.toList[a.index]? = some t ∧ a.error.IsAt t ∧ a.error.kind.IsTrueOf t) ∧
      as.Pairwise fun a b =>
        a.index ≤ b.index ∧ (a.error.kind.passes = true → a.index < b.index) := by
  obtain ⟨as, has⟩ := exists_sighted s
  refine ⟨as, has.errors_eq, fun a ha => has.exists_isTrueOf ha, ?_⟩
  refine has.ordered.imp fun {a b} hab => ⟨Nat.le_trans a.index_le_next hab, ?_⟩
  intro hpasses
  exact Nat.lt_of_lt_of_le (Sighting.index_lt_next hpasses) hab

end SourceCheck
