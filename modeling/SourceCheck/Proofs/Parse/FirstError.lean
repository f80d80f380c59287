import SourceCheck.Proofs.Parse.Derivation
import SourceCheck.Token.Lex

/-! # The first error

The first error of a stream stands at the first token that no accepted list of tokens goes on
with. Parsing reads the language of programs, so the tokens before the error start a program, and
a program is accepted.
-/

namespace SourceCheck

open Grammar

/-- A list of tokens that is parsed without an error once an end-of-file token closes it. -/
def Accepted (ts : List Token) : Prop := ∃ s : TokenStream, s.tokens = ts ∧ (parse s).errors = []

def StartsAccepted (us : List Token) : Prop := ∃ ts, us <+: ts ∧ Accepted ts

/-- A language of tokens before the end of the file. -/
def Language.Closable {α : Type} (R : Language α) : Prop :=
  ∀ us a, R us a → ∀ t ∈ us, t.kind ≠ .eof

namespace Grammar

section Lists

variable {α : Type} {R : Language α}

theorem closable_sequence (h : R.Closable) : Language.Closable (Sequence R) := by
  intro us as hs
  induction hs with
  | nil => simp
  | cons hR _ ih =>
    intro t ht
    rcases List.mem_append.mp ht with ht | ht
    · exact h _ _ hR t ht
    · exact ih t ht

theorem closable_commaSeparated (h : R.Closable) : Language.Closable (CommaSeparated R) := by
  intro us as hs
  induction hs with
  | nil => simp
  | last hR => exact h _ _ hR
  | cons hR hc _ ih =>
    intro t ht
    rcases List.mem_append.mp ht with ht | ht
    · exact h _ _ hR t ht
    · rcases List.mem_cons.mp ht with rfl | ht
      · simp [hc]
      · exact ih t ht

end Lists

theorem IsLiteral.kind_ne_eof {t : Token} {e : Expr} (h : IsLiteral t e) : t.kind ≠ .eof := by
  cases h <;> simp_all

theorem Links.kind_ne_eof {us : List Token} {rest : List (BinaryOp × Expr)}
    (h : Links us rest) : ∀ t ∈ us, t.kind ≠ .eof := by
  induction h with
  | nil => simp
  | cons ht hu _ ih => simpa [ht, hu.kind_ne_eof] using ih

theorem closable_isExpr : Language.Closable IsExpr := by
  rintro us e ⟨c, ⟨ht, hl⟩, rfl⟩
  simpa [ht.kind_ne_eof] using hl.kind_ne_eof

theorem kind_ne_eof_of_isTypeName {t : Token} (h : t.kind.isTypeName = true) :
    t.kind ≠ .eof := by
  intro hk
  simp [hk, TokenKind.isTypeName] at h

theorem closable_isParam : Language.Closable IsParam := by
  rintro us p ⟨htype, hname⟩
  simp [kind_ne_eof_of_isTypeName htype, hname]

theorem closable_isStmt : Language.Closable IsStmt := by
  intro us s h
  cases h with
  | ret hk he hsemi => simpa [hk, hsemi, or_imp, forall_and] using closable_isExpr _ _ he
  | foreign hk hl hc hr hsemi => simp [hk, hl, hc, hr, hsemi]
  | invoke hk hl hargs hr hsemi =>
    simpa [hk, hl, hr, hsemi, or_imp, forall_and] using
      closable_commaSeparated closable_isExpr _ _ hargs
  | declare hk hname hsemi => simp [kind_ne_eof_of_isTypeName hk, hname, hsemi]
  | define hk hname heq he hsemi =>
    simpa [kind_ne_eof_of_isTypeName hk, hname, heq, hsemi, or_imp, forall_and] using
      closable_isExpr _ _ he

theorem closable_isItem : Language.Closable IsItem := by
  intro us i h
  cases h with
  | imported hk hspace hcolons hname hsemi => simp [hk, hspace, hcolons, hname, hsemi]
  | function hk hname hlp hps hrp hcolon hreturns hlb hbs hrb =>
    have hp := closable_commaSeparated closable_isParam _ _ hps
    have hb := closable_sequence closable_isStmt _ _ hbs
    have hr := kind_ne_eof_of_isTypeName hreturns
    simpa [hk, hname, hlp, hrp, hcolon, hlb, hrb, or_imp, forall_and] using ⟨hp, hr, hb⟩

theorem closable_isProgram : Language.Closable IsProgram := fun us p h =>
  closable_sequence closable_isItem us p.items h

end Grammar

theorem accepted_iff_exists_isProgram {ts : List Token} :
    Accepted ts ↔ ∃ p, IsProgram ts p := by
  constructor
  · rintro ⟨s, rfl, h⟩
    exact ⟨_, Parse.isProgram_of_errors_eq_nil s.eof_kind h⟩
  · rintro ⟨p, hp⟩
    refine ⟨⟨ts, .ofKind .eof, rfl, closable_isProgram ts p hp⟩, rfl, ?_⟩
    simp [parse, Parse.run_program hp]

theorem StartsAccepted.of_viable {us : List Token} (h : Language.Viable IsProgram us) :
    StartsAccepted us := by
  obtain ⟨ts, p, hp, hprogram⟩ := h
  exact ⟨ts, hp, accepted_iff_exists_isProgram.mpr ⟨p, hprogram⟩⟩

theorem not_startsAccepted_of_rejects {eof : Token} {us : List Token}
    (h : Rejects (fun ts => (Parse.program.run eof ts).errors) us) : ¬ StartsAccepted us := by
  rintro ⟨_, ⟨rest, rfl⟩, ha⟩
  obtain ⟨p, hp⟩ := accepted_iff_exists_isProgram.mp ha
  apply h rest
  simp only [Parse.run_program hp]

/-- Token `t`, at index `i`, is where a stream goes wrong. The tokens before it can be completed;
it is the end of the file, or with it they cannot be. A built-in type in front of a parenthesis
may only be wrong together with the parenthesis. -/
def TokenStream.FailsAt (s : TokenStream) (i : Nat) (t : Token) : Prop :=
  s.toList[i]? = some t ∧ StartsAccepted (s.tokens.take i) ∧
    (i = s.tokens.length ∨ ¬ StartsAccepted (s.tokens.take (i + 1)) ∨
      ∃ type u, t.kind = .primitive type ∧ s.tokens[i + 1]? = some u ∧ u.kind = .leftParen ∧
        ¬ StartsAccepted (s.tokens.take (i + 2)))

/-- The first error of a stream carries the place of the token where the stream goes wrong. -/
theorem firstError_failsAt (s : TokenStream) (h : (parse s).errors ≠ []) :
    ∃ i ≤ s.tokens.length, ∃ e t, (parse s).errors.head? = some e ∧ e.span = t.span ∧
      e.position = t.position ∧ s.FailsAt i t := by
  obtain ⟨us, rest, e, hts, he, ⟨hspan, hposition⟩, hv, hs⟩ :=
    (Reads.program s.eof_kind).firstError s.tokens h
  have hget : s.toList[us.length]? = some (rest.head?.getD s.eof) := by
    cases rest <;> simp [TokenStream.toList, hts]
  have hstart : StartsAccepted (s.tokens.take us.length) := by
    rw [hts, List.take_left]
    exact .of_viable hv
  refine ⟨us.length, by simp [hts], e, _, he, hspan, hposition, hget, hstart, ?_⟩
  cases hs with
  | finished => exact .inl (by simp [hts])
  | @token t rest hr =>
    refine .inr (.inl ?_)
    have htake : s.tokens.take (us.length + 1) = us ++ [t] := by
      rw [hts, List.take_length_add_append]
      rfl
    rw [htake]
    exact not_startsAccepted_of_rejects hr
  | @callee t u rest type ht hu hr =>
    refine .inr (.inr ⟨type, u, ht, by simp [hts], hu, ?_⟩)
    have htake : s.tokens.take (us.length + 2) = us ++ [t, u] := by
      rw [hts, List.take_length_add_append]
      rfl
    rw [htake]
    exact not_startsAccepted_of_rejects hr

theorem firstError_failsAt_builtinCallee :
    let s := (lex "fn f(): void \x7b int(); \x7d").stream
    (parse s).errors ≠ [] ∧ ∃ i ≤ s.tokens.length, ∃ e t, (parse s).errors.head? = some e ∧
      e.span = t.span ∧ e.position = t.position ∧ s.FailsAt i t := by
  have h : (parse (lex "fn f(): void \x7b int(); \x7d").stream).errors ≠ [] := by
    decide +kernel
  exact ⟨h, firstError_failsAt _ h⟩

end SourceCheck
