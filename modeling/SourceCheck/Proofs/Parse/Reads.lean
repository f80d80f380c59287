import SourceCheck.Grammar.Program
import SourceCheck.Proofs.Parse.Chain

/-! # Parses that read a language

A parse reads a language if it succeeds only on words of the language, decides where a word ends
by the one token after it, and reports its first error at the first token that no word goes on
with. Sequences of such parses, lists and repetitions read the languages composed in the same
way.
-/

namespace SourceCheck

open Grammar

variable {α β : Type} {eof : Token}

/-- Which tokens spell which value. -/
abbrev Language (α : Type) := List Token → α → Prop

namespace Language

def andThen (R : Language α) (S : α → Language β) : Language β := fun us b =>
  ∃ vs ws a, us = vs ++ ws ∧ R vs a ∧ S a ws b

def Viable (R : Language α) (us : List Token) : Prop := ∃ vs a, us <+: vs ∧ R vs a

end Language

def Token.ofKind (kind : TokenKind) : Token := ⟨kind, "", .empty 0, ⟨1, 1⟩⟩

/-- No list that starts with these tokens is without an error. -/
def Rejects (errors : List Token → List ParseError) (us : List Token) : Prop :=
  ∀ rest, errors (us ++ rest) ≠ []

/-- What `us` is followed by cannot go on: it is the end, or a token that is rejected there. A
built-in type in the place of a callee is only rejected with the parenthesis after it. -/
inductive Stuck (errors : List Token → List ParseError) (us : List Token) : List Token → Prop
  | finished : Stuck errors us []
  | token {t : Token} {rest : List Token} : Rejects errors (us ++ [t]) →
      Stuck errors us (t :: rest)
  | callee {t u : Token} {rest : List Token} {type : PrimitiveType} : t.kind = .primitive type →
      u.kind = .leftParen → Rejects errors (us ++ [t, u]) → Stuck errors us (t :: u :: rest)

def ParseError.IsAt (e : ParseError) (t : Token) : Prop :=
  e.span = t.span ∧ e.position = t.position

/-- The first error stands at a token, the tokens before it can be completed, and with it they
cannot. -/
def FirstError (eof : Token) (errors : List Token → List ParseError)
    (viable : List Token → Prop) (ts : List Token) : Prop :=
  ∃ us rest e, ts = us ++ rest ∧ (errors ts).head? = some e ∧ e.IsAt (rest.head?.getD eof) ∧
    viable us ∧ Stuck errors us rest

/-- A parse that reads a language. -/
structure Reads (eof : Token) (m : Parse α) (R : Language α) : Prop where
  inhabited : ∃ us a, R us a
  sound : ∀ ts, (m.run eof ts).errors = [] →
    ∃ us rest a, ts = us ++ rest ∧ R us a ∧ m.run eof ts = ⟨a, [], us.length⟩
  lookahead : ∀ us rest rest' a, m.run eof (us ++ rest) = ⟨a, [], us.length⟩ →
    rest'.head? = rest.head? → m.run eof (us ++ rest') = ⟨a, [], us.length⟩
  firstError : ∀ ts, (m.run eof ts).errors ≠ [] →
    FirstError eof (fun us => (m.run eof us).errors) R.Viable ts

section FirstError

variable {errors errors' : List Token → List ParseError} {viable viable' : List Token → Prop}
  {us vs ts rest rest' : List Token}

theorem head?_append_congr (us : List Token) (h : rest'.head? = rest.head?) :
    (us ++ rest').head? = (us ++ rest).head? := by
  cases us with
  | nil => exact h
  | cons => rfl

theorem Rejects.shift (h : Rejects errors vs) (hne : vs ≠ [])
    (hr : ∀ rest, rest.head? = vs.head? → errors rest ≠ [] → errors' (us ++ rest) ≠ []) :
    Rejects errors' (us ++ vs) := by
  intro rest
  rw [List.append_assoc]
  apply hr
  · cases vs with
    | nil => exact (hne rfl).elim
    | cons => rfl
  · exact h rest

theorem Stuck.shift (h : Stuck errors vs rest)
    (hr : ∀ rest', rest'.head? = (vs ++ rest).head? → errors rest' ≠ [] →
      errors' (us ++ rest') ≠ []) : Stuck errors' (us ++ vs) rest := by
  cases h with
  | finished => exact .finished
  | token h =>
    apply Stuck.token
    rw [List.append_assoc]
    exact h.shift (by simp) fun rest' hh => hr rest' (hh.trans (head?_append_congr vs rfl))
  | callee ht hu h =>
    apply Stuck.callee ht hu
    rw [List.append_assoc]
    exact h.shift (by simp) fun rest' hh => hr rest' (hh.trans (head?_append_congr vs rfl))

theorem FirstError.shift (h : FirstError eof errors viable ts)
    (he : (errors' (us ++ ts)).head? = (errors ts).head?)
    (hr : ∀ rest, rest.head? = ts.head? → errors rest ≠ [] → errors' (us ++ rest) ≠ [])
    (hv : ∀ vs, viable vs → viable' (us ++ vs)) :
    FirstError eof errors' viable' (us ++ ts) := by
  obtain ⟨vs, rest, e, rfl, hh, hat, hvs, hs⟩ := h
  exact ⟨us ++ vs, rest, e, by simp, he.trans hh, hat, hv vs hvs, hs.shift hr⟩

theorem FirstError.map (h : FirstError eof errors viable ts)
    (he : (errors' ts).head? = (errors ts).head?)
    (hr : ∀ rest, rest.head? = ts.head? → errors rest ≠ [] → errors' rest ≠ [])
    (hv : ∀ vs, viable vs → viable' vs) : FirstError eof errors' viable' ts := by
  have hs : FirstError eof errors' viable' ([] ++ ts) := h.shift he hr hv
  exact hs

theorem FirstError.of_head {e : ParseError} (he : (errors ts).head? = some e)
    (hat : e.IsAt (ts.head?.getD eof)) (hv : viable [])
    (hr : ∀ rest, rest.head? = ts.head? → errors rest ≠ []) :
    FirstError eof errors viable ts := by
  refine ⟨[], ts, e, rfl, he, hat, hv, ?_⟩
  cases ts with
  | nil => exact .finished
  | cons t ts => exact .token fun rest => hr _ rfl

end FirstError

namespace Reads

variable {m : Parse α} {R : Language α}

theorem mono (h : Reads eof m R) {S : Language α} (hs : ∀ us a, R us a → S us a) :
    Reads eof m S where
  inhabited := by
    obtain ⟨us, a, hR⟩ := h.inhabited
    exact ⟨us, a, hs us a hR⟩
  sound ts he := by
    obtain ⟨us, rest, a, hts, hR, hr⟩ := h.sound ts he
    exact ⟨us, rest, a, hts, hs us a hR, hr⟩
  lookahead := h.lookahead
  firstError ts he := by
    refine (h.firstError ts he).map rfl (fun _ _ => id) ?_
    rintro us ⟨vs, a, hp, hR⟩
    exact ⟨vs, a, hp, hs vs a hR⟩

protected theorem pure (a : α) : Reads eof (pure a) fun us b => us = [] ∧ b = a where
  inhabited := ⟨[], a, rfl, rfl⟩
  sound ts _ := ⟨[], ts, a, rfl, ⟨rfl, rfl⟩, rfl⟩
  lookahead _ _ _ _ h _ := h
  firstError _ h := (h rfl).elim

end Reads

theorem Parse.run_bind_of_ok {m : Parse α} {f : α → Parse β} {us rest : List Token} {a : α}
    (h : m.run eof (us ++ rest) = ⟨a, [], us.length⟩) :
    (m >>= f).run eof (us ++ rest) =
      ⟨((f a).run eof rest).value, ((f a).run eof rest).errors,
        us.length + ((f a).run eof rest).used⟩ := by
  simp [h]

namespace Reads

variable {m : Parse α} {R : Language α}

protected theorem bind {f : α → Parse β} {S : α → Language β} (hm : Reads eof m R)
    (hf : ∀ a, Reads eof (f a) (S a)) : Reads eof (m >>= f) (R.andThen S) where
  inhabited := by
    obtain ⟨us, a, hR⟩ := hm.inhabited
    obtain ⟨vs, b, hS⟩ := (hf a).inhabited
    exact ⟨us ++ vs, b, us, vs, a, rfl, hR, hS⟩
  sound ts he := by
    obtain ⟨us, rest, a, rfl, hR, hr⟩ := hm.sound ts (List.append_eq_nil_iff.mp he).1
    rw [Parse.run_bind_of_ok hr] at he ⊢
    obtain ⟨vs, rest', b, rfl, hS, hr'⟩ := (hf a).sound rest he
    exact ⟨us ++ vs, rest', b, by simp, ⟨us, vs, a, rfl, hR, hS⟩, by simp [hr']⟩
  lookahead us rest rest' b h hh := by
    have he := congrArg Step.errors h
    obtain ⟨vs, ws, a, hts, hR, hr⟩ := hm.sound (us ++ rest) (List.append_eq_nil_iff.mp he).1
    rw [hts] at h hr
    rw [Parse.run_bind_of_ok hr] at h
    obtain ⟨vs', ws', b', rfl, hS, hr'⟩ := (hf a).sound ws (congrArg Step.errors h)
    rw [hr', Step.mk.injEq] at h
    obtain ⟨rfl, -, hlen⟩ := h
    rw [← List.append_assoc] at hts
    obtain ⟨rfl, rfl⟩ := List.append_inj hts (by simpa using hlen.symm)
    have hm' := hm.lookahead vs (vs' ++ rest) (vs' ++ rest') a hr (head?_append_congr vs' hh)
    rw [List.append_assoc, Parse.run_bind_of_ok hm', (hf a).lookahead vs' rest rest' b' hr' hh]
    simp
  firstError ts he := by
    by_cases hm₀ : (m.run eof ts).errors = []
    · obtain ⟨us, rest, a, rfl, hR, hr⟩ := hm.sound ts hm₀
      rw [Parse.run_bind_of_ok hr] at he
      apply ((hf a).firstError rest he).shift
      · rw [Parse.run_bind_of_ok hr]
      · intro rest' hh hne
        rw [Parse.run_bind_of_ok (hm.lookahead us rest rest' a hr hh)]
        exact hne
      · rintro vs ⟨ws, b, hp, hS⟩
        exact ⟨us ++ ws, b, (List.prefix_append_right_inj us).mpr hp, us, ws, a, rfl, hR, hS⟩
    · apply (hm.firstError ts hm₀).map
      · obtain ⟨e, es, hes⟩ := List.exists_cons_of_ne_nil hm₀
        simp [hes]
      · intro rest _ hne hnil
        exact hne (List.append_eq_nil_iff.mp hnil).1
      · rintro vs ⟨ws, a, hp, hR⟩
        obtain ⟨xs, b, hS⟩ := (hf a).inhabited
        exact ⟨ws ++ xs, b, hp.trans (List.prefix_append ws xs), ws, xs, a, rfl, hR, hS⟩

theorem expect (wanted : Expectation) (h : ∃ k, wanted.accepts k = true) :
    Reads eof (Parse.expect wanted) fun us t => us = [t] ∧ wanted.accepts t.kind = true where
  inhabited := by
    obtain ⟨k, hk⟩ := h
    exact ⟨[.ofKind k], _, rfl, hk⟩
  sound ts he := by
    cases ts with
    | nil => cases he
    | cons t ts =>
      simp only [Parse.expect] at he ⊢
      split at he
      next ht => exact ⟨[t], ts, t, rfl, ⟨rfl, ht⟩, if_pos ht⟩
      next => cases he
  lookahead us rest rest' t h hh := by
    cases us with
    | nil => cases rest <;> simp [Parse.expect] at h; split at h <;> cases h
    | cons u us => exact h
  firstError ts he := by
    have hv : Language.Viable (fun us t => us = [t] ∧ wanted.accepts t.kind = true) [] := by
      obtain ⟨k, hk⟩ := h
      exact ⟨_, .ofKind k, List.nil_prefix, rfl, hk⟩
    cases ts with
    | nil =>
      apply FirstError.of_head rfl ⟨rfl, rfl⟩ hv
      rintro (_ | ⟨u, rest⟩) hh
      · simp [Parse.expect]
      · cases hh
    | cons t ts =>
      have ht : wanted.accepts t.kind ≠ true := by
        intro ht
        simp [Parse.expect, ht] at he
      have hm : ((Parse.expect wanted).run eof (t :: ts)).errors.head? =
          some (.mismatch wanted t) := by simp [Parse.expect, ht]
      apply FirstError.of_head hm ⟨rfl, rfl⟩ hv
      rintro (_ | ⟨u, rest⟩) hh
      · cases hh
      · cases hh
        simp [Parse.expect, ht]

theorem accept (kind : TokenKind) : Reads eof (Parse.accept kind) fun us b =>
    (∃ t, us = [t] ∧ t.kind = kind ∧ b = true) ∨ us = [] ∧ b = false where
  inhabited := ⟨[], false, .inr ⟨rfl, rfl⟩⟩
  sound ts _ := by
    cases ts with
    | nil => exact ⟨[], [], false, rfl, .inr ⟨rfl, rfl⟩, rfl⟩
    | cons t ts =>
      by_cases ht : t.kind = kind
      · exact ⟨[t], ts, true, rfl, .inl ⟨t, rfl, ht, rfl⟩, if_pos ht⟩
      · exact ⟨[], t :: ts, false, rfl, .inr ⟨rfl, rfl⟩, if_neg ht⟩
  lookahead us rest rest' b h hh := by
    cases us with
    | nil => cases rest <;> cases rest' <;> simp_all [Parse.accept]
    | cons u us => exact h
  firstError ts h := by
    cases ts with
    | nil => exact (h rfl).elim
    | cons t ts => by_cases ht : t.kind = kind <;> simp [Parse.accept, ht] at h

end Reads

end SourceCheck
