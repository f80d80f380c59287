import SourceCheck.Proofs.Parse.Reads

/-! # Lists and repetitions

Repetition and comma lists of an element that reads a language read its sequences and its comma
separated lists. A run without an error is described by the words of its elements, each with the
tokens after it, so that it can be moved to other tokens after the last of them.
-/

namespace SourceCheck

open Grammar

variable {α : Type} {eof : Token}

namespace Reads

variable {R : Language α}

/-- Where runs without an error can be moved to other tokens after them, one token decides where
a word ends. -/
theorem lookahead_of_run {m : Parse α} {Run : List Token → List Token → α → Prop}
    (hex : ∀ ts, (m.run eof ts).errors = [] → ∃ us rest a, ts = us ++ rest ∧ Run rest us a)
    (heq : ∀ {us rest a}, Run rest us a → m.run eof (us ++ rest) = ⟨a, [], us.length⟩)
    (hmove : ∀ {us rest rest' a}, Run rest us a → rest'.head? = rest.head? → Run rest' us a)
    (us rest rest' : List Token) (a : α) (hr : m.run eof (us ++ rest) = ⟨a, [], us.length⟩)
    (hh : rest'.head? = rest.head?) : m.run eof (us ++ rest') = ⟨a, [], us.length⟩ := by
  obtain ⟨vs, ws, b, hts, hrun⟩ := hex (us ++ rest) (congrArg Step.errors hr)
  have hr' := heq hrun
  rw [← hts] at hr'
  obtain ⟨rfl, -, hlen⟩ := Step.mk.inj (hr.symm.trans hr')
  obtain ⟨rfl, rfl⟩ := List.append_inj hts hlen
  exact heq (hmove hrun hh)

section Many

variable {stops : TokenKind → Bool} {element : Parse α} {hadv : element.Advances}

theorem sound_cons (h : Reads eof element R) (hadv : element.Advances) {t : Token}
    {ts : List Token} (he : (element.run eof (t :: ts)).errors = []) :
    ∃ us rest a, ts = us ++ rest ∧ R (t :: us) a ∧
      element.run eof (t :: ts) = ⟨a, [], us.length + 1⟩ := by
  obtain ⟨us, rest, a, hts, hR, hr⟩ := h.sound (t :: ts) he
  cases us with
  | nil =>
    have hused := hadv eof t ts
    rw [hr] at hused
    cases hused
  | cons u us =>
    cases hts
    exact ⟨us, rest, a, rfl, hR, hr⟩

/-- A repetition without an error: its elements one after another, up to where it stops. -/
inductive ManyRun (stops : TokenKind → Bool) (element : Parse α) (eof : Token)
    (R : Language α) (rest : List Token) : List Token → List α → Prop
  | nil : (∀ t ∈ rest.head?, stops t.kind = true) → ManyRun stops element eof R rest [] []
  | cons {t : Token} {us vs : List Token} {a : α} {as : List α} : stops t.kind = false →
      R (t :: us) a →
      element.run eof (t :: us ++ (vs ++ rest)) = ⟨a, [], us.length + 1⟩ →
      ManyRun stops element eof R rest vs as →
      ManyRun stops element eof R rest (t :: us ++ vs) (a :: as)

theorem ManyRun.run_eq {us rest : List Token} {as : List α}
    (h : ManyRun stops element eof R rest us as) :
    Parse.manyFrom stops element hadv eof (us ++ rest) = ⟨as, [], us.length⟩ := by
  induction h with
  | nil hs => exact Parse.manyFrom_of_stops hs
  | cons ht _ hr _ ih =>
    rw [List.append_assoc, Parse.manyFrom_append rfl ht hr, ih]
    simp [Nat.add_right_comm]

theorem ManyRun.sequence {us rest : List Token} {as : List α}
    (h : ManyRun stops element eof R rest us as) : Sequence R us as := by
  induction h with
  | nil => exact .nil
  | cons _ hR _ _ ih => exact .cons hR ih

theorem ManyRun.stops_head {us rest : List Token} {as : List α}
    (h : ManyRun stops element eof R rest us as) : ∀ t ∈ rest.head?, stops t.kind = true := by
  induction h with
  | nil hs => exact hs
  | cons _ _ _ _ ih => exact ih

theorem ManyRun.lookahead (h : Reads eof element R) {us rest rest' : List Token}
    {as : List α} (hm : ManyRun stops element eof R rest us as)
    (hh : rest'.head? = rest.head?) : ManyRun stops element eof R rest' us as := by
  induction hm with
  | nil hs => exact .nil (hh ▸ hs)
  | @cons t us vs a as ht hR hr _ ih =>
    refine .cons ht hR ?_ ih
    exact h.lookahead (t :: us) (vs ++ rest) (vs ++ rest') a hr (head?_append_congr vs hh)

theorem exists_manyRun (h : Reads eof element R) (ts : List Token)
    (he : (Parse.manyFrom stops element hadv eof ts).errors = []) :
    ∃ us rest as, ts = us ++ rest ∧ ManyRun stops element eof R rest us as := by
  induction hn : ts.length using Nat.strongRecOn generalizing ts with
  | ind n ih =>
    cases ts with
    | nil => exact ⟨[], [], [], rfl, .nil (by simp)⟩
    | cons t ts =>
      cases ht : stops t.kind with
      | true => exact ⟨[], t :: ts, [], rfl, .nil (by simp [ht])⟩
      | false =>
        rw [Parse.manyFrom_cons ht] at he
        obtain ⟨us, rest, a, rfl, hR, hr⟩ :=
          h.sound_cons hadv (List.append_eq_nil_iff.mp he).1
        have he' : (Parse.manyFrom stops element hadv eof rest).errors = [] := by
          simpa [hr] using he
        obtain ⟨vs, rest', as, rfl, hm⟩ := ih _ (by simp at hn; omega) rest he' rfl
        exact ⟨t :: us ++ vs, rest', a :: as, by simp, .cons ht hR hr hm⟩

theorem firstError_many_of_first (h : Reads eof element R) {t : Token}
    {ts : List Token} (ht : stops t.kind = false)
    (hf : (element.run eof (t :: ts)).errors ≠ []) :
    FirstError eof (fun us => (Parse.manyFrom stops element hadv eof us).errors)
      (Language.Viable (Sequence R)) (t :: ts) := by
  apply (h.firstError (t :: ts) hf).map
  · obtain ⟨e, es, hes⟩ := List.exists_cons_of_ne_nil hf
    rw [Parse.manyFrom_cons ht]
    simp [hes]
  · rintro (_ | ⟨u, rest⟩) hh hne
    · cases hh
    · cases hh
      rw [Parse.manyFrom_cons ht]
      exact fun hnil => hne (List.append_eq_nil_iff.mp hnil).1
  · rintro vs ⟨ws, a, hp, hR⟩
    exact ⟨ws ++ [], [a], by simpa using hp, .cons hR .nil⟩

theorem firstError_many_of_rest (h : Reads eof element R) {t : Token}
    {us rest : List Token} {a : α} (ht : stops t.kind = false) (hR : R (t :: us) a)
    (hr : element.run eof (t :: us ++ rest) = ⟨a, [], us.length + 1⟩)
    (hrest : FirstError eof (fun us => (Parse.manyFrom stops element hadv eof us).errors)
      (Language.Viable (Sequence R)) rest) :
    FirstError eof (fun us => (Parse.manyFrom stops element hadv eof us).errors)
      (Language.Viable (Sequence R)) (t :: us ++ rest) := by
  apply hrest.shift
  · rw [Parse.manyFrom_append rfl ht hr]
    rfl
  · intro rest' hh hne
    rw [Parse.manyFrom_append rfl ht (h.lookahead (t :: us) rest rest' a hr hh)]
    exact hne
  · rintro vs ⟨ws, as, hp, hS⟩
    exact ⟨t :: us ++ ws, a :: as, (List.prefix_append_right_inj _).mpr hp, .cons hR hS⟩

theorem firstError_many (h : Reads eof element R) (ts : List Token)
    (he : (Parse.manyFrom stops element hadv eof ts).errors ≠ []) :
    FirstError eof (fun us => (Parse.manyFrom stops element hadv eof us).errors)
      (Language.Viable (Sequence R)) ts := by
  induction hn : ts.length using Nat.strongRecOn generalizing ts with
  | ind n ih =>
    cases ts with
    | nil => rw [Parse.manyFrom] at he; exact (he rfl).elim
    | cons t ts =>
      cases ht : stops t.kind with
      | true => rw [Parse.manyFrom, if_pos ht] at he; exact (he rfl).elim
      | false =>
        by_cases hf : (element.run eof (t :: ts)).errors = []
        · obtain ⟨us, rest, a, rfl, hR, hr⟩ := h.sound_cons hadv hf
          rw [← List.cons_append] at he hr ⊢
          rw [Parse.manyFrom_append rfl ht hr] at he
          exact h.firstError_many_of_rest ht hR hr (ih _ (by simp at hn; omega) rest he rfl)
        · exact h.firstError_many_of_first ht hf

theorem many (h : Reads eof element R) :
    Reads eof (Parse.many stops element hadv) (Sequence R) where
  inhabited := ⟨[], [], .nil⟩
  sound ts he := by
    obtain ⟨us, rest, as, rfl, hm⟩ := h.exists_manyRun ts he
    exact ⟨us, rest, as, rfl, hm.sequence, hm.run_eq⟩
  lookahead := lookahead_of_run h.exists_manyRun (fun hm => hm.run_eq)
    (fun hm hh => hm.lookahead h hh)
  firstError := h.firstError_many

end Many

end Reads

namespace Parse

variable {close : TokenKind} {element : Parse α} {t c : Token} {ts us rest : List Token} {a : α}

theorem errors_commaListFrom (element : Parse α) (eof : Token) (ts : List Token)
    (ht : t.kind ≠ close) :
    ∃ es, (commaListFrom close element eof (t :: ts)).errors =
      (element.run eof (t :: ts)).errors ++ es := by
  rw [commaListFrom_cons ht]
  dsimp only
  split
  · exact ⟨[], by simp⟩
  · split
    · exact ⟨_, rfl⟩
    · exact ⟨[], by simp⟩

theorem comma_or_not (rest : List Token) :
    (∃ c rest', rest = c :: rest' ∧ c.kind = .comma) ∨ ∀ c ∈ rest.head?, c.kind ≠ .comma := by
  cases rest with
  | nil => exact .inr (by simp)
  | cons c rest =>
    by_cases hc : c.kind = .comma
    · exact .inl ⟨c, rest, rfl, hc⟩
    · exact .inr (by simpa using hc)

end Parse

namespace Reads

variable {R : Language α} {close : TokenKind} {element : Parse α}

inductive CommaRun (close : TokenKind) (element : Parse α) (eof : Token) (R : Language α)
    (rest : List Token) : List Token → List α → Prop
  | nil : (∀ t ∈ rest.head?, t.kind = close) → CommaRun close element eof R rest [] []
  | last {t : Token} {us : List Token} {a : α} : (us ++ rest).head? = some t →
      t.kind ≠ close → R us a → element.run eof (us ++ rest) = ⟨a, [], us.length⟩ →
      (∀ c ∈ rest.head?, c.kind ≠ .comma) → CommaRun close element eof R rest us [a]
  | cons {t c : Token} {us vs : List Token} {a : α} {as : List α} :
      (us ++ c :: (vs ++ rest)).head? = some t → t.kind ≠ close → R us a →
      element.run eof (us ++ c :: (vs ++ rest)) = ⟨a, [], us.length⟩ → c.kind = .comma →
      CommaRun close element eof R rest vs as →
      CommaRun close element eof R rest (us ++ c :: vs) (a :: as)

theorem CommaRun.run_eq {us rest : List Token} {as : List α}
    (h : CommaRun close element eof R rest us as) :
    Parse.commaListFrom close element eof (us ++ rest) = ⟨as, [], us.length⟩ := by
  induction h with
  | nil hc => exact Parse.commaListFrom_of_close hc
  | last hh ht _ hr hc => exact Parse.commaListFrom_of_last hh ht hr hc
  | cons hh ht _ hr hc _ ih =>
    rw [List.append_assoc, List.cons_append, Parse.commaListFrom_of_comma hh ht hr hc, ih]
    simp [Nat.add_assoc, Nat.add_comm 1]

theorem CommaRun.commaSeparated {us rest : List Token} {as : List α}
    (h : CommaRun close element eof R rest us as) : CommaSeparated R us as := by
  induction h with
  | nil => exact .nil
  | last _ _ hR _ _ => exact .last hR
  | cons _ _ hR _ hc _ ih => exact .cons hR hc ih

theorem CommaRun.lookahead (h : Reads eof element R) {us rest rest' : List Token} {as : List α}
    (hm : CommaRun close element eof R rest us as) (hh : rest'.head? = rest.head?) :
    CommaRun close element eof R rest' us as := by
  induction hm with
  | nil hc => exact .nil (hh ▸ hc)
  | @last t us a hts ht hR hr hc =>
    refine .last ((head?_append_congr us hh).trans hts) ht hR ?_ (hh ▸ hc)
    exact h.lookahead us rest rest' a hr hh
  | @cons t c us vs a as hts ht hR hr hc _ ih =>
    have hc' : (c :: (vs ++ rest')).head? = (c :: (vs ++ rest)).head? := rfl
    refine .cons ((head?_append_congr us hc').trans hts) ht hR ?_ hc ih
    exact h.lookahead us (c :: (vs ++ rest)) (c :: (vs ++ rest')) a hr hc'

theorem exists_commaRun (h : Reads eof element R) (ts : List Token)
    (he : (Parse.commaListFrom close element eof ts).errors = []) :
    ∃ us rest as, ts = us ++ rest ∧ CommaRun close element eof R rest us as := by
  induction hn : ts.length using Nat.strongRecOn generalizing ts with
  | ind n ih =>
    cases ts with
    | nil => exact ⟨[], [], [], rfl, .nil (by simp)⟩
    | cons t ts =>
      by_cases ht : t.kind = close
      · exact ⟨[], t :: ts, [], rfl, .nil (by simp [ht])⟩
      · obtain ⟨es, hes⟩ := Parse.errors_commaListFrom element eof ts ht
        rw [hes] at he
        obtain ⟨us, rest, a, hts, hR, hr⟩ := h.sound _ (List.append_eq_nil_iff.mp he).1
        have hh : (us ++ rest).head? = some t := by rw [← hts]; rfl
        rw [← hes, hts] at he
        rw [hts] at hr
        rcases Parse.comma_or_not rest with ⟨c, rest', rfl, hc⟩ | hc
        · rw [Parse.commaListFrom_of_comma hh ht hr hc] at he
          have hlen := congrArg List.length hts
          simp only [List.length_append, List.length_cons] at hlen hn
          obtain ⟨vs, rest, as, rfl, hm⟩ := ih rest'.length (by omega) rest' he rfl
          exact ⟨us ++ c :: vs, rest, a :: as, by simp [hts], .cons hh ht hR hr hc hm⟩
        · exact ⟨us, rest, [a], hts, .last hh ht hR hr hc⟩

theorem firstError_commaList_of_first (h : Reads eof element R) {t : Token} {ts : List Token}
    (ht : t.kind ≠ close) (hf : (element.run eof (t :: ts)).errors ≠ []) :
    FirstError eof (fun us => (Parse.commaListFrom close element eof us).errors)
      (Language.Viable (CommaSeparated R)) (t :: ts) := by
  apply (h.firstError (t :: ts) hf).map
  · obtain ⟨es, hes⟩ := Parse.errors_commaListFrom element eof ts ht
    obtain ⟨e, es', hes'⟩ := List.exists_cons_of_ne_nil hf
    simp [hes, hes']
  · rintro (_ | ⟨u, rest⟩) hw hne
    · cases hw
    · cases hw
      obtain ⟨es, hes⟩ := Parse.errors_commaListFrom element eof rest ht
      rw [hes]
      exact fun hnil => hne (List.append_eq_nil_iff.mp hnil).1
  · rintro vs ⟨ws, a, hp, hR⟩
    exact ⟨ws, [a], hp, .last hR⟩

theorem firstError_commaList_of_rest (h : Reads eof element R) {t c : Token}
    {us rest : List Token} {a : α} (hh : (us ++ c :: rest).head? = some t) (ht : t.kind ≠ close)
    (hR : R us a) (hr : element.run eof (us ++ c :: rest) = ⟨a, [], us.length⟩)
    (hc : c.kind = .comma)
    (hrest : FirstError eof (fun us => (Parse.commaListFrom close element eof us).errors)
      (Language.Viable (CommaSeparated R)) rest) :
    FirstError eof (fun us => (Parse.commaListFrom close element eof us).errors)
      (Language.Viable (CommaSeparated R)) (us ++ c :: rest) := by
  rw [List.append_cons]
  apply hrest.shift
  · rw [← List.append_cons, Parse.commaListFrom_of_comma hh ht hr hc]
    rfl
  · intro ws hw hne
    have hcw : (c :: ws).head? = (c :: rest).head? := rfl
    have hr' := h.lookahead us (c :: rest) (c :: ws) a hr hcw
    rw [← List.append_cons,
      Parse.commaListFrom_of_comma ((head?_append_congr us hcw).trans hh) ht hr' hc]
    exact hne
  · rintro vs ⟨ws, as, hp, hS⟩
    refine ⟨us ++ c :: ws, a :: as, ?_, .cons hR hc hS⟩
    rw [← List.append_cons]
    simpa using hp

theorem firstError_commaList (h : Reads eof element R) (ts : List Token)
    (he : (Parse.commaListFrom close element eof ts).errors ≠ []) :
    FirstError eof (fun us => (Parse.commaListFrom close element eof us).errors)
      (Language.Viable (CommaSeparated R)) ts := by
  induction hn : ts.length using Nat.strongRecOn generalizing ts with
  | ind n ih =>
    cases ts with
    | nil => rw [Parse.commaListFrom] at he; exact (he rfl).elim
    | cons t ts =>
      by_cases ht : t.kind = close
      · rw [Parse.commaListFrom, if_pos ht] at he
        exact (he rfl).elim
      by_cases hf : (element.run eof (t :: ts)).errors = []
      · obtain ⟨us, rest, a, hts, hR, hr⟩ := h.sound _ hf
        have hh : (us ++ rest).head? = some t := by rw [← hts]; rfl
        rw [hts] at hr he ⊢
        rcases Parse.comma_or_not rest with ⟨c, rest', rfl, hc⟩ | hc
        · rw [Parse.commaListFrom_of_comma hh ht hr hc] at he
          have hlen := congrArg List.length hts
          simp only [List.length_append, List.length_cons] at hlen hn
          exact h.firstError_commaList_of_rest hh ht hR hr hc
            (ih rest'.length (by omega) rest' he rfl)
        · rw [Parse.commaListFrom_of_last hh ht hr hc] at he
          exact (he rfl).elim
      · exact h.firstError_commaList_of_first ht hf

theorem commaList (h : Reads eof element R) :
    Reads eof (Parse.commaList close element) (CommaSeparated R) where
  inhabited := ⟨[], [], .nil⟩
  sound ts he := by
    obtain ⟨us, rest, as, rfl, hm⟩ := h.exists_commaRun ts he
    exact ⟨us, rest, as, rfl, hm.commaSeparated, hm.run_eq⟩
  lookahead := lookahead_of_run h.exists_commaRun (fun hm => hm.run_eq)
    (fun hm hh => hm.lookahead h hh)
  firstError := h.firstError_commaList

end Reads

end SourceCheck
