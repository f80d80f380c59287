import Mathlib.Data.List.Forall2
import SourceCheck.Proofs.Parse.Expression
import SourceCheck.Proofs.Parse.Reads
import SourceCheck.Proofs.Parse.Recovery

/-! # Streams that are alike

A token is read for its kind and, where the kind does not fix it, for its text. So two streams
that agree on these are parsed to one program, and their errors are at the same tokens. Where acts
happen on one of them, acts that are alike happen on the other, and do the same.
-/

namespace SourceCheck

variable {α β α' β' : Type}

theorem carriesText_of_isTypeName {kind : TokenKind} (h : kind.isTypeName = true) :
    kind.carriesText = true := by
  cases kind <;> first | rfl | cases h

/-- Tokens that differ at most in their place, and in a text that is not read. -/
structure Token.Alike (t u : Token) : Prop where
  kind : t.kind = u.kind
  text : t.kind.carriesText = true → t.text = u.text

theorem Token.Alike.operand {t u : Token} (h : t.Alike u) : t.operand = u.operand := by
  obtain ⟨hkind, htext⟩ := h
  have hcarried {k : TokenKind} (hk : t.kind = k) (hc : k.carriesText = true) :
      t.text = u.text := htext (hk ▸ hc)
  unfold Token.operand
  rw [← hkind]
  split
  case h_3 hk | h_4 hk | h_5 hk | h_6 hk => rw [hcarried hk rfl]
  all_goals rfl

/-- Two tokens that are alike, at one index of two streams. -/
structure Twins where
  left : Token
  right : Token
  alike : left.Alike right

theorem append_subset_append {as bs cs ds : List α} (h : as ⊆ bs) (h' : cs ⊆ ds) :
    as ++ cs ⊆ bs ++ ds :=
  List.append_subset.mpr ⟨List.subset_append_of_subset_left ds h,
    List.subset_append_of_subset_right bs h'⟩

theorem drop_append_subset (ts us : List α) (n : Nat) : ts.drop n ++ us ⊆ ts ++ us :=
  append_subset_append (List.drop_subset n ts) (List.Subset.refl us)

/-- Errors of one kind that are at the same of some tokens. -/
structure Twins.Share (ts : List Twins) (e e' : ParseError) : Prop where
  kind : e.kind = e'.kind
  isAt : ∃ t ∈ ts, e.IsAt t.left ∧ e'.IsAt t.right

namespace Twins

variable {ts us : List Twins} {e e' : ParseError}

theorem Share.mono (h : Share ts e e') (hsub : ts ⊆ us) : Share us e e' := by
  obtain ⟨hkind, t, ht, hat⟩ := h
  exact ⟨hkind, t, hsub ht, hat⟩

theorem share_errors_mono {es es' : List ParseError} (h : List.Forall₂ (Share ts) es es')
    (hsub : ts ⊆ us) : List.Forall₂ (Share us) es es' :=
  h.imp fun _ _ h => h.mono hsub

theorem Share.atToken {kind kind' : ParseErrorKind} {t : Twins} (ht : t ∈ ts)
    (h : kind = kind') : Share ts (.atToken t.left kind) (.atToken t.right kind') :=
  ⟨h, t, ht, ⟨rfl, rfl⟩, ⟨rfl, rfl⟩⟩

theorem share_mismatch (wanted : Expectation) {t : Twins} (ht : t ∈ ts) :
    Share ts (.mismatch wanted t.left) (.mismatch wanted t.right) :=
  .atToken ht (congrArg (ParseErrorKind.mismatch wanted) t.alike.kind)

theorem share_unexpectedStart (context : StmtContext) {t : Twins} (ht : t ∈ ts) :
    Share ts (.unexpectedStart context t.left) (.unexpectedStart context t.right) :=
  .atToken ht (congrArg (ParseErrorKind.unexpectedStart context) t.alike.kind)

theorem share_expectedExpression {t : Twins} (ht : t ∈ ts) :
    Share ts (.expectedExpression t.left) (.expectedExpression t.right) :=
  .atToken ht (congrArg ParseErrorKind.expectedExpression t.alike.kind)

theorem share_invalidLiteral {kind : LiteralKind} {t : Twins} (ht : t ∈ ts)
    (hmalformed : t.left.operand = .malformed kind) :
    Share ts (.atToken t.left (.invalidLiteral kind t.left.text))
      (.atToken t.right (.invalidLiteral kind t.right.text)) := by
  have hcarried : t.left.kind.carriesText = true := by
    cases operand_eq_malformed_iff.mp hmalformed with
    | int hk | float hk | char hk => rw [hk]; rfl
  exact .atToken ht (congrArg (ParseErrorKind.invalidLiteral kind) (t.alike.text hcarried))

end Twins

section Reading

inductive Reading.InStep (ts : List Twins) : Reading → Reading → Prop
  | ok (e : Expr) (used : Nat) : InStep ts ⟨.ok e, used⟩ ⟨.ok e, used⟩
  | error {e e' : ParseError} (used : Nat) : Twins.Share ts e e' →
      InStep ts ⟨.error e, used⟩ ⟨.error e', used⟩

theorem Reading.InStep.after {ts us : List Twins} {r r' : Reading} (h : InStep ts r r')
    (hsub : ts ⊆ us) (n : Nat) :
    InStep us ⟨r.result, r.used + n⟩ ⟨r'.result, r'.used + n⟩ := by
  cases h with
  | ok e used => exact .ok e (used + n)
  | error used h => exact .error (used + n) (h.mono hsub)

variable (eof : Twins)

mutual

theorem inStep_readAt (level : Level) : (ts : List Twins) → Reading.InStep (ts ++ [eof])
    (readAt level eof.left (ts.map Twins.left)) (readAt level eof.right (ts.map Twins.right))
  | [] => by
    simp only [List.map_nil, readAt]
    exact .error 0 (Twins.share_expectedExpression (List.mem_singleton_self eof))
  | t :: ts => by
    have ht : t ∈ t :: ts ++ [eof] := List.mem_cons_self
    simp only [List.map_cons, readAt, ← t.alike.operand]
    cases hoperand : t.left.operand with
    | value e => exact (inStep_extend level e ts).after (List.subset_cons_self t _) 1
    | malformed kind => exact .error 1 (Twins.share_invalidLiteral ht hoperand)
    | operator op => exact .error 1 (.atToken ht rfl)
    | absent => exact .error 0 (Twins.share_expectedExpression ht)
termination_by ts => ts.length

theorem inStep_extend (level : Level) (lhs : Expr) : (ts : List Twins) →
    Reading.InStep (ts ++ [eof]) (extend level lhs eof.left (ts.map Twins.left))
      (extend level lhs eof.right (ts.map Twins.right))
  | [] => by
    simp only [List.map_nil, extend]
    exact .ok lhs 0
  | t :: ts => by
    have hsub : ts ++ [eof] ⊆ t :: ts ++ [eof] := List.subset_cons_self t _
    simp only [List.map_cons, extend, ← t.alike.kind]
    cases t.left.kind with
    | operator op =>
      by_cases hop : op.continues level = true
      · simp only [if_pos hop]
        have hright := inStep_readAt op.level ts
        generalize readAt op.level eof.left (ts.map Twins.left) = right,
          readAt op.level eof.right (ts.map Twins.right) = right' at hright ⊢
        cases hright with
        | error used h => exact .error (used + 1) (h.mono hsub)
        | ok rhs used =>
          have hmore := inStep_extend level (.binary op lhs rhs) (ts.drop used)
          rw [List.map_drop, List.map_drop] at hmore
          exact hmore.after (List.Subset.trans (drop_append_subset ts [eof] used) hsub) (used + 1)
      · simp only [if_neg hop]
        exact .ok lhs 0
    | _ => exact .ok lhs 0
termination_by ts => ts.length
decreasing_by
  · exact Nat.lt_succ_self _
  · exact length_drop_lt_length_cons ..

end

end Reading

section Acts

/-- Acts that see tokens which are alike. Expressions are read to the same tree. -/
def Act.Alike : Act → Act → Prop
  | look n seen, b => ∃ seen', b = look n seen' ∧ Option.Rel Token.Alike seen seen'
  | ask wanted seen, b => ∃ seen', b = ask wanted seen' ∧ Option.Rel Token.Alike seen seen'
  | accept kind seen, b => ∃ seen', b = accept kind seen' ∧ Option.Rel Token.Alike seen seen'
  | callee t, b => ∃ u, b = callee u ∧ t.kind.isTypeName = true ∧ t.Alike u
  | pass context t, b => ∃ u, b = pass context u ∧ t.Alike u
  | expr _ result, b =>
    ∃ us result', b = expr us result' ∧ Reading.expr result = Reading.expr result'

variable {eof : Twins} {ts : List Twins} {a : Act} {as : List Act}

theorem Twins.rel_getElem? (ts : List Twins) (n : Nat) :
    Option.Rel Token.Alike (ts.map left)[n]? (ts.map right)[n]? := by
  rw [List.getElem?_map, List.getElem?_map]
  cases ts[n]? with
  | none => exact .none
  | some t => exact .some t.alike

theorem Twins.rel_head? (ts : List Twins) :
    Option.Rel Token.Alike (ts.map left).head? (ts.map right).head? := by
  rw [List.head?_eq_getElem?, List.head?_eq_getElem?]
  exact rel_getElem? ts 0

/-- An act that happens on the right of some twins, for one on the left: it is alike, uses as many
tokens, and reports the same. -/
structure Act.Mirrors (eof : Twins) (ts : List Twins) (a b : Act) : Prop where
  alike : a.Alike b
  at_right : b.At eof.right (ts.map Twins.right)
  length_eq : b.tokens.length = a.tokens.length
  errors : List.Forall₂ (Twins.Share (ts ++ [eof])) (a.errors eof.left) (b.errors eof.right)

theorem Act.mirrors_ask {wanted : Expectation} (hend : wanted.accepts .eof = false) :
    Mirrors eof ts (.ask wanted (ts.map Twins.left).head?)
      (.ask wanted (ts.map Twins.right).head?) where
  alike := ⟨_, rfl, Twins.rel_head? ts⟩
  at_right := ⟨rfl, hend⟩
  length_eq := by
    cases ts with
    | nil => rfl
    | cons t ts => cases ht : wanted.accepts t.right.kind <;>
      simp [tokens, Option.filter_some, t.alike.kind, ht]
  errors := by
    cases ts with
    | nil => exact .cons (Twins.share_mismatch wanted (by simp)) .nil
    | cons t ts =>
      cases ht : wanted.accepts t.right.kind with
      | true => simp [Act.errors, t.alike.kind, ht]
      | false =>
        have hshare := Twins.share_mismatch wanted (List.mem_cons_self : t ∈ t :: ts ++ [eof])
        simpa [Act.errors, t.alike.kind, ht] using hshare

theorem Act.mirrors_accept (kind : TokenKind) :
    Mirrors eof ts (.accept kind (ts.map Twins.left).head?)
      (.accept kind (ts.map Twins.right).head?) where
  alike := ⟨_, rfl, Twins.rel_head? ts⟩
  at_right := rfl
  length_eq := by
    cases ts with
    | nil => rfl
    | cons t ts => by_cases ht : t.right.kind = kind <;>
      simp [tokens, Option.filter_some, t.alike.kind, ht]
  errors := .nil

theorem Act.mirrors_callee {t : Twins} (h : t.left.kind.isTypeName = true) :
    Mirrors eof (t :: ts) (.callee t.left) (.callee t.right) where
  alike := ⟨_, rfl, h, t.alike⟩
  at_right := ⟨rfl, t.alike.kind ▸ h⟩
  length_eq := rfl
  errors := by
    simp only [Act.errors, t.alike.kind]
    split
    · exact .nil
    · exact .cons (Twins.share_mismatch _ List.mem_cons_self) .nil

theorem Act.mirrors_pass {context : StmtContext} {t : Twins} (h : context.Refuses t.left.kind) :
    Mirrors eof (t :: ts) (.pass context t.left) (.pass context t.right) where
  alike := ⟨_, rfl, t.alike⟩
  at_right := ⟨rfl, t.alike.kind ▸ h⟩
  length_eq := rfl
  errors := .cons (Twins.share_unexpectedStart context List.mem_cons_self) .nil

theorem Act.exists_mirrors_expr {us : List Token} {result : Except ParseError Expr}
    (h : readExpr eof.left (ts.map Twins.left) = ⟨result, us.length⟩) :
    ∃ b, Mirrors eof ts (.expr us result) b := by
  have hread : Reading.InStep _ _ (readExpr eof.right (ts.map Twins.right)) :=
    inStep_readAt eof .lowest ts
  have hle := used_readExpr_le eof.right (ts.map Twins.right)
  change Reading.InStep _ (readExpr eof.left (ts.map Twins.left)) _ at hread
  rw [h] at hread
  generalize hright : readExpr eof.right (ts.map Twins.right) = reading at hread hle
  obtain ⟨result', used⟩ := reading
  have hlength : ((ts.map Twins.right).take used).length = used := List.length_take_of_le hle
  have hat : (Act.expr ((ts.map Twins.right).take used) result').At eof.right
      (ts.map Twins.right) := ⟨List.take_prefix .., by rw [hlength, hright]⟩
  refine ⟨.expr ((ts.map Twins.right).take used) result', ⟨_, _, rfl, ?_⟩, hat, ?_, ?_⟩
  · cases hread <;> rfl
  · cases hread <;> exact hlength
  · cases hread with
    | ok => exact .nil
    | error _ hshare => exact .cons hshare .nil

theorem Act.At.exists_mirrors (h : a.At eof.left (ts.map Twins.left)) :
    ∃ b, Act.Mirrors eof ts a b := by
  have hfirst {t : Token} (ht : (ts.map Twins.left).head? = some t) :
      ∃ w ws, ts = w :: ws ∧ w.left = t := by
    cases ts with
    | nil => cases ht
    | cons w ws => exact ⟨w, ws, rfl, Option.some.inj ht⟩
  cases a with
  | look n seen =>
    cases h
    exact ⟨.look n _, ⟨_, rfl, Twins.rel_getElem? ts n⟩, rfl, rfl, .nil⟩
  | ask wanted seen =>
    obtain ⟨rfl, hend⟩ := h
    exact ⟨_, mirrors_ask hend⟩
  | accept kind seen =>
    cases h
    exact ⟨_, mirrors_accept kind⟩
  | callee t =>
    obtain ⟨hhead, htype⟩ := h
    obtain ⟨w, ws, rfl, rfl⟩ := hfirst hhead
    exact ⟨_, mirrors_callee htype⟩
  | pass context t =>
    obtain ⟨hhead, hrefuses⟩ := h
    obtain ⟨w, ws, rfl, rfl⟩ := hfirst hhead
    exact ⟨_, mirrors_pass hrefuses⟩
  | expr us result => exact exists_mirrors_expr h.2

/-- Where acts happen on the left of some twins, acts that are alike happen on the right. -/
theorem Happens.exists_alike {us rest : List Token} (h : Happens eof.left us as rest)
    (hus : us = ts.map Twins.left) :
    ∃ bs rest', List.Forall₂ Act.Alike as bs ∧ Happens eof.right (ts.map Twins.right) bs rest' ∧
      List.Forall₂ (Twins.Share (ts ++ [eof])) (errorsOf eof.left as) (errorsOf eof.right bs) := by
  induction h generalizing ts with
  | nil => exact ⟨[], _, .nil, .nil, .nil⟩
  | @cons a _ _ _ hat _ ih =>
    subst hus
    obtain ⟨b, hb⟩ := hat.exists_mirrors
    have hdrop : (ts.map Twins.left).drop a.tokens.length =
        (ts.drop a.tokens.length).map Twins.left := List.map_drop.symm
    obtain ⟨bs, rest', halike, hhappens, herrors⟩ := ih hdrop
    rw [List.map_drop, ← hb.length_eq] at hhappens
    have hshare := Twins.share_errors_mono herrors (drop_append_subset ts [eof] _)
    exact ⟨b :: bs, rest', .cons hb.alike halike, .cons hb.at_right hhappens,
      List.rel_append hb.errors hshare⟩

end Acts

section Does

variable {α : Type} {eof eof' : Token}

theorem exists_of_forall₂_append {γ δ : Type} {R : γ → δ → Prop} {as bs : List γ} {cs : List δ}
    (h : List.Forall₂ R (as ++ bs) cs) :
    ∃ as' bs', cs = as' ++ bs' ∧ List.Forall₂ R as as' ∧ List.Forall₂ R bs bs' :=
  ⟨cs.take as.length, cs.drop as.length, (List.take_append_drop ..).symm,
    (List.forall₂_take_append _ _ _ h.flip).flip, (List.forall₂_drop_append _ _ _ h.flip).flip⟩

theorem exists_of_forall₂_singleton {a : Act} {bs : List Act}
    (h : List.Forall₂ Act.Alike [a] bs) : ∃ b, bs = [b] ∧ a.Alike b := by
  obtain ⟨b, _, hb, hnil, rfl⟩ := List.forall₂_cons_left_iff.mp h
  cases hnil
  exact ⟨b, rfl, hb⟩

theorem textOf_alike (heof : eof.Alike eof') (hkind : eof.kind = .eof) {wanted : Expectation}
    (hcarries : ∀ kind, wanted.accepts kind = true → kind.carriesText = true)
    {seen seen' : Option Token} (h : Option.Rel Token.Alike seen seen') :
    wanted.textOf eof seen = wanted.textOf eof' seen' := by
  have hend : eof.text = eof'.text := heof.text (hkind ▸ rfl)
  cases h with
  | none => exact hend
  | @some t u halike =>
    cases ht : wanted.accepts t.kind with
    | true =>
      have hu : wanted.accepts u.kind = true := halike.kind ▸ ht
      rw [wanted.textOf_of_accepts ht, wanted.textOf_of_accepts hu]
      exact halike.text (hcarries _ ht)
    | false =>
      have hu : wanted.accepts u.kind = false := halike.kind ▸ ht
      simpa [Expectation.textOf, Option.filter_some, ht, hu] using hend

theorem forall_kind_of_rel {P : TokenKind → Prop} {seen seen' : Option Token}
    (h : Option.Rel Token.Alike seen seen') (hP : ∀ t ∈ seen, P t.kind) :
    ∀ t ∈ seen', P t.kind := by
  cases h with
  | none => simp
  | some halike => simpa [← halike.kind] using hP

theorem kind_getD_of_rel (heof : eof.Alike eof') {seen seen' : Option Token}
    (h : Option.Rel Token.Alike seen seen') :
    (seen.getD eof).kind = (seen'.getD eof').kind := by
  cases h with
  | none => exact heof.kind
  | some halike => exact halike.kind

theorem any_kind_of_rel (kind : TokenKind) {seen seen' : Option Token}
    (h : Option.Rel Token.Alike seen seen') :
    (seen.any fun t => t.kind = kind) = seen'.any fun t => t.kind = kind := by
  cases h with
  | none => rfl
  | some halike => simp [halike.kind]

theorem Does.alike (heof : eof.Alike eof') (hkind : eof.kind = .eof) {m : Parse α}
    {as bs : List Act} {a : α} (h : Does eof m as a) (hbs : List.Forall₂ Act.Alike as bs) :
    Does eof' m bs a := by
  induction h generalizing bs with
  | pure a =>
    cases hbs
    exact .pure a
  | bind _ _ ihm ihf =>
    obtain ⟨_, _, rfl, has, hbs⟩ := exists_of_forall₂_append hbs
    exact (ihm has).bind (ihf hbs)
  | kindAt n seen =>
    obtain ⟨_, rfl, seen', rfl, hrel⟩ := exists_of_forall₂_singleton hbs
    rw [kind_getD_of_rel heof hrel]
    exact .kindAt n seen'
  | skip kind seen =>
    obtain ⟨_, rfl, seen', rfl, hrel⟩ := exists_of_forall₂_singleton hbs
    exact .skip kind seen'
  | text kind seen hcarries =>
    obtain ⟨_, rfl, seen', rfl, hrel⟩ := exists_of_forall₂_singleton hbs
    have htext : ∀ k, (Expectation.kind kind).accepts k = true → k.carriesText = true := by
      intro k hk
      rwa [eq_of_beq hk]
    rw [textOf_alike heof hkind htext hrel]
    exact .text kind seen' hcarries
  | typeName seen =>
    obtain ⟨_, rfl, seen', rfl, hrel⟩ := exists_of_forall₂_singleton hbs
    have htext : ∀ k, Expectation.typeName.accepts k = true → k.carriesText = true :=
      fun _ => carriesText_of_isTypeName
    rw [textOf_alike heof hkind htext hrel]
    exact .typeName seen'
  | accept kind seen =>
    obtain ⟨_, rfl, seen', rfl, hrel⟩ := exists_of_forall₂_singleton hbs
    rw [any_kind_of_rel kind hrel]
    exact .accept kind seen'
  | callee t =>
    obtain ⟨_, rfl, u, rfl, htype, halike⟩ := exists_of_forall₂_singleton hbs
    rw [halike.text (carriesText_of_isTypeName htype)]
    exact .callee u
  | skipUnexpected context t =>
    obtain ⟨_, rfl, u, rfl, -⟩ := exists_of_forall₂_singleton hbs
    exact .skipUnexpected context u
  | expr us result =>
    obtain ⟨_, rfl, vs, result', rfl, hexpr⟩ := exists_of_forall₂_singleton hbs
    rw [hexpr]
    exact .expr vs result'
  | @many_nil _ stops _ _ _ hstops =>
    obtain ⟨_, rfl, seen', rfl, hrel⟩ := exists_of_forall₂_singleton hbs
    exact .many_nil (forall_kind_of_rel (P := (stops · = true)) hrel hstops)
  | many_cons hstops _ _ ih ihs =>
    obtain ⟨_, _, ⟨_, rfl, hrel⟩, htail, rfl⟩ := List.forall₂_cons_left_iff.mp hbs
    obtain ⟨_, _, rfl, has, hmore⟩ := exists_of_forall₂_append htail
    obtain ⟨halike⟩ := hrel
    exact .many_cons (halike.kind ▸ hstops) (ih has) (ihs hmore)
  | @commaList_nil _ close _ _ hclose =>
    obtain ⟨_, rfl, seen', rfl, hrel⟩ := exists_of_forall₂_singleton hbs
    exact .commaList_nil (forall_kind_of_rel (P := (· = close)) hrel hclose)
  | commaList_last hclose _ hcomma ih =>
    obtain ⟨_, _, ⟨_, rfl, hrel⟩, htail, rfl⟩ := List.forall₂_cons_left_iff.mp hbs
    obtain ⟨_, _, rfl, has, hend⟩ := exists_of_forall₂_append htail
    obtain ⟨_, rfl, _, rfl, hseen⟩ := exists_of_forall₂_singleton hend
    obtain ⟨halike⟩ := hrel
    exact .commaList_last (halike.kind ▸ hclose) (ih has)
      (forall_kind_of_rel (P := (· ≠ .comma)) hseen hcomma)
  | commaList_cons hclose _ hcomma _ ih ihs =>
    obtain ⟨_, _, ⟨_, rfl, hrel⟩, htail, rfl⟩ := List.forall₂_cons_left_iff.mp hbs
    obtain ⟨_, _, rfl, has, hlater⟩ := exists_of_forall₂_append htail
    obtain ⟨_, _, ⟨_, rfl, hseen⟩, hmore, rfl⟩ := List.forall₂_cons_left_iff.mp hlater
    obtain ⟨halike⟩ := hrel
    obtain ⟨hcommas⟩ := hseen
    exact .commaList_cons (halike.kind ▸ hclose) (ih has) (hcommas.kind ▸ hcomma) (ihs hmore)

end Does

theorem exists_twins {ts us : List Token} (h : List.Forall₂ Token.Alike ts us) :
    ∃ ws : List Twins, ws.map Twins.left = ts ∧ ws.map Twins.right = us := by
  induction h with
  | nil => exact ⟨[], rfl, rfl⟩
  | @cons t u ts us halike _ ih =>
    obtain ⟨ws, rfl, rfl⟩ := ih
    exact ⟨⟨t, u, halike⟩ :: ws, rfl, rfl⟩

/-- Errors of one kind, with the places of the tokens at one index of two lists. -/
structure ParseError.Matches (ts us : List Token) (e e' : ParseError) : Prop where
  kind : e.kind = e'.kind
  isAt : ∃ (i : Nat) (t u : Token), ts[i]? = some t ∧ us[i]? = some u ∧ e.IsAt t ∧ e'.IsAt u

theorem Twins.Share.matches {ws : List Twins} {e e' : ParseError} (h : Share ws e e') :
    e.Matches (ws.map left) (ws.map right) e' := by
  obtain ⟨hkind, t, ht, hleft, hright⟩ := h
  obtain ⟨i, hi⟩ := List.getElem?_of_mem ht
  exact ⟨hkind, i, t.left, t.right, by simp [hi], by simp [hi], hleft, hright⟩

/-- Streams that agree on the kinds of their tokens, and on the texts that these carry, have one
program, and their errors in order are of the same kinds and at the same tokens. -/
theorem parse_alike {s s' : TokenStream} (h : List.Forall₂ Token.Alike s.toList s'.toList) :
    (parse s).program = (parse s').program ∧
      List.Forall₂ (ParseError.Matches s.toList s'.toList) (parse s).errors (parse s').errors := by
  obtain ⟨ws, hleft, hright⟩ := exists_twins h
  rw [← hleft, ← hright]
  rcases ws.eq_nil_or_concat with rfl | ⟨ts, eof, rfl⟩
  · cases (List.append_ne_nil_of_right_ne_nil _ (List.cons_ne_nil s.eof [])) hleft.symm
  · rw [List.concat_eq_append, List.map_append] at hleft hright
    obtain ⟨hts, heof⟩ := List.append_inj' hleft rfl
    obtain ⟨hts', heof'⟩ := List.append_inj' hright rfl
    have hend : eof.left = s.eof := List.singleton_inj.mp heof
    have hend' : eof.right = s'.eof := List.singleton_inj.mp heof'
    obtain ⟨as, has⟩ := exists_acts s
    have hhappens := has.happens
    rw [← hend] at hhappens
    obtain ⟨bs, _, halike, hright, herrors⟩ := hhappens.exists_alike hts.symm
    have hdoes := has.does.alike (hend ▸ hend' ▸ eof.alike) s.eof_kind halike
    rw [hts', hend'] at hright
    have hrun := hdoes.run_eq hright
    have hparse : parse s' = ⟨(parse s).program, errorsOf s'.eof bs⟩ := by rw [parse, hrun]
    rw [hend, hend', ← has.errors_eq] at herrors
    rw [hparse, List.concat_eq_append]
    exact ⟨rfl, herrors.imp fun _ _ hshare => hshare.matches⟩

theorem parse_alike_respelled :
    let a : TokenStream := ⟨[⟨.keyword .fnKw, "fn", ⟨0, 2⟩, ⟨1, 1⟩⟩,
      ⟨.identifier, "f", ⟨3, 4⟩, ⟨1, 4⟩⟩], ⟨.eof, "", ⟨4, 4⟩, ⟨1, 5⟩⟩, rfl, by decide⟩
    let b : TokenStream := ⟨[⟨.keyword .fnKw, "function", ⟨7, 15⟩, ⟨3, 2⟩⟩,
      ⟨.identifier, "f", ⟨20, 21⟩, ⟨4, 1⟩⟩], ⟨.eof, "", ⟨22, 22⟩, ⟨5, 1⟩⟩, rfl, by decide⟩
    List.Forall₂ Token.Alike a.toList b.toList ∧ (parse a).errors.length = 6 ∧
      (parse a).program = (parse b).program ∧
      List.Forall₂ (ParseError.Matches a.toList b.toList) (parse a).errors (parse b).errors := by
  intro a b
  have h : List.Forall₂ Token.Alike a.toList b.toList :=
    .cons ⟨rfl, by decide⟩ (.cons ⟨rfl, fun _ => rfl⟩ (.cons ⟨rfl, fun _ => rfl⟩ .nil))
  exact ⟨h, by decide +kernel, parse_alike h⟩

end SourceCheck
