import SourceCheck.Token.Lex

/-! # Two ways to a token stream

A list of tokens from anywhere is checked before it becomes a stream, and the tokens of a source
are taken as they are. The check accepts exactly the lists that end with their only end-of-file
token, and says of every other list what is wrong with it; it would accept what lexing finds in
any source, and give the same stream.
-/

namespace SourceCheck

def Closed (ts : List Token) : Prop :=
  ∃ before last, ts = before ++ [last] ∧ last.kind = .eof ∧ ∀ t ∈ before, t.kind ≠ .eof

/-- What is wrong with tokens that are no stream. An early end-of-file token is told by the place
of the first one, and only if the last token is one too. -/
inductive StreamError.IsFaultOf : StreamError → List Token → Prop
  | empty : IsFaultOf .empty []
  | missingEof {before : List Token} {last : Token} :
      last.kind ≠ .eof → IsFaultOf (.missingEof last.kind) (before ++ [last])
  | earlyEof {before after : List Token} {first last : Token} :
      (∀ t ∈ before, t.kind ≠ .eof) → first.kind = .eof → last.kind = .eof →
      IsFaultOf (.earlyEof before.length) (before ++ first :: after ++ [last])

namespace TokenStream

variable {ts before after : List Token} {first : Token}

theorem eofIndex?_append_cons (hbefore : ∀ t ∈ before, t.kind ≠ .eof)
    (hfirst : first.kind = .eof) : eofIndex? (before ++ first :: after) = some before.length := by
  have hnone : eofIndex? before = none := by
    simpa [eofIndex?, List.findIdx?_eq_none_iff] using hbefore
  rw [eofIndex?, List.findIdx?_append, ← eofIndex?, hnone]
  simp [List.findIdx?_cons, hfirst]

theorem ofTokens_of_isFaultOf {e : StreamError} (h : e.IsFaultOf ts) : ofTokens ts = .error e := by
  cases h with
  | empty => rfl
  | missingEof hlast => simp [ofTokens, hlast]
  | @earlyEof before after first last hbefore hfirst hlast =>
    have hfound : eofIndex? (before ++ first :: after ++ [last]).dropLast =
        some before.length := by
      rw [List.dropLast_concat]
      exact eofIndex?_append_cons hbefore hfirst
    unfold ofTokens
    simp only [List.getLast?_concat, hlast, dite_true]
    split
    next index hindex =>
      cases hindex.symm.trans hfound
      rfl
    next hindex => cases hindex.symm.trans hfound

theorem exists_toList_eq_or_isFaultOf (ts : List Token) :
    (∃ s : TokenStream, s.toList = ts) ∨ ∃ e : StreamError, e.IsFaultOf ts := by
  rcases List.eq_nil_or_concat ts with rfl | ⟨before, last, rfl⟩
  · exact .inr ⟨_, .empty⟩
  rw [List.concat_eq_append]
  by_cases hlast : last.kind = .eof
  · cases hfind : before.find? fun t => decide (t.kind = .eof) with
    | none =>
      have hbefore : ∀ t ∈ before, t.kind ≠ .eof := by simpa using hfind
      exact .inl ⟨⟨before, last, hlast, hbefore⟩, rfl⟩
    | some first =>
      obtain ⟨hfirst, us, after, rfl, hus⟩ := List.find?_eq_some_iff_append.mp hfind
      exact .inr ⟨_, .earlyEof (by simpa using hus) (of_decide_eq_true hfirst) hlast⟩
  · exact .inr ⟨_, .missingEof hlast⟩

theorem ofTokens_eq_ok_iff {s : TokenStream} : ofTokens ts = .ok s ↔ s.toList = ts := by
  constructor
  · intro h
    rcases exists_toList_eq_or_isFaultOf ts with ⟨s', rfl⟩ | ⟨e, he⟩
    · rw [ofTokens_toList] at h
      cases h
      rfl
    · rw [ofTokens_of_isFaultOf he] at h
      cases h
  · rintro rfl
    exact ofTokens_toList s

theorem ofTokens_eq_error_iff {e : StreamError} : ofTokens ts = .error e ↔ e.IsFaultOf ts := by
  refine ⟨fun h => ?_, ofTokens_of_isFaultOf⟩
  rcases exists_toList_eq_or_isFaultOf ts with ⟨s, rfl⟩ | ⟨e', he'⟩
  · rw [ofTokens_toList] at h
    cases h
  · rw [ofTokens_of_isFaultOf he'] at h
    cases h
    exact he'

theorem exists_toList_eq_iff : (∃ s : TokenStream, s.toList = ts) ↔ Closed ts := by
  constructor
  · rintro ⟨s, rfl⟩
    exact ⟨s.tokens, s.eof, rfl, s.eof_kind, s.tokens_kind⟩
  · rintro ⟨before, last, rfl, hlast, hbefore⟩
    exact ⟨⟨before, last, hlast, hbefore⟩, rfl⟩

end TokenStream

theorem closed_lexFrom (p : Place) (cs : List Char) {eof : Token} (h : eof.kind = .eof) :
    Closed ((lexFrom p cs).tokens ++ [eof]) :=
  ⟨_, eof, rfl, h, kind_ne_eof_of_mem_lexFrom p cs⟩

/-- A list of tokens is accepted exactly if it ends with its only end-of-file token, and the stream
then gives the list back. Any other list has just one fault, which is told. What lexing finds in a
source is accepted, and becomes the stream that lexing gives without the check. -/
theorem ofTokens_answers :
    (∀ ts : List Token,
      ((∃ s, TokenStream.ofTokens ts = .ok s) ↔ Closed ts) ∧
      (∀ s, TokenStream.ofTokens ts = .ok s ↔ s.toList = ts ∧ s.length = ts.length) ∧
      ∀ e, TokenStream.ofTokens ts = .error e ↔ e.IsFaultOf ts) ∧
    ∀ source : String,
      let found := lexFrom .start source.toList
      let eof : Token := ⟨.eof, "", .empty found.stop.offset, found.stop.position⟩
      Closed (found.tokens ++ [eof]) ∧ (lex source).stream.toList = found.tokens ++ [eof] ∧
        TokenStream.ofTokens (lex source).stream.toList = .ok (lex source).stream := by
  constructor
  · intro ts
    refine ⟨?_, fun s => ?_, fun e => TokenStream.ofTokens_eq_error_iff⟩
    · simp only [TokenStream.ofTokens_eq_ok_iff, TokenStream.exists_toList_eq_iff]
    · rw [TokenStream.ofTokens_eq_ok_iff]
      refine ⟨?_, And.left⟩
      rintro rfl
      exact ⟨rfl, s.length_toList.symm⟩
  · intro source
    refine ⟨closed_lexFrom _ _ rfl, ?_, TokenStream.ofTokens_toList _⟩
    rw [TokenStream.toList, tokens_lex, eof_lex_eq_stop]

end SourceCheck
