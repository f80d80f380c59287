import SourceCheck.Proofs.Lex.Newline

/-! # Splits without an error

A text that lexes without an error is one that splits into gaps and lexemes. The split is by the
longest lexeme in each place, and two slashes always start a comment; so there is only one, and
its lexemes are the tokens that lexing finds.
-/

namespace SourceCheck

open Grammar

/-- A text from a place on splits into gaps and lexemes, and these are the tokens of its lexemes.
A lexeme is the longest in its place, and no comment starts there. -/
inductive Grammar.SplitsInto : Place → List Char → List Token → Prop
  | last {p : Place} {gap : List Char} : Gap [] gap → SplitsInto p gap []
  | cons {p : Place} {gap lexeme rest : List Char} {kind : TokenKind} {ts : List Token} :
      Gap (lexeme ++ rest) gap → Lexeme kind lexeme → IsLongest lexeme rest →
      ¬ ['/', '/'] <+: lexeme ++ rest → SplitsInto ((p.advance gap).advance lexeme) rest ts →
      SplitsInto p (gap ++ (lexeme ++ rest))
        (.between (p.advance gap) ((p.advance gap).advance lexeme) kind lexeme :: ts)

section Scan

variable {c : Char} {cs us rest : List Char} {kind kind' : TokenKind}

theorem Grammar.Lexeme.unique (h : Lexeme kind us) (h' : Lexeme kind' us) : kind = kind' := by
  obtain ⟨c, us, rfl⟩ := List.exists_cons_of_ne_nil h.ne_nil
  have hs : SourceCheck.scan c (us ++ []) = (.token kind, us.length) := scan_of_lexeme h nofun
  have hs' : SourceCheck.scan c (us ++ []) = (.token kind', us.length) := scan_of_lexeme h' nofun
  cases hs.symm.trans hs'
  rfl

end Scan

namespace Grammar.SplitsInto

variable {p : Place} {cs : List Char} {ts : List Token}

theorem gap {gap : List Char} (hg : Gap cs gap) (h : SplitsInto (p.advance gap) cs ts) :
    SplitsInto p (gap ++ cs) ts := by
  cases h with
  | last hl => exact .last (.append (by simpa using hg) hl)
  | @cons _ gap' lexeme rest kind ts hg' hk hl hc hs =>
    rw [← Place.advance_append p gap gap'] at hs ⊢
    rw [← List.append_assoc]
    exact .cons (hg.append hg') hk hl hc hs

end Grammar.SplitsInto

end SourceCheck
