import SourceCheck.Location
import SourceCheck.Token.Kind

/-! # Token streams

A stream is a list of tokens closed by exactly one end-of-file token. The shape is part of the
type; `ofTokens` checks it for a list from anywhere (`ofTokens_toList`).
-/

namespace SourceCheck

structure Token where
  kind : TokenKind
  /-- The text as written; of a string or character literal, what stands between the quotes. -/
  text : String
  span : Span
  position : Position
  deriving DecidableEq, Repr

/-- Tokens closed by one end-of-file token. -/
structure TokenStream where
  tokens : List Token
  eof : Token
  eof_kind : eof.kind = .eof
  tokens_kind : ∀ t ∈ tokens, t.kind ≠ .eof
  deriving DecidableEq

inductive StreamError
  | empty
  | missingEof (last : TokenKind)
  | earlyEof (index : Nat)
  deriving DecidableEq, Repr

def StreamError.message : StreamError → String
  | empty => "token stream is empty"
  | missingEof last => "token stream must end with end of file, found " ++ last.name
  | earlyEof index => "end of file token at index " ++ index.repr ++ " is not the last token"

namespace TokenStream

def toList (s : TokenStream) : List Token := s.tokens ++ [s.eof]

def length (s : TokenStream) : Nat := s.tokens.length + 1

/-- A stream always holds its end-of-file token. -/
def isEmpty (s : TokenStream) : Bool := s.toList.isEmpty

def eofIndex? (ts : List Token) : Option Nat :=
  ts.findIdx? fun t => decide (t.kind = .eof)

theorem kind_ne_eof_of_eofIndex? {ts : List Token} (h : eofIndex? ts = none) :
    ∀ t ∈ ts, t.kind ≠ .eof := by
  simpa [eofIndex?, List.findIdx?_eq_none_iff] using h

/-- The stream of a list that ends with its only end-of-file token. -/
def ofTokens (ts : List Token) : Except StreamError TokenStream :=
  match ts.getLast? with
  | none => .error .empty
  | some last =>
    if eof_kind : last.kind = .eof then
      match h : eofIndex? ts.dropLast with
      | some index => .error (.earlyEof index)
      | none => .ok ⟨ts.dropLast, last, eof_kind, kind_ne_eof_of_eofIndex? h⟩
    else .error (.missingEof last.kind)

@[simp] theorem length_toList (s : TokenStream) : s.toList.length = s.length := by
  simp [toList, length]

theorem ofTokens_toList (s : TokenStream) : ofTokens s.toList = .ok s := by
  have h : eofIndex? s.tokens = none := by
    simpa [eofIndex?, List.findIdx?_eq_none_iff] using s.tokens_kind
  unfold ofTokens
  simp only [toList, List.getLast?_concat, s.eof_kind, dite_true, List.dropLast_concat]
  split
  next hi => simp_all
  next => rfl

end TokenStream

end SourceCheck
