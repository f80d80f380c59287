import SourceCheck.Text.Blank
import SourceCheck.Text.Quoted
import SourceCheck.Token.Kind

/-! # Lexical pieces

A source is read as a sequence of pieces: gaps, tokens and faults. `scan` classifies the piece
that starts with a given character and says how many further characters belong to it.
-/

namespace SourceCheck

inductive LexErrorKind
  | unexpectedChar (c : Char)
  | unterminatedString
  | unterminatedChar
  deriving DecidableEq, Repr

def LexErrorKind.message : LexErrorKind → String
  | unexpectedChar c => "unexpected character " ++ Text.quoteChar c
  | unterminatedString => "unterminated string literal"
  | unterminatedChar => "unterminated character literal"

inductive Piece
  | gap
  | token (kind : TokenKind)
  | fault (kind : LexErrorKind)
  deriving DecidableEq, Repr

def isWordStart (c : Char) : Bool := c.isAlpha || c == '_'

def isWordPart (c : Char) : Bool := c.isAlphanum || c == '_'

def punctuation? (c : Char) : Option TokenKind :=
  if c = '(' then some .leftParen
  else if c = ')' then some .rightParen
  else if c = '\x7b' then some .leftBrace
  else if c = '\x7d' then some .rightBrace
  else if c = ':' then some .colon
  else if c = ';' then some .semicolon
  else if c = ',' then some .comma
  else if c = '=' then some .assign
  else if c = '+' then some (.operator .add)
  else if c = '-' then some (.operator .sub)
  else if c = '*' then some (.operator .mul)
  else if c = '/' then some (.operator .div)
  else if c = '%' then some (.operator .mod)
  else none

def lineLength : List Char → Nat
  | [] => 0
  | c :: cs => if c = '\n' then 1 else lineLength cs + 1

/-- How far a literal reaches after its opening quote, and whether its closing quote is there. A
backslash takes the next character with it, and no literal goes past the end of its line. -/
def quoted (quote : Char) : List Char → Bool × Nat
  | [] => (false, 0)
  | c :: cs =>
    if c = '\n' then (false, 0)
    else if c = '\\' then
      match cs with
      | [] => (false, 1)
      | d :: ds =>
        if d = '\n' then (false, 1)
        else
          let more := quoted quote ds
          (more.1, more.2 + 2)
    else if c = quote then (true, 1)
    else
      let more := quoted quote cs
      (more.1, more.2 + 1)

section Quoted

variable {quote c : Char}

theorem quoted_newline (quote : Char) (cs : List Char) :
    quoted quote ('\n' :: cs) = (false, 0) := by
  rw [quoted.eq_def]
  rfl

theorem quoted_escape (h : c ≠ '\n') (cs : List Char) :
    quoted quote ('\\' :: c :: cs) = ((quoted quote cs).1, (quoted quote cs).2 + 2) := by
  rw [quoted.eq_def]
  simp [h]

theorem quoted_cons (hn : c ≠ '\n') (hb : c ≠ '\\') (cs : List Char) :
    quoted quote (c :: cs) =
      if c = quote then (true, 1) else ((quoted quote cs).1, (quoted quote cs).2 + 1) := by
  rw [quoted.eq_def]
  simp [hn, hb]

end Quoted

def quotedPiece (quote : Char) (kind : TokenKind) (open_ : LexErrorKind) (cs : List Char) :
    Piece × Nat :=
  let (closed, n) := quoted quote cs
  (if closed then .token kind else .fault open_, n)

/-- A number after its first digit. A point belongs to it only in front of another digit. -/
def number (cs : List Char) : TokenKind × Nat :=
  let whole := (cs.takeWhile Char.isDigit).length
  match cs.dropWhile Char.isDigit with
  | '.' :: d :: ds =>
    if d.isDigit then (.float, whole + 2 + (ds.takeWhile Char.isDigit).length)
    else (.integer, whole)
  | _ => (.integer, whole)

def word (c : Char) (cs : List Char) : TokenKind × Nat :=
  let part := cs.takeWhile isWordPart
  (wordKind (String.ofList (c :: part)), part.length)

/-- The piece that starts with `c`, and how many of the characters after it belong to it. -/
def scan (c : Char) (cs : List Char) : Piece × Nat :=
  if c = '/' ∧ cs.head? = some '/' then (.gap, lineLength cs.tail + 1)
  else if Text.isBlank c then (.gap, 0)
  else if c = ':' ∧ cs.head? = some ':' then (.token .doubleColon, 1)
  else match punctuation? c with
    | some kind => (.token kind, 0)
    | none =>
      if c = '"' then quotedPiece '"' .string .unterminatedString cs
      else if c = '\x27' then quotedPiece '\x27' .char .unterminatedChar cs
      else if c.isDigit then (number cs).map .token id
      else if isWordStart c then (word c cs).map .token id
      else (.fault (.unexpectedChar c), 0)

theorem punctuation?_ne_eof (c : Char) : punctuation? c ≠ some .eof := by
  fun_cases punctuation? c <;> simp

theorem wordKind_ne_eof (s : String) : wordKind s ≠ .eof := by
  fun_cases wordKind s <;> simp

theorem number_ne_eof (cs : List Char) : (number cs).1 ≠ .eof := by
  fun_cases number cs <;> simp

theorem scan_ne_eof (c : Char) (cs : List Char) : (scan c cs).1 ≠ .token .eof := by
  unfold scan
  split
  · simp
  split
  · simp
  split
  · simp
  split
  next kind h =>
    have := punctuation?_ne_eof c
    simp_all
  repeat' split
  · simp only [quotedPiece]; split <;> simp
  · simp only [quotedPiece]; split <;> simp
  · simpa using number_ne_eof cs
  · simpa [word] using wordKind_ne_eof _
  · simp

end SourceCheck
