/-! # Reading position

A cursor holds the characters not yet read. Looking ahead leaves it in place; `next`, `eat`
and `eatWhile` move it.
-/

namespace SourceCheck.Text

structure Cursor where
  rest : List Char
  deriving DecidableEq, Repr

namespace Cursor

def ofString (s : String) : Cursor := ⟨s.toList⟩

def peekNth (cur : Cursor) (n : Nat) : Option Char := cur.rest[n]?

def peek (cur : Cursor) : Option Char := cur.peekNth 0

/-- Reads one character; at the end there is none, and the cursor stays. -/
def next : Cursor → Option Char × Cursor
  | ⟨[]⟩ => (none, ⟨[]⟩)
  | ⟨c :: cs⟩ => (some c, ⟨cs⟩)

def eat (cur : Cursor) (c : Char) : Bool × Cursor :=
  if cur.peek = some c then (true, cur.next.2) else (false, cur)

def eatWhile (cur : Cursor) (p : Char → Bool) : Nat × Cursor :=
  ((cur.rest.takeWhile p).length, ⟨cur.rest.dropWhile p⟩)

end Cursor

end SourceCheck.Text
