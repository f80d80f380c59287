/-! # Locations

A place in a source is a byte range (`Span`) or a row and column (`Position`). Rows and columns
start at one, and columns count characters.
-/

namespace SourceCheck

/-- A half-open byte range. -/
structure Span where
  start : Nat
  stop : Nat
  deriving DecidableEq, Repr

def Span.empty (offset : Nat) : Span := ⟨offset, offset⟩

/-- A row and a column, both from one. -/
structure Position where
  row : Nat
  col : Nat
  deriving DecidableEq, Repr

def Position.text (p : Position) : String :=
  "<" ++ p.row.repr ++ ", " ++ p.col.repr ++ ">"

end SourceCheck
