import SourceCheck.Location
import SourceCheck.Text.Bytes

/-! # Sources and their lines

A source is a named text. Its line breaks, as byte offsets, give the line of every offset, the
offset where a line starts, and the row and column of every offset between two characters.
-/

namespace SourceCheck

structure Source where
  name : String
  text : String
  deriving DecidableEq, Repr

abbrev Sources := List Source

def pieces : List Char → List (List Char)
  | [] => [[]]
  | c :: cs =>
    if c = '\n' then [] :: pieces cs
    else match pieces cs with
      | [] => [[c]]
      | piece :: rest => (c :: piece) :: rest

/-- What is seen of a piece: all of it but one carriage return at its end. -/
def visible (piece : List Char) : List Char :=
  if piece.getLast? = some '\r' then piece.dropLast else piece

theorem pieces_ne_nil (cs : List Char) : pieces cs ≠ [] := by
  fun_cases pieces cs <;> simp

theorem newline_notMem_of_mem_pieces {cs piece : List Char} (h : piece ∈ pieces cs) :
    '\n' ∉ piece := by
  induction cs generalizing piece with
  | nil => simp_all [pieces]
  | cons c cs ih =>
    simp only [pieces] at h
    split at h
    next => rcases List.mem_cons.mp h with rfl | h <;> simp_all
    next hc =>
      split at h
      next => simp only [List.mem_singleton] at h; subst h; simpa using Ne.symm hc
      next head rest hp =>
        rw [hp] at ih
        rcases List.mem_cons.mp h with rfl | h
        · simpa [Ne.symm hc] using ih (List.mem_cons_self ..)
        · exact ih (List.mem_cons_of_mem _ h)

namespace Source

def chars (s : Source) : List Char := s.text.toList

def length (s : Source) : Nat := Text.byteLength s.chars

def breaksFrom (offset : Nat) : List Char → List Nat
  | [] => []
  | c :: cs =>
    if c = '\n' then offset :: breaksFrom (offset + c.utf8Size) cs
    else breaksFrom (offset + c.utf8Size) cs

def breaks (s : Source) : List Nat := breaksFrom 0 s.chars

/-- The index of the line that an offset is on. A newline belongs to the line it ends. -/
def lineIndex? (s : Source) (offset : Nat) : Option Nat :=
  if s.length < offset then none else some (s.breaks.countP (· < offset))

def lineStart? (s : Source) : Nat → Option Nat
  | 0 => some 0
  | n + 1 => s.breaks[n]?.map (· + 1)

def lines (s : Source) : List (List Char) := (pieces s.chars).map visible

def line? (s : Source) (index : Nat) : Option (List Char) := s.lines[index]?

def position? (s : Source) (offset : Nat) : Option Position := do
  let line ← s.lineIndex? offset
  let start ← s.lineStart? line
  let before ← Text.slice? s.chars start offset
  some ⟨line + 1, before.length + 1⟩

end Source

end SourceCheck
