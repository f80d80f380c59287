import SourceCheck.Location
import SourceCheck.Text.Bytes

/-! # Places

The offset, the row and the column that a text comes to, one character after another.
-/

namespace SourceCheck

structure Place where
  offset : Nat
  row : Nat
  col : Nat
  deriving DecidableEq, Repr

namespace Place

def start : Place := ⟨0, 1, 1⟩

def next (p : Place) (c : Char) : Place :=
  if c = '\n' then ⟨p.offset + c.utf8Size, p.row + 1, 1⟩
  else ⟨p.offset + c.utf8Size, p.row, p.col + 1⟩

def advance (p : Place) (cs : List Char) : Place := cs.foldl next p

def position (p : Place) : Position := ⟨p.row, p.col⟩

@[simp] theorem advance_nil (p : Place) : p.advance [] = p := rfl

@[simp] theorem advance_cons (p : Place) (c : Char) (cs : List Char) :
    p.advance (c :: cs) = (p.next c).advance cs := rfl

theorem advance_append (p : Place) (l r : List Char) :
    p.advance (l ++ r) = (p.advance l).advance r := by
  simp [advance]

@[simp] theorem offset_next (p : Place) (c : Char) :
    (p.next c).offset = p.offset + c.utf8Size := by
  unfold next; split <;> rfl

@[simp] theorem offset_advance (p : Place) (cs : List Char) :
    (p.advance cs).offset = p.offset + Text.byteLength cs := by
  induction cs generalizing p with
  | nil => simp
  | cons c cs ih => simp [ih, Nat.add_assoc]

theorem row_advance (p : Place) (cs : List Char) :
    (p.advance cs).row = p.row + cs.count '\n' := by
  induction cs generalizing p with
  | nil => rfl
  | cons c cs ih =>
    rw [advance_cons, ih, next, List.count_cons]
    by_cases hc : c = '\n'
    · simp [hc, Nat.add_comm, Nat.add_left_comm]
    · simp [hc]

theorem advance_of_notMem {cs : List Char} (h : '\n' ∉ cs) (p : Place) :
    p.advance cs = ⟨p.offset + Text.byteLength cs, p.row, p.col + cs.length⟩ := by
  induction cs generalizing p with
  | nil => simp
  | cons c cs ih =>
    simp only [List.mem_cons, not_or] at h
    rw [advance_cons, ih h.2]
    simp [next, Ne.symm h.1]
    omega

end Place

end SourceCheck
