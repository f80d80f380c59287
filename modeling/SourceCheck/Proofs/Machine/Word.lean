import Mathlib.Data.Nat.Log
import SourceCheck.Proofs.Source.Position

/-! # Arithmetic in machine words

A machine counts in words of 64 bits, and keeps a text in a string of fewer than `2 ^ 63` bytes.
An operation that is asked for outside its domain, or whose result is no word or no string, is a
fault.
-/

namespace SourceCheck

open Text

/-- Why a computation with words and strings stops. -/
inductive Fault
  | overflow
  | underflow
  | logOfZero
  | crossedBounds
  | outOfRange
  | insideCharacter
  | tooLong
  deriving DecidableEq, Repr

namespace Word

/-- Words are the numbers below this one. -/
def bound : Nat := 0x10000000000000000

/-- Strings hold fewer bytes than this. -/
def stringBound : Nat := 0x8000000000000000

def add (a b : Nat) : Except Fault Nat :=
  if a + b < bound then .ok (a + b) else .error .overflow

def mul (a b : Nat) : Except Fault Nat :=
  if a * b < bound then .ok (a * b) else .error .overflow

def sub (a b : Nat) : Except Fault Nat :=
  if b ≤ a then .ok (a - b) else .error .underflow

def log10 (a : Nat) : Except Fault Nat :=
  if a = 0 then .error .logOfZero else .ok (Nat.log 10 a)

/-- The number between two bounds that is next to a number. -/
def clamp (a lo hi : Nat) : Except Fault Nat :=
  if lo ≤ hi then .ok (max lo (min a hi)) else .error .crossedBounds

def slice (cs : List Char) (start stop : Nat) : Except Fault (List Char) :=
  if stop < start ∨ byteLength cs < stop then .error .outOfRange
  else match slice? cs start stop with
    | some inside => .ok inside
    | none => .error .insideCharacter

section Spec

variable {a b lo hi : Nat}

theorem ok_bind {α β : Type} (a : α) (f : α → Except Fault β) : (Except.ok a >>= f) = f a := rfl

theorem add_eq_ok (h : a + b < bound) : add a b = .ok (a + b) := if_pos h

theorem mul_eq_ok (h : a * b < bound) : mul a b = .ok (a * b) := if_pos h

theorem sub_eq_ok (h : b ≤ a) : sub a b = .ok (a - b) := if_pos h

theorem log10_eq_ok (h : a ≠ 0) : log10 a = .ok (Nat.log 10 a) := if_neg h

theorem clamp_eq_ok (h : lo ≤ hi) : clamp a lo hi = .ok (max lo (min a hi)) := if_pos h

theorem slice_eq_ok {cs before inside after : List Char} (h : cs = before ++ (inside ++ after))
    (ha : byteLength before = a) (hb : byteLength before + byteLength inside = b) :
    slice cs a b = .ok inside := by
  subst h ha hb
  rw [slice, if_neg (by simp only [byteLength_append]; omega), slice?_append]

theorem slice_zero {cs before : List Char} (h : before <+: cs) (hb : byteLength before = b) :
    slice cs 0 b = .ok before := by
  obtain ⟨after, h⟩ := h
  exact slice_eq_ok (show cs = [] ++ (before ++ after) from h.symm) rfl (by simpa using hb)

/-- A range in a text can only fail to be cut at a character. -/
theorem slice_eq_error {cs : List Char} (hle : a ≤ b) (hb : b ≤ byteLength cs)
    (h : slice? cs a b = none) : slice cs a b = .error .insideCharacter := by
  rw [slice, if_neg (by omega), h]

end Spec

end Word

end SourceCheck
