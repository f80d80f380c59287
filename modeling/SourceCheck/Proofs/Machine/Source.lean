import SourceCheck.Proofs.Machine.Word
import SourceCheck.Proofs.Source.Lines

/-! # Sources in machine words

The lookups of a source, with every step on words that they take. A source is a string, so no
step is a fault, and they find what the lookups on numbers find.
-/

namespace SourceCheck

open Text

/-- A source whose text is a string. -/
def Source.IsString (s : Source) : Prop := s.length < Word.stringBound

namespace Machine

def lineStart? (s : Source) (line : Nat) : Except Fault (Option Nat) :=
  if line = 0 then .ok (some 0)
  else do
    let index ← Word.sub line 1
    match s.breaks[index]? with
    | some offset => return some (← Word.add offset 1)
    | none => return none

def position? (s : Source) (offset : Nat) : Except Fault (Option Position) := do
  match s.lineIndex? offset with
  | none => return none
  | some line =>
    match ← lineStart? s line with
    | none => return none
    | some start =>
      match slice? s.chars start offset with
      | none => return none
      | some before => return some ⟨← Word.add line 1, ← Word.add before.length 1⟩

def withoutNewline (cs : List Char) : List Char :=
  if cs.getLast? = some '\n' then cs.dropLast else cs

/-- The visible text of a line, cut out between its start and the next one. -/
def line? (s : Source) (index : Nat) : Except Fault (Option (List Char)) := do
  match ← lineStart? s index with
  | none => return none
  | some start =>
    let next ← lineStart? s (← Word.add index 1)
    let text ← Word.slice s.chars start (next.getD s.length)
    return some (visible (withoutNewline text))

end Machine

namespace Source.IsString

open Word (ok_bind)

variable {s : Source} {n : Nat} {above line after : List Char}

theorem add_one (hs : s.IsString) {a : Nat} (h : a ≤ s.length) : Word.add a 1 = .ok (a + 1) := by
  apply Word.add_eq_ok
  simp only [IsString, Word.stringBound, Word.bound] at hs ⊢
  omega

theorem add_one_of_le_count (hs : s.IsString) (h : n ≤ s.chars.count '\n') :
    Word.add n 1 = .ok (n + 1) :=
  hs.add_one (Nat.le_trans h (count_le_byteLength ..))

theorem lineStart? (hs : s.IsString) (n : Nat) :
    Machine.lineStart? s n = .ok (s.lineStart? n) := by
  cases n with
  | zero => rfl
  | succ n =>
    rw [Machine.lineStart?, if_neg (Nat.succ_ne_zero n), Word.sub_eq_ok (Nat.succ_pos n), ok_bind,
      Nat.succ_sub_one, Source.lineStart?]
    cases hb : s.breaks[n]? with
    | none => rfl
    | some offset =>
      have hlt : offset < s.length := by
        simpa [length] using lt_of_mem_breaksFrom (List.mem_of_getElem? hb)
      simp only [hs.add_one (Nat.le_of_lt hlt)]
      rfl

theorem position? (hs : s.IsString) (offset : Nat) :
    Machine.position? s offset = .ok (s.position? offset) := by
  rw [Machine.position?, Source.position?]
  cases hline : s.lineIndex? offset with
  | none => rfl
  | some line =>
    simp only [hs.lineStart?, ok_bind, Option.bind_eq_bind, Option.bind_some]
    cases hstart : s.lineStart? line with
    | none => rfl
    | some start =>
      simp only [Option.bind_some]
      cases hslice : slice? s.chars start offset with
      | none => rfl
      | some before =>
        obtain ⟨above, after, hchars, -, -⟩ := slice?_eq_some_iff.mp hslice
        have hbefore : before.length ≤ s.length := by
          have := length_le_byteLength before
          rw [length, hchars, byteLength_append, byteLength_append]
          omega
        have hle : line ≤ s.chars.count '\n' := by
          apply Nat.le_of_not_lt
          intro hlt
          rw [lineStart?_eq_none hlt] at hstart
          cases hstart
        simp only [hs.add_one_of_le_count hle, hs.add_one hbefore, ok_bind, Option.bind_some]
        rfl

theorem line? (hs : s.IsString) (h : IsLine s.chars n above line after) :
    Machine.line? s n = .ok (s.line? n) := by
  rw [Machine.line?, hs.lineStart?, ok_bind, lineStart?_of_isLine h, line?_of_isLine h]
  simp only [hs.add_one_of_le_count h.le_count, hs.lineStart?, ok_bind]
  rcases h.after_eq_nil_or_cons with rfl | ⟨rest, rfl⟩
  · have hlast : ¬ line.getLast? = some '\n' := fun hlast => h.line (List.mem_of_getLast? hlast)
    have hnext : s.lineStart? (n + 1) = none := lineStart?_eq_none (by rw [h.count]; simp)
    have hlength : byteLength above + byteLength line = s.length := by
      rw [length, h.chars_eq, List.append_nil, byteLength_append]
    rw [hnext, Option.getD_none, Word.slice_eq_ok h.chars_eq rfl hlength, ok_bind,
      Machine.withoutNewline, if_neg hlast]
    rfl
  · have hchars : s.chars = above ++ ((line ++ ['\n']) ++ rest) := by
      rw [h.chars_eq, List.append_assoc, List.singleton_append]
    rw [lineStart?_of_isLine h.next, Option.getD_some,
      Word.slice_eq_ok hchars rfl (byteLength_append ..).symm, ok_bind, Machine.withoutNewline,
      if_pos (by simp), List.dropLast_concat]
    rfl

end Source.IsString

end SourceCheck
