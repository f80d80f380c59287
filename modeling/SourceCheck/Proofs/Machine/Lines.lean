import Mathlib.Data.List.Basic
import SourceCheck.Proofs.Machine.Source

/-! # Lines split a text

The lines of a source are its text split at the newlines, each without one carriage return at its
end. A line is found where it starts, and what was taken off the lines joins them to the text
again.
-/

namespace SourceCheck

open Text

section Split

theorem pieces_eq_splitOn (cs : List Char) : pieces cs = cs.splitOn '\n' := by
  induction cs with
  | nil => rfl
  | cons c cs ih =>
    rw [List.splitOn_cons_eq_if_modifyHead, ← ih, pieces]
    by_cases hc : c = '\n'
    · rw [if_pos hc, if_pos (beq_iff_eq.mpr hc)]
    · obtain ⟨piece, rest, hp⟩ := List.exists_cons_of_ne_nil (pieces_ne_nil cs)
      rw [if_neg hc, if_neg (mt beq_iff_eq.mp hc), hp]
      rfl

/-- What is not seen of a piece: a carriage return at its end. -/
def hidden (piece : List Char) : List Char := if piece.getLast? = some '\r' then ['\r'] else []

theorem visible_append_hidden (piece : List Char) : visible piece ++ hidden piece = piece := by
  unfold visible hidden
  split
  next h => exact List.dropLast_append_getLast? _ h
  next => exact List.append_nil piece

theorem hidden_eq_nil_or (piece : List Char) : hidden piece = [] ∨ hidden piece = ['\r'] := by
  unfold hidden
  split
  · exact .inr rfl
  · exact .inl rfl

end Split

namespace Source

variable {s : Source} {n : Nat} {line : List Char}

theorem line?_eq (n : Nat) : s.line? n = (s.chars.splitOn '\n')[n]?.map visible := by
  rw [line?, lines, List.getElem?_map, pieces_eq_splitOn]

theorem slice?_of_line? (h : s.line? n = some line) : ∃ start, s.lineStart? n = some start ∧
    slice? s.chars start (start + byteLength line) = some line := by
  obtain ⟨above, piece, after, hpiece, rfl⟩ := exists_isLine_of_line? h
  obtain ⟨more, hmore⟩ := prefix_visible piece
  refine ⟨byteLength above, lineStart?_of_isLine hpiece, ?_⟩
  have hchars : s.chars = above ++ (visible piece ++ (more ++ after)) := by
    rw [hpiece.chars_eq, ← List.append_assoc (visible piece), hmore]
  rw [hchars, slice?_append]

theorem exists_rows (s : Source) : ∃ rows : List (List Char × List Char),
    (∀ n, s.line? n = rows[n]?.map Prod.fst) ∧ (∀ row ∈ rows, row.2 = [] ∨ row.2 = ['\r']) ∧
      ['\n'].intercalate (rows.map fun row => row.1 ++ row.2) = s.chars := by
  refine ⟨(s.chars.splitOn '\n').map fun piece => (visible piece, hidden piece), ?_, ?_, ?_⟩
  · intro n
    rw [line?_eq, List.getElem?_map, Option.map_map]
    rfl
  · intro row hrow
    obtain ⟨piece, -, rfl⟩ := List.mem_map.mp hrow
    exact hidden_eq_nil_or piece
  · simp only [List.map_map, Function.comp_def, visible_append_hidden, List.map_id']
    exact List.intercalate_splitOn '\n'

/-- The lines of a source as a split of its text. Counting in words finds the same. -/
structure IsSplit (s : Source) : Prop where
  lineStart_eq (n : Nat) : Machine.lineStart? s n = .ok (s.lineStart? n)
  line_eq (n : Nat) : Machine.line? s n = .ok (s.line? n)
  isSome_lineStart_iff (n : Nat) : (s.lineStart? n).isSome ↔ n ≤ s.chars.count '\n'
  isSome_line_iff (n : Nat) : (s.line? n).isSome ↔ n ≤ s.chars.count '\n'
  /-- No string has a line of so high a number, and looking for one is no fault. -/
  beyond (n : Nat) (h : Word.stringBound ≤ n) :
    Machine.lineStart? s n = .ok none ∧ Machine.line? s n = .ok none
  /-- A line is a piece of the text without one carriage return at its end. -/
  piece (n : Nat) : s.line? n = (s.chars.splitOn '\n')[n]?.map visible
  newline_notMem (n : Nat) (line : List Char) (h : s.line? n = some line) : '\n' ∉ line
  slice (n : Nat) (line : List Char) (h : s.line? n = some line) :
    ∃ start, s.lineStart? n = some start ∧
      slice? s.chars start (start + byteLength line) = some line
  /-- With the carriage returns put back, the lines are joined to the text. -/
  joined : ∃ rows : List (List Char × List Char),
    (∀ n, s.line? n = rows[n]?.map Prod.fst) ∧ (∀ row ∈ rows, row.2 = [] ∨ row.2 = ['\r']) ∧
      ['\n'].intercalate (rows.map fun row => row.1 ++ row.2) = s.chars

namespace IsString

theorem line?_eq (hs : s.IsString) (n : Nat) : Machine.line? s n = .ok (s.line? n) := by
  by_cases hn : n ≤ s.chars.count '\n'
  · obtain ⟨above, line, after, hline⟩ := exists_isLine hn
    exact hs.line? hline
  · have hlt : s.chars.count '\n' < n := Nat.lt_of_not_le hn
    rw [Machine.line?, hs.lineStart?, Word.ok_bind, lineStart?_eq_none hlt, line?_eq_none hlt]
    rfl

/-- The lines of a source are a faithful split of its text. -/
theorem isSplit (hs : s.IsString) : s.IsSplit where
  lineStart_eq := hs.lineStart?
  line_eq := hs.line?_eq
  isSome_lineStart_iff _ := isSome_lineStart?_iff
  isSome_line_iff _ := isSome_line?_iff
  beyond n hn := by
    have hcount : s.chars.count '\n' < n :=
      Nat.lt_of_le_of_lt (count_le_byteLength ..) (Nat.lt_of_lt_of_le hs hn)
    rw [hs.lineStart?, hs.line?_eq, lineStart?_eq_none hcount, line?_eq_none hcount]
    exact ⟨rfl, rfl⟩
  piece := Source.line?_eq
  newline_notMem _ _ h := newline_notMem_of_mem_lines (List.mem_of_getElem? h)
  slice _ _ := slice?_of_line?
  joined := exists_rows s

theorem isSplit_carriageReturns :
    let s : Source := ⟨"sample", "a\r\n\r\r\n\nb\r"⟩
    s.IsString ∧ s.IsSplit ∧ s.lines = [['a'], ['\r'], [], ['b']] := by
  intro s
  have hs : s.IsString := by
    rw [IsString]
    decide +kernel
  exact ⟨hs, hs.isSplit, by decide +kernel⟩

end IsString

end Source

end SourceCheck
