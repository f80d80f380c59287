import Mathlib.Data.List.DropRight
import SourceCheck.Proofs.Source.Lines

/-! # Offsets and positions correspond

The offsets between the characters of a source and their rows and columns determine each other,
in the same order. The newlines of a source are found at strictly increasing offsets, so the
offsets below a place are the first so many of them, and a search of them finds its line.
-/

namespace SourceCheck

open Text

/-- Whether a position comes before another one: on a line above, or further left on its line. -/
def Position.Before (p q : Position) : Prop := p.row < q.row ∨ p.row = q.row ∧ p.col < q.col

/-- What a search of an increasing list may answer for a number: an index where the list holds it,
or, if it does not hold it, the index where it would go. -/
def FoundAt (l : List Nat) (b i : Nat) : Prop :=
  l[i]? = some b ∨ b ∉ l ∧ i ≤ l.length ∧ ∀ j x, l[j]? = some x → (j < i ↔ x < b)

section Position

theorem Position.Before.ne {p q : Position} (h : p.Before q) : p ≠ q := by
  rintro rfl
  rcases h with h | ⟨-, h⟩ <;> omega

theorem WholeLines.last {n : Nat} {cs : List Char} (h : WholeLines n cs) :
    ∀ c ∈ cs.getLast?, c = '\n' := by
  induction h with
  | nil => simp
  | @cons n line rest _ _ ih =>
    rw [List.getLast?_append, List.getLast?_cons]
    cases hr : rest.getLast? with
    | none => simp
    | some c => simpa [hr] using ih

theorem rtakeWhile_wholeLines {n : Nat} {above part : List Char} (ha : WholeLines n above)
    (hp : '\n' ∉ part) : (above ++ part).rtakeWhile (· ≠ '\n') = part := by
  have hall : ∀ c ∈ part.reverse, decide (c ≠ '\n') = true := by
    intro c hc
    simpa using fun heq : c = '\n' => hp (heq ▸ List.mem_reverse.mp hc)
  have hlast : above.reverse.takeWhile (· ≠ '\n') = [] := by
    cases hr : above.reverse with
    | nil => rfl
    | cons c rest =>
      have hc := ha.last c (by rw [← List.head?_reverse, hr]; rfl)
      simp [hc]
  rw [List.rtakeWhile, List.reverse_append, List.takeWhile_append_of_pos hall, hlast,
    List.append_nil, List.reverse_reverse]

theorem position_advance (cs : List Char) : (Place.start.advance cs).position =
    ⟨1 + cs.count '\n', 1 + (cs.rtakeWhile (· ≠ '\n')).length⟩ := by
  obtain ⟨n, above, part, rfl, ha, hp⟩ := exists_wholeLines cs
  rw [rtakeWhile_wholeLines ha hp, Place.advance_append, ha.advance rfl,
    Place.advance_of_notMem hp, List.count_append, ha.count, List.count_eq_zero_of_not_mem hp]
  rfl

theorem before_advance {cs rest : List Char} (h : rest ≠ []) :
    (Place.start.advance cs).position.Before (Place.start.advance (cs ++ rest)).position := by
  rw [Place.advance_append]
  by_cases hn : '\n' ∈ rest
  · left
    have hcount := List.count_pos_iff.mpr hn
    simp only [Place.position, Place.row_advance]
    omega
  · right
    have hlength := List.length_pos_iff.mpr h
    rw [Place.advance_of_notMem hn]
    simp only [Place.position, true_and]
    omega

end Position

section Search

variable {l : List Nat} {b i : Nat}

theorem lt_countP_iff (h : l.Pairwise (· < ·)) {x : Nat} (hx : l[i]? = some x) :
    i < l.countP (· < b) ↔ x < b := by
  induction l generalizing i with
  | nil => simp at hx
  | cons a l ih =>
    obtain ⟨ha, hl⟩ := List.pairwise_cons.mp h
    by_cases hab : a < b
    · cases i with
      | zero => simp_all
      | succ i => simpa [hab] using ih hl hx
    · have hnone : l.countP (· < b) = 0 := by
        rw [List.countP_eq_zero]
        intro y hy
        have := ha y hy
        simp
        omega
      have hax : a ≤ x := by
        rcases List.mem_cons.mp (List.mem_of_getElem? hx) with rfl | hmem
        · exact Nat.le_refl _
        · exact Nat.le_of_lt (ha x hmem)
      simp [hab, hnone]
      omega

theorem eq_countP_of_lt_iff (h : l.Pairwise (· < ·)) (hi : i ≤ l.length)
    (hb : ∀ j x, l[j]? = some x → (j < i ↔ x < b)) : i = l.countP (· < b) := by
  have hle : l.countP (· < b) ≤ l.length := List.countP_le_length
  rcases Nat.lt_trichotomy i (l.countP (· < b)) with hlt | heq | hgt
  · have hx := List.getElem?_eq_getElem (l := l) (i := i) (by omega)
    have := (hb i _ hx).mpr ((lt_countP_iff h hx).mp hlt)
    omega
  · exact heq
  · have hx := List.getElem?_eq_getElem (l := l) (i := l.countP (· < b)) (by omega)
    have := (lt_countP_iff h hx).mpr ((hb _ _ hx).mp hgt)
    omega

theorem FoundAt.eq_countP (h : l.Pairwise (· < ·)) (hi : FoundAt l b i) :
    i = l.countP (· < b) := by
  rcases hi with hi | ⟨-, hi, hb⟩
  · obtain ⟨hlength, rfl⟩ := List.getElem?_eq_some_iff.mp hi
    apply eq_countP_of_lt_iff h (Nat.le_of_lt hlength)
    intro j x hx
    obtain ⟨hj, rfl⟩ := List.getElem?_eq_some_iff.mp hx
    rw [List.pairwise_iff_getElem] at h
    rcases Nat.lt_trichotomy j i with hlt | rfl | hgt
    · exact iff_of_true hlt (h j i hj hlength hlt)
    · simp
    · have := h i j hlength hj hgt
      omega
  · exact eq_countP_of_lt_iff h hi hb

end Search

namespace Source

theorem breaksFrom_increasing (offset : Nat) (cs : List Char) :
    (breaksFrom offset cs).Pairwise (· < ·) := by
  induction cs generalizing offset with
  | nil => exact .nil
  | cons c cs ih =>
    rw [breaksFrom]
    split
    · refine List.pairwise_cons.mpr ⟨?_, ih _⟩
      intro b hb
      have := le_of_mem_breaksFrom hb
      have := c.utf8Size_pos
      omega
    · exact ih _

variable {s : Source} {offset l : Nat}

theorem breaks_increasing : s.breaks.Pairwise (· < ·) := breaksFrom_increasing 0 s.chars

/-- Whether an offset lies on a line: not before the start of it, and before the start of the next
line, if there is one. -/
def Holds (s : Source) (l offset : Nat) : Prop :=
  (∃ start, s.lineStart? l = some start ∧ start ≤ offset) ∧
    ∀ next, s.lineStart? (l + 1) = some next → offset < next

theorem lineStart?_le_iff : (∃ start, s.lineStart? l = some start ∧ start ≤ offset) ↔
    l ≤ s.breaks.countP (· < offset) := by
  have hle : s.breaks.countP (· < offset) ≤ s.breaks.length := List.countP_le_length
  cases l with
  | zero => simp [lineStart?]
  | succ m =>
    simp only [lineStart?, Option.map_eq_some_iff]
    constructor
    · rintro ⟨_, ⟨x, hx, rfl⟩, hlt⟩
      exact (lt_countP_iff breaks_increasing hx).mpr hlt
    · intro hlt
      have hx := List.getElem?_eq_getElem (l := s.breaks) (i := m) (by omega)
      exact ⟨_, ⟨_, hx, rfl⟩, (lt_countP_iff breaks_increasing hx).mp hlt⟩

theorem lt_lineStart?_iff : (∀ next, s.lineStart? (l + 1) = some next → offset < next) ↔
    s.breaks.countP (· < offset) ≤ l := by
  have hle : s.breaks.countP (· < offset) ≤ s.breaks.length := List.countP_le_length
  simp only [lineStart?, Option.map_eq_some_iff]
  constructor
  · intro h
    apply Nat.le_of_not_lt
    intro hlt
    have hx := List.getElem?_eq_getElem (l := s.breaks) (i := l) (by omega)
    have := (lt_countP_iff breaks_increasing hx).mp hlt
    have := h _ ⟨_, hx, rfl⟩
    omega
  · rintro h _ ⟨x, hx, rfl⟩
    have := mt (lt_countP_iff (b := offset) breaks_increasing hx).mpr (by omega)
    omega

theorem lineIndex?_eq_some_iff (h : offset ≤ s.length) :
    s.lineIndex? offset = some l ↔ s.Holds l offset := by
  rw [lineIndex?, if_neg (by omega), Option.some.injEq, Holds, lineStart?_le_iff,
    lt_lineStart?_iff]
  omega

theorem lineIndex?_of_foundAt (h : offset ≤ s.length) (hl : FoundAt s.breaks offset l) :
    s.lineIndex? offset = some l := by
  rw [lineIndex?, if_neg (by omega), hl.eq_countP breaks_increasing]

theorem before_of_lt {offset' : Nat} {p p' : Position} (h : s.position? offset = some p)
    (h' : s.position? offset' = some p') (hlt : offset < offset') : p.Before p' := by
  obtain ⟨before, after, hchars, rfl, rfl⟩ := position?_eq_some_iff.mp h
  obtain ⟨before', after', hchars', rfl, rfl⟩ := position?_eq_some_iff.mp h'
  have hp : before <+: s.chars := ⟨after, hchars.symm⟩
  have hp' : before' <+: s.chars := ⟨after', hchars'.symm⟩
  obtain ⟨rest, rfl⟩ := prefix_of_byteLength_le hp hp' (Nat.le_of_lt hlt)
  apply before_advance
  rintro rfl
  simp at hlt

theorem exists_offset_eq {p : Position} (h : s.position? offset = some p) :
    ∃ above below, s.chars = above ++ below ∧ s.lineStart? (p.row - 1) = some (byteLength above) ∧
      offset = byteLength above + byteLength (below.take (p.col - 1)) := by
  obtain ⟨before, after, hchars, rfl, rfl⟩ := position?_eq_some_iff.mp h
  obtain ⟨n, above, part, rfl, ha, hp⟩ := exists_wholeLines before
  rw [List.append_assoc] at hchars
  refine ⟨above, part ++ after, hchars, ?_, ?_⟩
  all_goals
    rw [Place.advance_append, ha.advance rfl, Place.advance_of_notMem hp]
    simp only [Place.position, Place.start, Nat.add_sub_cancel_left]
  · exact lineStart?_of_wholeLines hchars ha
  · rw [List.take_left, byteLength_append]

/-- Offsets and positions of a source in exact correspondence. -/
structure Correspondence (s : Source) : Prop where
  isSome_iff (offset : Nat) :
    (s.position? offset).isSome ↔ offset ≤ s.length ∧ IsBoundary s.chars offset
  position_eq (before after : List Char) (h : s.chars = before ++ after) :
    s.position? (byteLength before) =
      some ⟨1 + before.count '\n', 1 + (before.rtakeWhile (· ≠ '\n')).length⟩
  before_of_lt (offset offset' : Nat) (p p' : Position) (h : s.position? offset = some p)
    (h' : s.position? offset' = some p') : offset < offset' → p.Before p'
  injective (offset offset' : Nat) (p : Position) (h : s.position? offset = some p)
    (h' : s.position? offset' = some p) : offset = offset'
  /-- An offset is found again from its position. -/
  offset_eq (offset : Nat) (p : Position) (h : s.position? offset = some p) :
    ∃ above below, s.chars = above ++ below ∧ s.lineStart? (p.row - 1) = some (byteLength above) ∧
      offset = byteLength above + byteLength (below.take (p.col - 1))
  /-- Every offset up to the end, inside a character or not, lies on one line, its own. -/
  existsUnique_line (offset : Nat) (h : offset ≤ s.length) :
    ∃ l, s.lineIndex? offset = some l ∧ ∀ l', s.Holds l' offset ↔ l' = l
  search (offset l : Nat) (h : offset ≤ s.length) (hl : FoundAt s.breaks offset l) :
    s.lineIndex? offset = some l
  beyond (offset : Nat) (h : s.length < offset) :
    s.lineIndex? offset = none ∧ s.position? offset = none

theorem correspondence (s : Source) : s.Correspondence where
  isSome_iff offset := by
    rw [Option.isSome_iff_exists]
    constructor
    · rintro ⟨p, hp⟩
      obtain ⟨before, after, hchars, rfl, -⟩ := position?_eq_some_iff.mp hp
      have hb : IsBoundary s.chars (byteLength before) := ⟨before, after, hchars, rfl⟩
      exact ⟨hb.le, hb⟩
    · rintro ⟨-, before, after, hchars, rfl⟩
      exact ⟨_, position?_of_append hchars⟩
  position_eq before after h := by rw [position?_of_append h, position_advance]
  before_of_lt _ _ _ _ h h' := before_of_lt h h'
  injective offset offset' p h h' := by
    rcases Nat.lt_trichotomy offset offset' with hlt | heq | hgt
    · exact absurd rfl (before_of_lt h h' hlt).ne
    · exact heq
    · exact absurd rfl (before_of_lt h' h hgt).ne
  offset_eq _ _ := exists_offset_eq
  existsUnique_line offset h := by
    have hl : s.lineIndex? offset = some (s.breaks.countP (· < offset)) := by
      rw [lineIndex?, if_neg (by omega)]
    refine ⟨_, hl, fun l' => ?_⟩
    rw [← lineIndex?_eq_some_iff h, hl, Option.some.injEq, eq_comm]
  search _ _ := lineIndex?_of_foundAt
  beyond offset h := by
    have hl : s.lineIndex? offset = none := by rw [lineIndex?, if_pos h]
    simp [position?, hl]

end Source

end SourceCheck
