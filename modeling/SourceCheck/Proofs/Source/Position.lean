import SourceCheck.Source
import SourceCheck.Token.Lex

/-! # Rows and columns

Lexing counts rows and columns as it reads; a source finds them from its line breaks. Both agree
at every offset between two characters. The text before such an offset is some whole lines and
then a part of a line, and both are followed along the whole lines.
-/

namespace SourceCheck

open Text

/-- A text of so many lines, each with the newline that ends it. -/
inductive WholeLines : Nat → List Char → Prop
  | nil : WholeLines 0 []
  | cons {n : Nat} {line rest : List Char} : '\n' ∉ line → WholeLines n rest →
      WholeLines (n + 1) (line ++ '\n' :: rest)

theorem exists_wholeLines (cs : List Char) :
    ∃ n above line, cs = above ++ line ∧ WholeLines n above ∧ '\n' ∉ line := by
  induction cs with
  | nil => exact ⟨0, [], [], rfl, .nil, by simp⟩
  | cons c cs ih =>
    obtain ⟨n, above, line, rfl, ha, hl⟩ := ih
    by_cases hc : c = '\n'
    · subst hc
      have hcons : WholeLines (n + 1) ([] ++ '\n' :: above) := .cons (by simp) ha
      exact ⟨n + 1, _, line, rfl, hcons, hl⟩
    · cases ha with
      | nil => exact ⟨0, [], c :: line, rfl, .nil, by simpa using ⟨Ne.symm hc, hl⟩⟩
      | @cons n first rest hf hr =>
        have hcons : WholeLines (n + 1) ((c :: first) ++ '\n' :: rest) :=
          .cons (by simpa using ⟨Ne.symm hc, hf⟩) hr
        exact ⟨n + 1, _, line, by simp, hcons, hl⟩

section Place

theorem WholeLines.advance {n : Nat} {cs : List Char} (h : WholeLines n cs) {p : Place}
    (hp : p.col = 1) : p.advance cs = ⟨p.offset + byteLength cs, p.row + n, 1⟩ := by
  induction h generalizing p with
  | nil =>
    simp [← hp]
  | @cons n line rest hl _ ih =>
    rw [Place.advance_append, Place.advance_of_notMem hl, Place.advance_cons, ih rfl]
    simp [Place.next]
    omega

end Place

section Breaks

variable {n : Nat} {cs : List Char}

theorem breaksFrom_of_notMem (h : '\n' ∉ cs) (offset : Nat) (rest : List Char) :
    Source.breaksFrom offset (cs ++ rest) = Source.breaksFrom (offset + byteLength cs) rest := by
  induction cs generalizing offset with
  | nil => rfl
  | cons c cs ih =>
    simp only [List.mem_cons, not_or] at h
    rw [List.cons_append, Source.breaksFrom, if_neg (Ne.symm h.1), ih h.2, byteLength_cons,
      Nat.add_assoc]

theorem le_of_mem_breaksFrom {offset b : Nat} (h : b ∈ Source.breaksFrom offset cs) :
    offset ≤ b := by
  induction cs generalizing offset with
  | nil => cases h
  | cons c cs ih =>
    rw [Source.breaksFrom] at h
    split at h
    · rcases List.mem_cons.mp h with rfl | h
      · exact Nat.le_refl _
      · exact Nat.le_trans (Nat.le_add_right ..) (ih h)
    · exact Nat.le_trans (Nat.le_add_right ..) (ih h)

theorem lt_of_mem_breaksFrom {offset b : Nat} (h : b ∈ Source.breaksFrom offset cs) :
    b < offset + byteLength cs := by
  induction cs generalizing offset with
  | nil => cases h
  | cons c cs ih =>
    have hpos := c.utf8Size_pos
    rw [Source.breaksFrom] at h
    rw [byteLength_cons]
    split at h
    · rcases List.mem_cons.mp h with rfl | h
      · omega
      · have := ih h
        omega
    · have := ih h
      omega

/-- Whole lines hold one break each. The line after them starts behind the last. -/
theorem WholeLines.breaksFrom (h : WholeLines n cs) (offset : Nat) (rest : List Char) :
    ∃ bs, Source.breaksFrom offset (cs ++ rest) =
        bs ++ Source.breaksFrom (offset + byteLength cs) rest ∧
      bs.length = n ∧ (∀ b ∈ bs, b < offset + byteLength cs) ∧
      ∀ m, n = m + 1 → bs[m]?.map (· + 1) = some (offset + byteLength cs) := by
  induction h generalizing offset with
  | nil => exact ⟨[], rfl, rfl, by simp, by simp⟩
  | @cons n line cs hl hw ih =>
    obtain ⟨bs, hbs, hlen, hlt, hlast⟩ := ih (offset + byteLength line + 1)
    have hlength : offset + byteLength (line ++ '\n' :: cs) =
        offset + byteLength line + 1 + byteLength cs := by
      rw [byteLength_append, byteLength_cons]
      change offset + (byteLength line + (1 + byteLength cs)) = _
      omega
    refine ⟨(offset + byteLength line) :: bs, ?_, by simp [hlen], ?_, ?_⟩
    · rw [List.append_assoc, breaksFrom_of_notMem hl, List.cons_append, Source.breaksFrom,
        if_pos rfl, hlength]
      exact congrArg _ hbs
    · rw [hlength]
      intro b hb
      rcases List.mem_cons.mp hb with rfl | hb
      · omega
      · exact hlt b hb
    · rw [hlength]
      intro m hm
      obtain rfl : n = m := Nat.succ.inj hm
      cases hw with
      | nil => rfl
      | cons => exact hlast _ rfl

end Breaks

namespace Source

variable {s : Source} {n : Nat} {above line after : List Char}

theorem lineIndex?_of_wholeLines (h : s.chars = above ++ (line ++ after)) (ha : WholeLines n above)
    (hl : '\n' ∉ line) : s.lineIndex? (byteLength above + byteLength line) = some n := by
  obtain ⟨bs, hbs, hlen, hlt, -⟩ := ha.breaksFrom 0 (line ++ after)
  have hle : ¬ s.length < byteLength above + byteLength line := by
    simp only [length, h, byteLength_append]
    omega
  have hbelow : bs.countP (· < byteLength above + byteLength line) = bs.length := by
    rw [List.countP_eq_length]
    intro b hb
    have := hlt b hb
    simp
    omega
  have habove : (breaksFrom (byteLength above + byteLength line) after).countP
      (· < byteLength above + byteLength line) = 0 := by
    rw [List.countP_eq_zero]
    intro b hb
    have := le_of_mem_breaksFrom hb
    simp
    omega
  rw [lineIndex?, if_neg hle, breaks, h, hbs, breaksFrom_of_notMem hl, List.countP_append,
    Nat.zero_add, hbelow, habove, hlen]
  rfl

theorem lineStart?_of_wholeLines (h : s.chars = above ++ after) (ha : WholeLines n above) :
    s.lineStart? n = some (byteLength above) := by
  obtain ⟨bs, hbs, hlen, -, hlast⟩ := ha.breaksFrom 0 after
  cases n with
  | zero => cases ha; rfl
  | succ m =>
    rw [lineStart?, breaks, h, hbs, List.getElem?_append_left (by omega)]
    simpa using hlast m rfl

/-- Lexing and the line breaks agree on the row and column of an offset. -/
theorem position?_of_append {before : List Char} (h : s.chars = before ++ after) :
    s.position? (byteLength before) = some (Place.start.advance before).position := by
  obtain ⟨n, above, line, rfl, ha, hl⟩ := exists_wholeLines before
  rw [List.append_assoc] at h
  rw [byteLength_append, Place.advance_append, ha.advance rfl, Place.advance_of_notMem hl]
  simp [position?, lineIndex?_of_wholeLines h ha hl, lineStart?_of_wholeLines h ha, h,
    slice?_append, Place.position, Place.start]
  omega

theorem position?_eq_some_iff {offset : Nat} {position : Position} :
    s.position? offset = some position ↔ ∃ before after, s.chars = before ++ after ∧
      byteLength before = offset ∧ (Place.start.advance before).position = position := by
  constructor
  · intro h
    have hread := h
    simp only [position?, Option.bind_eq_bind, Option.bind_eq_some_iff] at hread
    obtain ⟨line, -, start, -, inside, hslice, -⟩ := hread
    obtain ⟨above, after, hchars, rfl, rfl⟩ := slice?_eq_some_iff.mp hslice
    rw [← List.append_assoc] at hchars
    rw [← byteLength_append, position?_of_append hchars, Option.some.injEq] at h
    exact ⟨_, _, hchars, byteLength_append .., h⟩
  · rintro ⟨before, after, hchars, rfl, rfl⟩
    exact position?_of_append hchars

end Source

end SourceCheck
