import SourceCheck.Text.Bytes

/-! # Offsets between characters

An offset up to the end of a text falls between two characters or inside one of them. A text can
be cut at the first kind only.
-/

namespace SourceCheck.Text

variable {t u v : List Char} {n : Nat}

theorem byteLength_mono (h : u <+: v) : byteLength u ≤ byteLength v := by
  obtain ⟨rest, rfl⟩ := h
  rw [byteLength_append]
  exact Nat.le_add_right ..

theorem length_le_byteLength (cs : List Char) : cs.length ≤ byteLength cs := by
  induction cs with
  | nil => exact Nat.le_refl 0
  | cons c cs ih =>
    have := c.utf8Size_pos
    rw [List.length_cons, byteLength_cons]
    omega

theorem count_le_byteLength (c : Char) (cs : List Char) : cs.count c ≤ byteLength cs :=
  Nat.le_trans List.count_le_length (length_le_byteLength cs)

theorem eq_nil_of_byteLength_eq_zero (h : byteLength t = 0) : t = [] := by
  cases t with
  | nil => rfl
  | cons c t =>
    have := c.utf8Size_pos
    rw [byteLength_cons] at h
    omega

theorem prefix_of_byteLength_le (hu : u <+: t) (hv : v <+: t) (h : byteLength u ≤ byteLength v) :
    u <+: v := by
  rcases List.prefix_or_prefix_of_prefix hu hv with huv | ⟨rest, rfl⟩
  · exact huv
  · rw [byteLength_append] at h
    simp [eq_nil_of_byteLength_eq_zero (show byteLength rest = 0 by omega)]

/-- Whether an offset falls between two characters of a text, or at an end of it. -/
def IsBoundary (cs : List Char) (offset : Nat) : Prop :=
  ∃ before after, cs = before ++ after ∧ byteLength before = offset

theorem IsBoundary.le (h : IsBoundary t n) : n ≤ byteLength t := by
  obtain ⟨before, after, rfl, rfl⟩ := h
  exact byteLength_mono (List.prefix_append ..)

theorem isBoundary_length (cs : List Char) : IsBoundary cs (byteLength cs) :=
  ⟨cs, [], by simp, rfl⟩

theorem isBoundary_iff_splitAt? {cs : List Char} {offset : Nat} :
    IsBoundary cs offset ↔ (splitAt? cs offset).isSome = true := by
  rw [Option.isSome_iff_exists]
  constructor
  · rintro ⟨before, after, h⟩
    exact ⟨(before, after), splitAt?_eq_some_iff.mpr h⟩
  · rintro ⟨⟨before, after⟩, h⟩
    exact ⟨before, after, splitAt?_eq_some_iff.mp h⟩

instance (cs : List Char) (offset : Nat) : Decidable (IsBoundary cs offset) :=
  decidable_of_iff _ isBoundary_iff_splitAt?.symm

/-- Whether an offset falls strictly inside a character of a text. -/
def IsInside (cs : List Char) (offset : Nat) : Prop :=
  ∃ before c after, cs = before ++ c :: after ∧ byteLength before < offset ∧
    offset < byteLength before + c.utf8Size

theorem IsInside.lt (h : IsInside t n) : n < byteLength t := by
  obtain ⟨before, c, after, rfl, -, hhi⟩ := h
  rw [byteLength_append, byteLength_cons]
  omega

theorem IsBoundary.of_cons {c : Char} (h : IsBoundary t n) :
    IsBoundary (c :: t) (c.utf8Size + n) := by
  obtain ⟨before, after, rfl, rfl⟩ := h
  exact ⟨c :: before, after, rfl, rfl⟩

theorem IsInside.of_cons {c : Char} (h : IsInside t n) : IsInside (c :: t) (c.utf8Size + n) := by
  obtain ⟨before, d, after, rfl, hlo, hhi⟩ := h
  refine ⟨c :: before, d, after, rfl, ?_, ?_⟩
  all_goals
    rw [byteLength_cons]
    omega

theorem isBoundary_or_isInside (h : n ≤ byteLength t) : IsBoundary t n ∨ IsInside t n := by
  induction t generalizing n with
  | nil => exact .inl ⟨[], [], rfl, (Nat.le_zero.mp h).symm⟩
  | cons c t ih =>
    rw [byteLength_cons] at h
    rcases Nat.lt_or_ge n c.utf8Size with hlt | hge
    · rcases Nat.eq_zero_or_pos n with rfl | hpos
      · exact .inl ⟨[], c :: t, rfl, rfl⟩
      · exact .inr ⟨[], c, t, rfl, hpos, by simpa using hlt⟩
    · obtain ⟨m, rfl⟩ := Nat.exists_eq_add_of_le hge
      exact (ih (by omega)).imp IsBoundary.of_cons IsInside.of_cons

theorem IsInside.not_isBoundary (h : IsInside t n) : ¬ IsBoundary t n := by
  obtain ⟨before, c, after, rfl, hlo, hhi⟩ := h
  rintro ⟨upTo, rest, heq, rfl⟩
  have hb : before <+: before ++ c :: after := List.prefix_append ..
  have hu : upTo <+: before ++ c :: after := ⟨rest, heq.symm⟩
  obtain ⟨more, rfl⟩ := prefix_of_byteLength_le hb hu (Nat.le_of_lt hlo)
  cases more with
  | nil => simp at hlo
  | cons d more =>
    rw [List.append_assoc, List.append_cancel_left_eq, List.cons_append] at heq
    rw [(List.cons.inj heq).1, byteLength_append, byteLength_cons] at hhi
    omega

theorem IsBoundary.cut (hu : u <+: t) (h : IsBoundary t n) :
    IsBoundary u (min n (byteLength u)) := by
  obtain ⟨before, after, rfl, rfl⟩ := h
  have hb : before <+: before ++ after := List.prefix_append ..
  rcases Nat.le_total (byteLength before) (byteLength u) with hle | hge
  · obtain ⟨rest, rfl⟩ := prefix_of_byteLength_le hb hu hle
    exact ⟨before, rest, rfl, by omega⟩
  · rw [Nat.min_eq_right hge]
    exact isBoundary_length u

end SourceCheck.Text
