import SourceCheck.Text.Bytes
import SourceCheck.Text.Width

/-! # Columns and bytes

A text takes no more columns than bytes, and no character takes back a column that was not counted
before. Both are potentials of the measure: what stands ahead may owe a column to the characters
before it, and a selector promises one to them.
-/

namespace SourceCheck.Text

/-- The columns of a text, and what stands where it starts. -/
def measure (cs : List Char) : Int × Ahead :=
  cs.foldr (fun c (total, ahead) =>
    let (columns, ahead) := widthBefore c ahead
    (total + columns, ahead)) ((0 : Int), Ahead.plain)

theorem displayWidth_eq (cs : List Char) : displayWidth cs = (measure cs).1.toNat := rfl

theorem measure_cons (c : Char) (cs : List Char) :
    measure (c :: cs) = ((measure cs).1 + (widthBefore c (measure cs).2).1,
      (widthBefore c (measure cs).2).2) := rfl

section Size

variable {c : Char}

theorem two_le_utf8Size (h : 0x80 ≤ c.toNat) : 2 ≤ c.utf8Size := by
  have hv : ¬ c.utf8Size = 1 := by
    rw [Char.utf8Size_eq_one_iff, UInt32.le_iff_toNat_le]
    exact Nat.not_le_of_lt h
  have := c.utf8Size_pos
  omega

theorem utf8Size_eq_four (h : 0x10000 ≤ c.toNat) : c.utf8Size = 4 := by
  rw [Char.utf8Size_eq_four_iff, UInt32.lt_iff_toNat_lt]
  exact h

theorem two_le_utf8Size_of_contains {s : CharSet} (hs : ∀ r ∈ s.ranges, 0x80 ≤ r.1)
    (h : s.contains c = true) : 2 ≤ c.utf8Size := by
  obtain ⟨r, hr, hle, -⟩ := CharSet.exists_range_of_inRanges h
  exact two_le_utf8Size (Nat.le_trans (hs r hr) hle)

theorem charWidth_le (c : Char) : charWidth c ≤ c.utf8Size := by
  have hpos := c.utf8Size_pos
  unfold charWidth
  split
  next => omega
  next =>
    split
    next n hn =>
      unfold exceptionalWidth? at hn
      split at hn
      next hc => cases hn; subst hc; decide
      next =>
        split at hn
        next hc => cases hn; subst hc; decide
        next =>
          split at hn
          next hc => cases hn; subst hc; decide
          next => cases hn
    next =>
      split
      next => omega
      next =>
        split
        next hw => exact two_le_utf8Size_of_contains (by decide +kernel) hw
        next => omega

end Size

/-- The columns that the characters before can still take back. -/
def Tail.owed : Tail → Int
  | .ligature .subscript | .ligature .tifinaghJoiner | .sequence (.joinedIndicators false) => 1
  | _ => 0

/-- The columns that the character before is drawn wider than its bytes. -/
def Ahead.promised (ahead : Ahead) : Int := if ahead.form = some .emoji then 1 else 0

/-- What a character adds is not more than its bytes and what was promised to it, and what it
leaves to be taken back is there. -/
structure Balanced (c : Char) (before : Tail) (promised : Int) (added : Int × Ahead) : Prop where
  owed_le : added.2.tail.owed ≤ before.owed + added.1
  le_size : added.1 + added.2.promised ≤ c.utf8Size + promised

section Balanced

variable {c : Char} {t : Tail}

theorem Tail.owed_nonneg (t : Tail) : 0 ≤ t.owed := by
  unfold owed
  split <;> decide

theorem Ahead.promised_nonneg (ahead : Ahead) : 0 ≤ ahead.promised := by
  unfold promised
  split <;> decide

theorem Ahead.promised_le (ahead : Ahead) : ahead.promised ≤ 1 := by
  unfold promised
  split <;> decide

theorem Tail.owed_ligatureOnly_le (t : Tail) : t.ligatureOnly.owed ≤ t.owed := by
  cases t with
  | ligature l => exact Int.le_refl _
  | _ => exact Tail.owed_nonneg _

theorem Tail.owed_behind_le (t : Tail) (form : Form) : (t.behind form).owed ≤ t.owed := by
  cases form with
  | emoji =>
    by_cases hj : t.isJoined = true
    · simp [behind, hj]
    · simpa [behind, hj] using t.owed_ligatureOnly_le
  | text => exact t.owed_ligatureOnly_le

theorem Ligature.owed_join (l : Ligature) :
    (Tail.ligature l.join).owed = (Tail.ligature l).owed := by
  cases l <;> rfl

theorem Ligature.owed_of_pass? {l l' : Ligature} (h : l.pass? c = some l') :
    (Tail.ligature l').owed = (Tail.ligature l).owed := by
  unfold pass? at h
  split at h
  next => split at h <;> simp_all
  next =>
    split at h
    next => rw [← Option.some.inj h, owed_join]
    next => split at h <;> simp_all

/-- A letter takes a column back only from a glyph that is counted. -/
theorem Ligature.of_extend? {l : Ligature} {columns : Int} {rest : Option Ligature}
    (h : l.extend? c = some (columns, rest)) :
    (rest.elim .plain Tail.ligature).owed ≤ (Tail.ligature l).owed + columns ∧ columns ≤ 1 := by
  fun_cases extend? c l
  all_goals simp only [extend?, *, if_true, if_false, reduceCtorEq] at h
  all_goals
    cases h
    simp [Tail.owed]

theorem Ligature.of_before? {l : Ligature} {columns : Int} {rest : Option Ligature}
    (h : l.before? c = some (columns, rest)) :
    (rest.elim .plain Tail.ligature).owed ≤ (Tail.ligature l).owed + columns ∧ columns ≤ 1 := by
  unfold before? at h
  split at h
  next l' hl =>
    cases h
    exact ⟨by simpa using Int.le_of_eq (owed_of_pass? hl), by decide⟩
  next => exact of_extend? h

theorem EmojiSequence.of_beforeJoined? {columns : Int} {rest : EmojiSequence}
    (h : beforeJoined? c = some (columns, rest)) :
    (Tail.sequence rest).owed ≤ columns ∧ columns ≤ 1 := by
  fun_cases beforeJoined? c
  all_goals simp only [beforeJoined?, *, if_true, if_false, reduceCtorEq] at h
  all_goals
    cases h
    simp [Tail.owed]

theorem EmojiSequence.owed_of_tag? {s rest : EmojiSequence} (h : s.tag? c = some rest) :
    (Tail.sequence rest).owed = 0 := by
  fun_cases tag? c s
  all_goals simp only [tag?, *, if_true, if_false, reduceCtorEq] at h
  all_goals
    cases h
    rfl

/-- A pair of indicators takes a column back only from one that is counted, and adds three only
for its four bytes. -/
theorem EmojiSequence.of_before? {s : EmojiSequence} {columns : Int} {rest : EmojiSequence}
    (h : s.before? c = some (columns, rest)) :
    (Tail.sequence rest).owed ≤ (Tail.sequence s).owed + columns ∧ columns ≤ c.utf8Size := by
  have hpos := c.utf8Size_pos
  have howed := Tail.owed_nonneg (.sequence s)
  have hjoined : (Tail.sequence joined).owed = 0 := rfl
  have hemoji : (Tail.sequence emoji).owed = 0 := rfl
  fun_cases before? c s
  all_goals simp only [before?, *, if_true, if_false, reduceCtorEq] at h
  case case1 | case2 | case3 =>
    cases h
    omega
  case case5 =>
    cases h
    exact ⟨by simp [Tail.owed], by omega⟩
  case case7 =>
    obtain ⟨hrest, hcolumns⟩ := of_beforeJoined? h
    omega
  case case8 even hc _ _ =>
    have hsize : c.utf8Size = 4 := by
      simp only [isRegionalIndicator, Bool.and_eq_true, decide_eq_true_eq] at hc
      exact utf8Size_eq_four (by omega)
    cases h
    cases even
    · exact ⟨by decide, by simp [hsize]⟩
    · exact ⟨by decide, by simp [hsize]⟩
  case case10 | case11 =>
    obtain ⟨rest', hrest, heq⟩ := Option.map_eq_some_iff.mp h
    cases heq
    have := owed_of_tag? hrest
    omega

theorem EmojiSequence.of_ofLast? {columns : Nat} {s : EmojiSequence}
    (h : ofLast? c = some (columns, s)) :
    (Tail.sequence s).owed = 0 ∧ columns ≤ c.utf8Size := by
  have hpos := c.utf8Size_pos
  fun_cases ofLast? c
  all_goals simp only [ofLast?, *, if_true, if_false, reduceCtorEq] at h
  case case1 =>
    cases h
    exact ⟨rfl, hpos⟩
  case case2 _ hc =>
    simp only [isSkinTone, Bool.and_eq_true, decide_eq_true_eq] at hc
    cases h
    exact ⟨rfl, two_le_utf8Size (by omega)⟩
  case case3 _ _ hc =>
    simp only [isEmoji, Bool.and_eq_true] at hc
    cases h
    exact ⟨rfl, two_le_utf8Size_of_contains (by decide +kernel) hc.1.1⟩

theorem Ligature.owed_le (l : Ligature) : (Tail.ligature l).owed ≤ 1 := by
  cases l <;> decide +revert

theorem Balanced.ofTail {t' : Tail} {columns promised : Int} (ho : t'.owed ≤ t.owed + columns)
    (hs : columns ≤ c.utf8Size + promised) : Balanced c t promised (columns, .ofTail t') where
  owed_le := ho
  le_size := by simpa [Ahead.ofTail, Ahead.promised] using hs

theorem Balanced.mono {t' : Tail} {promised promised' : Int} {added : Int × Ahead}
    (h : Balanced c t' promised' added) (ho : t'.owed ≤ t.owed) (hp : promised' ≤ promised) :
    Balanced c t promised added where
  owed_le := by have := h.owed_le; omega
  le_size := by have := h.le_size; omega

theorem balanced_widthAlone (c : Char) (t : Tail) : Balanced c t 0 (widthAlone c) := by
  have hpos := c.utf8Size_pos
  have howed := t.owed_nonneg
  unfold widthAlone
  split
  next l _ =>
    have hl := l.owed_le
    exact .ofTail (by omega) (by omega)
  next columns s _ hs =>
    obtain ⟨hrest, hcolumns⟩ := EmojiSequence.of_ofLast? hs
    exact .ofTail (by omega) (by omega)
  next =>
    have hwidth := charWidth_le c
    have hplain : Tail.plain.owed = 0 := rfl
    exact .ofTail (by omega) (by omega)

theorem balanced_widthBeforeTail (c : Char) (t : Tail) :
    Balanced c t 0 (widthBeforeTail c t) := by
  have hpos := c.utf8Size_pos
  have howed := t.owed_nonneg
  have hplain : Tail.plain.owed = 0 := rfl
  unfold widthBeforeTail
  split
  next => exact .ofTail (by omega) (by omega)
  next =>
    split
    next form _ =>
      have hb := t.owed_behind_le form
      have hp := Ahead.promised_le ⟨some form, t.behind form⟩
      constructor
      · simpa using hb
      · simp only [Int.zero_add, Int.add_zero]
        omega
    next =>
      split
      next => exact balanced_widthAlone c .plain
      next l =>
        split
        next columns rest h =>
          obtain ⟨hrest, hcolumns⟩ := Ligature.of_before? h
          exact .ofTail hrest (by omega)
        next => exact balanced_widthAlone c _
      next s =>
        split
        next columns rest h =>
          obtain ⟨hrest, hcolumns⟩ := EmojiSequence.of_before? h
          exact .ofTail hrest (by omega)
        next => exact balanced_widthAlone c _

theorem balanced_widthBefore (c : Char) (ahead : Ahead) :
    Balanced c ahead.tail ahead.promised (widthBefore c ahead) := by
  have hpos := c.utf8Size_pos
  have howed := ahead.tail.owed_nonneg
  have hpromised := ahead.promised_nonneg
  unfold widthBefore
  split
  next => exact (balanced_widthBeforeTail c ahead.tail).mono (Int.le_refl _) hpromised
  next hform =>
    split
    next =>
      have hone : ahead.promised = 1 := if_pos hform
      have hemoji : (Tail.sequence .emoji).owed = 0 := rfl
      split
      · exact .ofTail (by omega) (by omega)
      · exact .ofTail (by omega) (by omega)
    next =>
      exact (balanced_widthBeforeTail c _).mono ahead.tail.owed_ligatureOnly_le hpromised
  next =>
    split
    next =>
      have hplain : Tail.plain.owed = 0 := rfl
      exact .ofTail (by omega) (by omega)
    next => exact (balanced_widthBeforeTail c ahead.tail).mono (Int.le_refl _) hpromised

end Balanced

section Measure

theorem owed_le_measure (cs : List Char) : (measure cs).2.tail.owed ≤ (measure cs).1 := by
  induction cs with
  | nil => decide
  | cons c cs ih =>
    have hstep := (balanced_widthBefore c (measure cs).2).owed_le
    rw [measure_cons]
    simp only
    omega

theorem measure_nonneg (cs : List Char) : 0 ≤ (measure cs).1 :=
  Int.le_trans (Tail.owed_nonneg _) (owed_le_measure cs)

theorem measure_le (cs : List Char) :
    (measure cs).1 + (measure cs).2.promised ≤ byteLength cs := by
  induction cs with
  | nil => decide
  | cons c cs ih =>
    have hstep := (balanced_widthBefore c (measure cs).2).le_size
    rw [measure_cons, byteLength_cons]
    simp only
    omega

/-- A text takes no more columns than bytes. -/
theorem displayWidth_le (cs : List Char) : displayWidth cs ≤ byteLength cs := by
  have hle := measure_le cs
  have hpromised := (measure cs).2.promised_nonneg
  rw [displayWidth_eq]
  omega

end Measure

section Count

/-- What a drawing relies on in a count of columns. -/
structure IsColumnCount (width : List Char → Nat) : Prop where
  blank : ∀ before after, width (before ++ ' ' :: after) = width before + 1 + width after
  tab : ∀ before after, width (before ++ '\t' :: after) = width before + 1 + width after
  le_byteLength : ∀ cs, width cs ≤ byteLength cs

theorem IsColumnCount.nil {width : List Char → Nat} (h : IsColumnCount width) : width [] = 0 :=
  Nat.le_zero.mp (h.le_byteLength [])

theorem widthBefore_blank {c : Char} (h : c = ' ' ∨ c = '\t') (ahead : Ahead) :
    widthBefore c ahead = (1, .plain) := by
  obtain ⟨form, tail⟩ := ahead
  have hnarrow : c.toNat ≤ 0xA0 := by rcases h with rfl | rfl <;> decide
  have hemoji : hasEmojiForm c = false := by rcases h with rfl | rfl <;> decide
  have htext : hasTextForm c = false := by rcases h with rfl | rfl <;> decide
  cases form with
  | none => simp [widthBefore, widthBeforeTail, hnarrow]
  | some form => cases form <;> simp [widthBefore, widthBeforeTail, hnarrow, hemoji, htext]

theorem measure_append_blank {c : Char} (h : c = ' ' ∨ c = '\t') (before after : List Char) :
    measure (before ++ c :: after) =
      ((measure before).1 + 1 + (measure after).1, (measure before).2) := by
  induction before with
  | nil =>
    rw [List.nil_append, measure_cons, widthBefore_blank h, Int.add_comm]
    rfl
  | cons d before ih =>
    rw [List.cons_append, measure_cons, measure_cons, ih]
    simp only [Prod.mk.injEq, and_true]
    omega

theorem displayWidth_append_blank {c : Char} (h : c = ' ' ∨ c = '\t') (before after : List Char) :
    displayWidth (before ++ c :: after) = displayWidth before + 1 + displayWidth after := by
  have hbefore := measure_nonneg before
  have hafter := measure_nonneg after
  simp only [displayWidth_eq, measure_append_blank h]
  omega

theorem displayWidth_isColumnCount : IsColumnCount displayWidth where
  blank := displayWidth_append_blank (.inl rfl)
  tab := displayWidth_append_blank (.inr rfl)
  le_byteLength := displayWidth_le

end Count

end SourceCheck.Text
