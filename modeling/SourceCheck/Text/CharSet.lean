/-! # Character sets

A set of characters as its ranges of code points in increasing order. Membership stops at
the first range that starts beyond the character.
-/

namespace SourceCheck.Text

/-- A set of characters: inclusive ranges of code points, in increasing order. -/
structure CharSet where
  ranges : List (Nat × Nat)

namespace CharSet

def inRanges (n : Nat) : List (Nat × Nat) → Bool
  | [] => false
  | (lo, hi) :: rest => if n < lo then false else n ≤ hi || inRanges n rest

def contains (s : CharSet) (c : Char) : Bool :=
  inRanges c.toNat s.ranges

theorem exists_range_of_inRanges {n : Nat} {rs : List (Nat × Nat)} (h : inRanges n rs = true) :
    ∃ r ∈ rs, r.1 ≤ n ∧ n ≤ r.2 := by
  induction rs with
  | nil => simp [inRanges] at h
  | cons r rest ih =>
    obtain ⟨lo, hi⟩ := r
    simp only [inRanges] at h
    split at h
    · simp at h
    · rcases Bool.or_eq_true_iff.mp h with hle | hrest
      · exact ⟨(lo, hi), by simp, by simp; omega, by simpa using hle⟩
      · obtain ⟨r, hr, hb⟩ := ih hrest
        exact ⟨r, by simp [hr], hb⟩

end CharSet

end SourceCheck.Text
