import Mathlib.Data.Rat.Cast.CharZero
import Mathlib.Order.Monotone.Basic
import Mathlib.Tactic.Ring
import SourceCheck.Literal.Single

/-! # The value of a single-precision number

Two numbers of the format are compared by their values. A finite value is a multiple of 2⁻¹⁴⁹, and
a larger magnitude has the larger one, so no two numbers have the same value but the two zeros.
What is not a number has none, and is never equal to anything.
-/

namespace SourceCheck.Literal

inductive Value
  | finite (q : ℚ)
  | infinite (negative : Bool)

namespace Single

/-- The multiple of 2⁻¹⁴⁹ that a finite magnitude stands for. Above the fraction of 23 bits stands
the exponent; with an exponent of zero the leading bit is zero as well. -/
def units (magnitude : Nat) : Nat :=
  let exponent := magnitude / 0x800000
  let fraction := magnitude % 0x800000
  if exponent = 0 then fraction else (0x800000 + fraction) * 2 ^ (exponent - 1)

def signedUnits (x : Single) : Int :=
  if x.isNegative then -units x.magnitude else units x.magnitude

def value? (x : Single) : Option Value :=
  if x.isNaN then none
  else if x.magnitude = infinityMagnitude then some (.infinite x.isNegative)
  else some (.finite (x.signedUnits / 2 ^ 149))

/-- The number that stands for all of its value, with zero for both zeros. -/
def canonical (x : Single) : Single := if x.magnitude = 0 then ⟨0⟩ else x

section Units

theorem units_lt_units_succ (n : Nat) : units n < units (n + 1) := by
  unfold units
  dsimp only
  by_cases hcarry : n % 0x800000 = 0x7FFFFF
  · have hexponent : (n + 1) / 0x800000 = n / 0x800000 + 1 := by omega
    have hfraction : (n + 1) % 0x800000 = 0 := by omega
    rw [hexponent, hfraction, hcarry, if_neg (Nat.succ_ne_zero _), Nat.add_sub_cancel]
    cases n / 0x800000 with
    | zero => decide
    | succ k =>
      rw [if_neg (Nat.succ_ne_zero k), Nat.add_sub_cancel, Nat.pow_succ]
      have hpos := Nat.two_pow_pos k
      omega
  · have hexponent : (n + 1) / 0x800000 = n / 0x800000 := by omega
    have hfraction : (n + 1) % 0x800000 = n % 0x800000 + 1 := by omega
    rw [hexponent, hfraction]
    split
    · exact Nat.lt_succ_self _
    · exact Nat.mul_lt_mul_of_pos_right (Nat.lt_succ_self _) (Nat.two_pow_pos _)

theorem units_strictMono : StrictMono units := strictMono_nat_of_lt_succ units_lt_units_succ

theorem units_eq_zero_iff {n : Nat} : units n = 0 ↔ n = 0 :=
  units_strictMono.injective.eq_iff' rfl

end Units

variable {x y : Single}

theorem ext_iff_magnitude : x = y ↔ x.isNegative = y.isNegative ∧ x.magnitude = y.magnitude := by
  constructor
  · rintro rfl
    exact ⟨rfl, rfl⟩
  · rintro ⟨hsign, hmagnitude⟩
    obtain ⟨b⟩ := x
    obtain ⟨c⟩ := y
    simp only [isNegative, magnitude, decide_eq_decide] at hsign hmagnitude
    have hb := b.toNat_lt
    have hc := c.toNat_lt
    rw [UInt32.toNat_inj.mp (show b.toNat = c.toNat by omega)]

theorem sameValue_iff : x.sameValue y = true ↔
    x.isNaN = false ∧ y.isNaN = false ∧ (x = y ∨ x.magnitude = 0 ∧ y.magnitude = 0) := by
  have hbits : x = y ↔ x.bits = y.bits :=
    ⟨congrArg bits, fun h => by cases x; cases y; cases h; rfl⟩
  simp [sameValue, hbits, and_assoc]

theorem signedUnits_eq_iff :
    x.signedUnits = y.signedUnits ↔ x = y ∨ x.magnitude = 0 ∧ y.magnitude = 0 := by
  have hx : units x.magnitude = 0 ↔ _ := units_eq_zero_iff
  have hy : units y.magnitude = 0 ↔ _ := units_eq_zero_iff
  have heq : units x.magnitude = units y.magnitude ↔ _ := units_strictMono.injective.eq_iff
  rw [ext_iff_magnitude, signedUnits, signedUnits]
  cases x.isNegative <;> cases y.isNegative <;> simp <;> omega

theorem value?_eq_iff (hx : x.isNaN = false) (hy : y.isNaN = false) :
    x.value? = y.value? ↔ x = y ∨ x.magnitude = 0 ∧ y.magnitude = 0 := by
  have hinfinity : infinityMagnitude ≠ 0 := by decide
  simp only [value?, hx, hy, Bool.false_eq_true, if_false]
  by_cases hxinf : x.magnitude = infinityMagnitude <;>
    by_cases hyinf : y.magnitude = infinityMagnitude
  · simp [hxinf, hyinf, hinfinity, ext_iff_magnitude]
  · simp [hxinf, hyinf, hinfinity, ext_iff_magnitude, Ne.symm hyinf]
  · simp [hxinf, hyinf, hinfinity, ext_iff_magnitude]
  · rw [if_neg hxinf, if_neg hyinf, ← signedUnits_eq_iff]
    simp

theorem isNaN_eq_false_iff : x.isNaN = false ↔ ∃ v, x.value? = some v := by
  unfold value?
  split
  next h => simp [h]
  next h =>
    rw [Bool.not_eq_true] at h
    split <;> simp [h]

/-- Numbers compare as equal exactly if they have a value, and the same one. -/
theorem sameValue_iff_value :
    x.sameValue y = true ↔ ∃ v, x.value? = some v ∧ y.value? = some v := by
  rw [sameValue_iff]
  constructor
  · rintro ⟨hx, hy, h⟩
    obtain ⟨v, hv⟩ := isNaN_eq_false_iff.mp hx
    exact ⟨v, hv, (value?_eq_iff hx hy).mpr h ▸ hv⟩
  · rintro ⟨v, hxv, hyv⟩
    have hx := isNaN_eq_false_iff.mpr ⟨v, hxv⟩
    have hy := isNaN_eq_false_iff.mpr ⟨v, hyv⟩
    exact ⟨hx, hy, (value?_eq_iff hx hy).mp (hxv.trans hyv.symm)⟩

theorem magnitude_canonical (x : Single) : x.canonical.magnitude = x.magnitude := by
  unfold canonical
  split
  next h => rw [h]; rfl
  next => rfl

theorem canonical_eq_iff :
    x.canonical = y.canonical ↔ x = y ∨ x.magnitude = 0 ∧ y.magnitude = 0 := by
  constructor
  · intro h
    have hmagnitude : x.magnitude = y.magnitude := by
      rw [← magnitude_canonical x, h, magnitude_canonical]
    by_cases hx : x.magnitude = 0
    · exact .inr ⟨hx, hmagnitude ▸ hx⟩
    · have hy : y.magnitude ≠ 0 := hmagnitude ▸ hx
      rw [canonical, canonical, if_neg hx, if_neg hy] at h
      exact .inl h
  · rintro (rfl | ⟨hx, hy⟩)
    · rfl
    · rw [canonical, canonical, if_pos hx, if_pos hy]

end Single

end SourceCheck.Literal
