/-! # Blank characters

The characters that separate words: the Unicode white space.
-/

namespace SourceCheck.Text

/-- White space: the controls from tab to carriage return, the next-line control, and every
space, line and paragraph separator. -/
def isBlank (c : Char) : Bool :=
  (0x9 ≤ c.toNat && c.toNat ≤ 0xD) || c.toNat == 0x20 || c.toNat == 0x85 || c.toNat == 0xA0 ||
    c.toNat == 0x1680 || (0x2000 ≤ c.toNat && c.toNat ≤ 0x200A) || c.toNat == 0x2028 ||
    c.toNat == 0x2029 || c.toNat == 0x202F || c.toNat == 0x205F || c.toNat == 0x3000

theorem isBlank_newline : isBlank '\n' = true := by decide

theorem not_isBlank_of_graphic {c : Char} (lo : 0x20 < c.toNat) (hi : c.toNat < 0x7F) :
    isBlank c = false := by
  simp only [isBlank, Bool.or_eq_false_iff, Bool.and_eq_false_iff, decide_eq_false_iff_not,
    beq_eq_false_iff_ne]
  omega

end SourceCheck.Text
