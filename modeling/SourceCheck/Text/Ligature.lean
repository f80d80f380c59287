import SourceCheck.Text.ZeroWidth

/-! # Ligatures

Letters that a script draws as one glyph. A ligature is recognised from its last letter to its
first, which is the order in which a text is measured.
-/

namespace SourceCheck.Text

def arabicLam : CharSet := ⟨[
  (0x644, 0x644), (0x6B5, 0x6B8), (0x76A, 0x76A), (0x8A6, 0x8A6), (0x8C7, 0x8C7)]⟩

def arabicAlef : CharSet := ⟨[
  (0x622, 0x623), (0x625, 0x625), (0x627, 0x627), (0x671, 0x673), (0x675, 0x675), (0x773, 0x774),
  (0x870, 0x882)]⟩

def khmerSubscript : CharSet := ⟨[
  (0x1780, 0x1782), (0x1784, 0x1787), (0x1789, 0x178C), (0x178E, 0x1793), (0x1795, 0x1798),
  (0x179B, 0x179D), (0x17A0, 0x17A0), (0x17A2, 0x17A2), (0x17A7, 0x17A7), (0x17AB, 0x17AC),
  (0x17AF, 0x17AF)]⟩

def tifinaghConsonant : CharSet := ⟨[(0x2D31, 0x2D65), (0x2D6F, 0x2D6F)]⟩

def lisuFirstTone : CharSet := ⟨[(0xA4F8, 0xA4FB)]⟩

def lisuSecondTone : CharSet := ⟨[(0xA4FC, 0xA4FD)]⟩

/-- Marks that are shown as nothing, and so do not part two letters. -/
def ignorableMark : CharSet := ⟨[
  (0x34F, 0x34F), (0x17B4, 0x17B5), (0x180B, 0x180D), (0x180F, 0x180F), (0xFE00, 0xFE0F),
  (0xE0100, 0xE01EF)]⟩

/-- The end of a ligature, from a letter of it on. The letters from there on are counted. Where
`joined` is true, a joiner stands before the letter. -/
inductive Ligature
  | alef
  | lamed (joined : Bool)
  | ya (joined : Bool)
  | vowelYa
  | subscript
  | tifinagh (joined : Bool)
  /-- The Tifinagh consonant joiner before a consonant. It is drawn where no other consonant
  stands before it, so it is counted. -/
  | tifinaghJoiner
  | secondTone
  | orkhonI (joined : Bool)
  deriving DecidableEq, Repr

namespace Ligature

def ofLast? (c : Char) : Option Ligature :=
  if arabicAlef.contains c then some .alef
  else if c = '\u05dc' then some (.lamed false)
  else if c = '\u1a10' then some (.ya false)
  else if khmerSubscript.contains c then some .subscript
  else if tifinaghConsonant.contains c then some (.tifinagh false)
  else if lisuSecondTone.contains c then some .secondTone
  else if c.toNat = 0x10C03 then some (.orkhonI false)
  else none

def join : Ligature → Ligature
  | lamed _ => lamed true
  | ya _ => ya true
  | tifinagh _ => tifinagh true
  | orkhonI _ => orkhonI true
  | l => l

/-- The ligature after a character that takes part in it without a glyph of its own. An Arabic
ligature goes on through every mark that leaves its letters joined, every other one through
joiners and marks that are shown as nothing. -/
def pass? (c : Char) : Ligature → Option Ligature
  | alef => if zeroWidth.contains c && !joinBreaking.contains c then some alef else none
  | l =>
    if c = '\u200d' then some l.join
    else if ignorableMark.contains c then some l
    else none

/-- The columns that a letter adds to the ligature which it joins, and what of the ligature is
still open before it. A letter takes a column back where it makes a glyph disappear that is
counted. -/
def extend? (c : Char) : Ligature → Option (Int × Option Ligature)
  | alef => if arabicLam.contains c then some (0, none) else none
  | lamed true => if c = '\u05d0' then some (0, none) else none
  | ya true => if c = '\u1a17' then some (0, some vowelYa) else none
  | vowelYa => if c = '\u1a15' then some (0, none) else none
  | subscript => if c = '\u17d2' then some (-1, none) else none
  | tifinagh joined =>
    if c = '\u2d7f' then some (1, some tifinaghJoiner)
    else if joined && tifinaghConsonant.contains c then some (0, none)
    else none
  | tifinaghJoiner => if tifinaghConsonant.contains c then some (-1, none) else none
  | secondTone => if lisuFirstTone.contains c then some (0, none) else none
  | orkhonI true => if c.toNat = 0x10C32 then some (0, none) else none
  | _ => none

/-- The columns that a character adds as part of a ligature, and what of the ligature is still
open before it; `none` if the character is not part of it. -/
def before? (c : Char) (l : Ligature) : Option (Int × Option Ligature) :=
  match l.pass? c with
  | some l => some (0, some l)
  | none => l.extend? c

end Ligature

end SourceCheck.Text
