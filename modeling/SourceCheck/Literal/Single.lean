import SourceCheck.Literal.Integer

/-! # Single-precision literals

A single-precision number is held by its 32 bits: sign, biased exponent, fraction. Decimal text
is converted exactly: the value is rounded to the nearest representable number, a tie to the even
one, and a value too large for a finite number gives infinity.

Two numbers are compared as values, not as bits: the zeros are equal, and a number that is not a
number differs from itself.
-/

namespace SourceCheck.Literal

/-- A number in the 32-bit binary format. -/
structure Single where
  bits : UInt32
  deriving DecidableEq, Repr

namespace Single

def magnitude (x : Single) : Nat := x.bits.toNat % 0x80000000

def isNegative (x : Single) : Bool := 0x80000000 ≤ x.bits.toNat

/-- The magnitude of infinity; what lies above it is not a number. -/
def infinityMagnitude : Nat := 0x7F800000

def nanMagnitude : Nat := 0x7FC00000

def isNaN (x : Single) : Bool := infinityMagnitude < x.magnitude

def ofMagnitude (negative : Bool) (magnitude : Nat) : Single :=
  ⟨UInt32.ofNat (if negative then magnitude + 0x80000000 else magnitude)⟩

/-- Equality of values. -/
def sameValue (x y : Single) : Bool :=
  !x.isNaN && !y.isNaN && (x.bits == y.bits || (x.magnitude == 0 && y.magnitude == 0))

end Single

/-- The quotient rounded to the nearest natural number, a tie to the even one. -/
def roundDiv (num den : Nat) : Nat :=
  let q := num / den
  let twice := 2 * (num % den)
  if twice < den || (twice == den && q % 2 == 0) then q else q + 1

def floorLog2 (num den : Nat) : Int :=
  let guess : Int := (num.log2 : Int) - (den.log2 : Int)
  if den * Nat.pow 2 guess.toNat ≤ num * Nat.pow 2 (-guess).toNat then guess else guess - 1

/-- The magnitude nearest to the positive fraction `num / den`. The unit of the last place is a
power of two that leaves 24 significant bits, or the smallest unit there is. -/
def nearestMagnitude (num den : Nat) : Nat :=
  let unit : Int := max (floorLog2 num den - 23) (-149)
  let significand := roundDiv (num * Nat.pow 2 (-unit).toNat) (den * Nat.pow 2 unit.toNat)
  min ((unit + 149).toNat * 0x800000 + significand) Single.infinityMagnitude

structure Decimal where
  digits : Nat
  exponent : Int
  deriving DecidableEq, Repr

def digitCount (n : Nat) : Nat := (Nat.toDigits 10 n).length

/-- The magnitude nearest to a decimal number. Numbers of 10³⁹ and above are infinite, and those
below 10⁻⁴⁶ are zero, whatever their digits. -/
def Decimal.magnitude (d : Decimal) : Nat :=
  if d.digits = 0 then 0
  else
    let order : Int := digitCount d.digits + d.exponent
    if 40 ≤ order then Single.infinityMagnitude
    else if order ≤ -46 then 0
    else
      nearestMagnitude (d.digits * Nat.pow 10 d.exponent.toNat) (Nat.pow 10 (-d.exponent).toNat)

def exponent? : List Char → Option Int
  | [] => some 0
  | c :: cs => if c = 'e' ∨ c = 'E' then integerValue? cs else none

/-- The decimal number that an unsigned text stands for: digits with an optional point, at least
one digit, and an optional exponent. -/
def decimal? (cs : List Char) : Option Decimal :=
  let whole := cs.takeWhile Char.isDigit
  let afterWhole := cs.dropWhile Char.isDigit
  let (fraction, rest) := match afterWhole with
    | '.' :: more => (more.takeWhile Char.isDigit, more.dropWhile Char.isDigit)
    | more => ([], more)
  if whole.isEmpty && fraction.isEmpty then none
  else match exponent? rest with
    | none => none
    | some e => some ⟨digitsValue (whole ++ fraction), e - fraction.length⟩

/-- The magnitude of an unsigned text: a word for infinity or for no number, in any case of
letters, or a decimal. -/
def magnitude? (cs : List Char) : Option Nat :=
  let word := cs.map Char.toLower
  if word = ['i', 'n', 'f'] ∨ word = ['i', 'n', 'f', 'i', 'n', 'i', 't', 'y'] then
    some Single.infinityMagnitude
  else if word = ['n', 'a', 'n'] then some Single.nanMagnitude
  else (decimal? cs).map Decimal.magnitude

def single? (text : String) : Option Single :=
  let (negative, unsigned) := takeSign text.toList
  (magnitude? unsigned).map (Single.ofMagnitude negative)

end SourceCheck.Literal
