import SourceCheck.Literal.Digits

/-! # Integer literals

A 32-bit signed integer is written as an optional sign and at least one digit. A number out of
range has no value.
-/

namespace SourceCheck.Literal

def takeSign : List Char → Bool × List Char
  | '+' :: cs => (false, cs)
  | '-' :: cs => (true, cs)
  | cs => (false, cs)

def integerValue? (cs : List Char) : Option Int :=
  let (negative, digits) := takeSign cs
  if digits.isEmpty || !digits.all Char.isDigit then none
  else if negative then some (-(digitsValue digits : Int)) else some (digitsValue digits)

def integer? (text : String) : Option Int32 :=
  match integerValue? text.toList with
  | none => none
  | some n => if -2147483648 ≤ n ∧ n ≤ 2147483647 then some (Int32.ofInt n) else none

end SourceCheck.Literal
