import SourceCheck.Text.Combining
import SourceCheck.Text.Unprintable

/-! # Quoted text

Characters and strings between quotes, for messages. The quote in use, the backslash and the
common controls have a short escape; a character that cannot be seen on its own is written by
its code point.
-/

namespace SourceCheck.Text

def hex (n : Nat) : String :=
  String.ofList (Nat.toDigits 16 n)

def codePointEscape (c : Char) : String :=
  "\\u\x7b" ++ hex c.toNat ++ "\x7d"

/-- Whether a character can be read on its own: it has a glyph, and does not join the glyph
before it. -/
def standsAlone (c : Char) : Bool :=
  !(unprintable.contains c || ignorable.contains c || combining.contains c)

def escape (quote c : Char) : String :=
  if c = '\x00' then "\\0"
  else if c = '\t' then "\\t"
  else if c = '\r' then "\\r"
  else if c = '\n' then "\\n"
  else if c = '\\' then "\\\\"
  else if c = quote then "\\" ++ quote.toString
  else if standsAlone c then c.toString
  else codePointEscape c

def quoteChar (c : Char) : String :=
  "\x27" ++ escape '\x27' c ++ "\x27"

def quoteString (s : String) : String :=
  "\"" ++ String.join (s.toList.map (escape '"')) ++ "\""

end SourceCheck.Text
