/-! # Styled text

Output is a list of marks: pieces of text, and switches of the style they are shown in. Plain
output keeps the text; terminal output also writes the switches as escape sequences.
-/

namespace SourceCheck

inductive Style
  | error
  | subtle
  deriving DecidableEq, Repr

inductive Mark
  | text (s : String)
  | style (s : Style)
  | reset
  deriving DecidableEq, Repr

def escapeSequence (code : String) : String := "\x1b[" ++ code ++ "m"

def Style.attributes : Style → List String
  | error => ["1", "31"]
  | subtle => ["2"]

namespace Mark

def plain : Mark → String
  | text s => s
  | style _ | reset => ""

/-- A mark for a terminal. A style starts by switching off every attribute. -/
def ansi : Mark → String
  | text s => s
  | style s => String.join (("0" :: s.attributes).map escapeSequence)
  | reset => escapeSequence "0"

end Mark

inductive Palette
  | plain
  | ansi
  deriving DecidableEq, Repr

def Palette.write : Palette → List Mark → String
  | plain, marks => String.join (marks.map Mark.plain)
  | ansi, marks => String.join (marks.map Mark.ansi)

end SourceCheck
