import SourceCheck.Diagnostic.Basic
import SourceCheck.Diagnostic.Excerpt
import SourceCheck.Diagnostic.Mark
import SourceCheck.Text.Width

/-! # Rendering diagnostics

A diagnostic is drawn as a header and a block for each snippet: its location, numbered lines
behind a gutter, and a row that underlines the span. Drawing stops at a snippet whose span ends
inside a character.
-/

namespace SourceCheck

structure Config where
  contextSize : Nat := 1
  gutter : String := "│"
  underline : String := "^"
  underlineAfter : String := " "
  deriving DecidableEq, Repr

/-- What is drawn, and whether it was drawn to its end. -/
structure Rendering where
  marks : List Mark
  whole : Bool
  deriving DecidableEq, Repr

def Rendering.andThen (first second : Rendering) : Rendering :=
  if first.whole then ⟨first.marks ++ second.marks, second.whole⟩ else first

def padLeft (width : Nat) (fill : Char) (s : String) : String :=
  String.ofList (List.replicate (width - s.length) fill) ++ s

def tabText : List Char := [' ', ' ', ' ', ' ']

def expandTabs (cs : List Char) : List Char :=
  cs.flatMap fun c => if c = '\t' then tabText else [c]

/-- The columns that the underline counts for a text: its display width, and for every tab the
length of the text it is shown as. -/
def underlineColumns (cs : List Char) : Nat :=
  Text.displayWidth cs + cs.count '\t' * tabText.length

namespace Config

def drawGutter (config : Config) (width : Nat) (number : Option Nat) : List Mark :=
  let shown := match number with
    | some n => n.repr
    | none => ""
  [.style .subtle, .text (padLeft width ' ' shown), .text (" " ++ config.gutter ++ " "), .reset]

def drawLine (config : Config) (width number : Nat) (line : List Char) : List Mark :=
  config.drawGutter width (some number) ++ [.text (String.ofList (expandTabs line) ++ "\n")]

/-- The row with the underline and the label. At least one glyph is drawn. -/
def drawUnderline (config : Config) (width : Nat) (label : String) (marked : Marked) :
    List Mark :=
  let padding := List.replicate (underlineColumns marked.before) ' '
  let glyphs := List.replicate (max 1 (underlineColumns marked.inside)) config.underline
  config.drawGutter width none ++
    [.style .error, .text (String.ofList padding), .text (String.join glyphs),
      .text (config.underlineAfter ++ label ++ "\n"), .reset]

def drawLocation (name : String) (position : Position) : List Mark :=
  [.style .subtle,
    .text ("In " ++ name ++ ":" ++ position.row.repr ++ ":" ++ position.col.repr ++ "\n"),
    .reset]

/-- An excerpt of a source. Numbers are aligned in a column as wide as the last of them. -/
def drawExcerpt (config : Config) (name label : String) (excerpt : Excerpt) : Rendering :=
  let width := excerpt.position.row.repr.length
  let shown := drawLocation name excerpt.position ++
    excerpt.lines.flatMap fun (number, line) => config.drawLine width number line
  match excerpt.marked with
  | some marked => ⟨shown ++ config.drawUnderline width label marked, true⟩
  | none => ⟨shown, false⟩

/-- A snippet. Nothing is drawn for an unknown source, or for a span that starts inside a
character. -/
def drawSnippet (config : Config) (sources : Sources) (snippet : Snippet) : Rendering :=
  match sources[snippet.source]? with
  | none => ⟨[], true⟩
  | some source =>
    match source.excerpt? config.contextSize snippet.span with
    | none => ⟨[], true⟩
    | some excerpt => config.drawExcerpt source.name snippet.label excerpt

end Config

namespace Diagnostic

def drawHeader (d : Diagnostic) : List Mark :=
  let code := match d.code with
    | some n => [Mark.text ("[E" ++ padLeft 4 '0' n.repr ++ "] ")]
    | none => []
  let message := match d.message with
    | some s => " " ++ s ++ "\n"
    | none => "\n"
  [.style .error] ++ code ++ [.text "error:", .reset, .text message]

/-- The whole drawing, closed by an empty line. -/
def render (d : Diagnostic) (sources : Sources) (config : Config) : Rendering :=
  let close : Rendering := ⟨[.text "\n"], true⟩
  let snippets := d.snippets.foldr
    (fun snippet rest => (config.drawSnippet sources snippet).andThen rest) close
  Rendering.andThen ⟨d.drawHeader, true⟩ snippets

end Diagnostic

end SourceCheck
