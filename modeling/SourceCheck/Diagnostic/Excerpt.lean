import SourceCheck.Source

/-! # Excerpts

What is shown of a source for a span: the line it starts on, some lines above, and the part of
the line that is underlined.
-/

namespace SourceCheck

structure Marked where
  before : List Char
  inside : List Char
  deriving DecidableEq, Repr

structure Excerpt where
  position : Position
  /-- The lines that are shown with their numbers, the line of the span last. -/
  lines : List (Nat × List Char)
  /-- The underlined part. There is none if the span ends inside a character. -/
  marked : Option Marked
  deriving DecidableEq, Repr

/-- The part of a line between two byte offsets. The range is cut to the line, and a range that
ends before it starts is empty. -/
def markLine (line : List Char) (start stop : Nat) : Option Marked := do
  let length := Text.byteLength line
  let start := min start length
  let stop := max start (min stop length)
  let (before, after) ← Text.splitAt? line start
  let (inside, _) ← Text.splitAt? after (stop - start)
  some ⟨before, inside⟩

/-- A line with its number, after at most `count` of the lines above it with theirs. -/
def Source.linesUpTo (s : Source) (line count : Nat) : List (Nat × List Char) :=
  (((s.lines.zipIdx 1).take (line + 1)).drop (line - count)).map fun (text, number) =>
    (number, text)

/-- The excerpt for a span. A start past the end of the source counts as its end; there is no
excerpt if the start is inside a character. -/
def Source.excerpt? (s : Source) (contextSize : Nat) (span : Span) : Option Excerpt := do
  let start := min span.start s.length
  let position ← s.position? start
  let index := position.row - 1
  let lineStart ← s.lineStart? index
  let line := (s.line? index).getD []
  some
    { position
      lines := s.linesUpTo index contextSize
      marked := markLine line (start - lineStart) (span.stop - lineStart) }

end SourceCheck
