import SourceCheck.Diagnostic.Basic
import SourceCheck.Text.Quoted

/-! # Dumps of diagnostics

The fields of a diagnostic written out in full, on one line or one field a line.
-/

namespace SourceCheck

/-- The shape of a dumped value. -/
inductive Shape
  | atom (text : String)
  | wrapped (name : String) (inner : Shape)
  | list (elements : List Shape)
  | record (name : String) (fields : List (String × Shape))

namespace Shape

mutual

def inline : Shape → String
  | atom text => text
  | wrapped name inner => name ++ "(" ++ inner.inline ++ ")"
  | list elements => "[" ++ ", ".intercalate (inlineList elements) ++ "]"
  | record name fields =>
    name ++ " \x7b " ++ ", ".intercalate (inlineFields fields) ++ " \x7d"

def inlineList : List Shape → List String
  | [] => []
  | s :: rest => s.inline :: inlineList rest

def inlineFields : List (String × Shape) → List String
  | [] => []
  | (name, s) :: rest => (name ++ ": " ++ s.inline) :: inlineFields rest

end

def indent (line : String) : String := "    " ++ line

def bracket (opening closing : String) (inner : List String) : List String :=
  opening :: inner.map indent ++ [closing]

def endComma : List String → List String
  | [] => []
  | [line] => [line ++ ","]
  | line :: rest => line :: endComma rest

def named (name : String) : List String → List String
  | [] => []
  | line :: rest => (name ++ ": " ++ line) :: rest

mutual

def lines : Shape → List String
  | atom text => [text]
  | wrapped name inner => bracket (name ++ "(") ")" (endComma inner.lines)
  | list [] => ["[]"]
  | list (s :: rest) => bracket "[" "]" (endComma s.lines ++ elementLines rest)
  | record name fields => bracket (name ++ " \x7b") "\x7d" (fieldLines fields)

def elementLines : List Shape → List String
  | [] => []
  | s :: rest => endComma s.lines ++ elementLines rest

def fieldLines : List (String × Shape) → List String
  | [] => []
  | (name, s) :: rest => endComma (named name s.lines) ++ fieldLines rest

end

def indented (s : Shape) : String := "\n".intercalate s.lines

def option {α : Type} (f : α → Shape) : Option α → Shape
  | none => atom "None"
  | some a => wrapped "Some" (f a)

def nat (n : Nat) : Shape := atom n.repr

def string (s : String) : Shape := atom (Text.quoteString s)

end Shape

def Span.shape (s : Span) : Shape :=
  .record "Span" [("start", .nat s.start), ("end", .nat s.stop)]

def Snippet.shape (s : Snippet) : Shape :=
  .record "Snippet"
    [("label", .string s.label), ("source_id", .nat s.source), ("span", s.span.shape)]

def Diagnostic.shape (d : Diagnostic) : Shape :=
  .record "Diagnostic"
    [("message", .option .string d.message), ("code", .option .nat d.code),
      ("snippets", .list (d.snippets.map Snippet.shape))]

end SourceCheck
