import SourceCheck.Source

/-! # Diagnostics

An error report: a message, a numeric code, and labelled snippets of sources.
-/

namespace SourceCheck

structure Snippet where
  label : String
  /-- The place of the source in the list of sources. -/
  source : Nat
  span : Span
  deriving DecidableEq, Repr

structure Diagnostic where
  message : Option String
  code : Option Nat
  snippets : List Snippet
  deriving DecidableEq, Repr

namespace Diagnostic

def blank : Diagnostic := ⟨none, none, []⟩

def withMessage (d : Diagnostic) (message : String) : Diagnostic :=
  { d with message := some message }

def withCode (d : Diagnostic) (code : Nat) : Diagnostic := { d with code := some code }

def withSnippet (d : Diagnostic) (snippet : Snippet) : Diagnostic :=
  { d with snippets := d.snippets ++ [snippet] }

end Diagnostic

end SourceCheck
