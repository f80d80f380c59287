import SourceCheck.Diagnostic.Render

/-! # Receivers of diagnostics

A collector keeps what it is given. A printer writes it out and counts it; a diagnostic counts
before it is drawn, whether it can be drawn to its end or not.
-/

namespace SourceCheck

structure Collector where
  kept : List Diagnostic := []
  deriving DecidableEq, Repr

def Collector.emit (c : Collector) (d : Diagnostic) : Collector := ⟨c.kept ++ [d]⟩

structure Printer where
  palette : Palette
  config : Config := {}
  errors : Nat := 0
  written : String := ""
  deriving DecidableEq, Repr

namespace Printer

def emit (p : Printer) (sources : Sources) (d : Diagnostic) : Printer × Bool :=
  let drawn := d.render sources p.config
  ({ p with errors := p.errors + 1, written := p.written ++ p.palette.write drawn.marks },
    drawn.whole)

end Printer

end SourceCheck
