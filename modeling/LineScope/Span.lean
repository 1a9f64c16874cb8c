import LineScope.Word

/-!
# Spans

Where a piece of source sits: lines and columns counted from one, the last line included and the last
column not.
-/
namespace LineScope

structure Span where
  startLine : UInt32
  startColumn : UInt32
  endLine : UInt32
  endColumn : UInt32
  deriving DecidableEq, Repr

def Span.ordered (s : Span) : Bool :=
  decide (s.startLine < s.endLine) ||
    (s.startLine == s.endLine && decide (s.startColumn ≤ s.endColumn))

/-- The span between two places, unless it ends before it starts (`Span::new`). -/
def Span.between? (startLine startColumn endLine endColumn : UInt32) : Option Span :=
  let span : Span := { startLine, startColumn, endLine, endColumn }
  if span.ordered then some span else none

end LineScope
