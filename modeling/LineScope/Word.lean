/-!
# Checked word arithmetic

Rows and columns are 64-bit words and spans hold 32-bit words. Adding one is the only addition made on
them, and it is checked: past the largest word there is no answer.
-/
namespace LineScope

/-- An addition left its word. -/
structure Overflow where
  deriving DecidableEq, Repr

/-- A computation that stops when an addition leaves its word. -/
abbrev Checked := Except Overflow

def Overflow.message (_ : Overflow) : String := "attempt to add with overflow"

def next64 (x : UInt64) : Checked UInt64 :=
  if x.toNat + 1 < UInt64.size then .ok (x + 1) else .error ⟨⟩

def next32 (x : UInt32) : Checked UInt32 :=
  if x.toNat + 1 < UInt32.size then .ok (x + 1) else .error ⟨⟩

/-- The distance from `x` up to `y`; none when `y` is not above `x`. -/
def distance64 (x y : UInt64) : UInt64 := if x ≤ y then y - x else 0

end LineScope
