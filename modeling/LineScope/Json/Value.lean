import LineScope.Text.Numeral

/-!
# JSON values

A JSON value as it is written: a number keeps apart whole numbers and everything else, and an object
keeps its members in their order.
-/
namespace LineScope.Json

/-- A number: a whole one is written with digits alone; any other literal is kept as written. -/
inductive Number where
  | whole (n : Nat)
  | other (literal : String)
  deriving DecidableEq, Repr

inductive Value where
  | null
  | bool (b : Bool)
  | number (n : Number)
  | string (s : String)
  | array (items : List Value)
  | object (members : List (String × Value))
  deriving Repr

instance : Inhabited Value := ⟨.null⟩

namespace Value

def nat (n : Nat) : Value := .number (.whole n)

/-- The value for text that may be missing. -/
def ofText? : Option String → Value
  | some s => .string s
  | none => .null

/-- The member of an object; nothing for any other value. -/
def get? (key : String) : Value → Option Value
  | .object members => members.lookup key
  | _ => none

def text? : Value → Option String
  | .string s => some s
  | _ => none

def bool? : Value → Option Bool
  | .bool b => some b
  | _ => none

def items? : Value → Option (List Value)
  | .array items => some items
  | _ => none

def nat? : Value → Option Nat
  | .number (.whole n) => some n
  | _ => none

/-- The whole number, where it fits a 64-bit word. -/
def word? (v : Value) : Option UInt64 :=
  match v.nat? with
  | some n => if n < UInt64.size then some (UInt64.ofNat n) else none
  | none => none

/-- The whole number, where it fits a 32-bit word. -/
def halfWord? (v : Value) : Option UInt32 :=
  match v.nat? with
  | some n => if n < UInt32.size then some (UInt32.ofNat n) else none
  | none => none

end Value

end LineScope.Json
