/-!
# Decimal numerals

Writing a number in decimal, and reading one back. A signed numeral may carry one plus sign.
-/
namespace LineScope.Text

def digitChar (d : Nat) : Char := Char.ofNat (48 + d)

def isDigit (c : Char) : Bool := decide ('0' ≤ c) && decide (c ≤ '9')

def digitValue (c : Char) : Nat := c.toNat - 48

/-- The decimal digits of a number, the most significant first. -/
def digits (n : Nat) : List Char :=
  if n < 10 then [digitChar n] else digits (n / 10) ++ [digitChar (n % 10)]

def decimal (n : Nat) : String := String.ofList (digits n)

/-- The value of digits read after those that made `acc`. -/
def digitsValue (acc : Nat) (cs : List Char) : Nat :=
  cs.foldl (fun n c => n * 10 + digitValue c) acc

/-- Reads one or more digits; leading zeros count for nothing. -/
def readDigits? (cs : List Char) : Option Nat :=
  if !cs.isEmpty && cs.all isDigit then some (digitsValue 0 cs) else none

/-- Reads one or more digits after at most one plus sign. -/
def readUnsigned? : List Char → Option Nat
  | '+' :: cs => readDigits? cs
  | cs => readDigits? cs

/-- Reads a numeral of a 64-bit word. -/
def readWord? (cs : List Char) : Option UInt64 :=
  match readUnsigned? cs with
  | some n => if n < UInt64.size then some (UInt64.ofNat n) else none
  | none => none

end LineScope.Text
