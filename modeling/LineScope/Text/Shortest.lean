import LineScope.Text.Numeral

/-!
# Shortest decimals

Reading a decimal fraction as the nearest 64-bit binary fraction, and writing a binary fraction as the
decimal with the fewest digits that reads back as it. Nothing is written with an exponent.
-/
namespace LineScope.Text

/-- A positive binary fraction: a whole number times a power of two. -/
structure BinaryFraction where
  significand : Nat
  exponent : Int
  deriving DecidableEq, Repr

/-- A decimal fraction: a whole number times a power of ten. -/
structure DecimalFraction where
  digits : Nat
  exponent : Int
  deriving DecidableEq, Repr

/-- A power of a base; one where the exponent is negative. -/
def power (base : Nat) (exponent : Int) : Nat := Nat.pow base exponent.toNat

namespace BinaryFraction

/-- The least significand with a leading one. -/
def leadingOne : Nat := 0x10000000000000

/-- The fraction that the bits of a number hold, its sign apart; none for zero. The least significands
have no leading one. -/
def ofBits? (bits : Nat) : Option BinaryFraction :=
  let low : Nat := bits % leadingOne
  let high : Nat := bits / leadingOne % 0x800
  if high = 0 then
    if low = 0 then none else some ⟨low, -1074⟩
  else some ⟨leadingOne + low, (high : Int) - 1075⟩

/-- Compares a decimal fraction with a number of quarters of the fraction's last place. -/
def compareQuarters (b : BinaryFraction) (d : DecimalFraction) (quarters : Nat) : Ordering :=
  let shift := b.exponent - 2
  compare (d.digits * power 10 d.exponent * power 2 (-shift))
    (quarters * power 2 shift * power 10 (-d.exponent))

/-- Whether a decimal fraction reads back as the fraction: it is not nearer to a neighbour, and where it
is halfway, the significand is even. Below a power of two the neighbour is half as far. -/
def readsBack (b : BinaryFraction) (d : DecimalFraction) : Bool :=
  let m := 4 * b.significand
  let below := if b.significand = leadingOne ∧ -1074 < b.exponent then 1 else 2
  let even := b.significand % 2 == 0
  let low := b.compareQuarters d (m - below)
  let high := b.compareQuarters d (m + 2)
  (low == .gt || (even && low == .eq)) && (high == .lt || (even && high == .eq))

/-- The power of ten of the fraction's leading digit. -/
def leading (b : BinaryFraction) : Int :=
  let guess := ((b.significand.log2 : Int) + b.exponent) * 30103 / 100000
  let reaches (e : Int) : Bool := b.compareQuarters ⟨1, e⟩ (4 * b.significand) != .gt
  if reaches (guess + 1) then guess + 1 else if reaches guess then guess else guess - 1

/-- The decimal fraction of some digits next to the fraction that reads back as it, if there is one. The
nearer one is taken, and of two the greater. -/
def nearest? (b : BinaryFraction) (count : Nat) : Option DecimalFraction :=
  let place := b.leading - (count : Int) + 1
  let low := b.significand * power 2 b.exponent * power 10 (-place) /
    (power 2 (-b.exponent) * power 10 place)
  let below : DecimalFraction := ⟨low, place⟩
  let above : DecimalFraction := ⟨low + 1, place⟩
  -- Twice the fraction lies below the sum of both exactly if the lower one is nearer.
  let lowNearer := b.compareQuarters ⟨2 * low + 1, place⟩ (8 * b.significand) == .gt
  match b.readsBack below, b.readsBack above with
  | true, true => some (if lowNearer then below else above)
  | true, false => some below
  | false, true => some above
  | false, false => none

/-- The decimal fraction with the fewest digits that reads back as the fraction. -/
def shortest (b : BinaryFraction) : DecimalFraction :=
  ((List.range 17).findSome? fun n => b.nearest? (n + 1)).getD
    ⟨b.significand * power 2 b.exponent * power 5 (-b.exponent), min b.exponent 0⟩

end BinaryFraction

def DecimalFraction.render (d : DecimalFraction) : String :=
  let ds := Text.digits d.digits
  let places := (-d.exponent).toNat
  let whole := ds.take (ds.length - places)
  let zeros := List.replicate (places - ds.length) '0'
  let fraction := (zeros ++ ds.drop (ds.length - places)).reverse.dropWhile (· == '0') |>.reverse
  String.ofList <|
    (if whole.isEmpty then ['0'] else whole ++ List.replicate d.exponent.toNat '0') ++ ['.'] ++
      (if fraction.isEmpty then ['0'] else fraction)

/-- The digits of an exponent, with a sign in front of them or not. -/
def readExponent? : List Char → Option Int
  | '-' :: cs => (readDigits? cs).map fun n => -(n : Int)
  | '+' :: cs => (readDigits? cs).map Int.ofNat
  | cs => (readDigits? cs).map Int.ofNat

/-- Reads a decimal fraction: digits with at most one point among them, and perhaps an exponent. -/
def readFraction? (cs : List Char) : Option DecimalFraction :=
  let whole := cs.takeWhile isDigit
  let rest := cs.dropWhile isDigit
  let (fraction, rest) := match rest with
    | '.' :: rest => (rest.takeWhile isDigit, rest.dropWhile isDigit)
    | _ => ([], rest)
  let all := whole ++ fraction
  if all.isEmpty then none
  else
    let exponent := match rest with
      | [] => some 0
      | mark :: rest => if mark = 'e' || mark = 'E' then readExponent? rest else none
    exponent.map fun e => ⟨digitsValue 0 all, e - fraction.length⟩

/-- The bits of the number nearest to a decimal fraction; none if it is too great for a number. -/
def DecimalFraction.bits? (d : DecimalFraction) : Option Nat :=
  let size := ((Text.digits d.digits).length : Int) + d.exponent
  if d.digits = 0 || size < -400 then some 0
  else if 400 < size then none
  else
    let bits := (Float.ofScientific d.digits (d.exponent < 0) d.exponent.natAbs).toBits.toNat
    if bits < 0x7FF0000000000000 then some bits else none

/-- The shortest decimal of the number that a decimal fraction reads as; none if it is too great. -/
def DecimalFraction.shortest? (d : DecimalFraction) : Option String :=
  d.bits?.map fun bits =>
    match BinaryFraction.ofBits? bits with
    | some b => b.shortest.render
    | none => "0.0"

end LineScope.Text
