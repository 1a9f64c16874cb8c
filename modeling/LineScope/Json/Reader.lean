import LineScope.Json.Value

/-!
# Reading JSON

A reader of JSON text. Every function takes characters and gives what it read with the characters
after it. The nesting of arrays and objects is bounded by the length of the text.
-/
namespace LineScope.Json

/-- The blanks of JSON. -/
def isBlankChar (c : Char) : Bool := c == ' ' || c == '\n' || c == '\r' || c == '\t'

def skipBlanks (cs : List Char) : List Char := cs.dropWhile isBlankChar

def hexValue? (c : Char) : Option Nat :=
  if '0' ≤ c ∧ c ≤ '9' then some (c.toNat - 48)
  else if 'a' ≤ c ∧ c ≤ 'f' then some (c.toNat - 87)
  else if 'A' ≤ c ∧ c ≤ 'F' then some (c.toNat - 55)
  else none

/-- The value of four hexadecimal digits. -/
def hexUnit? (a b c d : Char) : Option Nat := do
  return (((← hexValue? a) * 16 + (← hexValue? b)) * 16 + (← hexValue? c)) * 16 + (← hexValue? d)

def simpleEscape? (c : Char) : Option Char :=
  if c = '"' ∨ c = '\\' ∨ c = '/' then some c
  else if c = 'n' then some '\n'
  else if c = 'r' then some '\r'
  else if c = 't' then some '\t'
  else if c = 'b' then some '\x08'
  else if c = 'f' then some '\x0c'
  else none

/-- Reads a string after its opening quote, onto the characters already read, the last one first. -/
def readString? (acc : List Char) : List Char → Option (String × List Char)
  | '"' :: cs => some (String.ofList acc.reverse, cs)
  | '\\' :: 'u' :: a :: b :: c :: d :: cs =>
    match hexUnit? a b c d with
    | none => none
    | some unit =>
      if 0xD800 ≤ unit ∧ unit < 0xDC00 then
        match cs with
        | '\\' :: 'u' :: a' :: b' :: c' :: d' :: cs' =>
          match hexUnit? a' b' c' d' with
          | some low =>
            if 0xDC00 ≤ low ∧ low < 0xE000 then
              readString?
                (Char.ofNat (0x10000 + (unit - 0xD800) * 0x400 + (low - 0xDC00)) :: acc) cs'
            else none
          | none => none
        | _ => none
      else if 0xDC00 ≤ unit ∧ unit < 0xE000 then none
      else readString? (Char.ofNat unit :: acc) cs
  | '\\' :: c :: cs =>
    match simpleEscape? c with
    | some e => readString? (e :: acc) cs
    | none => none
  | c :: cs => if c.toNat < 0x20 then none else readString? (c :: acc) cs
  | [] => none

/-- Splits off leading digits, of which there must be one. -/
def readDigitRun? (cs : List Char) : Option (List Char × List Char) :=
  let digits := cs.takeWhile Text.isDigit
  if digits.isEmpty then none else some (digits, cs.dropWhile Text.isDigit)

/-- Reads the digits before a fraction: a leading zero stands alone. -/
def readIntegral? : List Char → Option (List Char × List Char)
  | '0' :: cs => some (['0'], cs)
  | cs => readDigitRun? cs

def readFraction? : List Char → Option (List Char × List Char)
  | '.' :: cs => (readDigitRun? cs).map fun (digits, rest) => ('.' :: digits, rest)
  | cs => some ([], cs)

def readExponent? : List Char → Option (List Char × List Char)
  | c :: cs =>
    if c = 'e' ∨ c = 'E' then
      match cs with
      | '+' :: rest => (readDigitRun? rest).map fun (digits, rest) => (c :: '+' :: digits, rest)
      | '-' :: rest => (readDigitRun? rest).map fun (digits, rest) => (c :: '-' :: digits, rest)
      | rest => (readDigitRun? rest).map fun (digits, rest) => (c :: digits, rest)
    else some ([], c :: cs)
  | [] => some ([], [])

/-- Reads a number without its sign. -/
def readMagnitude? (cs : List Char) : Option (List Char × Bool × List Char) := do
  let (integral, cs) ← readIntegral? cs
  let (fraction, cs) ← readFraction? cs
  let (exponent, cs) ← readExponent? cs
  return (integral ++ fraction ++ exponent, fraction.isEmpty && exponent.isEmpty, cs)

def readNumber? : List Char → Option (Number × List Char)
  | '-' :: cs => do
    let (literal, _, rest) ← readMagnitude? cs
    return (.other (String.ofList ('-' :: literal)), rest)
  | cs => do
    let (literal, isWhole, rest) ← readMagnitude? cs
    if isWhole then return (.whole (Text.digitsValue 0 literal), rest)
    else return (.other (String.ofList literal), rest)

/-- Takes a given word off the front. -/
def readWord? (word : List Char) (v : Value) (cs : List Char) : Option (Value × List Char) :=
  if word.isPrefixOf cs then some (v, cs.drop word.length) else none

mutual

/-- Reads a value, blanks before it allowed. -/
def readValue? : Nat → List Char → Option (Value × List Char)
  | 0, _ => none
  | fuel + 1, cs =>
    match skipBlanks cs with
    | [] => none
    | c :: rest =>
      if c = '"' then (readString? [] rest).map fun (s, rest) => (.string s, rest)
      else if c = '[' then
        match skipBlanks rest with
        | ']' :: rest => some (.array [], rest)
        | rest => (readItems? fuel rest).map fun (vs, rest) => (.array vs, rest)
      else if c = '\x7b' then
        match skipBlanks rest with
        | '\x7d' :: rest => some (.object [], rest)
        | rest => (readMembers? fuel rest).map fun (ms, rest) => (.object ms, rest)
      else if c = 'n' then readWord? "null".toList .null (c :: rest)
      else if c = 't' then readWord? "true".toList (.bool true) (c :: rest)
      else if c = 'f' then readWord? "false".toList (.bool false) (c :: rest)
      else (readNumber? (c :: rest)).map fun (n, rest) => (.number n, rest)

def readItems? : Nat → List Char → Option (List Value × List Char)
  | 0, _ => none
  | fuel + 1, cs =>
    match readValue? fuel cs with
    | none => none
    | some (v, rest) =>
      match skipBlanks rest with
      | ',' :: rest => (readItems? fuel rest).map fun (vs, rest) => (v :: vs, rest)
      | ']' :: rest => some ([v], rest)
      | _ => none

def readMembers? : Nat → List Char → Option (List (String × Value) × List Char)
  | 0, _ => none
  | fuel + 1, cs =>
    match skipBlanks cs with
    | '"' :: rest =>
      match readString? [] rest with
      | none => none
      | some (k, rest) =>
        match skipBlanks rest with
        | ':' :: rest =>
          match readValue? fuel rest with
          | none => none
          | some (v, rest) =>
            match skipBlanks rest with
            | ',' :: rest => (readMembers? fuel rest).map fun (ms, rest) => ((k, v) :: ms, rest)
            | '\x7d' :: rest => some ([(k, v)], rest)
            | _ => none
        | _ => none
    | _ => none

end

/-- Reads a text that holds one value and blanks. -/
def parse? (s : String) : Option Value :=
  let cs := s.toList
  match readValue? (cs.length + 1) cs with
  | some (v, rest) => if (skipBlanks rest).isEmpty then some v else none
  | none => none

end LineScope.Json
