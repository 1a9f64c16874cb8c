import LineScope.Json.Value

/-!
# Writing JSON

Two layouts of one value: compact, with no blanks, and indented, two blanks a level. Text is escaped
only where JSON demands it.
-/
namespace LineScope.Json

def hexDigit (d : Nat) : Char := if d < 10 then Char.ofNat (48 + d) else Char.ofNat (87 + d)

/-- A character inside a JSON string. -/
def escapeChar (c : Char) : List Char :=
  if c = '"' then ['\\', '"']
  else if c = '\\' then ['\\', '\\']
  else if c = '\n' then ['\\', 'n']
  else if c = '\r' then ['\\', 'r']
  else if c = '\t' then ['\\', 't']
  else if c = '\x08' then ['\\', 'b']
  else if c = '\x0c' then ['\\', 'f']
  else if c.toNat < 0x20 then
    ['\\', 'u', '0', '0', hexDigit (c.toNat / 16), hexDigit (c.toNat % 16)]
  else [c]

def quote (s : String) : String :=
  "\"" ++ String.ofList (s.toList.flatMap escapeChar) ++ "\""

def Number.render : Number → String
  | .whole n => Text.decimal n
  | .other literal => literal

mutual

/-- The value with no blanks. -/
def Value.compact : Value → String
  | .null => "null"
  | .bool true => "true"
  | .bool false => "false"
  | .number n => n.render
  | .string s => quote s
  | .array items => "[" ++ compactItems items ++ "]"
  | .object members => "\x7b" ++ compactMembers members ++ "\x7d"

def compactItems : List Value → String
  | [] => ""
  | [v] => v.compact
  | v :: vs => v.compact ++ "," ++ compactItems vs

def compactMembers : List (String × Value) → String
  | [] => ""
  | [(k, v)] => quote k ++ ":" ++ v.compact
  | (k, v) :: ms => quote k ++ ":" ++ v.compact ++ "," ++ compactMembers ms

end

/-- The start of a new line at a depth of nesting. -/
def newline (depth : Nat) : String := "\n" ++ String.ofList (List.replicate (2 * depth) ' ')

mutual

/-- The value indented, with nested lines at `depth + 1`. -/
def Value.prettyAt (depth : Nat) : Value → String
  | .null => "null"
  | .bool true => "true"
  | .bool false => "false"
  | .number n => n.render
  | .string s => quote s
  | .array [] => "[]"
  | .array (v :: vs) =>
    "[" ++ newline (depth + 1) ++ prettyItems (depth + 1) (v :: vs) ++ newline depth ++ "]"
  | .object [] => "\x7b\x7d"
  | .object (m :: ms) =>
    "\x7b" ++ newline (depth + 1) ++ prettyMembers (depth + 1) (m :: ms) ++ newline depth ++ "\x7d"

def prettyItems (depth : Nat) : List Value → String
  | [] => ""
  | [v] => v.prettyAt depth
  | v :: vs => v.prettyAt depth ++ "," ++ newline depth ++ prettyItems depth vs

def prettyMembers (depth : Nat) : List (String × Value) → String
  | [] => ""
  | [(k, v)] => quote k ++ ": " ++ v.prettyAt depth
  | (k, v) :: ms =>
    quote k ++ ": " ++ v.prettyAt depth ++ "," ++ newline depth ++ prettyMembers depth ms

end

def Value.pretty (v : Value) : String := v.prettyAt 0

end LineScope.Json
