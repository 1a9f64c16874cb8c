import LineScope.Text.Quoted
import LineScope.Text.Shortest
import LineScope.Yaml.Node

/-!
# Forms of YAML values

What a node is taken for: a plain scalar may be null, a truth value, a number or a text, and a tag of the
format says which it is.
-/
namespace LineScope.Yaml

inductive Form where
  | null
  | boolean (value : Bool)
  | integer (value : Int)
  /-- An integer that does not fit into a word. -/
  | wideInteger (value : Int)
  | float (value : String)
  | text (value : String)
  | sequence
  | mapping
  deriving DecidableEq, Repr

def renderInteger : Int → String
  | .ofNat n => Text.decimal n
  | .negSucc n => "-" ++ Text.decimal (n + 1)

def Form.describe : Form → String
  | .null => "unit value"
  | .boolean value => "boolean `" ++ (if value then "true" else "false") ++ "`"
  | .integer value => "integer `" ++ renderInteger value ++ "`"
  | .wideInteger value =>
    "integer `" ++ renderInteger value ++ "` as " ++ (if value < 0 then "i128" else "u128")
  | .float value => "floating point `" ++ value ++ "`"
  | .text value => "string " ++ Text.quoted value
  | .sequence => "sequence"
  | .mapping => "map"

/-! ## Plain scalars -/

def isNull (text : String) : Bool := ["null", "Null", "NULL", "~"].contains text

def boolean? (text : String) : Option Bool :=
  if ["true", "True", "TRUE"].contains text then some true
  else if ["false", "False", "FALSE"].contains text then some false
  else none

/-- A digit of a base up to sixteen. -/
def baseDigit? (base : Nat) (c : Char) : Option Nat :=
  (Json.hexValue? c).bind fun d => if d < base then some d else none

/-- Reads one or more digits of a base that make a number below a bound. -/
def readBase? (bound base : Nat) (cs : List Char) : Option Nat := do
  if cs.isEmpty then none
  else
    let n ← cs.foldlM (fun n c => (baseDigit? base c).map (n * base + ·)) 0
    if n < bound then some n else none

/-- Whether digits begin with a zero that does not stand alone; such a text is not a number. -/
def hasLeadingZero (cs : List Char) : Bool :=
  match cs with
  | '0' :: rest => !rest.isEmpty && rest.all Text.isDigit
  | _ => false

/-- Reads digits below a bound: decimal, or hexadecimal, octal or binary with their mark in front. -/
def readMagnitude? (bound : Nat) : List Char → Option Nat
  | '0' :: 'x' :: rest => readBase? bound 16 rest
  | '0' :: 'o' :: rest => readBase? bound 8 rest
  | '0' :: 'b' :: rest => readBase? bound 2 rest
  | cs => if hasLeadingZero cs then none else readBase? bound 10 cs

/-- Reads an unsigned integer below a bound, after at most one plus sign. -/
def readUnsigned? (bound : Nat) (text : String) : Option Nat :=
  match text.toList with
  | '+' :: cs => readMagnitude? bound cs
  | cs => readMagnitude? bound cs

/-- Reads an integer with a minus sign, whose magnitude is at most half a bound. -/
def readNegative? (bound : Nat) (text : String) : Option Int :=
  match text.toList with
  | '-' :: cs => (readMagnitude? (bound / 2 + 1) cs).map fun n => -(n : Int)
  | _ => none

/-- How many values a word has. -/
def wordCount : Nat := 0x10000000000000000

/-- Reads an integer, which fits into a word or takes two. -/
def integer? (text : String) : Option Form :=
  (readUnsigned? wordCount text).map (fun n => .integer n) <|>
    (readNegative? wordCount text).map .integer <|>
    (readUnsigned? (wordCount * wordCount) text).map (fun n => .wideInteger n) <|>
    (readNegative? (wordCount * wordCount) text).map .wideInteger

/-- Reads a number with a fraction or an exponent, or one that is none. -/
def float? (text : String) : Option Form :=
  let (sign, cs) := match text.toList with
    | '+' :: cs => ("", cs)
    | '-' :: cs => ("-", cs)
    | cs => ("", cs)
  if [".inf", ".Inf", ".INF"].contains (String.ofList cs) then some (.float (sign ++ "inf"))
  else if [".nan", ".NaN", ".NAN"].contains text then some (.float "NaN")
  else (Text.readFraction? cs).bind fun d => d.shortest?.map fun s => .float (sign ++ s)

def Form.ofPlain (text : String) : Form :=
  if text = "" || isNull text then .null
  else
    let unsigned := match text.toList with
      | '+' :: cs => cs
      | '-' :: cs => cs
      | cs => cs
    let float := if hasLeadingZero unsigned then none else float? text
    ((boolean? text).map Form.boolean <|> integer? text <|> float).getD (.text text)

/-! ## Tags -/

def coreTag (name : String) : Tag := Text.Utf8.encode ("tag:yaml.org,2002:" ++ name)

/-- What a scalar is; none where its tag says that it is something which it does not spell. That is
given in words. -/
def Form.ofScalar (tag : Option Tag) (style : ScalarStyle) (text : String) : Except String Form :=
  let plain := if style = .plain then Form.ofPlain text else .text text
  match tag with
  | none => .ok plain
  | some tag =>
    let spelled (form : Option Form) (wanted : String) : Except String Form :=
      match form with
      | some form => .ok form
      | none => .error wanted
    if tag = coreTag "bool" then spelled ((boolean? text).map .boolean) "a boolean"
    else if tag = coreTag "int" then spelled (integer? text) "an integer"
    else if tag = coreTag "float" then spelled (float? text) "a float"
    else if tag = coreTag "null" then spelled (if isNull text then some .null else none) "null"
    else if tag.head? = some 0x21 then .ok plain
    else .ok (.text text)

end LineScope.Yaml
