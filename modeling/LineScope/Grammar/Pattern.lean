/-!
# Patterns of tokens

Regular expressions over characters, and the tokens that they describe.
-/
namespace LineScope.Grammar

/-- A set of texts. -/
inductive Pattern where
  /-- The empty text. -/
  | nothing
  /-- One character with a property. -/
  | one (accepts : Char → Bool)
  /-- A text of the first and then one of the second. -/
  | seq (first second : Pattern)
  /-- A text of either. -/
  | alt (first second : Pattern)
  /-- Any number of texts, one after the other. -/
  | many (body : Pattern)

namespace Pattern

def char (c : Char) : Pattern := .one (· == c)

def oneOf (chars : String) : Pattern :=
  let chars := chars.toList
  .one chars.contains

/-- A character that is none of those of a text. The zero character, which stands for the end of a text,
is not among them either. -/
def noneOf (chars : String) : Pattern :=
  let chars := chars.toList
  .one fun c => c != '\x00' && !chars.contains c

def range (first last : Char) : Pattern := .one fun c => first ≤ c && c ≤ last

def all : List Pattern → Pattern
  | [] => .nothing
  | [p] => p
  | p :: ps => .seq p (all ps)

def any : List Pattern → Pattern
  | [] => .one fun _ => false
  | [p] => p
  | p :: ps => .alt p (any ps)

def text (s : String) : Pattern := all (s.toList.map char)

def opt (p : Pattern) : Pattern := .alt p .nothing

def many1 (p : Pattern) : Pattern := .seq p (.many p)

def times (n : Nat) (p : Pattern) : Pattern := all (List.replicate n p)

/-- A pattern up to a number of times. -/
def upTo : Nat → Pattern → Pattern
  | 0, _ => .nothing
  | n + 1, p => .opt (.seq p (upTo n p))

/-- Anything up to the end of the line. -/
def line : Pattern := .many (noneOf "\n")

def digit : Pattern := range '0' '9'

def hexDigit : Pattern := any [digit, range 'a' 'f', range 'A' 'F']

instance : Coe String Pattern := ⟨text⟩

end Pattern

structure Token where
  pattern : Pattern
  /-- Whether the token must follow the one before it without a gap. -/
  immediate : Bool
  /-- Of tokens that match, the one with the higher precedence is taken. -/
  precedence : Int
  /-- The texts of a token that is one of a few; none of one that a pattern describes. -/
  texts : List String

namespace Token

/-- A token that is always the same text. -/
def ofText (s : String) : Token := ⟨.text s, false, 0, [s]⟩

/-- A token that is one of some texts. -/
def ofTexts (texts : List String) : Token := ⟨.any (texts.map .text), false, 0, texts⟩

/-- A token that matches a pattern. -/
def ofPattern (p : Pattern) : Token := ⟨p, false, 0, []⟩

/-- A token at a precedence. -/
def withPrecedence (precedence : Int) (t : Token) : Token := { t with precedence }

/-- A token that follows without a gap. -/
def joined (t : Token) : Token := { t with immediate := true }

/-- The text of a token that is always the same. -/
def literal (t : Token) : Option String :=
  match t.texts with
  | [s] => some s
  | _ => none

/-- How tokens of one precedence that match the same text are ranked: a given text goes before a
pattern, and of two the one that must follow without a gap goes first. -/
def rank (t : Token) : Nat := (if t.literal.isSome then 2 else 0) + (if t.immediate then 1 else 0)

end Token

end LineScope.Grammar
