import LineScope.Text.Utf8

/-!
# Paths

A path is text whose parts are divided by slashes. Empty parts and single dots say nothing. The file
name is the last part, unless that is a step up; its extension is what follows its last dot, unless
that dot is its first character.

Files may be called by bytes that are no text. Such a path is cut in the same places, since a slash and a
dot are one byte each and no part of another character.
-/
namespace LineScope.Path

/-- The pieces of characters between the separators. -/
def splitAt (sep : Char) : List Char → List (List Char)
  | [] => [[]]
  | c :: cs =>
    if c = sep then
      [] :: splitAt sep cs
    else
      match splitAt sep cs with
      | [] => [[c]]
      | piece :: pieces => (c :: piece) :: pieces

/-- The parts of a path that say something. -/
def parts (path : String) : List (List Char) :=
  (splitAt '/' path.toList).filter fun part => part ≠ [] && part ≠ ['.']

def fileName? (path : String) : Option (List Char) :=
  match (parts path).getLast? with
  | some name => if name = ['.', '.'] then none else some name
  | none => none

/-- What follows the last dot of a file name, unless that dot is its first character. -/
def extensionOf? (name : List Char) : Option (List Char) :=
  match name.reverse.dropWhile (· ≠ '.') with
  | [] => none
  | _ :: stem => if stem = [] then none else some (name.reverse.takeWhile (· ≠ '.')).reverse

def extension? (path : String) : Option String :=
  ((fileName? path).bind extensionOf?).map String.ofList

/-! ## Paths of any bytes -/

/-- The characters that stand for bytes: a byte is the number of its character. -/
def ofBytes (bs : List UInt8) : List Char := bs.map fun b => Char.ofNat b.toNat

/-- The bytes that such characters stand for. -/
def toBytes (cs : List Char) : List UInt8 := cs.map fun c => UInt8.ofNat c.toNat

/-- The extension of the file that a path of any bytes leads to, where the extension is text. -/
def extensionOfBytes? (path : List UInt8) : Option String :=
  (extension? (String.ofList (ofBytes path))).bind fun ext => Text.Utf8.decode? (toBytes ext.toList)

end LineScope.Path

namespace LineScope

/-- A path as the system has it: bytes, which may be no text. -/
structure FilePath where
  bytes : List UInt8
  deriving DecidableEq, Repr

namespace FilePath

def ofText (s : String) : FilePath := ⟨Text.Utf8.encode s⟩

/-- The path as it is shown, with replacements for what is no text. -/
def display (p : FilePath) : String := Text.Utf8.decodeLossy p.bytes

/-- Its parts that say something. They are made of the characters that stand for bytes. -/
def parts (p : FilePath) : List (List Char) := Path.parts (String.ofList (Path.ofBytes p.bytes))

def isAbsolute (p : FilePath) : Bool := p.bytes.head? == some 0x2F

/-- The path `p` taken from a directory. -/
def join (dir p : FilePath) : FilePath :=
  if p.isAbsolute then p
  else if dir.bytes = [] ∨ dir.bytes.getLast? = some 0x2F then ⟨dir.bytes ++ p.bytes⟩
  else ⟨dir.bytes ++ 0x2F :: p.bytes⟩

end FilePath

end LineScope
