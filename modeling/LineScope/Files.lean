import LineScope.Config
import LineScope.Text.Utf8

/-!
# Files

What the commands ask of a file system, and a file system held in memory.
-/
namespace LineScope

inductive ReadFault where
  | missing
  | directory
  | notDirectory
  | nameTooLong
  | notText
  | other (reason : String)
  deriving DecidableEq, Repr

def ReadFault.message : ReadFault → String
  | .missing => "No such file or directory (os error 2)"
  | .directory => "Is a directory (os error 21)"
  | .notDirectory => "Not a directory (os error 20)"
  | .nameTooLong => "File name too long (os error 36)"
  | .notText => "stream did not contain valid UTF-8"
  | .other reason => reason

def ReadFault.toError (f : ReadFault) : Error := ⟨.io, f.message⟩

/-- A file system as the commands see it, relative paths being taken from the working directory. -/
structure Files where
  read : FilePath → Except ReadFault (List UInt8)
  present : FilePath → Except ReadFault Bool

namespace Files

/-- The files whose contents are known; there are no others. -/
def ofContents (contents : List (FilePath × Except ReadFault (List UInt8))) : Files where
  read path := (contents.lookup path).getD (.error .missing)
  present path :=
    match contents.lookup path with
    | none => .ok false
    | some (.ok _) => .ok true
    | some (.error .missing) => .ok false
    | some (.error .directory) => .ok true
    | some (.error fault) => .error fault

def readText (files : Files) (path : FilePath) : Except ReadFault String := do
  match Text.Utf8.decode? (← files.read path) with
  | some text => return text
  | none => throw .notText

end Files

namespace Config

/-- Why no configuration was found. -/
inductive Trouble where
  | unread (fault : ReadFault)
  | rejected (rejection : Rejection)
  deriving DecidableEq, Repr

def Trouble.toError : Trouble → Error
  | .unread fault => fault.toError
  | .rejected rejection => rejection.toError

/-- The configuration in a file (`Config::load`). -/
def load (files : Files) (path : FilePath) : Except Trouble Config :=
  match files.readText path with
  | .error fault => .error (.unread fault)
  | .ok text =>
    match parse text with
    | .error rejection => .error (.rejected rejection)
    | .ok config => .ok config

/-- The configuration in the file that was asked for, else in the one with the usual name if there is
one in the directory, else the empty one (`Config::discover`). -/
def discover (files : Files) (path : Option FilePath) (dir : FilePath) : Except Trouble Config :=
  match path with
  | some path => load files path
  | none =>
    let usual := dir.join (.ofText fileName)
    match files.present usual with
    | .error fault => .error (.unread fault)
    | .ok true => load files usual
    | .ok false => .ok empty

end Config

/-! ## A file system in memory -/

inductive FileEntry where
  | file (bytes : List UInt8)
  | directory
  deriving DecidableEq, Repr

/-- A file system in memory: where the working directory is, and its entries by the parts of their paths. The
directories on the way to an entry exist too. -/
structure Disk where
  home : FilePath
  entries : List (List (List Char) × FileEntry)

namespace Disk

def ofEntries (home : FilePath) (entries : List (FilePath × FileEntry)) : Disk :=
  ⟨home, entries.map fun (path, entry) => (path.parts, entry)⟩

/-- What stands at the place that the parts lead to. -/
def lookup (d : Disk) (parts : List (List Char)) : Option FileEntry :=
  if parts.isEmpty then some .directory
  else
    match d.entries.lookup parts with
    | some entry => some entry
    | none => if d.entries.any (parts.isPrefixOf ·.1) then some .directory else none

def partLimit : Nat := 255

def pathLimit : Nat := 4095

/-- Follows parts from a directory. The directories above the working directory hold nothing else that is
known. -/
def walk (d : Disk) : List (List Char) → List (List Char) → Except ReadFault FileEntry
  | here, [] =>
    match d.lookup here with
    | some entry => .ok entry
    | none => .error .missing
  | here, part :: parts =>
    match d.lookup here with
    | none => .error .missing
    | some (.file _) => .error .notDirectory
    | some .directory =>
      if part = ['.', '.'] then
        if here.isEmpty then
          if parts.all (· = ['.', '.']) then .ok .directory else .error .missing
        else walk d here.dropLast parts
      else if partLimit < part.length then .error .nameTooLong
      else walk d (here ++ [part]) parts

/-- Whether a path says that it leads to a directory. -/
def namesDirectory (path : FilePath) : Bool :=
  match (Path.splitAt '/' (Path.ofBytes path.bytes)).getLast? with
  | some last => last = [] || last = ['.'] || last = ['.', '.']
  | none => false

/-- The parts of a path as seen from the working directory. An absolute path that does not go through it leads to
nothing that is known. -/
def fromHome? (d : Disk) (path : FilePath) : Option (List (List Char)) :=
  if !path.isAbsolute then some path.parts
  else if d.home.parts.isPrefixOf path.parts then some (path.parts.drop d.home.parts.length)
  else none

/-- What a path leads to. The empty path leads to the working directory. -/
def find (d : Disk) (path : FilePath) : Except ReadFault FileEntry :=
  if pathLimit < path.bytes.length then .error .nameTooLong
  else
    match d.fromHome? path with
    | none => .error .missing
    | some parts => do
      match ← d.walk [] parts with
      | .file bytes => if namesDirectory path then throw .notDirectory else return .file bytes
      | .directory => return .directory

def files (d : Disk) : Files where
  read path := do
    match ← d.find path with
    | .file bytes => return bytes
    | .directory => throw .directory
  present path :=
    match d.find path with
    | .ok _ => .ok true
    | .error .missing => .ok false
    | .error fault => .error fault

end Disk

end LineScope
