import LineScope.Error
import LineScope.Json.Value
import LineScope.Path
import LineScope.Text.Case

/-!
# Languages

The languages whose grammars are known, their names, and how a file's extension gives its language.
-/
namespace LineScope

/-- A language with a grammar. -/
inductive Language where
  | python
  | rust
  | csharp
  deriving DecidableEq, Repr

namespace Language

/-- Every language, in the order of declaration (`ALL`). -/
def all : List Language := [.python, .rust, .csharp]

/-- The place of the language in `all`. -/
def index : Language → Nat
  | .python => 0
  | .rust => 1
  | .csharp => 2

/-- The language's lowercase name (`as_str`). -/
def name : Language → String
  | .python => "python"
  | .rust => "rust"
  | .csharp => "csharp"

def title : Language → String
  | .python => "Python"
  | .rust => "Rust"
  | .csharp => "CSharp"

/-- The lowercase names the language goes by. -/
def aliases : Language → List String
  | .python => ["python", "py"]
  | .rust => ["rust", "rs"]
  | .csharp => ["csharp", "c#", "cs"]

/-- The extensions of files in the language. -/
def extensions : Language → List String
  | .python => ["py", "pyi"]
  | .rust => ["rs"]
  | .csharp => ["cs"]

/-- A name, in lowercase, that no language goes by. -/
structure Unknown where
  name : String
  deriving DecidableEq, Repr

def Unknown.message (u : Unknown) : String :=
  "unknown language '" ++ u.name ++ "'. Valid languages: python, rust, csharp"

def Unknown.toError (u : Unknown) : Error := ⟨.config, u.message⟩

/-- The language with exactly this name. -/
def ofName? (s : String) : Option Language := all.find? (·.name == s)

/-- The language that goes by this name, in any case (`Language::from_str`). -/
def parse (s : String) : Except Unknown Language :=
  match all.find? (·.aliases.contains (Text.lowercase s)) with
  | some language => .ok language
  | none => .error ⟨Text.lowercase s⟩

/-- The language of files with the extension, in any ASCII case (`from_extension`). -/
def ofExtension? (ext : String) : Option Language :=
  all.find? fun language => language.extensions.any (Text.eqIgnoreAsciiCase · ext)

/-- The language of the file at a path, by its extension (`from_path`). -/
def ofPath? (path : String) : Option Language := (Path.extension? path).bind ofExtension?

/-- The language of the file at a path of any bytes. -/
def ofPathBytes? (path : List UInt8) : Option Language :=
  (Path.extensionOfBytes? path).bind ofExtension?

def toJson (language : Language) : Json.Value := .string language.name

/-- Reads a language: its name, or an object with its name as the only key and nothing in it. -/
def ofJson? : Json.Value → Option Language
  | .string s => ofName? s
  | .object [(key, .null)] => ofName? key
  | _ => none

end Language

end LineScope
