import LineScope.Grammar.CSharp.Rules
import LineScope.Grammar.CSharp.Scanner
import LineScope.Grammar.Python.Rules
import LineScope.Grammar.Python.Scanner
import LineScope.Grammar.Rust.Rules
import LineScope.Grammar.Rust.Scanner
import LineScope.Parser.Handle

/-!
# The bundled grammars

The engine of the grammars that come with the library, and the clock that goes by its steps.
-/
namespace LineScope

namespace Grammar

def CSharp.tables : Thunk Tables := Thunk.mk fun _ => .ofRules CSharp.grammar

def Python.tables : Thunk Tables := Thunk.mk fun _ => .ofRules Python.grammar

def Rust.tables : Thunk Tables := Thunk.mk fun _ => .ofRules Rust.grammar

def tree (language : Language) (text : String) : SourceTree :=
  match language with
  | .python => parse Python.tables.get Python.scanner text
  | .rust => parse Rust.tables.get Rust.scanner text
  | .csharp => parse CSharp.tables.get CSharp.scanner text

/-- Whether the parse of a text looks up a number of actions or more. -/
def takesActions (language : Language) (count : Nat) (text : String) : Bool :=
  match language with
  | .python => looksUp Python.tables.get Python.scanner count text
  | .rust => looksUp Rust.tables.get Rust.scanner count text
  | .csharp => looksUp CSharp.tables.get CSharp.scanner count text

end Grammar

/-- The engine of the bundled grammars. A parse that was stopped goes on with the text it was
stopped in. -/
def Engine.bundled : Engine where
  tree := Grammar.tree
  resumed language old _ := Grammar.tree language old

namespace Clock

/-- How many actions a parse looks up between two looks at the clock. -/
def actionsPerLook : Nat := 100

/-- How many actions the nominal clock allows a parse per microsecond. -/
def actionsPerMicro : Nat := 10

/-- The number of actions at which a parse first sees that its time is over. -/
def lastLook (timeout : Nat) : Nat :=
  actionsPerLook * (timeout * actionsPerMicro / actionsPerLook + 1)

/-- The nominal clock: a parse runs at a steady pace and now and then looks at the clock, and is late
when a look finds that it has taken longer than it may. A timeout of zero is none. -/
def nominal : Clock where
  verdict language options text :=
    match options.timeoutMicros with
    | none => .inTime
    | some timeout =>
      if timeout ≠ 0 ∧ Grammar.takesActions language (lastLook timeout.toNat) text then .late
      else .inTime

end Clock

end LineScope
