import LineScope.Parser.Source

/-!
# Parser handles

A handle owns one grammar engine. An engine that the clock stops stays in the middle of its text, and a
next parse would go on with that text; so the handle makes the engine fresh again after every parse
that gave no tree, and keeps no memory of it.
-/
namespace LineScope

structure ParseOptions where
  /-- A parse that takes longer is given up; none lets every parse finish. -/
  timeoutMicros : Option UInt64
  deriving DecidableEq, Repr

/-- What the clock says of one parse. -/
inductive Verdict where
  | inTime
  | late
  deriving DecidableEq, Repr

/-- A clock, which says of each text in a language whether its parse ends in time. -/
structure Clock where
  verdict : Language → ParseOptions → String → Verdict

/-- The grammars: the tree of a text parsed from its start, and the tree of a text whose parse was
entered while another one was unfinished. -/
structure Engine where
  tree : Language → String → SourceTree
  resumed : Language → String → String → SourceTree

/-- The state of an engine between calls: fresh, or stopped in the middle of a text. -/
inductive EngineState where
  | fresh
  | halted (text : String)
  deriving DecidableEq, Repr

/-- One parse by an engine in a state. A finished parse leaves it fresh, and a late one halted. -/
def Engine.parse (engine : Engine) (language : Language) (state : EngineState) (text : String) :
    Verdict → EngineState × Option SourceTree
  | .inTime =>
    match state with
    | .fresh => (.fresh, some (engine.tree language text))
    | .halted old => (.fresh, some (engine.resumed language old text))
  | .late =>
    match state with
    | .fresh => (.halted text, none)
    | .halted old => (.halted old, none)

/-- A parser bound to one language's grammar (`ParserHandle`). -/
structure Handle where
  language : Language
  options : ParseOptions
  state : EngineState
  deriving DecidableEq, Repr

namespace Handle

def make (language : Language) (options : ParseOptions) : Handle := ⟨language, options, .fresh⟩

/-- What is said of a parse that gave no tree. -/
def gaveUp (options : ParseOptions) : Error :=
  ⟨.parse, match options.timeoutMicros with
    | some timeout => "parse exceeded timeout of " ++ Text.decimal timeout.toNat ++ " µs"
    | none => ""⟩

/-- Parses a text under the clock's verdict. The engine is fresh again afterwards. -/
def parse (engine : Engine) (verdict : Verdict) (h : Handle) (text : String) :
    Handle × Except Error SourceTree :=
  match engine.parse h.language h.state text verdict with
  | (state, some tree) => ({ h with state }, .ok tree)
  | (_, none) => ({ h with state := .fresh }, .error (gaveUp h.options))

/-- Whether the text parses (`check_valid`). -/
def check (engine : Engine) (verdict : Verdict) (h : Handle) (text : String) : Handle × Validity :=
  let (h', parsed) := h.parse engine verdict text
  (h', .ofParse parsed)

/-- The node of the text that encloses the range (`enclosing_context`). -/
def context (engine : Engine) (verdict : Verdict) (h : Handle) (text : String) (r : LineRange) :
    Handle × Result (Option Summary) :=
  let (h', parsed) := h.parse engine verdict text
  (h', contextOf h.language text parsed r)

/-- The handle as text, without the engine inside it. -/
def describe (h : Handle) : String :=
  "ParserHandle \x7b language: " ++ h.language.title ++ ", options: ParseOptions \x7b timeout_micros: " ++
    (match h.options.timeoutMicros with
      | some timeout => "Some(" ++ Text.decimal timeout.toNat ++ ")"
      | none => "None") ++
    " \x7d, .. \x7d"

end Handle

end LineScope
