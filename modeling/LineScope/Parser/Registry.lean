import LineScope.Parser.Handle

/-!
# The parser registry

One handle a language, made on first use. What making it gave, a handle or a failure, is kept for good:
a failure is remembered by its reason and never tried again.
-/
namespace LineScope

/-- A handle under the number it was given when it was made. -/
structure Registered where
  id : Nat
  handle : Handle
  deriving DecidableEq, Repr

/-- What is kept of the making of a handle: the handle, or why there is none. -/
abbrev Outcome := Except String Registered

/-- The reason that is remembered of an error: that of a failed initialization, and the full text of any
other. -/
def Error.remembered (e : Error) : String :=
  if e.category = .initialization then e.reason else e.message

/-- What a caller is given from a kept outcome. -/
def Outcome.answer : Outcome → Except Error Registered
  | .ok handle => .ok handle
  | .error reason => .error ⟨.initialization, reason⟩

/-- How a handle is made; it may fail. -/
abbrev Initializer := Language → ParseOptions → Except Error Handle

/-- The initializer for the grammars that come with the library: it does not fail. -/
def Initializer.bundled : Initializer := fun language options => .ok (.make language options)

/-- A registry (`ParserRegistry`): the options of its handles, what is kept for each language, and how many handles were
made. -/
structure Registry where
  options : ParseOptions
  kept : Language → Option Outcome
  made : Nat

namespace Registry

def new (options : ParseOptions) : Registry := ⟨options, fun _ => none, 0⟩

def keep (r : Registry) (language : Language) (outcome : Outcome) : Registry :=
  { r with kept := fun l => if l = language then some outcome else r.kept l }

/-- Numbers what an initializer gave and keeps it. -/
def complete (r : Registry) (language : Language) (given : Except Error Handle) :
    Registry × Outcome :=
  match given with
  | .ok handle =>
    let outcome : Outcome := .ok ⟨r.made, handle⟩
    ({ r.keep language outcome with made := r.made + 1 }, outcome)
  | .error e =>
    let outcome : Outcome := .error e.remembered
    (r.keep language outcome, outcome)

/-- The handle for a language, made on first use (`handle_with`). -/
def handle (initializer : Initializer) (r : Registry) (language : Language) :
    Registry × Except Error Registered :=
  match r.kept language with
  | some outcome => (r, outcome.answer)
  | none =>
    let (r', outcome) := r.complete language (initializer language r.options)
    (r', outcome.answer)

def tooEarly (language : Language) : Error :=
  ⟨.invalidInput, language.name ++ " parser used before initialization"⟩

/-- The handle for a language, which must have been made before. -/
def get (r : Registry) (language : Language) : Except Error Registered :=
  match r.kept language with
  | some outcome => outcome.answer
  | none => .error (tooEarly language)

/-- Whether a text parses, by the language's handle. -/
def check (engine : Engine) (clock : Clock) (r : Registry) (language : Language) (text : String) :
    Registry × Except Error Validity :=
  match r.get language with
  | .error e => (r, .error e)
  | .ok found =>
    let (handle, validity) :=
      found.handle.check engine (clock.verdict language found.handle.options text) text
    (r.keep language (.ok { found with handle }), .ok validity)

/-- The node of a text that encloses the range, by the language's handle. -/
def context (engine : Engine) (clock : Clock) (r : Registry) (language : Language) (text : String)
    (range : LineRange) : Registry × Result (Option Summary) :=
  match r.get language with
  | .error e => (r, .error (.reported e))
  | .ok found =>
    let (handle, context) :=
      found.handle.context engine (clock.verdict language found.handle.options text) text range
    (r.keep language (.ok { found with handle }), context)

end Registry

end LineScope
