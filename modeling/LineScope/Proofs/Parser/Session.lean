import LineScope.Parser.Handle

/-!
# A handle has no memory

The engine inside a handle does have one: a parse that the clock stops leaves it halted in the middle of
its text, and the next parse may go on with that text in place of its own. A handle makes its engine
fresh again after each parse that gave no tree, and a parse that gave one has left it fresh.

So every call leaves the handle as it was made, whatever state it found the engine in (`serve_handle`).
In a session, which is any sequence of calls on one handle with any verdicts of the clock, each call finds
a new handle and answers as a new handle does (`session_forgets`). A call that ends in an overflow is no
exception: the engine is back in place before the tree is searched.
-/
namespace LineScope

/-- A parse that gave a tree has left the engine fresh, also if it found it halted. -/
theorem Engine.fresh_of_tree {engine : Engine} {language : Language} {state state' : EngineState}
    {text : String} {verdict : Verdict} {tree : SourceTree}
    (h : engine.parse language state text verdict = (state', some tree)) : state' = .fresh := by
  cases verdict with
  | inTime => cases state <;> (cases h; rfl)
  | late => cases state <;> cases h

namespace Handle

inductive Request where
  | parse (text : String)
  | check (text : String)
  | context (text : String) (range : LineRange)

inductive Answer where
  | parsed (outcome : Except Error SourceTree)
  | checked (validity : Validity)
  | enclosed (outcome : Result (Option Summary))

/-- One call under a verdict of the clock: the handle afterwards and the answer. -/
def serve (engine : Engine) (h : Handle) (verdict : Verdict) : Request → Handle × Answer
  | .parse text =>
    let (h', outcome) := h.parse engine verdict text
    (h', .parsed outcome)
  | .check text =>
    let (h', validity) := h.check engine verdict text
    (h', .checked validity)
  | .context text range =>
    let (h', outcome) := h.context engine verdict text range
    (h', .enclosed outcome)

/-- Calls one after the other, each under a verdict of its own: the handle after the last one, and the
answers in the order of the calls. -/
def session (engine : Engine) (h : Handle) : List (Verdict × Request) → Handle × List Answer
  | [] => (h, [])
  | (verdict, request) :: calls =>
    let (h', answer) := h.serve engine verdict request
    let (h'', answers) := h'.session engine calls
    (h'', answer :: answers)

variable (engine : Engine)

/-! ## One call -/

theorem parse_handle (h : Handle) (verdict : Verdict) (text : String) :
    (h.parse engine verdict text).1 = make h.language h.options := by
  unfold parse
  split
  · rename_i hparse
    rw [Engine.fresh_of_tree hparse]
    rfl
  · rfl

/-- **One call** leaves the handle as it was made. -/
theorem serve_handle (h : Handle) (verdict : Verdict) (request : Request) :
    (h.serve engine verdict request).1 = make h.language h.options := by
  cases request with
  | parse text => exact parse_handle engine h verdict text
  | check text => exact parse_handle engine h verdict text
  | context text range => exact parse_handle engine h verdict text

/-! ## A session -/

theorem session_cons (h : Handle) (call : Verdict × Request) (calls : List (Verdict × Request)) :
    h.session engine (call :: calls) =
      let served := h.serve engine call.1 call.2
      ((served.1.session engine calls).1, served.2 :: (served.1.session engine calls).2) := rfl

/-- **A session** leaves a new handle new, and every call in it finds a new handle. -/
theorem session_make (language : Language) (options : ParseOptions)
    (calls : List (Verdict × Request)) :
    (make language options).session engine calls =
      (make language options,
        calls.map fun call => ((make language options).serve engine call.1 call.2).2) := by
  induction calls with
  | nil => rfl
  | cons call calls ih =>
    have hserved : ((make language options).serve engine call.1 call.2).1 = make language options :=
      serve_handle engine _ call.1 call.2
    simp only [session_cons, hserved, ih, List.map_cons]

/-- **A handle has no memory.** In every session on a new handle, with any texts and any verdicts of the
clock, the engine is fresh after each call, and each call is answered as it would be by a new handle with
the same options under the same verdict. -/
theorem session_forgets (language : Language) (options : ParseOptions)
    (calls : List (Verdict × Request)) :
    (∀ k, ((make language options).session engine (calls.take k)).1.state = .fresh) ∧
    ((make language options).session engine calls).2 =
      calls.map fun call => ((make language options).serve engine call.1 call.2).2 := by
  constructor
  · intro k
    rw [session_make]
    rfl
  · rw [session_make]

/-- The engine alone does not forget: a parse after a late one goes on with the text before. -/
example (language : Language) (old new : String) :
    engine.parse language (engine.parse language .fresh old .late).1 new .inTime =
      (.fresh, some (engine.resumed language old new)) := rfl

end Handle

end LineScope
