import LineScope.Parser.Registry

/-!
# Concurrent calls for handles

Many callers may ask a registry for handles at once. A call waits until its language has an outcome or
until it may make the handle itself, which one call a language does at a time. A call may be dropped
while it waits or while it makes the handle; then another call may make it.
-/
namespace LineScope

/-- How far a call has come. -/
inductive Phase where
  | waiting
  | initializing
  | returned (answer : Except Error Registered)
  | dropped

/-- A call for the handle of a language. -/
structure Call where
  language : Language
  phase : Phase

/-- A registry and the calls on it so far, a call's number being its place. -/
structure Calls where
  registry : Registry
  calls : List Call

namespace Calls

inductive Event where
  /-- A new call asks for a handle. -/
  | ask (language : Language)
  /-- A waiting call starts to make the handle. -/
  | start (call : Nat)
  /-- The making of a handle ends. -/
  | finish (call : Nat) (given : Except Error Handle)
  /-- A waiting call takes what is kept. -/
  | wake (call : Nat)
  /-- A caller goes away before it is answered. -/
  | drop (call : Nat)

/-- Whether a call is making the handle of a language. -/
def Call.makes (language : Language) (c : Call) : Bool :=
  c.language == language && match c.phase with
    | .initializing => true
    | _ => false

/-- Whether the handle of a language is being made. -/
def busy (s : Calls) (language : Language) : Bool := s.calls.any (Call.makes language)

def put (s : Calls) (call : Nat) (c : Call) (phase : Phase) : Calls :=
  { s with calls := s.calls.set call { c with phase } }

/-- One event, where it can happen. -/
def step? (s : Calls) : Event → Option Calls
  | .ask language => some { s with calls := s.calls ++ [⟨language, .waiting⟩] }
  | .start call =>
    match s.calls[call]? with
    | some c =>
      match c.phase, s.registry.kept c.language, s.busy c.language with
      | .waiting, none, false => some (s.put call c .initializing)
      | _, _, _ => none
    | none => none
  | .finish call given =>
    match s.calls[call]? with
    | some c =>
      match c.phase with
      | .initializing =>
        let (registry, outcome) := s.registry.complete c.language given
        some { s.put call c (.returned outcome.answer) with registry }
      | _ => none
    | none => none
  | .wake call =>
    match s.calls[call]? with
    | some c =>
      match c.phase, s.registry.kept c.language with
      | .waiting, some outcome => some (s.put call c (.returned outcome.answer))
      | _, _ => none
    | none => none
  | .drop call =>
    match s.calls[call]? with
    | some c =>
      match c.phase with
      | .waiting => some (s.put call c .dropped)
      | .initializing => some (s.put call c .dropped)
      | _ => none
    | none => none

/-- One event, where it can happen; nothing changes otherwise. -/
def step (s : Calls) (e : Event) : Calls := (s.step? e).getD s

/-- Lets a waiting call come to its end: it takes what is kept, or makes the handle. -/
def settle (initializer : Initializer) (s : Calls) (call : Nat) : Calls :=
  match s.calls[call]? with
  | some c =>
    match s.step? (.wake call) with
    | some s' => s'
    | none => (s.step (.start call)).step (.finish call (initializer c.language s.registry.options))
  | none => s

/-- The answers of the calls that came to their end, in the order of the calls. -/
def answers (s : Calls) : List (Except Error Registered) :=
  s.calls.filterMap fun c =>
    match c.phase with
    | .returned answer => some answer
    | _ => none

end Calls

/-- The handles for languages that are all asked for at once. -/
def Registry.handleAll (initializer : Initializer) (r : Registry) (languages : List Language) :
    Registry × List (Except Error Registered) :=
  let asked := languages.foldl (fun s l => s.step (.ask l)) (⟨r, []⟩ : Calls)
  let settled := (List.range languages.length).foldl (Calls.settle initializer) asked
  (settled.registry, settled.answers)

end LineScope
