import LineScope.Text.Numeral
import LineScope.Word

/-!
# Errors

An error is a category, which says what a caller can do about it, and a reason in words. Finding no
enclosing node is not an error.
-/
namespace LineScope

inductive Category where
  /-- A grammar could not be bound to a parser. -/
  | initialization
  /-- The request makes no sense. -/
  | invalidInput
  /-- The parser gave up on the text. -/
  | parse
  /-- A file could not be read. -/
  | io
  /-- The configuration or an argument is wrong. -/
  | config
  /-- A mistake of the program itself. -/
  | internal
  deriving DecidableEq, Repr

/-- How messages of the category begin. -/
def Category.heading : Category → String
  | .initialization => "failed to initialize parser"
  | .invalidInput => "invalid input"
  | .parse => "parse failed"
  | .io => "I/O error"
  | .config => "configuration error"
  | .internal => "internal error"

/-- Whether the caller can mend it by changing the request (`is_input_error`). -/
def Category.isRequest : Category → Bool
  | .invalidInput => true
  | .config => true
  | _ => false

structure Error where
  category : Category
  reason : String
  deriving DecidableEq, Repr

/-- The full text: the category's heading and the reason. -/
def Error.message (e : Error) : String := e.category.heading ++ ": " ++ e.reason

/-- The texts of what lies beneath the error. Only a failed read has something beneath it. -/
def Error.sources (e : Error) : List String :=
  match e.category with
  | .io => [e.reason]
  | _ => []

/-- The text for a place that names the category itself (`strip_category`): without the heading where the request is at
fault, and in full otherwise. -/
def Error.bareMessage (e : Error) : String :=
  if e.category.isRequest then e.reason else e.message

/-- Bytes that are not there: they were to be cut out between two places, and these are not both among the
bytes, or not in this order. -/
structure BadSlice where
  first : Nat
  last : Nat
  length : Nat
  deriving DecidableEq, Repr

def BadSlice.message (s : BadSlice) : String :=
  if s.length < s.first then
    "range start index " ++ Text.decimal s.first ++ " out of range for slice of length " ++
      Text.decimal s.length
  else if s.length < s.last then
    "range end index " ++ Text.decimal s.last ++ " out of range for slice of length " ++
      Text.decimal s.length
  else "slice index starts at " ++ Text.decimal s.first ++ " but ends at " ++ Text.decimal s.last

/-- Why a computation gave no result. It panicked, on an addition that left its word or on bytes that are not
there, or there is an error to report. -/
inductive Failure where
  | overflow
  | outside (s : BadSlice)
  | reported (e : Error)
  deriving DecidableEq, Repr

/-- The outcome of a computation that can fail in any of these ways. -/
abbrev Result := Except Failure

/-- A checked computation as one that can also fail in other ways. -/
def Result.ofChecked {α : Type} : Checked α → Result α
  | .ok a => .ok a
  | .error _ => .error .overflow

/-- A computation with reported errors as one that can also fail in other ways. -/
def Result.ofReported {α : Type} : Except Error α → Result α
  | .ok a => .ok a
  | .error e => .error (.reported e)

end LineScope
