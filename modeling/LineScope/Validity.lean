import LineScope.Error
import LineScope.Text.White

/-!
# Validity

The outcome of a dry run: the text parsed, or it did not and there is something to say about it.
-/
namespace LineScope

/-- The outcome of a dry run. -/
structure Validity where
  valid : Bool
  error : String
  deriving DecidableEq, Repr

/-- What is said of a failure that came without words (`UNKNOWN_ERROR`). -/
def Validity.unknownError : String := "Unknown error"

/-- The text parsed (`Validity::valid`). -/
def Validity.parsed : Validity := ⟨true, ""⟩

/-- The text did not parse; a blank reason is replaced (`Validity::invalid`). -/
def Validity.failed (reason : String) : Validity :=
  ⟨false, if Text.isBlank reason then unknownError else reason⟩

/-- The validity that a parse shows. A parse failure is reported by its reason alone. -/
def Validity.ofParse {α : Type} : Except Error α → Validity
  | .ok _ => parsed
  | .error e => if e.category = .parse then failed e.reason else failed e.message

end LineScope
