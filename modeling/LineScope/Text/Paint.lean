/-!
# Coloured text

A terminal style opens with one escape sequence and closes with the reset sequence. A reset inside the
painted text would end the style early, so the style is opened again after it.
-/
namespace LineScope.Text

inductive Style where
  /-- Bold white: where. -/
  | place
  /-- Dimmed: what matters less. -/
  | faint
  /-- Bold cyan: names. -/
  | name
  /-- Green: lines that were asked about. -/
  | asked
  /-- Bold green: success. -/
  | success
  /-- Bold red: failure. -/
  | failure
  deriving DecidableEq, Repr

/-- The parameters of the style's escape sequence. -/
def Style.parameters : Style → String
  | .place => "1;37"
  | .faint => "2"
  | .name => "1;36"
  | .asked => "32"
  | .success => "1;32"
  | .failure => "1;31"

def Style.code (s : Style) : String := "\x1b[" ++ s.parameters ++ "m"

/-- The sequence that closes every style. -/
def resetCode : String := "\x1b[0m"

/-- Opens a style again after each reset. -/
def reopen (code : List Char) : List Char → List Char
  | [] => []
  | c :: cs =>
    if resetCode.toList.isPrefixOf (c :: cs) then
      resetCode.toList ++ code ++ reopen code (cs.drop 3)
    else
      c :: reopen code cs
termination_by cs => cs.length
decreasing_by all_goals simp only [List.length_cons, List.length_drop]; omega

/-- The text in a style, or as it is when colours are off. -/
def paint (colour : Bool) (style : Style) (text : String) : String :=
  if colour then
    style.code ++ String.ofList (reopen style.code.toList text.toList) ++ resetCode
  else
    text

end LineScope.Text
