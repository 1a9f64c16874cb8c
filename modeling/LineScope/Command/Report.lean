import LineScope.Summary
import LineScope.Text.Lines
import LineScope.Text.Paint

/-!
# Reports for readers

The text printed for a located node, with the first lines of its source numbered as in the file, and
the text printed for a dry run.
-/
namespace LineScope.Report

open Text (paint decimal)

/-- The largest number of source lines shown (`MAX_DISPLAY_LINES`). -/
def maxLines : Nat := 15

def alignRight (width : Nat) (n : Nat) : String :=
  String.ofList (List.replicate (width - (decimal n).length) ' ') ++ decimal n

/-- The number of a line and the bar after it. -/
def gutter (width : Nat) (number : Nat) : String := alignRight width number ++ " │"

/-- One line of the excerpt. A line outside the range is faint. -/
def excerptLine (colour : Bool) (range : LineRange) (width number : Nat) (line : String) : String :=
  if range.has number then
    "  " ++ paint colour .asked (gutter width number) ++ " " ++ line
  else
    "  " ++ paint colour .faint (gutter width number) ++ " " ++ paint colour .faint line

/-- The width of the column of numbers: it holds the number after the last line. -/
def columnWidth (first : Nat) (lines : List String) : Nat := (decimal (first + lines.length)).length

/-- The lines of the excerpt: the first lines of the text, and how many there are beyond. -/
def excerpt (colour : Bool) (range : LineRange) (first : Nat) (lines : List String) : List String :=
  let width := columnWidth first lines
  let shown := (lines.take maxLines).zipIdx.map fun (line, offset) =>
    excerptLine colour range width (first + offset) line
  if maxLines < lines.length then
    shown ++ ["  " ++ String.ofList (List.replicate (width + 2) ' ') ++ " ... and " ++
      decimal (lines.length - maxLines) ++ " more lines"]
  else
    shown

/-- What the node is: its label or else its kind, and its name. -/
def subject (colour : Bool) (s : Summary) : String :=
  let what := s.label.getD s.kind
  match s.name with
  | some name => what ++ " " ++ paint colour .name name
  | none => what

/-- Lines of output, each with its ending. -/
def unlines (ls : List String) : String := String.join (ls.map (· ++ "\n"))

/-- The report on the node that encloses a range of a file's lines, or on there being none (`print_context`). -/
def context (colour : Bool) (path : String) (range : LineRange) (found : Option Summary) : String :=
  let place := paint colour .place (path ++ ":" ++ range.render)
  match found with
  | none => unlines [place ++ " " ++ paint colour .faint "no enclosing context"]
  | some s =>
    let extent := "(" ++ s.kind ++ ", lines " ++ decimal s.span.startLine.toNat ++ "-" ++
      decimal s.span.endLine.toNat ++ ")"
    unlines ([place ++ " is inside " ++ subject colour s ++ " " ++ paint colour .faint extent, ""] ++
      excerpt colour range s.span.startLine.toNat (Text.lines s.text))

/-- The report on a dry run (`print_validity`). -/
def validity (colour : Bool) (path : String) (language : Language) (v : Validity) : String :=
  let place := paint colour .place path
  if v.valid then
    unlines [paint colour .success "✓" ++ " " ++ place ++ " " ++
      paint colour .faint ("parses as " ++ language.name)]
  else
    unlines [paint colour .failure "✗" ++ " " ++ place ++ " " ++
      paint colour .faint ("failed to parse as " ++ language.name) ++ ": " ++ v.error]

/-- The report on an error and what lies beneath it. -/
def error (colour : Bool) (e : Error) : String :=
  unlines ((paint colour .failure "error" ++ ": " ++ e.message) ::
    e.sources.map fun cause => "  " ++ paint colour .faint "caused by" ++ ": " ++ cause)

end LineScope.Report
