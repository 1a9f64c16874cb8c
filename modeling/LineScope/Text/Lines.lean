/-!
# Lines of a text

A line ends at a line feed, and a carriage return just before that line feed belongs to the ending.
A text that ends with a line feed has no empty last line; a carriage return with no line feed after it
is part of its line.
-/
namespace LineScope.Text

/-- A line read back to front, without the carriage return of its ending. -/
def closeLine : List Char → List Char
  | '\r' :: cs => cs.reverse
  | cs => cs.reverse

/-- The lines of characters that follow the line begun by `line`, read back to front. -/
def linesFrom : List Char → List Char → List (List Char)
  | [], [] => []
  | line, [] => [line.reverse]
  | line, c :: cs => if c = '\n' then closeLine line :: linesFrom [] cs else linesFrom (c :: line) cs

/-- The lines of a text, without their endings. -/
def lines (s : String) : List String := (linesFrom [] s.toList).map String.ofList

end LineScope.Text
