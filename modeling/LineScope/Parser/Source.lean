import LineScope.Summary
import LineScope.Tree.Search

/-!
# Parsers of source text

A parser turns text into a source tree or an error. Two questions are asked of it: does a text parse,
and which node encloses a range of its lines?
-/
namespace LineScope

/-- A parser of texts in one language. -/
structure SourceParser where
  language : Language
  parse : String → Except Error SourceTree

/-- Describes the node of a parsed text that encloses the range, if one does (`enclosing_context`). An error of
the parse is passed on. -/
def contextOf (language : Language) (text : String) (parsed : Except Error SourceTree)
    (r : LineRange) : Result (Option Summary) := do
  let tree ← Result.ofReported parsed
  match ← enclosing? (some tree.root) r with
  | some found => return some (← Summary.ofNode language (Text.Utf8.encode text) found.node)
  | none => return none

namespace SourceParser

/-- Whether the text parses (`check_valid`). -/
def check (p : SourceParser) (text : String) : Validity := .ofParse (p.parse text)

/-- The node of the text that encloses the range (`enclosing_context`). -/
def context (p : SourceParser) (text : String) (r : LineRange) : Result (Option Summary) :=
  contextOf p.language text (p.parse text) r

end SourceParser

end LineScope
