import LineScope.Json.Value
import LineScope.Scope
import LineScope.Text.Utf8
import LineScope.Tree.Source
import LineScope.Validity

/-!
# Summaries

What is reported of a located node: a description that stands on its own, without the tree.
-/
namespace LineScope

open Json (Value)
open Text (Utf8.decode? Utf8.decodeLossy)

/-- The source text of a node, where its bytes are well formed (`node_text`). -/
def SourceNode.text? (n : SourceNode) (content : List UInt8) : Result (Option String) := do
  return Utf8.decode? (← n.bytes content)

/-- The source text of a node, with replacements where its bytes are not well formed. -/
def SourceNode.lossyText (n : SourceNode) (content : List UInt8) : Result String := do
  match ← n.text? content with
  | some text => return text
  | none => return Utf8.decodeLossy (← n.bytes content)

/-- The text of a node's name, where it has one and its bytes are well formed (`node_name`). -/
def SourceNode.name? (n : SourceNode) (content : List UInt8) : Result (Option String) :=
  match n.child? "name" with
  | some name => name.text? content
  | none => return none

/-- A description of a node (`NodeSummary`). -/
structure Summary where
  kind : String
  /-- The word a reader would use for the scope. -/
  label : Option String
  name : Option String
  span : Span
  /-- The rows by which candidates are ranked. -/
  size : UInt64
  childCount : Nat
  text : String
  deriving DecidableEq, Repr

namespace Summary

/-- Describes a node of a text given as bytes (`summarize`). Bytes that are not well formed are replaced in the
text, and a name with such bytes is left out. The text is cut out first, then the name, and the span is made
last. -/
def ofNode (language : Language) (content : List UInt8) (n : SourceNode) : Result Summary := do
  let text ← n.lossyText content
  let name ← n.name? content
  let span ← Result.ofChecked (TreeNode.span n)
  return {
    kind := n.kind
    label := Scope.label? language n.kind
    name := name
    span := span
    size := TreeNode.rowSpan n
    childCount := n.children.length
    text := text }

end Summary

def Span.toJson (s : Span) : Value :=
  .object [("start_line", .nat s.startLine.toNat), ("start_column", .nat s.startColumn.toNat),
    ("end_line", .nat s.endLine.toNat), ("end_column", .nat s.endColumn.toNat)]

def Summary.toJson (s : Summary) : Value :=
  .object [("kind", .string s.kind), ("label", .ofText? s.label), ("name", .ofText? s.name),
    ("span", s.span.toJson), ("size", .nat s.size.toNat), ("child_count", .nat s.childCount),
    ("text", .string s.text)]

def Validity.toJson (v : Validity) : Value :=
  .object [("valid", .bool v.valid), ("error", .string v.error)]

end LineScope
