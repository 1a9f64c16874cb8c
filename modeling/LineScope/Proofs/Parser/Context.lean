import LineScope.Parser.Source
import LineScope.Proofs.Summary
import LineScope.Proofs.Tree.Outermost
import LineScope.Proofs.Tree.Span

/-!
# The context of a range, from text to summary

A question for the node around a range of lines goes through a parse, a search, the conversion of a
place to 32-bit words, the table of labels and the reading of bytes. This module follows it from end to
end, for any parser whose trees keep what grammars promise of them (`CoversRest`): children lie inside
their parents, and the root stretches from somewhere in the text, after blank lines perhaps, to the
text's end.

For an answer it is enough that rows and columns are not too large and that no node leaves the text
(`contextOf_of_inBounds`); a tree that does leave it makes the question panic (`contextOf_outcome`).

Of a tree that keeps all promises of grammars nothing but the root is ever reported. It is reported if it has more
than one row and its lines hold the range, where a line end at the very end of the text opens one more line
(`context_of_coversRest`). What is reported is the text from the root's start on, as it stands in the source
(`lossyText_of_coversRest`).
-/
namespace LineScope

open TreeNode Text

/-- What the grammar of the language calls the root of its trees. -/
def Language.rootKind : Language → String
  | .python => "module"
  | .rust => "source_file"
  | .csharp => "compilation_unit"

def lineEnds (s : String) : Nat := s.toList.count '\n'

/-- What a grammar promises of the tree of `front ++ rest`, where the root begins after `front`. -/
structure CoversRest (language : Language) (front rest : String) (root : SourceNode) : Prop where
  nested : Nested root
  kind : root.kind = language.rootKind
  nameless : root.child? "name" = none
  first : root.first = (Utf8.encode front).length
  last : root.last = (Utf8.encode (front ++ rest)).length
  startRow : startRow root = lineEnds front
  stopRow : stopRow root = lineEnds (front ++ rest)
  short : ∀ l ∈ preorder root, Short l.node

/-- The summary of the root of `front ++ rest`: the text from the root's start on, under the root's own
lines and columns. It has neither a label nor a name. -/
structure DescribesRest (language : Language) (front rest : String) (root : SourceNode)
    (s : Summary) : Prop where
  kind : s.kind = language.rootKind
  label : s.label = none
  name : s.name = none
  text : s.text = rest
  size : s.size.toNat = lineEnds (front ++ rest) - lineEnds front
  startLine : s.span.startLine.toNat = lineEnds front + 1
  endLine : s.span.endLine.toNat = lineEnds (front ++ rest) + 1
  startColumn : s.span.startColumn.toNat = startColumn root + 1
  endColumn : s.span.endColumn.toNat = stopColumn root + 1
  childCount : s.childCount = root.children.length

/-! ## The stages -/

section Stages

variable {language : Language} {text : String} {tree : SourceTree} {r : LineRange}

theorem contextOf_none (hfound : enclosing? (some tree.root) r = .ok none) :
    contextOf language text (.ok tree) r = .ok none := by
  simp only [contextOf, Result.ofReported, bind, Except.bind, hfound]
  rfl

theorem contextOf_some {l : Located SourceNode} {s : Summary}
    (hfound : enclosing? (some tree.root) r = .ok (some l))
    (hs : Summary.ofNode language (Utf8.encode text) l.node = .ok s) :
    contextOf language text (.ok tree) r = .ok (some s) := by
  simp only [contextOf, Result.ofReported, bind, Except.bind, hfound, hs]
  rfl

theorem contextOf_error {l : Located SourceNode} {f : Failure}
    (hfound : enclosing? (some tree.root) r = .ok (some l))
    (hf : Summary.ofNode language (Utf8.encode text) l.node = .error f) :
    contextOf language text (.ok tree) r = .error f := by
  simp only [contextOf, Result.ofReported, bind, Except.bind, hfound, hf]

end Stages

/-- What a parser promises of the nodes of a text's tree: their rows and columns stay below the last 32-bit word,
and the bytes that they cover are bytes of the text. -/
structure SourceTree.InBounds (text : String) (tree : SourceTree) : Prop where
  short : ∀ l ∈ preorder tree.root, Short l.node
  within : ∀ l ∈ preorder tree.root, l.node.Within (Utf8.encode text)

theorem SourceTree.InBounds.inText {text : String} {tree : SourceTree} (h : tree.InBounds text)
    {l : Located SourceNode} (hl : l ∈ preorder tree.root) : l.node.InText (Utf8.encode text) where
  own := h.within l hl
  name m hm := by
    obtain ⟨l', hl', rfl⟩ := exists_mem_preorder_child hl (List.mem_of_find?_eq_some hm)
    exact h.within l' hl'

/-- **In a tree of short nodes** a question is answered, unless the search finds a node that leaves the text, by its
own places or by those of its name. Then its summary panics. -/
theorem contextOf_outcome (language : Language) (text : String) {tree : SourceTree}
    (h : ∀ l ∈ preorder tree.root, Short l.node) (r : LineRange) :
    ((∃ answer, contextOf language text (.ok tree) r = .ok answer) ↔
      ∀ l, enclosing? (some tree.root) r = .ok (some l) → l.node.InText (Utf8.encode text)) ∧
    ((¬ ∃ answer, contextOf language text (.ok tree) r = .ok answer) →
      ∃ slice, contextOf language text (.ok tree) r = .error (.outside slice)) := by
  have hfound := enclosing?_of_rowsFit (rowsFit_of_short h) r
  cases hsel : selection r tree.root with
  | none =>
    rw [hsel] at hfound
    have hnone : contextOf language text (.ok tree) r = .ok none := contextOf_none hfound
    refine ⟨iff_of_true ⟨none, hnone⟩ ?_, fun hno => absurd ⟨none, hnone⟩ hno⟩
    intro l hl
    rw [hfound] at hl
    cases hl
  | some l =>
    rw [hsel] at hfound
    obtain ⟨hat, -, hrows⟩ := enclosing?_found hfound
    have honly : ∀ l', enclosing? (some tree.root) r = .ok (some l') → l' = l := by
      intro l' hl'
      rw [hfound] at hl'
      cases hl'
      rfl
    by_cases htext : l.node.InText (Utf8.encode text)
    · obtain ⟨span, hspan, -⟩ :=
        span_of_short (h l (mem_preorder.mpr hat)) (Nat.lt_of_sub_pos hrows)
      obtain ⟨s, hs⟩ := Summary.exists_ofNode language htext hspan
      have hsome := contextOf_some hfound hs
      refine ⟨iff_of_true ⟨some s, hsome⟩ ?_, fun hno => absurd ⟨some s, hsome⟩ hno⟩
      intro l' hl'
      rwa [honly l' hl']
    · obtain ⟨slice, hpanic⟩ := Summary.ofNode_of_not_inText language htext
      have hout := contextOf_error hfound hpanic
      refine ⟨iff_of_false ?_ fun hall => htext (hall l hfound), fun _ => ⟨slice, hout⟩⟩
      rintro ⟨answer, hanswer⟩
      rw [hout] at hanswer
      cases hanswer

/-- A tree in bounds has a context for every range: the search does not overflow, and the summary of the node that it
finds neither overflows nor leaves the text. -/
theorem contextOf_of_inBounds (language : Language) (text : String) {tree : SourceTree}
    (h : tree.InBounds text) (r : LineRange) :
    ∃ answer, contextOf language text (.ok tree) r = .ok answer := by
  refine (contextOf_outcome language text h.short r).1.mpr fun l hl => ?_
  exact h.inText (mem_preorder.mpr (enclosing?_found hl).1)

theorem label?_rootKind (language : Language) : Scope.label? language language.rootKind = none := by
  cases language <;> decide

section Rest

variable {language : Language} {front rest : String} {root : SourceNode}

/-- The bytes of a node are those of the slice of the source that its places are the ends of. -/
theorem cutsOut_slice {n : SourceNode} {mid : String} (hfirst : n.first = (Utf8.encode front).length)
    (hlast : n.last = (Utf8.encode (front ++ mid)).length) (back : String) :
    n.CutsOut (Utf8.encode (front ++ mid ++ back)) (Utf8.encode mid) := by
  refine ⟨Utf8.encode front, Utf8.encode back, ?_, hfirst, ?_⟩
  · rw [Utf8.encode_append, Utf8.encode_append]
  · rw [hlast, Utf8.encode_append, List.length_append]

theorem lossyText_slice {n : SourceNode} {mid : String}
    (hfirst : n.first = (Utf8.encode front).length)
    (hlast : n.last = (Utf8.encode (front ++ mid)).length) (back : String) :
    n.lossyText (Utf8.encode (front ++ mid ++ back)) = .ok mid := by
  have hbytes := SourceNode.bytes_eq_ok_iff.mpr (cutsOut_slice hfirst hlast back)
  rw [SourceNode.lossyText_of_bytes hbytes, Utf8.decodeLossy_encode]

theorem lossyText_of_coversRest (h : CoversRest language front rest root) :
    root.lossyText (Utf8.encode (front ++ rest)) = .ok rest := by
  simpa using lossyText_slice h.first h.last ""

theorem name_of_coversRest (h : CoversRest language front rest root) (content : List UInt8) :
    root.name? content = .ok none := by
  rw [SourceNode.name?, h.nameless]
  rfl

/-- The root is eligible for the lines of the rest, if these are more than one. -/
theorem eligible_of_coversRest (h : CoversRest language front rest root) (r : LineRange) :
    Eligible r root ↔
      lineEnds front < lineEnds (front ++ rest) ∧ lineEnds front + 1 ≤ r.first.toNat ∧
        r.last.toNat ≤ lineEnds (front ++ rest) + 1 := by
  unfold Eligible Covers rows
  rw [h.startRow, h.stopRow]
  omega

theorem enclosing?_of_coversRest (h : CoversRest language front rest root) (r : LineRange) :
    enclosing? (some root) r = .ok (if Eligible r root then some (.root root) else none) := by
  have hok := enclosing?_of_rowsFit (rowsFit_of_short h.short) r
  rw [hok, nested_found h.nested hok]

theorem ofNode_of_coversRest (h : CoversRest language front rest root)
    (hrows : lineEnds front < lineEnds (front ++ rest)) :
    ∃ s, Summary.ofNode language (Utf8.encode (front ++ rest)) root = .ok s ∧
      DescribesRest language front rest root s := by
  have hrows' : startRow root < stopRow root := by
    rw [h.startRow, h.stopRow]
    exact hrows
  have hshort : Short root := h.short (.root root) (root_mem_preorder root)
  obtain ⟨span, hspan, hown⟩ := span_of_short hshort hrows'
  let s : Summary := {
    kind := root.kind
    label := Scope.label? language root.kind
    name := none
    span := span
    size := rowSpan root
    childCount := root.children.length
    text := rest }
  have hs : s.Describes language (Utf8.encode (front ++ rest)) root :=
    ⟨rfl, rfl, lossyText_of_coversRest h, name_of_coversRest h _, hspan, rfl, rfl⟩
  refine ⟨s, Summary.ofNode_eq_ok_iff.mpr hs, ?_⟩
  exact {
    kind := h.kind
    label := by rw [hs.label, h.kind, label?_rootKind]
    name := rfl
    text := rfl
    size := by rw [hs.size, toNat_rowSpan, rows, h.startRow, h.stopRow]
    startLine := by rw [hown.startLine, h.startRow]
    endLine := by rw [hown.endLine, h.stopRow]
    startColumn := hown.startColumn
    endColumn := hown.endColumn
    childCount := rfl }

end Rest

/-! ## From end to end -/

/-- **The context of a range.** Let a parser give a tree of the text `front ++ rest` whose root covers
`rest`. For every range the answer is a summary exactly if `rest` has more than one line and holds the
range, and it is empty otherwise. The summary is that of the root, with `rest` as its text. -/
theorem context_of_coversRest (p : SourceParser) (front rest : String) (tree : SourceTree)
    (r : LineRange) (hparse : p.parse (front ++ rest) = .ok tree)
    (h : CoversRest p.language front rest tree.root) :
    ((∃ s, p.context (front ++ rest) r = .ok (some s)) ↔
      lineEnds front < lineEnds (front ++ rest) ∧ lineEnds front + 1 ≤ r.first.toNat ∧
        r.last.toNat ≤ lineEnds (front ++ rest) + 1) ∧
    ((¬ ∃ s, p.context (front ++ rest) r = .ok (some s)) → p.context (front ++ rest) r = .ok none) ∧
    ∀ s, p.context (front ++ rest) r = .ok (some s) →
      DescribesRest p.language front rest tree.root s := by
  rw [← eligible_of_coversRest h]
  have hfound := enclosing?_of_coversRest h r
  by_cases he : Eligible r tree.root
  · rw [if_pos he] at hfound
    obtain ⟨s, hs, hdesc⟩ := ofNode_of_coversRest h ((eligible_of_coversRest h r).mp he).1
    have hsome : p.context (front ++ rest) r = .ok (some s) := by
      rw [SourceParser.context, hparse, contextOf_some hfound hs]
    rw [hsome]
    refine ⟨iff_of_true ⟨s, rfl⟩ he, fun hno => absurd ⟨s, rfl⟩ hno, ?_⟩
    rintro s' ⟨⟩
    exact hdesc
  · rw [if_neg he] at hfound
    have hnone : p.context (front ++ rest) r = .ok none := by
      rw [SourceParser.context, hparse, contextOf_none hfound]
    rw [hnone]
    refine ⟨iff_of_false ?_ he, fun _ => rfl, ?_⟩
    · rintro ⟨s, ⟨⟩⟩
    · rintro s ⟨⟩

def assignmentTree : SourceTree :=
  ⟨⟨"module", none, 2, 9, ⟨2, 0⟩, ⟨3, 0⟩,
    [⟨"expression_statement", none, 2, 8, ⟨2, 0⟩, ⟨2, 6⟩,
      [⟨"assignment", none, 2, 8, ⟨2, 0⟩, ⟨2, 6⟩,
        [⟨"identifier", some "left", 2, 4, ⟨2, 0⟩, ⟨2, 2⟩, []⟩,
         ⟨"=", none, 5, 6, ⟨2, 3⟩, ⟨2, 4⟩, []⟩,
         ⟨"integer", some "right", 7, 8, ⟨2, 5⟩, ⟨2, 6⟩, []⟩]⟩]⟩]⟩⟩

/-- A parser that knows one text. -/
def assignmentParser : SourceParser := ⟨.python, fun _ => .ok assignmentTree⟩

def lineThreeToFour : LineRange := ⟨3, 4, by decide, by decide⟩

/-- The root begins after the blank lines: it is found for the line of the assignment and the empty one
after it, but not for a range that begins on a blank line. -/
theorem context_assignment :
    (∃ s, assignmentParser.context ("\n\n" ++ "π = 1\n") lineThreeToFour = .ok (some s) ∧
      s.text = "π = 1\n" ∧ s.span.startLine.toNat = 3 ∧ s.span.endLine.toNat = 4) ∧
    assignmentParser.context ("\n\n" ++ "π = 1\n") lineTwoToThree = .ok none := by
  have hfront : lineEnds "\n\n" = 2 := by decide +kernel
  have hall : lineEnds ("\n\n" ++ "π = 1\n") = 3 := by decide +kernel
  have h : CoversRest .python "\n\n" "π = 1\n" assignmentTree.root := {
    nested := by decide +kernel
    kind := rfl
    nameless := rfl
    first := by decide +kernel
    last := by decide +kernel
    startRow := by rw [hfront]; rfl
    stopRow := by rw [hall]; rfl
    short := by decide +kernel }
  obtain ⟨hfound, -, hdesc⟩ :=
    context_of_coversRest assignmentParser _ _ assignmentTree lineThreeToFour rfl h
  obtain ⟨hfound', hnone, -⟩ :=
    context_of_coversRest assignmentParser _ _ assignmentTree lineTwoToThree rfl h
  rw [hfront, hall] at hfound hfound'
  obtain ⟨s, hs⟩ := hfound.mpr (by decide)
  have hd := hdesc s hs
  exact ⟨⟨s, hs, hd.text, by rw [hd.startLine, hfront], by rw [hd.endLine, hall]⟩,
    hnone (mt hfound'.mp (by decide))⟩

end LineScope
