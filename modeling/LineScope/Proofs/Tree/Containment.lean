import LineScope.Parser.Source
import LineScope.Proofs.Summary
import LineScope.Proofs.Tree.Span

/-!
# The reported span contains the range

Three things are worked out of a found node apart from each other: its lines, on which it is tested
against the range, the rows by which it is ranked, and its span in 32-bit words, which is what a caller
gets to see. In a tree of short nodes they agree, however the nodes lie.

A node is reported only if it has more than one row. Such a node stops below its start, so its span is
made of its own places and never replaced by a span of one column (`Unreplaced`); no node that stops
before it starts is ever reported. The lines of the span are then the node's lines, between which the
range lies, and the rows lie between the lines of the span (`ContainsRange`).

Results:
* `containsRange_of_found`: a found node has a span, and the span contains the range.
* `contextOf_contains`: so does the span in the summary of a text's node.
-/
namespace LineScope

open TreeNode

/-! ## Words -/

section Words

variable {x : UInt64} {y : UInt32} (h : x.toNat < lastWord) (hy : y.toNat = x.toNat + 1)

include h hy

theorem next32_eq_ok : next32 x.toUInt32 = .ok y := by
  obtain ⟨z, hz, hz'⟩ := next32_short h
  have hyz : z = y := by
    rw [← UInt32.toNat_inj]
    omega
  rw [hz, hyz]

theorem next64_eq_ok : next64 x = .ok y.toUInt64 := by
  have hlast : lastWord < lastRow := by decide
  have hne : x.toNat ≠ lastRow := by omega
  have hxy : x + 1 = y.toUInt64 := by
    rw [← UInt64.toNat_inj, toNat_succ hne, UInt32.toNat_toUInt64, hy]
  rw [next64_eq, if_neg hne, hxy]

end Words

/-! ## The span of a found node -/

variable {N : Type} [TreeNode N]

/-- The span is made of the node's own numbers: each of them has a successor, and with these the span is
in order, so that no column is put in place of the stop. -/
structure Unreplaced (n : N) (s : Span) : Prop where
  startLine : next32 (start n).row.toUInt32 = .ok s.startLine
  startColumn : next32 (start n).column.toUInt32 = .ok s.startColumn
  endLine : next32 (stop n).row.toUInt32 = .ok s.endLine
  endColumn : next32 (stop n).column.toUInt32 = .ok s.endColumn
  accepted : Span.between? s.startLine s.startColumn s.endLine s.endColumn = some s

/-- The span of the node contains the range. Its lines are the node's lines, and the rows by which the
node is ranked are the distance between them. -/
structure ContainsRange (r : LineRange) (n : N) (s : Span) : Prop where
  unreplaced : Unreplaced n s
  startLine : startLine n = .ok s.startLine.toUInt64
  endLine : endLine n = .ok s.endLine.toUInt64
  first : s.startLine.toNat ≤ r.first.toNat
  ordered : r.first.toNat ≤ r.last.toNat
  last : r.last.toNat ≤ s.endLine.toNat
  rows : s.startLine.toNat + (rowSpan n).toNat = s.endLine.toNat
  pos : 1 ≤ (rowSpan n).toNat

theorem unreplaced_of_ownSpan {n : N} {s : Span} (h : Short n) (hrows : startRow n < stopRow n)
    (hs : OwnSpan n s) : Unreplaced n s := by
  obtain ⟨hsr, hsc, her, hec⟩ := h
  have horder : s.startLine.toNat < s.endLine.toNat := by
    rw [hs.startLine, hs.endLine]
    omega
  exact {
    startLine := next32_eq_ok hsr hs.startLine
    startColumn := next32_eq_ok hsc hs.startColumn
    endLine := next32_eq_ok her hs.endLine
    endColumn := next32_eq_ok hec hs.endColumn
    accepted := between?_of_lt _ _ horder }

/-- An eligible node that is short has a span, and the span contains the range. -/
theorem containsRange_of_eligible {r : LineRange} {n : N} (h : Short n) (he : Eligible r n) :
    ∃ s, span n = .ok s ∧ ContainsRange r n s := by
  obtain ⟨⟨hfirst, hlast⟩, hpos⟩ := he
  have hrows : startRow n < stopRow n := Nat.lt_of_sub_pos hpos
  obtain ⟨s, hspan, hs⟩ := span_of_short h hrows
  have hsize : (rowSpan n).toNat = stopRow n - startRow n := toNat_rowSpan n
  have hstart := hs.startLine
  have hend := hs.endLine
  refine ⟨s, hspan, ?_⟩
  exact {
    unreplaced := unreplaced_of_ownSpan h hrows hs
    startLine := next64_eq_ok h.1 hstart
    endLine := next64_eq_ok h.2.2.1 hend
    first := by omega
    ordered := UInt64.le_iff_toNat_le.mp r.first_le_last
    last := by omega
    rows := by omega
    pos := by omega }

/-- **The reported span contains the range.** In a tree of short nodes, nested or not, in order or
inverted, a search for any range succeeds. If it finds a node, the conversion of the node's place to words
neither overflows nor puts another place in its stead, and the range lies between the lines of the span,
which are the node's own. -/
theorem containsRange_of_found (root : N) (r : LineRange) (h : ∀ l ∈ preorder root, Short l.node) :
    ∃ found, enclosing? (some root) r = .ok found ∧
      ∀ l, found = some l → ∃ s, span l.node = .ok s ∧ ContainsRange r l.node s := by
  have hfound := enclosing?_of_rowsFit (rowsFit_of_short h) r
  refine ⟨selection r root, hfound, ?_⟩
  intro l hl
  rw [hl] at hfound
  obtain ⟨hat, he⟩ := enclosing?_found hfound
  exact containsRange_of_eligible (h l (mem_preorder.mpr hat)) he

def skewed : OutlineNode :=
  ⟨"root", ⟨1, 0⟩, ⟨3, 9⟩,
    [⟨"inverted", ⟨7, 4⟩, ⟨0, 2⟩, []⟩, ⟨"long", ⟨0, 6⟩, ⟨5, 3⟩, [⟨"inner", ⟨1, 0⟩, ⟨4, 8⟩, []⟩]⟩]⟩

/-- The second child is found, and its span goes from line one to line six. -/
theorem containsRange_skewed :
    (∀ l ∈ preorder skewed, Short l.node) ∧
      ∃ l s, enclosing? (some skewed) lineTwoToThree = .ok (some l) ∧ l.path = [1] ∧
        span l.node = .ok s ∧ ContainsRange lineTwoToThree l.node s := by
  have hshort : ∀ l ∈ preorder skewed, Short l.node := by decide +kernel
  have hlong : enclosing? (some skewed) lineTwoToThree =
      .ok (some ⟨[1], ⟨"long", ⟨0, 6⟩, ⟨5, 3⟩, [⟨"inner", ⟨1, 0⟩, ⟨4, 8⟩, []⟩]⟩⟩) := by
    rw [enclosing?_of_rowsFit (rowsFit_of_short hshort)]
    with_unfolding_all rfl
  obtain ⟨found, hfound, hcontains⟩ := containsRange_of_found skewed lineTwoToThree hshort
  rw [hlong] at hfound
  cases hfound
  obtain ⟨s, hs, hrange⟩ := hcontains _ rfl
  exact ⟨hshort, _, s, hlong, rfl, hs, hrange⟩

/-! ## Summaries -/

section Summaries

variable {language : Language} {s : Summary} {r : LineRange}

theorem contextOf_eq_some {text : String} {tree : SourceTree}
    (h : contextOf language text (.ok tree) r = .ok (some s)) :
    ∃ l, enclosing? (some tree.root) r = .ok (some l) ∧
      Summary.ofNode language (Text.Utf8.encode text) l.node = .ok s := by
  simp only [contextOf, Result.ofReported, bind, Except.bind] at h
  cases hfound : enclosing? (some tree.root) r with
  | error f => rw [hfound] at h; cases h
  | ok found =>
    rw [hfound] at h
    cases found with
    | none => cases h
    | some l =>
      refine ⟨l, rfl, ?_⟩
      cases hs : Summary.ofNode language (Text.Utf8.encode text) l.node with
      | error f => simp only [hs] at h; cases h
      | ok s' => simp only [hs] at h; cases h; rfl

/-- **What a caller sees.** The span in the summary of a text's node contains the range, and the size in
the summary is the distance between the lines of the span. -/
theorem contextOf_contains {text : String} {tree : SourceTree}
    (hshort : ∀ l ∈ preorder tree.root, Short l.node)
    (h : contextOf language text (.ok tree) r = .ok (some s)) :
    s.span.startLine.toNat ≤ r.first.toNat ∧ r.last.toNat ≤ s.span.endLine.toNat ∧
      s.span.startLine.toNat + s.size.toNat = s.span.endLine.toNat := by
  obtain ⟨l, hl, hs⟩ := contextOf_eq_some h
  have hdesc := Summary.ofNode_eq_ok_iff.mp hs
  have hspan := hdesc.span
  obtain ⟨hat, he⟩ := enclosing?_found hl
  obtain ⟨span, hspan', hrange⟩ := containsRange_of_eligible (hshort l (mem_preorder.mpr hat)) he
  rw [hspan, Except.ok.injEq] at hspan'
  rw [hspan', hdesc.size]
  exact ⟨hrange.first, hrange.last, hrange.rows⟩

end Summaries

end LineScope
