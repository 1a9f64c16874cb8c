import LineScope.Proofs.Tree.Selection

/-!
# Spans of short nodes

The place of a node is reported in 32-bit words, one more than its rows and columns. For a node whose
rows and columns stay below the last of these words (`Short`) nothing is cut off and no addition of one
to them overflows. If such a node does not stop before it starts, its span is in order as it stands: it
starts and ends at the node's own places and is not replaced by a span of one column (`span_of_inOrder`).
And if only its rows are in order, the lines of its span still are the node's (`lines_of_span`).
-/
namespace LineScope

/-- The last 32-bit word, 2³² - 1: it has no successor. -/
def lastWord : Nat := UInt32.size - 1

theorem next32_eq (x : UInt32) :
    next32 x = if x.toNat = lastWord then .error ⟨⟩ else .ok (x + 1) := by
  have := x.toNat_lt_size
  unfold next32
  by_cases h : x.toNat = lastWord
  · rw [if_pos h, if_neg (by rw [h]; decide)]
  · rw [if_neg h, if_pos (by unfold lastWord at h; omega)]

theorem toNat_succ32 {x : UInt32} (h : x.toNat ≠ lastWord) : (x + 1).toNat = x.toNat + 1 := by
  have := x.toNat_lt_size
  have hlt : x.toNat + 1 < UInt32.size := by unfold lastWord at h; omega
  rw [UInt32.toNat_add, UInt32.toNat_one]
  exact Nat.mod_eq_of_lt hlt

theorem next32_short {x : UInt64} (h : x.toNat < lastWord) :
    ∃ y, next32 x.toUInt32 = .ok y ∧ y.toNat = x.toNat + 1 := by
  have hx : x.toUInt32.toNat = x.toNat := by
    rw [UInt64.toNat_toUInt32]
    exact Nat.mod_eq_of_lt (Nat.lt_trans h (by decide))
  have hne : x.toUInt32.toNat ≠ lastWord := by omega
  exact ⟨x.toUInt32 + 1, by rw [next32_eq, if_neg hne], by rw [toNat_succ32 hne, hx]⟩

theorem between?_of_lt {startLine endLine : UInt32} (startColumn endColumn : UInt32)
    (h : startLine.toNat < endLine.toNat) :
    Span.between? startLine startColumn endLine endColumn =
      some ⟨startLine, startColumn, endLine, endColumn⟩ := by
  have hlt : startLine < endLine := UInt32.lt_iff_toNat_lt.mpr h
  simp [Span.between?, Span.ordered, hlt]

namespace TreeNode

variable {N : Type} [TreeNode N]

def startColumn (n : N) : Nat := (start n).column.toNat

def stopColumn (n : N) : Nat := (stop n).column.toNat

/-- The node's rows and columns lie below the last 32-bit word. -/
def Short (n : N) : Prop :=
  startRow n < lastWord ∧ startColumn n < lastWord ∧ stopRow n < lastWord ∧ stopColumn n < lastWord

instance (n : N) : Decidable (Short n) := inferInstanceAs (Decidable (_ ∧ _))

/-- The span gives the node's own rows and columns, counted from one. -/
structure OwnSpan (n : N) (s : Span) : Prop where
  startLine : s.startLine.toNat = startRow n + 1
  startColumn : s.startColumn.toNat = startColumn n + 1
  endLine : s.endLine.toNat = stopRow n + 1
  endColumn : s.endColumn.toNat = stopColumn n + 1

/-- The span of a short node is its own, or has one column where its own would end before it starts. -/
theorem span_eq_of_short {n : N} (h : Short n) : ∃ own : Span, OwnSpan n own ∧
    span n = if own.ordered = true then .ok own else do
      let after ← next32 own.startColumn
      return { own with endLine := own.startLine, endColumn := after } := by
  obtain ⟨hsr, hsc, her, hec⟩ := h
  obtain ⟨startLine, hsl, hsl'⟩ := next32_short hsr
  obtain ⟨startColumn, hsc, hsc'⟩ := next32_short hsc
  obtain ⟨endLine, hel, hel'⟩ := next32_short her
  obtain ⟨endColumn, hec, hec'⟩ := next32_short hec
  refine ⟨⟨startLine, startColumn, endLine, endColumn⟩, ⟨hsl', hsc', hel', hec'⟩, ?_⟩
  simp only [span, hsl, hsc, hel, hec, Span.between?, bind, Except.bind]
  by_cases hordered : (Span.mk startLine startColumn endLine endColumn).ordered = true
  · rw [if_pos hordered, if_pos hordered]
    rfl
  · rw [if_neg hordered, if_neg hordered]

/-- **The span of a short node** that does not stop before it starts is its own. -/
theorem span_of_inOrder {n : N} (h : Short n)
    (horder : startRow n < stopRow n ∨ startRow n = stopRow n ∧ startColumn n ≤ stopColumn n) :
    ∃ s, span n = .ok s ∧ OwnSpan n s := by
  obtain ⟨own, hown, hspan⟩ := span_eq_of_short h
  have hordered : own.ordered = true := by
    obtain ⟨hsl, hsc, hel, hec⟩ := hown
    simp only [Span.ordered, Bool.or_eq_true, Bool.and_eq_true, decide_eq_true_eq, beq_iff_eq,
      UInt32.lt_iff_toNat_lt, UInt32.le_iff_toNat_le, ← UInt32.toNat_inj, hsl, hsc, hel, hec]
    omega
  exact ⟨own, by rw [hspan, if_pos hordered], hown⟩

theorem span_of_short {n : N} (h : Short n) (hrows : startRow n < stopRow n) :
    ∃ s, span n = .ok s ∧ OwnSpan n s :=
  span_of_inOrder h (Or.inl hrows)

theorem rowsFit_of_short {root : N} (h : ∀ l ∈ preorder root, Short l.node) : RowsFit root := by
  have hlast : lastWord < lastRow := by decide
  intro l hl
  obtain ⟨hs, -, he, -⟩ := h l hl
  exact ⟨by omega, by omega⟩

end TreeNode

end LineScope
