import LineScope.Proofs.Tree.Span
import LineScope.Tree.Outline
import Mathlib.Data.Prod.Lex

/-!
# Spans of all nodes

Rows and columns have 64 bits and a span holds 32, so of each number only the last 32 bits are kept
(`wrapped`) before one is added. Numbers that wrap around can put the places of a node in another order
than they had: a node that stops after its start may seem to stop before it, and the other way round.
What becomes of a node is therefore said of the wrapped places alone.

Places are pairs of a row and a column in lexicographic order.

Results:
* `next32_wrapped`, `next32_lastWord`: the one addition that is made on each number.
* `span_eq_of_ordered`, `span_eq_of_inverted`: the span of a node whose numbers all have a successor, by
  the order of its wrapped places.
* `span_outcome`: which nodes overflow, and the span of all others.
-/
namespace LineScope

/-! ## Words -/

/-- The last 32 bits of a word. -/
def wrapped (x : UInt64) : Nat := x.toNat % UInt32.size

theorem toNat_toUInt32 (x : UInt64) : x.toUInt32.toNat = wrapped x := UInt64.toNat_toUInt32 x

theorem next32_lastWord {x : UInt64} (h : wrapped x = lastWord) :
    next32 x.toUInt32 = .error ⟨⟩ := by
  rw [next32_eq, toNat_toUInt32, if_pos h]

theorem next32_wrapped {x : UInt64} (h : wrapped x ≠ lastWord) :
    ∃ y, next32 x.toUInt32 = .ok y ∧ y.toNat = wrapped x + 1 := by
  have hne : x.toUInt32.toNat ≠ lastWord := by rwa [toNat_toUInt32]
  refine ⟨x.toUInt32 + 1, ?_, ?_⟩
  · rw [next32_eq, if_neg hne]
  · rw [toNat_succ32 hne, toNat_toUInt32]

/-! ## Places -/

def Span.startPlace (s : Span) : Lex (Nat × Nat) := toLex (s.startLine.toNat, s.startColumn.toNat)

def Span.endPlace (s : Span) : Lex (Nat × Nat) := toLex (s.endLine.toNat, s.endColumn.toNat)

theorem Span.startPlace_eq {s : Span} {p : Lex (Nat × Nat)} :
    s.startPlace = p ↔ s.startLine.toNat = (ofLex p).1 ∧ s.startColumn.toNat = (ofLex p).2 :=
  Prod.ext_iff

theorem Span.endPlace_eq {s : Span} {p : Lex (Nat × Nat)} :
    s.endPlace = p ↔ s.endLine.toNat = (ofLex p).1 ∧ s.endColumn.toNat = (ofLex p).2 :=
  Prod.ext_iff

/-- A place with its row and its column counted from one. -/
def fromOne (p : Lex (Nat × Nat)) : Lex (Nat × Nat) := toLex ((ofLex p).1 + 1, (ofLex p).2 + 1)

theorem fromOne_le {p q : Lex (Nat × Nat)} : fromOne p ≤ fromOne q ↔ p ≤ q := by
  simp [fromOne, Prod.Lex.le_iff]

theorem fromOne_lt {p q : Lex (Nat × Nat)} : fromOne p < fromOne q ↔ p < q :=
  lt_iff_lt_of_le_iff_le fromOne_le

theorem Span.ordered_iff (s : Span) : s.ordered = true ↔ s.startPlace ≤ s.endPlace := by
  unfold ordered startPlace endPlace
  rw [Prod.Lex.toLex_le_toLex]
  simp [UInt32.lt_iff_toNat_lt, UInt32.le_iff_toNat_le, UInt32.toNat_inj]

/-- The lines and the columns of the span. -/
def Span.fields (s : Span) : List UInt32 := [s.startLine, s.startColumn, s.endLine, s.endColumn]

theorem between?_of_le {s : Span} (h : s.startPlace ≤ s.endPlace) :
    Span.between? s.startLine s.startColumn s.endLine s.endColumn = some s :=
  if_pos ((Span.ordered_iff s).mpr h)

theorem between?_of_inverted {s : Span} (h : s.endPlace < s.startPlace) :
    Span.between? s.startLine s.startColumn s.endLine s.endColumn = none :=
  if_neg fun ho => absurd ((Span.ordered_iff s).mp ho) (not_le_of_gt h)

namespace TreeNode

variable {N : Type} [TreeNode N]

def wrappedStart (n : N) : Lex (Nat × Nat) := toLex (wrapped (start n).row, wrapped (start n).column)

def wrappedStop (n : N) : Lex (Nat × Nat) := toLex (wrapped (stop n).row, wrapped (stop n).column)

/-- One of the node's four numbers has no successor in 32 bits. -/
def HasLastWord (n : N) : Prop :=
  wrapped (start n).row = lastWord ∨ wrapped (start n).column = lastWord ∨
    wrapped (stop n).row = lastWord ∨ wrapped (stop n).column = lastWord

/-- An addition made for the node's span leaves its word: one of the first four, or that of one column to
the start of a node that seems to stop before it starts. -/
def SpanOverflows (n : N) : Prop :=
  HasLastWord n ∨ wrappedStop n < wrappedStart n ∧ wrapped (start n).column = lastWord - 1

instance (n : N) : Decidable (HasLastWord n) := inferInstanceAs (Decidable (_ ∨ _))

instance (n : N) : Decidable (SpanOverflows n) := inferInstanceAs (Decidable (_ ∨ _))

/-! ## The span of a node -/

theorem span_of_hasLastWord {n : N} (h : HasLastWord n) : span n = .error ⟨⟩ := by
  unfold span
  by_cases hsr : wrapped (start n).row = lastWord
  · rw [next32_lastWord hsr]; rfl
  obtain ⟨startLine, hsl, -⟩ := next32_wrapped hsr
  by_cases hsc : wrapped (start n).column = lastWord
  · rw [hsl, next32_lastWord hsc]; rfl
  obtain ⟨startColumn, hsc', -⟩ := next32_wrapped hsc
  by_cases her : wrapped (stop n).row = lastWord
  · rw [hsl, hsc', next32_lastWord her]; rfl
  obtain ⟨endLine, hel, -⟩ := next32_wrapped her
  have hec : wrapped (stop n).column = lastWord := by
    rcases h with h | h | h | h
    · exact absurd h hsr
    · exact absurd h hsc
    · exact absurd h her
    · exact h
  rw [hsl, hsc', hel, next32_lastWord hec]; rfl

section Words

variable {n : N} (h : ¬ HasLastWord n)

include h

/-- Without the last word the four additions succeed. What becomes of their results depends on the order
of the two places. -/
theorem span_eq_of_words :
    ∃ own : Span, own.startPlace = fromOne (wrappedStart n) ∧
      own.endPlace = fromOne (wrappedStop n) ∧
      span n = match Span.between? own.startLine own.startColumn own.endLine own.endColumn with
        | some s => .ok s
        | none => do
          let after ← next32 own.startColumn
          return ⟨own.startLine, own.startColumn, own.startLine, after⟩ := by
  simp only [HasLastWord, not_or] at h
  obtain ⟨hsr, hsc, her, hec⟩ := h
  obtain ⟨startLine, hsl, hsl'⟩ := next32_wrapped hsr
  obtain ⟨startColumn, hsc, hsc'⟩ := next32_wrapped hsc
  obtain ⟨endLine, hel, hel'⟩ := next32_wrapped her
  obtain ⟨endColumn, hec, hec'⟩ := next32_wrapped hec
  refine ⟨⟨startLine, startColumn, endLine, endColumn⟩, Span.startPlace_eq.mpr ⟨hsl', hsc'⟩,
    Span.endPlace_eq.mpr ⟨hel', hec'⟩, ?_⟩
  unfold span
  rw [hsl, hsc, hel, hec]
  rfl

theorem span_eq_of_ordered (ho : wrappedStart n ≤ wrappedStop n) :
    ∃ s, span n = .ok s ∧ s.startPlace = fromOne (wrappedStart n) ∧
      s.endPlace = fromOne (wrappedStop n) := by
  obtain ⟨own, hstart, hstop, hspan⟩ := span_eq_of_words h
  have hord : own.startPlace ≤ own.endPlace := by
    rw [hstart, hstop]
    exact fromOne_le.mpr ho
  rw [between?_of_le hord] at hspan
  exact ⟨own, hspan, hstart, hstop⟩

theorem span_eq_of_inverted (ho : wrappedStop n < wrappedStart n) :
    ∃ line column : UInt32, line.toNat = wrapped (start n).row + 1 ∧
      column.toNat = wrapped (start n).column + 1 ∧
      span n = do
        let after ← next32 column
        return ⟨line, column, line, after⟩ := by
  obtain ⟨own, hstart, hstop, hspan⟩ := span_eq_of_words h
  have hinv : own.endPlace < own.startPlace := by
    rw [hstart, hstop]
    exact fromOne_lt.mpr ho
  rw [between?_of_inverted hinv] at hspan
  obtain ⟨hline, hcolumn⟩ := Span.startPlace_eq.mp hstart
  exact ⟨own.startLine, own.startColumn, hline, hcolumn, hspan⟩

end Words

/-- What the span of a node is, by the node's places in 32 bits. -/
structure IsWrappedSpan (n : N) (s : Span) : Prop where
  counted : ∀ x ∈ s.fields, 1 ≤ x.toNat ∧ x.toNat ≤ lastWord
  start : s.startPlace = fromOne (wrappedStart n)
  ordered : s.startPlace ≤ s.endPlace
  accepted : Span.between? s.startLine s.startColumn s.endLine s.endColumn = some s
  stop : s.endPlace = fromOne (wrappedStop n) ↔ ¬ fromOne (wrappedStop n) < s.startPlace
  oneColumn : fromOne (wrappedStop n) < s.startPlace →
    s.endPlace = toLex (s.startLine.toNat, s.startColumn.toNat + 1)

/-- A span whose two places are counted from one has all its fields counted from one. -/
theorem counted_of_places {s : Span} {p q : Lex (Nat × Nat)} (hstart : s.startPlace = fromOne p)
    (hend : s.endPlace = fromOne q) : ∀ x ∈ s.fields, 1 ≤ x.toNat ∧ x.toNat ≤ lastWord := by
  obtain ⟨hsl, hsc⟩ := Span.startPlace_eq.mp hstart
  obtain ⟨hel, hec⟩ := Span.endPlace_eq.mp hend
  simp only [fromOne, ofLex_toLex] at hsl hsc hel hec
  intro x hx
  have hle : x.toNat ≤ lastWord := Nat.le_sub_one_of_lt x.toNat_lt_size
  simp only [Span.fields, List.mem_cons, List.not_mem_nil, or_false] at hx
  rcases hx with rfl | rfl | rfl | rfl <;> omega

theorem isWrappedSpan_of_ordered {n : N} {s : Span} (ho : wrappedStart n ≤ wrappedStop n)
    (hstart : s.startPlace = fromOne (wrappedStart n))
    (hend : s.endPlace = fromOne (wrappedStop n)) : IsWrappedSpan n s := by
  have hord : s.startPlace ≤ s.endPlace := by
    rw [hstart, hend]
    exact fromOne_le.mpr ho
  have hle : ¬ fromOne (wrappedStop n) < s.startPlace := by
    rw [← hend]
    exact not_lt_of_ge hord
  exact {
    counted := counted_of_places hstart hend
    start := hstart
    ordered := hord
    accepted := between?_of_le hord
    stop := iff_of_true hend hle
    oneColumn := fun hlt => absurd hlt hle }

theorem isWrappedSpan_of_inverted {n : N} {s : Span} (ho : wrappedStop n < wrappedStart n)
    (hstart : s.startPlace = fromOne (wrappedStart n))
    (hend : s.endPlace = toLex (s.startLine.toNat, s.startColumn.toNat + 1)) :
    IsWrappedSpan n s := by
  have hord : s.startPlace ≤ s.endPlace := by
    rw [hend]
    exact Prod.Lex.toLex_le_toLex.mpr (Or.inr ⟨rfl, Nat.le_succ _⟩)
  have hlt : fromOne (wrappedStop n) < s.startPlace := by
    rw [hstart]
    exact fromOne_lt.mpr ho
  have hline : s.startLine.toNat = wrapped (start n).row + 1 := (Span.startPlace_eq.mp hstart).1
  have hend' : s.endPlace = fromOne (toLex (wrapped (start n).row, s.startColumn.toNat)) := by
    rw [hend, hline]
    rfl
  exact {
    counted := counted_of_places hstart hend'
    start := hstart
    ordered := hord
    accepted := between?_of_le hord
    stop := by
      refine iff_of_false ?_ (not_not_intro hlt)
      intro he
      rw [← he] at hlt
      exact absurd hord (not_le_of_gt hlt)
    oneColumn := fun _ => hend }

/-! ## Overflow and answer -/

theorem span_of_overflows {n : N} (h : SpanOverflows n) : span n = .error ⟨⟩ := by
  by_cases hlast : HasLastWord n
  · exact span_of_hasLastWord hlast
  obtain ⟨hinv, hcol⟩ := h.resolve_left hlast
  obtain ⟨line, column, -, hcolumn, hspan⟩ := span_eq_of_inverted hlast hinv
  have hlastColumn : column.toNat = lastWord := by
    rw [hcolumn, hcol]
    rfl
  rw [hspan, next32_eq, if_pos hlastColumn]
  rfl

theorem span_of_not_overflows {n : N} (h : ¬ SpanOverflows n) :
    ∃ s, span n = .ok s ∧ IsWrappedSpan n s := by
  simp only [SpanOverflows, not_or, not_and] at h
  obtain ⟨hlast, hcol⟩ := h
  rcases lt_or_ge (wrappedStop n) (wrappedStart n) with hinv | hord
  · obtain ⟨line, column, hline, hcolumn, hspan⟩ := span_eq_of_inverted hlast hinv
    have hne : column.toNat ≠ lastWord := by
      have := hcol hinv
      omega
    rw [next32_eq, if_neg hne] at hspan
    refine ⟨_, hspan, isWrappedSpan_of_inverted hinv (Span.startPlace_eq.mpr ⟨hline, hcolumn⟩) ?_⟩
    exact Span.endPlace_eq.mpr ⟨rfl, toNat_succ32 hne⟩
  · obtain ⟨s, hspan, hstart, hend⟩ := span_eq_of_ordered hlast hord
    exact ⟨s, hspan, isWrappedSpan_of_ordered hord hstart hend⟩

/-- **The span of any node**, whatever its rows and columns. An addition overflows exactly if one of the
four numbers ends in 32 ones, or the stop seems to come before the start and there is no column after the
start. Every other node has a span of numbers counted from one. It starts at the node's wrapped start and
is in order. It ends at the wrapped stop exactly if that does not come before the start, and one column
after the start otherwise. -/
theorem span_outcome (n : N) :
    (span n = .error ⟨⟩ ↔ SpanOverflows n) ∧
      (¬ SpanOverflows n → ∃ s, span n = .ok s ∧ IsWrappedSpan n s) := by
  refine ⟨⟨fun herror => ?_, span_of_overflows⟩, span_of_not_overflows⟩
  by_contra ho
  obtain ⟨s, hs, -⟩ := span_of_not_overflows ho
  rw [herror] at hs
  cases hs

/-- A node of more than 2³² rows that stops after its start: in 32 bits its stop is at row zero. -/
def wideNode (column : UInt64) : OutlineNode :=
  ⟨"block", ⟨5, column⟩, ⟨4294967296, 0⟩, []⟩

/-- The wide node is given one column, and overflows where there is none after its start. -/
theorem span_wideNode :
    (∃ s, span (wideNode 7) = .ok s ∧ s.startPlace = toLex (6, 8) ∧ s.endPlace = toLex (6, 9)) ∧
      span (wideNode 4294967294) = .error ⟨⟩ := by
  have hfits : ¬ SpanOverflows (wideNode 7) := by decide
  have hover : SpanOverflows (wideNode 4294967294) := by decide
  obtain ⟨s, hs, hown⟩ := (span_outcome (wideNode 7)).2 hfits
  have hstart : s.startPlace = toLex (6, 8) := hown.start
  have hend := hown.oneColumn (by rw [hstart]; decide)
  obtain ⟨hline, hcolumn⟩ := Span.startPlace_eq.mp hstart
  rw [hline, hcolumn] at hend
  exact ⟨⟨s, hs, hstart, hend⟩, (span_outcome (wideNode 4294967294)).1.mpr hover⟩

end TreeNode

end LineScope
