import LineScope.Proofs.Tree.Snapshot

/-!
# Shape and relative rows

Move a whole tree down by some rows and the range with it: the search gives the same answer at the same
path. The kinds of the nodes and their columns take no part in this and may be any others (`Shifted`), and
the first lines of a text are no special case.

Clear of the last row, corresponding nodes cover the range and the shifted range alike (`covers_shifted`)
and have equally many rows (`rows_shifted`). So two searches in such trees are in step
(`inStep_shifted`), visit by visit, and end alike (`enclosing?_shifted`). The distance is an integer, since
which of the two trees is the lower one does not matter.
-/
namespace LineScope

open TreeNode

variable {N M : Type} [TreeNode N] [TreeNode M]

/-- Trees of one shape, where each node of the second starts and stops `k` rows below its counterpart in
the first. -/
inductive Shifted (k : Int) : N → M → Prop where
  | node {n : N} {m : M} (start : (startRow m : Int) = startRow n + k)
      (stop : (stopRow m : Int) = stopRow n + k)
      (children : List.Forall₂ (Shifted k) (children n) (children m)) : Shifted k n m

/-- The range `r'` has the lines of `r`, each `k` lines further down. -/
def LineRange.ShiftedBy (k : Int) (r r' : LineRange) : Prop :=
  (r'.first.toNat : Int) = r.first.toNat + k ∧ (r'.last.toNat : Int) = r.last.toNat + k

/-- Shifted trees that both stay clear of the last row. -/
structure ShiftedClear (k : Int) (n : N) (m : M) : Prop where
  shifted : Shifted k n m
  left : RowsFit n
  right : RowsFit m

/-! ## Corresponding nodes -/

section Nodes

variable {k : Int} {n : N} {m : M}

theorem rows_shifted (h : Shifted k n m) : rows n = rows m := by
  obtain ⟨hstart, hstop, -⟩ := h
  unfold rows
  omega

theorem covers_shifted {r r' : LineRange} (h : Shifted k n m) (hr : r.ShiftedBy k r') :
    Covers r n ↔ Covers r' m := by
  obtain ⟨hstart, hstop, -⟩ := h
  obtain ⟨hfirst, hlast⟩ := hr
  unfold Covers
  omega

theorem spans_of_rowsFit {r : LineRange} (h : RowsFit n) :
    spans r n = .ok (decide (Covers r n)) := by
  rw [spans_eq, if_neg (not_overflows_root h)]

theorem children_shiftedClear {ns : List N} {ms : List M} (h : List.Forall₂ (Shifted k) ns ms)
    (hns : ∀ c ∈ ns, RowsFit c) (hms : ∀ c ∈ ms, RowsFit c) :
    List.Forall₂ (ShiftedClear k) ns ms := by
  induction h with
  | nil => exact .nil
  | cons hc _ ih =>
    rw [List.forall_mem_cons] at hns hms
    exact .cons ⟨hc, hns.1, hms.1⟩ (ih hns.2 hms.2)

end Nodes

/-! ## Searches -/

theorem inStep_shifted {k : Int} {r r' : LineRange} (hr : r.ShiftedBy k r') :
    InStep (ShiftedClear k : N → M → Prop) r r' where
  spans h := by
    rw [spans_of_rowsFit h.left, spans_of_rowsFit h.right,
      decide_eq_decide.mpr (covers_shifted h.shifted hr)]
  rowSpan h := by
    rw [← UInt64.toNat_inj, toNat_rowSpan, toNat_rowSpan]
    exact rows_shifted h.shifted
  children h := by
    obtain ⟨-, -, hchildren⟩ := h.shifted
    exact children_shiftedClear hchildren (rowsFit_iff.mp h.left).2 (rowsFit_iff.mp h.right).2

/-- **Only shape and relative rows matter.** Let two trees have one shape, the nodes of the second `k` rows
below those of the first, both clear of the last row; kinds and columns may differ in any way. Then the
search for a range in the first tree and the search for the range `k` lines further down in the second
both find nothing, or both find the node at one path, with equally many rows. -/
theorem enclosing?_shifted (k : Int) (n : N) (m : M) (r r' : LineRange) (h : Shifted k n m)
    (hn : RowsFit n) (hm : RowsFit m) (hr : r.ShiftedBy k r') :
    (enclosing? (some n) r = .ok none ∧ enclosing? (some m) r' = .ok none) ∨
      ∃ l l', enclosing? (some n) r = .ok (some l) ∧ enclosing? (some m) r' = .ok (some l') ∧
        l.path = l'.path ∧ at? n l.path = some l.node ∧ at? m l'.path = some l'.node ∧
        rowSpan l.node = rowSpan l'.node := by
  have halike := enclosing?_pair (inStep_shifted hr) (ShiftedClear.mk h hn hm)
  obtain ⟨found, hfound⟩ : ∃ found, enclosing? (some n) r = .ok found :=
    ⟨_, enclosing?_of_rowsFit hn r⟩
  rw [hfound] at halike
  obtain ⟨found', hfound', hpair⟩ := halike.eq_ok
  rw [hfound, hfound']
  cases hpair with
  | none => exact Or.inl ⟨rfl, rfl⟩
  | @some l l' hpair =>
    have hpath : l.path = l'.path := by unfold Located.path; rw [hpair.trail]
    exact Or.inr ⟨l, l', rfl, rfl, hpath, (enclosing?_found hfound).1, (enclosing?_found hfound').1,
      (inStep_shifted hr).rowSpan hpair.node⟩

def overgrownBelow : OutlineNode :=
  ⟨"module", ⟨24, 3⟩, ⟨25, 1⟩,
    [⟨"class", ⟨5, 8⟩, ⟨9, 2⟩, [⟨"method", ⟨5, 70⟩, ⟨11, 0⟩, []⟩]⟩, ⟨"class", ⟨5, 0⟩, ⟨11, 99⟩, []⟩]⟩

def lineSevenToEight : LineRange := ⟨7, 8, by decide, by decide⟩

/-- The inner node is found in the tree further down as it is in the overgrown one. -/
theorem enclosing?_overgrownBelow :
    Shifted 5 overgrown overgrownBelow ∧ lineTwoToThree.ShiftedBy 5 lineSevenToEight ∧
      ∃ l, enclosing? (some overgrownBelow) lineSevenToEight = .ok (some l) ∧ l.path = [0, 0] ∧
        rowSpan l.node = 6 := by
  have hfitBelow : RowsFit overgrownBelow := by decide +kernel
  have hbelow : Shifted 5 overgrown overgrownBelow :=
    .node rfl rfl (.cons (.node rfl rfl (.cons (.node rfl rfl .nil) .nil))
      (.cons (.node rfl rfl .nil) .nil))
  have hr : lineTwoToThree.ShiftedBy 5 lineSevenToEight := ⟨rfl, rfl⟩
  rcases enclosing?_shifted 5 overgrown overgrownBelow _ _ hbelow rowsFit_overgrown
    hfitBelow hr with
    ⟨hnone, -⟩ | ⟨l, l', hl, hl', hpath, -, -, hrows⟩
  · rw [overgrown_inner] at hnone
    cases hnone
  · rw [overgrown_inner] at hl
    cases hl
    exact ⟨hbelow, hr, l', hl', hpath.symm, hrows.symm⟩

end LineScope
