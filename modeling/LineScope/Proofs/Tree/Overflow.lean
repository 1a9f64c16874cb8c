import LineScope.Proofs.Tree.Selection

/-!
# When a search fails

A search has three endings. Without a root there is nothing to search, and the request is refused. With
a root every node is tested, so the search overflows exactly if the test of some node leaves its word;
where that node stands and which node was best before it do not matter. In every other case the search
succeeds.

The test of a node stops at a start that is too late, so the stop of such a node is never looked at: it
may lie on the last row of all without any harm.

Results:
* `run_error_iff`: the rest of a sweep, from wherever it stands, overflows exactly if a pending node does.
* `overflow_iff`: a search overflows exactly if the test of a node of the tree does.
* `enclosing?_outcome`: which of the three endings a search in an outline has.
-/
namespace LineScope

open TreeNode

variable {N : Type} [TreeNode N]

/-- **The rest of a sweep** overflows exactly if the test of a pending node does. -/
theorem Sweep.run_error_iff (r : LineRange) (s : Sweep N) :
    s.run r = .error ⟨⟩ ↔ ∃ l ∈ s.pending, Overflows r l.node := by
  rw [run_eq, foldlM_weigh]
  split
  · exact iff_of_true rfl ‹_›
  · exact iff_of_false (by rintro ⟨⟩) ‹_›

/-! ## Trees with a root -/

theorem exists_preorder_iff {root : N} {P : N → Prop} :
    (∃ l ∈ preorder root, P l.node) ↔ ∃ p n, at? root p = some n ∧ P n := by
  constructor
  · rintro ⟨l, hl, hP⟩
    exact ⟨l.path, l.node, mem_preorder.mp hl, hP⟩
  · rintro ⟨p, n, hn, hP⟩
    obtain ⟨l, rfl, rfl⟩ := Located.exists_path p n
    exact ⟨l, mem_preorder.mpr hn, hP⟩

theorem overflow_iff (root : N) (r : LineRange) :
    enclosing? (some root) r = .error .overflow ↔ ∃ p n, at? root p = some n ∧ Overflows r n := by
  rw [← exists_preorder_iff, enclosing?_eq_ite]
  split
  · exact iff_of_true rfl ‹_›
  · exact iff_of_false (by rintro ⟨⟩) ‹_›

theorem succeeds_iff (root : N) (r : LineRange) :
    (∃ found, enclosing? (some root) r = .ok found) ↔
      ¬ ∃ p n, at? root p = some n ∧ Overflows r n := by
  rw [← exists_preorder_iff]
  constructor
  · rintro ⟨found, h⟩
    exact not_overflows_of_enclosing? h
  · intro ho
    exact ⟨_, by rw [enclosing?_eq_ite, if_neg ho]⟩

/-- The rows at which the nodes of a tree start and stop, wherever the nodes stand. -/
def rowPairs (root : N) : List (Nat × Nat) :=
  (preorder root).map fun l => (startRow l.node, stopRow l.node)

/-- Whether some node overflows can be seen from the rows alone. -/
theorem overflows_iff_rowPairs (root : N) (r : LineRange) :
    (∃ p n, at? root p = some n ∧ Overflows r n) ↔
      ∃ rows ∈ rowPairs root,
        rows.1 = lastRow ∨ rows.1 + 1 ≤ r.first.toNat ∧ rows.2 = lastRow := by
  rw [← exists_preorder_iff]
  simp [rowPairs, Overflows]

/-- The stop of a node that starts after the first line of the range is not looked at. -/
theorem not_overflows_of_late {r : LineRange} {n : N} (hs : startRow n ≠ lastRow)
    (hlate : r.first.toNat < startRow n + 1) : ¬ Overflows r n := by
  rintro (h | ⟨h, -⟩)
  · exact hs h
  · omega

/-! ## The three endings -/

/-- **When a search fails.** A search in an outline is refused as a bad request exactly if there is no
root. With a root it overflows exactly if some node, on whatever path, starts on the last row of all or
starts soon enough and stops there; in every other case it succeeds. So trees that hold the same rows in
any arrangement overflow alike, a sweep overflows alike whatever its best node is, and a node that starts
after the first line of the range, wherever it stops, has no part in it. -/
theorem enclosing?_outcome (t : Outline) (r : LineRange) :
    ((∃ reason, enclosing? t.root r = .error (.reported ⟨.invalidInput, reason⟩)) ↔ t.root = none) ∧
    (∀ root, t.root = some root →
      (enclosing? t.root r = .error .overflow ↔
        ∃ p n, at? root p = some n ∧
          (startRow n = lastRow ∨ startRow n + 1 ≤ r.first.toNat ∧ stopRow n = lastRow)) ∧
      ((∃ found, enclosing? t.root r = .ok found) ↔
        ¬ ∃ p n, at? root p = some n ∧
          (startRow n = lastRow ∨ startRow n + 1 ≤ r.first.toNat ∧ stopRow n = lastRow))) ∧
    (∀ root root' : OutlineNode, (∀ rows, rows ∈ rowPairs root ↔ rows ∈ rowPairs root') →
      (enclosing? (some root) r = .error .overflow ↔
        enclosing? (some root') r = .error .overflow)) ∧
    (∀ (s : Sweep OutlineNode) (best : Option (Located OutlineNode)),
      s.run r = .error ⟨⟩ ↔ { s with best }.run r = .error ⟨⟩) ∧
    (∀ (root : OutlineNode) (p : List Nat) (n : OutlineNode), at? root p = some n →
      startRow n ≠ lastRow → r.first.toNat < startRow n + 1 →
      (enclosing? (some root) r = .error .overflow ↔
        ∃ q m, q ≠ p ∧ at? root q = some m ∧ Overflows r m)) := by
  refine ⟨?_, fun root hroot => ?_, fun root root' hrows => ?_, fun s best => ?_,
    fun root p n hn hs hlate => ?_⟩
  · cases hroot : t.root with
    | none => exact iff_of_true ⟨_, rfl⟩ rfl
    | some root =>
      refine iff_of_false ?_ (by rintro ⟨⟩)
      rintro ⟨reason, h⟩
      cases enclosing?_error h
  · rw [hroot]
    exact ⟨overflow_iff root r, succeeds_iff root r⟩
  · rw [overflow_iff, overflow_iff, overflows_iff_rowPairs, overflows_iff_rowPairs]
    simp only [hrows]
  · rw [Sweep.run_error_iff, Sweep.run_error_iff]
    rfl
  · rw [overflow_iff]
    constructor
    · rintro ⟨q, m, hm, ho⟩
      refine ⟨q, m, ?_, hm, ho⟩
      rintro rfl
      rw [hn, Option.some_inj] at hm
      rw [← hm] at ho
      exact not_overflows_of_late hs hlate ho
    · rintro ⟨q, m, -, hm, ho⟩
      exact ⟨q, m, hm, ho⟩

def endless : OutlineNode :=
  (OutlineNode.leaf "root" 0 9).withChildren
    [(OutlineNode.leaf "outer" 1 8).withChildren [.leaf "endless" 4 18446744073709551615]]

/-- The same nodes with the endless one on top. -/
def endlessOnTop : OutlineNode :=
  (OutlineNode.leaf "endless" 4 18446744073709551615).withChildren
    [.leaf "outer" 1 8, .leaf "root" 0 9]

def lineFive : LineRange := ⟨5, 5, by decide, by decide⟩

/-- The node without an end is looked at for the line it starts on, wherever it stands, but not for
lines before it. -/
theorem enclosing?_endless :
    enclosing? (some endless) lineFive = .error .overflow ∧
      enclosing? (some endlessOnTop) lineFive = .error .overflow ∧
      ∃ found, enclosing? (some endless) lineTwoToThree = .ok found := by
  obtain ⟨-, hfive, hmoved, -, -⟩ := enclosing?_outcome ⟨some endless⟩ lineFive
  obtain ⟨-, htwo, -, -, -⟩ := enclosing?_outcome ⟨some endless⟩ lineTwoToThree
  have hover : enclosing? (some endless) lineFive = .error .overflow :=
    (hfive endless rfl).1.mpr ⟨[0, 0], _, rfl, Or.inr (by decide)⟩
  have hrows : (rowPairs endless).Perm (rowPairs endlessOnTop) := by decide +kernel
  have hclear : ¬ ∃ l ∈ preorder endless, Overflows lineTwoToThree l.node := by decide +kernel
  rw [exists_preorder_iff] at hclear
  exact ⟨hover, (hmoved endless endlessOnTop fun _ => hrows.mem_iff).mp hover,
    (htwo endless rfl).2.mpr hclear⟩

end LineScope
