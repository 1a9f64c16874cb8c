import LineScope.Proofs.Tree.Winner

/-!
# The outermost node wins

In pre-order a node comes after the nodes above it, and of candidates with equally many rows the first
one is selected. So a found node never has an ancestor that covers the range with at least as many rows
(`not_covers_of_prefix`), whatever the shape of the tree.

Where every child's rows lie inside its parent's (`Nested`), the rows of all nodes lie inside the root's
(`nested_rows`); this includes chains of nodes with equal rows and nodes that stop before they start. A
candidate then makes the root a candidate with at least as many rows, and the search can report nothing
but the root (`outermost_wins`).
-/
namespace LineScope

open TreeNode

variable {N : Type} [TreeNode N]

/-- No node above the found one covers the range with at least as many rows. -/
theorem not_covers_of_prefix {r : LineRange} {root : N} {l : Located N}
    (h : enclosing? (some root) r = .ok (some l)) {p : List Nat} {a : N} (hp : p <+: l.path)
    (hne : p ≠ l.path) (ha : at? root p = some a) : ¬ (Covers r a ∧ rows l.node ≤ rows a) := by
  rintro ⟨hc, hle⟩
  have hwins := wins_of_enclosing? h
  have hpos := hwins.contends.2.2
  have hcontends : Contends r root p a := ⟨ha, hc, Nat.lt_of_lt_of_le hpos hle⟩
  have hbefore : p < l.path := (List.le_iff_lt_or_eq.mp hp.le).resolve_right hne
  have hlt := hwins.first p a hcontends hbefore
  exact absurd hle (Nat.not_le_of_lt hlt)

/-! ## Nested trees -/

/-- At every depth, the rows of a child lie inside its parent's. -/
def Nested (root : N) : Prop :=
  ∀ l ∈ preorder root, ∀ c ∈ children l.node,
    startRow l.node ≤ startRow c ∧ stopRow c ≤ stopRow l.node

instance (root : N) : Decidable (Nested root) := inferInstanceAs (Decidable (∀ l ∈ preorder root, _))

theorem Nested.child {root c : N} {i : Nat} (h : Nested root) (hc : (children root)[i]? = some c) :
    Nested c := by
  intro l hl
  refine h (l.beneath i) ?_
  rw [preorder_eq]
  exact List.mem_cons_of_mem _ (mem_preorderBelow.mpr ⟨i, c, l, hc, hl, rfl⟩)

theorem nested_rows {root n : N} {p : List Nat} (h : Nested root) (hn : at? root p = some n) :
    startRow root ≤ startRow n ∧ stopRow n ≤ stopRow root := by
  induction p generalizing root with
  | nil =>
    rw [at?_nil, Option.some_inj] at hn
    rw [hn]
    exact ⟨Nat.le_refl _, Nat.le_refl _⟩
  | cons i p ih =>
    obtain ⟨c, hc, hn⟩ := at?_cons.mp hn
    have hroot := h (.root root) (root_mem_preorder root) c (List.mem_of_getElem? hc)
    have hsub := ih (h.child hc) hn
    exact ⟨Nat.le_trans hroot.1 hsub.1, Nat.le_trans hsub.2 hroot.2⟩

/-- What a node covers the root covers, with at least as many rows. -/
theorem nested_eligible {r : LineRange} {root n : N} {p : List Nat} (h : Nested root)
    (hn : at? root p = some n) (he : Eligible r n) : Eligible r root ∧ rows n ≤ rows root := by
  obtain ⟨hs, he'⟩ := nested_rows h hn
  obtain ⟨⟨hfirst, hlast⟩, hpos⟩ := he
  unfold rows at hpos ⊢
  refine ⟨⟨⟨by omega, by omega⟩, ?_⟩, by omega⟩
  unfold rows
  omega

theorem nested_found {r : LineRange} {root : N} {found : Option (Located N)} (hn : Nested root)
    (h : enclosing? (some root) r = .ok found) :
    found = if Eligible r root then some (.root root) else none := by
  have hleads := leads_of_enclosing? h
  cases found with
  | none =>
    have hroot := candidates_eq_nil.mp ((leads_none_iff hleads).mp rfl) _ (root_mem_preorder root)
    exact (if_neg hroot).symm
  | some l =>
    obtain ⟨hat, hel⟩ := enclosing?_found h
    obtain ⟨hroot, hle⟩ := nested_eligible hn hat hel
    -- the root lies above every other node, so a node with a path would have lost to it
    have hpath : [] = l.path := by
      by_contra hne
      exact not_covers_of_prefix h List.nil_prefix hne (at?_nil root) ⟨hroot.1, hle⟩
    have hnode : l.node = root := by
      rw [← hpath, at?_nil, Option.some_inj] at hat
      exact hat.symm
    rw [if_pos hroot, Option.some_inj]
    exact Located.ext_path hpath.symm hnode

/-- What the rule reports of a nested tree: its root or nothing. -/
def rootOnly (r : LineRange) (root : N) : Option (Located N) :=
  if spans r root = .ok true ∧ 0 < rowSpan root then some (.root root) else none

/-- **The outermost node wins.** If a search reports a node, no node properly above it spans the range
with at least as many rows. So a search in a nested tree reports the root where the root spans the range
and has more than one row, and nothing in every other case; and clear of the last row a search always
succeeds. -/
theorem outermost_wins (root : N) (r : LineRange) :
    (∀ l, enclosing? (some root) r = .ok (some l) →
      ∀ p a, p <+: l.path → p ≠ l.path → at? root p = some a →
        ¬ (spans r a = .ok true ∧ rowSpan l.node ≤ rowSpan a)) ∧
    (Nested root → ∀ found, enclosing? (some root) r = .ok found → found = rootOnly r root) ∧
    (RowsFit root → ∃ found, enclosing? (some root) r = .ok found) := by
  refine ⟨fun l h p a hp hne ha hcov => ?_, fun hn found h => ?_, fun hfit => ?_⟩
  · rw [spans_eq_true, UInt64.le_iff_toNat_le, toNat_rowSpan, toNat_rowSpan] at hcov
    exact not_covers_of_prefix h hp hne ha ⟨hcov.1.2, hcov.2⟩
  · have ho : ¬ Overflows r root := fun ho =>
      not_overflows_of_enclosing? h ⟨.root root, root_mem_preorder root, ho⟩
    have hroot : Eligible r root ↔ spans r root = .ok true ∧ 0 < rowSpan root := by
      rw [spans_eq_true, UInt64.lt_iff_toNat_lt, toNat_rowSpan, UInt64.toNat_zero, Eligible]
      simp [ho]
    rw [nested_found hn h, rootOnly]
    simp only [hroot]
  · exact ⟨_, by rw [enclosing?_eq_ite, if_neg (not_overflows hfit)]⟩

/-- A chain of nodes with equal rows, the last of which holds a node that stops before it starts. -/
def evenChain : OutlineNode :=
  (OutlineNode.leaf "outer" 0 9).withChildren
    [(OutlineNode.leaf "inner" 0 9).withChildren [.leaf "inverted" 7 3]]

theorem enclosing?_evenChain : Nested evenChain ∧ RowsFit evenChain ∧
    enclosing? (some evenChain) lineTwoToThree = .ok (some (.root evenChain)) := by
  have hn : Nested evenChain := by decide +kernel
  have hfit : RowsFit evenChain := by decide +kernel
  have hroot : rootOnly lineTwoToThree evenChain = some (.root evenChain) := if_pos (by decide)
  obtain ⟨-, hnested, hok⟩ := outermost_wins evenChain lineTwoToThree
  obtain ⟨found, h⟩ := hok hfit
  rw [h, hnested hn found h, hroot]
  exact ⟨hn, hfit, rfl⟩

end LineScope
