import LineScope.Proofs.Tree.Selection

/-!
# The winner of a search

What a search reports can be said by paths alone, without a list of the tree's nodes. A node at a path
contends if it is eligible for the range, and it wins (`Wins`) if no contender has more rows and every
contender on a smaller path has fewer. Paths are compared as in the pre-order: a path comes before all
that extend it, and smaller indices come before larger ones. There is at most one winner (`wins_unique`),
and clear of the last row the search reports it (`enclosing?_eq_some_iff`), or nothing if no node contends
(`enclosing?_eq_none_iff`).

The first use is to compare two searches of one tree. A range inside another has every contender of the
wider range and perhaps more, so its winner cannot be smaller; and a winner that still contends when
others drop out stays the winner, also against nodes of its own size in other branches
(`enclosing?_within`).
-/
namespace LineScope

open TreeNode

variable {N : Type} [TreeNode N]

/-! ## Contenders -/

/-- The node `n` stands at the path `p` of the tree and is eligible for the range. -/
def Contends (r : LineRange) (root : N) (p : List Nat) (n : N) : Prop :=
  at? root p = some n ∧ Eligible r n

/-- The located node contends, no contender has more rows, and those on smaller paths have fewer. -/
structure Wins (r : LineRange) (root : N) (l : Located N) : Prop where
  contends : Contends r root l.path l.node
  largest (p : List Nat) (n : N) (h : Contends r root p n) : rows n ≤ rows l.node
  first (p : List Nat) (n : N) (h : Contends r root p n) (hp : p < l.path) : rows n < rows l.node

theorem wins_unique {r : LineRange} {root : N} {l m : Located N} (hl : Wins r root l)
    (hm : Wins r root m) : l = m := by
  have hlm := hm.largest _ _ hl.contends
  have hml := hl.largest _ _ hm.contends
  have hpath : l.path = m.path := by
    rcases Std.lt_trichotomy l.path m.path with hlt | heq | hgt
    · have := hm.first _ _ hl.contends hlt
      omega
    · exact heq
    · have := hl.first _ _ hm.contends hgt
      omega
  have hnode : some l.node = some m.node := by
    rw [← hl.contends.1, ← hm.contends.1, hpath]
  exact Located.ext_path hpath (Option.some_inj.mp hnode)

/-! ## What a search reports -/

theorem candidates_sorted (r : LineRange) (root : N) :
    (candidates r root).Pairwise fun l m => l.path < m.path :=
  (preorder_sorted root).filter _

theorem rows_lt_of_path_lt {r : LineRange} {root : N} {l m : Located N}
    (h : enclosing? (some root) r = .ok (some l)) (hm : m ∈ candidates r root)
    (hlt : m.path < l.path) : rows m.node < rows l.node := by
  obtain ⟨front, back, hsplit, hfront, -⟩ := leads_of_enclosing? h
  have hsorted := candidates_sorted r root
  rw [hsplit] at hm hsorted
  rw [List.pairwise_append, List.pairwise_cons] at hsorted
  simp only [List.mem_append, List.mem_cons] at hm
  obtain hm | hm | hm := hm
  · exact hfront m hm
  · rw [hm] at hlt
    exact absurd hlt (List.lt_irrefl _)
  · exact absurd (hsorted.2.1.1 m hm) (List.lt_asymm hlt)

theorem wins_of_enclosing? {r : LineRange} {root : N} {l : Located N}
    (h : enclosing? (some root) r = .ok (some l)) : Wins r root l where
  contends := enclosing?_found h
  largest p n hn := by
    obtain ⟨m, rfl, rfl⟩ := Located.exists_path p n
    simpa using leads_le (leads_of_enclosing? h) (mem_candidates.mpr hn)
  first p n hn hp := by
    obtain ⟨m, rfl, rfl⟩ := Located.exists_path p n
    exact rows_lt_of_path_lt h (mem_candidates.mpr hn) hp

section RowsFit

variable {r : LineRange} {root : N} (hfit : RowsFit root)

include hfit

theorem enclosing?_eq_none_iff :
    enclosing? (some root) r = .ok none ↔ ∀ p n, ¬ Contends r root p n := by
  rw [enclosing?_of_rowsFit hfit, Except.ok.injEq, leads_none_iff (leads_selection r root),
    List.eq_nil_iff_forall_not_mem]
  constructor
  · intro hempty p n hn
    obtain ⟨m, rfl, rfl⟩ := Located.exists_path p n
    exact hempty m (mem_candidates.mpr hn)
  · intro hno m hm
    exact hno m.path m.node (mem_candidates.mp hm)

theorem exists_enclosing?_of_contends {p : List Nat} {n : N} (hn : Contends r root p n) :
    ∃ l, enclosing? (some root) r = .ok (some l) ∧ rows n ≤ rows l.node := by
  have hfound := enclosing?_of_rowsFit hfit r
  cases hsel : selection r root with
  | none =>
    rw [hsel, enclosing?_eq_none_iff hfit] at hfound
    exact absurd hn (hfound p n)
  | some l =>
    rw [hsel] at hfound
    exact ⟨l, hfound, (wins_of_enclosing? hfound).largest p n hn⟩

/-- **A search reports the winner.** -/
theorem enclosing?_eq_some_iff {l : Located N} :
    enclosing? (some root) r = .ok (some l) ↔ Wins r root l := by
  constructor
  · exact wins_of_enclosing?
  · intro hl
    obtain ⟨m, hm, -⟩ := exists_enclosing?_of_contends hfit hl.contends
    rw [hm, wins_unique hl (wins_of_enclosing? hm)]

end RowsFit

/-! ## Wider and narrower ranges -/

/-- Every line of the range `r` is a line of `r'`. -/
def LineRange.Within (r r' : LineRange) : Prop := r'.first ≤ r.first ∧ r.last ≤ r'.last

instance (r r' : LineRange) : Decidable (r.Within r') := inferInstanceAs (Decidable (_ ∧ _))

section Within

variable {r r' : LineRange} (h : r.Within r')

include h

theorem covers_of_within {n : N} (hc : Covers r' n) : Covers r n := by
  obtain ⟨hfirst, hlast⟩ := h
  rw [UInt64.le_iff_toNat_le] at hfirst hlast
  unfold Covers at hc ⊢
  omega

theorem contends_of_within {root : N} {p : List Nat} {n : N} (hn : Contends r' root p n) :
    Contends r root p n :=
  ⟨hn.1, covers_of_within h hn.2.1, hn.2.2⟩

/-- A winner that covers the wider range wins there too: its rivals were rivals before. -/
theorem wins_of_within {root : N} {l : Located N} (hl : Wins r root l) (hc : Covers r' l.node) :
    Wins r' root l where
  contends := ⟨hl.contends.1, hc, hl.contends.2.2⟩
  largest p n hn := hl.largest p n (contends_of_within h hn)
  first p n hn := hl.first p n (contends_of_within h hn)

end Within

/-- **Wider and narrower ranges.** Let `r` lie within `r'`. If a search for `r'` reports a node, a search
for `r` reports one with at least as many rows. If a search for `r` reports a node that also spans `r'`, a
search for `r'` reports that very node, at the same path. -/
theorem enclosing?_within (root : N) (r r' : LineRange) (hfit : RowsFit root) (h : r.Within r') :
    (∀ m, enclosing? (some root) r' = .ok (some m) →
      ∃ l, enclosing? (some root) r = .ok (some l) ∧ rowSpan m.node ≤ rowSpan l.node) ∧
    (∀ l, enclosing? (some root) r = .ok (some l) → spans r' l.node = .ok true →
      enclosing? (some root) r' = .ok (some l)) := by
  constructor
  · intro m hm
    have hcontends : Contends r root m.path m.node :=
      contends_of_within h (wins_of_enclosing? hm).contends
    obtain ⟨l, hl, hle⟩ := exists_enclosing?_of_contends hfit hcontends
    exact ⟨l, hl, rowSpan_le_iff.mpr hle⟩
  · intro l hl hspans
    rw [enclosing?_eq_some_iff hfit] at hl ⊢
    exact wins_of_within h hl (spans_eq_true.mp hspans).2

def lineOneToSix : LineRange := ⟨1, 6, by decide, by decide⟩

/-- The inner node of the overgrown tree covers the wider range as well, where the node around it drops
out and the uncle with as many rows does not. -/
theorem enclosing?_within_overgrown :
    lineTwoToThree.Within lineOneToSix ∧
      enclosing? (some overgrown) lineOneToSix = .ok (some ⟨[0, 0], .leaf "inner" 0 6⟩) ∧
      ∃ l, enclosing? (some overgrown) lineTwoToThree = .ok (some l) ∧ 6 ≤ rowSpan l.node := by
  have hin : lineTwoToThree.Within lineOneToSix := by decide
  obtain ⟨hlarger, hsame⟩ := enclosing?_within overgrown _ _ rowsFit_overgrown hin
  have hwide := hsame _ overgrown_inner rfl
  exact ⟨hin, hwide, hlarger _ hwide⟩

end LineScope
