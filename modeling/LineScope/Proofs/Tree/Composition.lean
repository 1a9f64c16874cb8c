import LineScope.Proofs.Tree.Winner

/-!
# A search is put together from the searches of the children

A sweep keeps one stack and one best node for the whole tree, so nothing of it belongs to a single child.
Still its answer is made of the answers that the children give as trees of their own. The children that
find something offer what they found (`Offers`). The node itself is reported if it spans the range with
more than one row and no child offers more (`Prevails`); otherwise the first of the largest offers is
(`BestOffer`), at the child's index followed by the path in the child; and where there is neither, nothing
is.

A path in a tree is empty or begins with the index of a child. So the contenders of a tree are its root
and those of its children, and each of the three answers is a matter of comparing rows
(`wins_root_iff`, `wins_beneath_iff`, `not_contends_iff`).

Since nothing but the rows of the offers is compared, children may be exchanged for others that offer as
many rows: the choice among the node and its children stays the same (`branch_of_offersAlike`).
-/
namespace LineScope

open TreeNode

variable {N : Type} [TreeNode N]

/-! ## Trees and their children -/

theorem contends_nil {r : LineRange} {n m : N} :
    Contends r n [] m ↔ n = m ∧ Eligible r m := by
  rw [Contends, at?_nil, Option.some_inj]

theorem contends_cons {r : LineRange} {n m : N} {i : Nat} {p : List Nat} :
    Contends r n (i :: p) m ↔ ∃ c, (children n)[i]? = some c ∧ Contends r c p m := by
  simp only [Contends, at?_cons]
  constructor
  · intro h
    obtain ⟨⟨c, hc, hm⟩, he⟩ := h
    exact ⟨c, hc, hm, he⟩
  · intro h
    obtain ⟨c, hc, hm, he⟩ := h
    exact ⟨⟨c, hc, hm⟩, he⟩

/-! ## Offers -/

/-- The child at place `i` has `l` to offer: searched as a tree of its own, it gives `l`. -/
def Offers (r : LineRange) (cs : List N) (i : Nat) (l : Located N) : Prop :=
  ∃ c, cs[i]? = some c ∧ enclosing? (some c) r = .ok (some l)

/-- The offer of the child at place `i` is the first of those with the most rows. -/
structure BestOffer (r : LineRange) (cs : List N) (i : Nat) (l : Located N) : Prop where
  offers : Offers r cs i l
  largest (j : Nat) (m : Located N) (h : Offers r cs j m) : rowSpan m.node ≤ rowSpan l.node
  first (j : Nat) (m : Located N) (h : Offers r cs j m) (hj : j < i) :
    rowSpan m.node < rowSpan l.node

/-- The node spans the range with more than one row, and no child offers more rows. -/
structure Prevails (r : LineRange) (n : N) : Prop where
  spans : spans r n = .ok true
  pos : 0 < rowSpan n
  largest (j : Nat) (m : Located N) (h : Offers r (children n) j m) : rowSpan m.node ≤ rowSpan n

theorem offers_unique {r : LineRange} {cs : List N} {i : Nat} {l m : Located N}
    (hl : Offers r cs i l) (hm : Offers r cs i m) : l = m := by
  obtain ⟨c, hc, hl⟩ := hl
  obtain ⟨c', hc', hm⟩ := hm
  rw [hc, Option.some_inj] at hc'
  rw [← hc', hl, Except.ok.injEq, Option.some_inj] at hm
  exact hm

/-- What a child offers contends in the whole tree. -/
theorem contends_of_offers {r : LineRange} {n : N} {i : Nat} {l : Located N}
    (h : Offers r (children n) i l) : Contends r n (i :: l.path) l.node := by
  obtain ⟨c, hc, hl⟩ := h
  exact contends_cons.mpr ⟨c, hc, (wins_of_enclosing? hl).contends⟩

/-- The winner of a tree has the contenders of its own child among its rivals, so it wins there. -/
theorem wins_of_wins_beneath {r : LineRange} {n : N} {i : Nat} {l : Located N}
    (h : Wins r n (l.beneath i)) : ∃ c, (children n)[i]? = some c ∧ Wins r c l := by
  have hcontends := h.contends
  rw [Located.path_beneath, contends_cons] at hcontends
  obtain ⟨c, hc, hl⟩ := hcontends
  refine ⟨c, hc, hl, ?_, ?_⟩
  · intro p m hm
    exact h.largest (i :: p) m (contends_cons.mpr ⟨c, hc, hm⟩)
  · intro p m hm hp
    refine h.first (i :: p) m (contends_cons.mpr ⟨c, hc, hm⟩) ?_
    rw [Located.path_beneath, List.cons_lt_cons_iff]
    exact Or.inr ⟨rfl, hp⟩

/-! ## The three answers -/

section Answers

variable {r : LineRange} {n : N} (hfit : RowsFit n)

include hfit

theorem rowsFit_child {c : N} {i : Nat} (hc : (children n)[i]? = some c) : RowsFit c :=
  (rowsFit_iff.mp hfit).2 c (List.mem_of_getElem? hc)

theorem eligible_iff : Eligible r n ↔ spans r n = .ok true ∧ 0 < rowSpan n := by
  rw [spans_eq_true, UInt64.lt_iff_toNat_lt, toNat_rowSpan, UInt64.toNat_zero, Eligible]
  simp [not_overflows_root hfit]

theorem offers_of_contends {i : Nat} {p : List Nat} {m : N} (h : Contends r n (i :: p) m) :
    ∃ l, Offers r (children n) i l ∧ rows m ≤ rows l.node := by
  obtain ⟨c, hc, hm⟩ := contends_cons.mp h
  obtain ⟨l, hl, hle⟩ := exists_enclosing?_of_contends (rowsFit_child hfit hc) hm
  exact ⟨l, ⟨c, hc, hl⟩, hle⟩

theorem wins_root_iff : Wins r n (.root n) ↔ Prevails r n := by
  constructor
  · intro h
    obtain ⟨hspans, hpos⟩ := (eligible_iff hfit).mp h.contends.2
    refine ⟨hspans, hpos, ?_⟩
    intro j m hm
    exact rowSpan_le_iff.mpr (h.largest _ _ (contends_of_offers hm))
  · intro h
    refine ⟨contends_nil.mpr ⟨rfl, (eligible_iff hfit).mpr ⟨h.spans, h.pos⟩⟩, ?_, ?_⟩
    · intro p m hm
      cases p with
      | nil => rw [← (contends_nil.mp hm).1]; exact Nat.le_refl _
      | cons i p =>
        obtain ⟨l, hl, hle⟩ := offers_of_contends hfit hm
        exact Nat.le_trans hle (rowSpan_le_iff.mp (h.largest i l hl))
    · intro p m _ hp
      exact absurd hp (List.not_lt_nil p)

theorem bestOffer_of_wins {i : Nat} {l : Located N} (h : Wins r n (l.beneath i)) :
    BestOffer r (children n) i l := by
  obtain ⟨c, hc, hl⟩ := wins_of_wins_beneath h
  refine ⟨⟨c, hc, (enclosing?_eq_some_iff (rowsFit_child hfit hc)).mpr hl⟩, ?_, ?_⟩
  · intro j m hm
    exact rowSpan_le_iff.mpr (h.largest _ _ (contends_of_offers hm))
  · intro j m hm hj
    refine rowSpan_lt_iff.mpr (h.first _ _ (contends_of_offers hm) ?_)
    rw [Located.path_beneath, List.cons_lt_cons_iff]
    exact Or.inl hj

/-- A node that does not prevail has lost to some offer, so it has fewer rows than the best one. -/
theorem rows_lt_of_not_prevails {i : Nat} {l : Located N} (hroot : ¬ Prevails r n)
    (hbest : BestOffer r (children n) i l) (he : Eligible r n) : rows n < rows l.node := by
  obtain ⟨hspans, hpos⟩ := (eligible_iff hfit).mp he
  by_contra hge
  refine hroot ⟨hspans, hpos, ?_⟩
  intro j m hm
  have := rowSpan_le_iff.mp (hbest.largest j m hm)
  exact rowSpan_le_iff.mpr (by omega)

theorem wins_of_bestOffer {i : Nat} {l : Located N} (hroot : ¬ Prevails r n)
    (hbest : BestOffer r (children n) i l) : Wins r n (l.beneath i) := by
  have hless := rows_lt_of_not_prevails hfit hroot hbest
  refine ⟨?_, ?_, ?_⟩
  · rw [Located.path_beneath]
    exact contends_of_offers hbest.offers
  · intro p m hm
    cases p with
    | nil =>
      obtain ⟨rfl, he⟩ := contends_nil.mp hm
      exact Nat.le_of_lt (hless he)
    | cons j p =>
      obtain ⟨l', hl', hle⟩ := offers_of_contends hfit hm
      exact Nat.le_trans hle (rowSpan_le_iff.mp (hbest.largest j l' hl'))
  · intro p m hm hp
    cases p with
    | nil =>
      obtain ⟨rfl, he⟩ := contends_nil.mp hm
      exact hless he
    | cons j p =>
      rw [Located.path_beneath, List.cons_lt_cons_iff] at hp
      rcases hp with hj | ⟨rfl, hp⟩
      · obtain ⟨l', hl', hle⟩ := offers_of_contends hfit hm
        exact Nat.lt_of_le_of_lt hle (rowSpan_lt_iff.mp (hbest.first j l' hl' hj))
      · -- both stand beneath one child, where the offer came first
        obtain ⟨c, hc, hm⟩ := contends_cons.mp hm
        obtain ⟨c', hc', hl⟩ := hbest.offers
        rw [hc, Option.some_inj] at hc'
        rw [← hc'] at hl
        exact (wins_of_enclosing? hl).first p m hm hp

/-- **A node beneath a child** wins exactly if the node itself does not prevail and the child's offer is
the best one. -/
theorem wins_beneath_iff {i : Nat} {l : Located N} :
    Wins r n (l.beneath i) ↔ ¬ Prevails r n ∧ BestOffer r (children n) i l := by
  constructor
  · intro h
    refine ⟨?_, bestOffer_of_wins hfit h⟩
    intro hprevails
    have hpath := congrArg Located.path (wins_unique h ((wins_root_iff hfit).mpr hprevails))
    rw [Located.path_beneath, Located.path_root] at hpath
    cases hpath
  · intro h
    exact wins_of_bestOffer hfit h.1 h.2

/-- **Nothing** contends exactly if the node does not prevail and no child has an offer. -/
theorem not_contends_iff :
    (∀ p m, ¬ Contends r n p m) ↔ ¬ Prevails r n ∧ ∀ i l, ¬ Offers r (children n) i l := by
  constructor
  · intro h
    refine ⟨?_, ?_⟩
    · intro hprevails
      exact h _ _ ((wins_root_iff hfit).mpr hprevails).contends
    · intro i l hl
      exact h _ _ (contends_of_offers hl)
  · intro h p m hm
    obtain ⟨hroot, hno⟩ := h
    cases p with
    | nil =>
      obtain ⟨rfl, he⟩ := contends_nil.mp hm
      obtain ⟨hspans, hpos⟩ := (eligible_iff hfit).mp he
      exact hroot ⟨hspans, hpos, fun j l hl => absurd hl (hno j l)⟩
    | cons i p =>
      obtain ⟨l, hl, -⟩ := offers_of_contends hfit hm
      exact hno i l hl

end Answers

/-! ## Children in exchange -/

/-- The child of the root that the node is at or beneath; none for the root itself. -/
def Located.branch {N : Type} (l : Located N) : Option Nat := l.path.head?

/-- At each place, the children of the two lists offer equally many rows or both offer nothing. -/
def OffersAlike (r : LineRange) (cs cs' : List N) : Prop :=
  ∀ i k, (∃ l, Offers r cs i l ∧ rowSpan l.node = k) ↔ ∃ l, Offers r cs' i l ∧ rowSpan l.node = k

section Alike

variable {r : LineRange} {cs cs' : List N} (h : OffersAlike r cs cs')

include h

theorem OffersAlike.symm : OffersAlike r cs' cs := fun i k => (h i k).symm

theorem OffersAlike.offers {i : Nat} {l : Located N} (hl : Offers r cs i l) :
    ∃ l', Offers r cs' i l' ∧ rowSpan l'.node = rowSpan l.node :=
  (h i _).mp ⟨l, hl, rfl⟩

theorem OffersAlike.bestOffer {i : Nat} {l : Located N} (hbest : BestOffer r cs i l) :
    ∃ l', BestOffer r cs' i l' := by
  obtain ⟨l', hl', hrows⟩ := h.offers hbest.offers
  refine ⟨l', hl', ?_, ?_⟩
  · intro j m' hm'
    obtain ⟨m, hm, heq⟩ := h.symm.offers hm'
    rw [← heq, hrows]
    exact hbest.largest j m hm
  · intro j m' hm' hj
    obtain ⟨m, hm, heq⟩ := h.symm.offers hm'
    rw [← heq, hrows]
    exact hbest.first j m hm hj

end Alike

theorem prevails_of_offersAlike {r : LineRange} {n n' : N} (hspans : spans r n = spans r n')
    (hrows : rowSpan n = rowSpan n') (h : OffersAlike r (children n) (children n'))
    (hn : Prevails r n) : Prevails r n' := by
  refine ⟨hspans ▸ hn.spans, hrows ▸ hn.pos, ?_⟩
  intro j m' hm'
  obtain ⟨m, hm, heq⟩ := h.symm.offers hm'
  rw [← heq, ← hrows]
  exact hn.largest j m hm

omit [TreeNode N] in
/-- A located node is the root or beneath a child of the root. -/
theorem Located.root_or_beneath (l : Located N) :
    l.path = [] ∨ ∃ i m, l = Located.beneath i m := by
  cases hp : l.path with
  | nil => exact Or.inl rfl
  | cons i p =>
    obtain ⟨m, hm, hnode⟩ := Located.exists_path p l.node
    refine Or.inr ⟨i, m, Located.ext_path ?_ hnode.symm⟩
    rw [hp, Located.path_beneath, hm]

/-- **The choice depends on the offered rows alone.** -/
theorem branch_of_offersAlike {r : LineRange} {n n' : N} (hfit : RowsFit n) (hfit' : RowsFit n')
    (hspans : spans r n = spans r n') (hrows : rowSpan n = rowSpan n')
    (h : OffersAlike r (children n) (children n')) {found : Located N}
    (hfound : Wins r n found) : ∃ found', Wins r n' found' ∧ found'.branch = found.branch := by
  rcases found.root_or_beneath with hnil | ⟨i, l, rfl⟩
  · have hroot : found = .root n := by
      have hcontends := hfound.contends
      rw [hnil, contends_nil] at hcontends
      exact Located.ext_path hnil hcontends.1.symm
    rw [hroot, wins_root_iff hfit] at hfound
    refine ⟨.root n', (wins_root_iff hfit').mpr (prevails_of_offersAlike hspans hrows h hfound), ?_⟩
    rw [hroot]
    rfl
  · obtain ⟨hno, hbest⟩ := (wins_beneath_iff hfit).mp hfound
    obtain ⟨l', hbest'⟩ := h.bestOffer hbest
    have hno' : ¬ Prevails r n' := by
      intro hn'
      exact hno (prevails_of_offersAlike hspans.symm hrows.symm h.symm hn')
    refine ⟨l'.beneath i, (wins_beneath_iff hfit').mpr ⟨hno', hbest'⟩, ?_⟩
    unfold Located.branch
    rw [Located.path_beneath, Located.path_beneath, List.head?_cons, List.head?_cons]

/-- Exchanging a child for one that offers as many rows keeps the offers alike. -/
theorem offersAlike_set {r : LineRange} {cs : List N} {i : Nat} {c' : N} {l l' : Located N}
    (hl : Offers r cs i l) (hl' : enclosing? (some c') r = .ok (some l'))
    (hrows : rowSpan l'.node = rowSpan l.node) : OffersAlike r cs (cs.set i c') := by
  have hlt : i < cs.length := by
    obtain ⟨c, hc, -⟩ := hl
    exact (List.getElem?_eq_some_iff.mp hc).1
  have hset : Offers r (cs.set i c') i l' := ⟨c', List.getElem?_set_self hlt, hl'⟩
  intro j k
  by_cases hij : i = j
  · subst hij
    constructor
    · intro ⟨m, hm, hk⟩
      rw [offers_unique hm hl, ← hrows] at hk
      exact ⟨l', hset, hk⟩
    · intro ⟨m, hm, hk⟩
      rw [offers_unique hm hset, hrows] at hk
      exact ⟨l, hl, hk⟩
  · unfold Offers
    rw [List.getElem?_set_ne hij]

theorem rowsFit_set {n : OutlineNode} {cs : List OutlineNode} {i : Nat} {c' : OutlineNode}
    (hfit : RowsFit (n.withChildren cs)) (hc' : RowsFit c') :
    RowsFit (n.withChildren (cs.set i c')) := by
  rw [rowsFit_iff] at hfit ⊢
  refine ⟨hfit.1, ?_⟩
  intro c hc
  rcases List.mem_or_eq_of_mem_set hc with hc | rfl
  · exact hfit.2 c hc
  · exact hc'

/-! ## Outlines -/

/-- **A search is put together from the searches of the children.** Give a node the children `cs`, with no
row on the last row of all. The search of each child and that of the whole succeed. The whole search gives
the node itself exactly if the node prevails; what a child offers, at the child's index followed by its
path in the child, exactly if the node does not prevail and the offer is the first of the largest; and
nothing exactly if the node does not prevail and no child has an offer. So if a child is exchanged for a
tree whose search gives equally many rows, the search still chooses the node itself or the child at the
same place. -/
theorem enclosing?_withChildren (n : OutlineNode) (cs : List OutlineNode) (r : LineRange)
    (hfit : RowsFit (n.withChildren cs)) :
    (∃ found, enclosing? (some (n.withChildren cs)) r = .ok found) ∧
    (∀ c ∈ cs, ∃ found, enclosing? (some c) r = .ok found) ∧
    (enclosing? (some (n.withChildren cs)) r = .ok (some (.root (n.withChildren cs))) ↔
      Prevails r (n.withChildren cs)) ∧
    (∀ i l, enclosing? (some (n.withChildren cs)) r = .ok (some (l.beneath i)) ↔
      ¬ Prevails r (n.withChildren cs) ∧ BestOffer r cs i l) ∧
    (enclosing? (some (n.withChildren cs)) r = .ok none ↔
      ¬ Prevails r (n.withChildren cs) ∧ ∀ i l, ¬ Offers r cs i l) ∧
    (∀ i l c' l', Offers r cs i l → RowsFit c' → enclosing? (some c') r = .ok (some l') →
      rowSpan l'.node = rowSpan l.node →
      ∃ found found', enclosing? (some (n.withChildren cs)) r = .ok (some found) ∧
        enclosing? (some (n.withChildren (cs.set i c'))) r = .ok (some found') ∧
        found'.branch = found.branch) := by
  refine ⟨⟨_, enclosing?_of_rowsFit hfit r⟩, ?_, ?_, ?_, ?_, ?_⟩
  · intro c hc
    exact ⟨_, enclosing?_of_rowsFit ((rowsFit_iff.mp hfit).2 c hc) r⟩
  · rw [enclosing?_eq_some_iff hfit, wins_root_iff hfit]
  · intro i l
    rw [enclosing?_eq_some_iff hfit, wins_beneath_iff hfit]
    rfl
  · rw [enclosing?_eq_none_iff hfit, not_contends_iff hfit]
    rfl
  · intro i l c' l' hl hc' hl' hrows
    have hfit' : RowsFit (n.withChildren (cs.set i c')) := rowsFit_set hfit hc'
    obtain ⟨found, hfound, -⟩ := exists_enclosing?_of_contends hfit (contends_of_offers hl)
    obtain ⟨found', hwins', hbranch⟩ := branch_of_offersAlike hfit hfit' rfl rfl
      (offersAlike_set hl hl' hrows) (wins_of_enclosing? hfound)
    exact ⟨found, found', hfound, (enclosing?_eq_some_iff hfit').mpr hwins', hbranch⟩

def overgrownOuter : OutlineNode :=
  (OutlineNode.leaf "outer" 0 4).withChildren [.leaf "inner" 0 6]

/-- The first child of the overgrown tree and a single node of six rows offer alike, and as many rows as
the uncle. So with the one in place of the other, the search still goes to the first child. -/
theorem enclosing?_exchanged :
    Offers lineTwoToThree [overgrownOuter, .leaf "uncle" 0 6] 0 ⟨[0], .leaf "inner" 0 6⟩ ∧
      ∃ found, enclosing? (some ((OutlineNode.leaf "root" 19 20).withChildren
          [.leaf "single" 1 7, .leaf "uncle" 0 6])) lineTwoToThree = .ok (some found) ∧
        found.branch = some 0 := by
  have hfitOuter : RowsFit overgrownOuter := by decide +kernel
  have hfitSingle : RowsFit (OutlineNode.leaf "single" 1 7) := by decide +kernel
  have houter : enclosing? (some overgrownOuter) lineTwoToThree =
      .ok (some ⟨[0], .leaf "inner" 0 6⟩) := by
    rw [enclosing?_of_rowsFit hfitOuter]
    with_unfolding_all rfl
  have hsingle : enclosing? (some (OutlineNode.leaf "single" 1 7)) lineTwoToThree =
      .ok (some (.root (.leaf "single" 1 7))) := by
    rw [enclosing?_of_rowsFit hfitSingle]
    with_unfolding_all rfl
  have hoffers : Offers lineTwoToThree [overgrownOuter, .leaf "uncle" 0 6] 0
      ⟨[0], .leaf "inner" 0 6⟩ := ⟨overgrownOuter, rfl, houter⟩
  obtain ⟨-, -, -, -, -, hexchange⟩ := enclosing?_withChildren (.leaf "root" 19 20)
    [overgrownOuter, .leaf "uncle" 0 6] lineTwoToThree rowsFit_overgrown
  obtain ⟨found, found', hfound, hfound', hbranch⟩ :=
    hexchange 0 _ (.leaf "single" 1 7) _ hoffers hfitSingle hsingle rfl
  have hfirst : found = ⟨[0, 0], .leaf "inner" 0 6⟩ := by
    rw [show (OutlineNode.leaf "root" 19 20).withChildren [overgrownOuter, .leaf "uncle" 0 6] =
      overgrown from rfl, overgrown_inner, Except.ok.injEq, Option.some_inj] at hfound
    exact hfound.symm
  refine ⟨hoffers, found', hfound', ?_⟩
  rw [hbranch, hfirst]
  rfl

end LineScope
