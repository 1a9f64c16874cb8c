import LineScope.Proofs.Tree.Sweep
import LineScope.Tree.Outline

/-!
# The selection rule

The rule by which a search answers, said on plain numbers and on the pre-order alone: a node is a
candidate if its lines cover the range and it has more than one row, and of the candidates the first one
with the most rows is selected (`selection`). No nesting of the nodes is asked for, and a node may stop
before it starts.

A node is tested with checked additions, which fail on the last row of all (`Overflows`). The invariant
of the fold behind a search is `Leads`: the best node so far is the first of the largest candidates
visited so far.

Results:
* `enclosing?_eq_ite`: a search overflows exactly if the test of some node does, wherever it stands in
  the tree, and gives the selection otherwise.
* `enclosing?_eq_selection`: in a tree that stays clear of the last row the search gives the selection,
  which is empty exactly if no node is a candidate.
-/
namespace LineScope

/-! ## Words as numbers -/

/-- The last row of all, 2⁶⁴ - 1: it has no line number. -/
def lastRow : Nat := UInt64.size - 1

theorem next64_eq (x : UInt64) :
    next64 x = if x.toNat = lastRow then .error ⟨⟩ else .ok (x + 1) := by
  have := x.toNat_lt_size
  unfold next64
  by_cases h : x.toNat = lastRow
  · rw [if_pos h, if_neg (by rw [h]; decide)]
  · rw [if_neg h, if_pos (by unfold lastRow at h; omega)]

theorem toNat_succ {x : UInt64} (h : x.toNat ≠ lastRow) : (x + 1).toNat = x.toNat + 1 := by
  have := x.toNat_lt_size
  have hlt : x.toNat + 1 < UInt64.size := by unfold lastRow at h; omega
  rw [UInt64.toNat_add, UInt64.toNat_one]
  exact Nat.mod_eq_of_lt hlt

theorem toNat_distance64 (x y : UInt64) : (distance64 x y).toNat = y.toNat - x.toNat := by
  unfold distance64
  split
  · rename_i h
    exact UInt64.toNat_sub_of_le _ _ h
  · rename_i h
    rw [UInt64.le_iff_toNat_le] at h
    rw [UInt64.toNat_zero]
    omega

/-! ## The first of the largest -/

section Largest

variable {α : Type} {size : α → Nat}

/-- The first element of a list that no element exceeds in size. -/
def firstLargest (size : α → Nat) (xs : List α) : Option α :=
  xs.find? fun x => xs.all fun y => decide (size y ≤ size x)

/-- `x` leads `xs`: what stands before it is smaller, and what stands after it is not larger. An empty
list has no leader, and only an empty one has none. -/
def Leads (size : α → Nat) (xs : List α) : Option α → Prop
  | none => xs = []
  | some x => ∃ front back, xs = front ++ x :: back ∧
      (∀ y ∈ front, size y < size x) ∧ ∀ y ∈ back, size y ≤ size x

theorem leads_mem {xs : List α} {x : α} (h : Leads size xs (some x)) : x ∈ xs := by
  obtain ⟨front, back, hxs, -⟩ := h
  rw [hxs]
  exact List.mem_append_right front List.mem_cons_self

theorem leads_le {xs : List α} {x y : α} (h : Leads size xs (some x)) (hy : y ∈ xs) :
    size y ≤ size x := by
  obtain ⟨front, back, hxs, hfront, hback⟩ := h
  rw [hxs] at hy
  simp only [List.mem_append, List.mem_cons] at hy
  obtain hy | hy | hy := hy
  · have := hfront y hy; omega
  · exact Nat.le_of_eq (congrArg size hy)
  · exact hback y hy

theorem leads_none_iff {xs : List α} {o : Option α} (h : Leads size xs o) : o = none ↔ xs = [] := by
  cases o with
  | none => exact iff_of_true rfl h
  | some x =>
    have := leads_mem h
    constructor
    · intro ho; cases ho
    · rintro rfl; cases this

theorem firstLargest_eq {xs : List α} {o : Option α} (h : Leads size xs o) :
    firstLargest size xs = o := by
  cases o with
  | none => rw [show xs = [] from h]; rfl
  | some x =>
    have hle : ∀ y ∈ xs, size y ≤ size x := fun y hy => leads_le h hy
    have hx := leads_mem h
    obtain ⟨front, back, hxs, hfront, -⟩ := h
    rw [firstLargest, List.find?_eq_some_iff_append]
    refine ⟨by simpa using hle, front, back, hxs, fun y hy => ?_⟩
    simp only [Bool.not_eq_true', List.all_eq_false, decide_eq_true_eq, Nat.not_le]
    exact ⟨x, hx, hfront y hy⟩

/-- A further element takes the lead only if it is strictly larger than the leader. -/
theorem leads_concat {xs : List α} {o : Option α} (x : α) (h : Leads size xs o) :
    Leads size (xs ++ [x]) (if ∀ y ∈ o, size y < size x then some x else o) := by
  split
  · rename_i hlt
    refine ⟨xs, [], rfl, fun y hy => ?_, by simp⟩
    cases o with
    | none => rw [show xs = [] from h] at hy; cases hy
    | some z => exact Nat.lt_of_le_of_lt (leads_le h hy) (hlt z rfl)
  · rename_i hlt
    cases o with
    | none => simp at hlt
    | some z =>
      obtain ⟨front, back, rfl, hfront, hback⟩ := h
      refine ⟨front, back ++ [x], by simp, hfront, fun y hy => ?_⟩
      rcases List.mem_append.mp hy with hy | hy
      · exact hback y hy
      · have hle : size x ≤ size z := by simpa using hlt
        rw [List.mem_singleton.mp hy]
        exact hle

end Largest

/-! ## Candidates -/

namespace TreeNode

variable {N : Type} [TreeNode N]

def startRow (n : N) : Nat := (start n).row.toNat

def stopRow (n : N) : Nat := (stop n).row.toNat

/-- The rows from the node's start to its stop; none if it stops before it starts. -/
def rows (n : N) : Nat := stopRow n - startRow n

/-- The node's lines, counted from one, cover the range. -/
def Covers (r : LineRange) (n : N) : Prop :=
  startRow n + 1 ≤ r.first.toNat ∧ r.last.toNat ≤ stopRow n + 1

/-- The node covers the range and has more than one row. -/
def Eligible (r : LineRange) (n : N) : Prop := Covers r n ∧ 0 < rows n

/-- The test of the node adds one to the last row: always for the start, and for the stop only if the
node does not start too late. -/
def Overflows (r : LineRange) (n : N) : Prop :=
  startRow n = lastRow ∨ startRow n + 1 ≤ r.first.toNat ∧ stopRow n = lastRow

instance (r : LineRange) (n : N) : Decidable (Covers r n) :=
  inferInstanceAs (Decidable (_ ∧ _))

instance (r : LineRange) (n : N) : Decidable (Eligible r n) :=
  inferInstanceAs (Decidable (_ ∧ _))

instance (r : LineRange) (n : N) : Decidable (Overflows r n) :=
  inferInstanceAs (Decidable (_ ∨ _))

theorem toNat_rowSpan (n : N) : (rowSpan n).toNat = rows n := toNat_distance64 _ _

theorem rowSpan_le_iff {n m : N} : rowSpan n ≤ rowSpan m ↔ rows n ≤ rows m := by
  rw [UInt64.le_iff_toNat_le, toNat_rowSpan, toNat_rowSpan]

theorem rowSpan_lt_iff {n m : N} : rowSpan n < rowSpan m ↔ rows n < rows m := by
  rw [UInt64.lt_iff_toNat_lt, toNat_rowSpan, toNat_rowSpan]

theorem startLine_eq (n : N) :
    startLine n = if startRow n = lastRow then .error ⟨⟩ else .ok ((start n).row + 1) :=
  next64_eq _

theorem endLine_eq (n : N) :
    endLine n = if stopRow n = lastRow then .error ⟨⟩ else .ok ((stop n).row + 1) :=
  next64_eq _

/-- The checked test of a node, on numbers. -/
theorem spans_eq (r : LineRange) (n : N) :
    spans r n = if Overflows r n then .error ⟨⟩ else .ok (decide (Covers r n)) := by
  unfold spans
  rw [startLine_eq, endLine_eq]
  by_cases hs : startRow n = lastRow
  · have ho : Overflows r n := Or.inl hs
    rw [if_pos hs, if_pos ho]
    rfl
  have hs' : ((start n).row + 1).toNat = startRow n + 1 := toNat_succ hs
  rw [if_neg hs]
  simp only [bind, Except.bind, UInt64.le_iff_toNat_le, hs']
  by_cases hle : startRow n + 1 ≤ r.first.toNat
  · rw [if_pos hle]
    by_cases he : stopRow n = lastRow
    · have ho : Overflows r n := Or.inr ⟨hle, he⟩
      rw [if_pos he, if_pos ho]
    · have he' : ((stop n).row + 1).toNat = stopRow n + 1 := toNat_succ he
      have ho : ¬ Overflows r n := fun h => h.elim hs fun h => he h.2
      have hc : Covers r n ↔ r.last.toNat ≤ stopRow n + 1 := and_iff_right hle
      rw [if_neg he, if_neg ho, decide_eq_decide.mpr hc]
      simp only [he']
      rfl
  · have ho : ¬ Overflows r n := fun h => h.elim hs fun h => hle h.1
    have hc : ¬ Covers r n := fun h => hle h.1
    rw [if_neg hle, if_neg ho, decide_eq_false hc]
    rfl

theorem spans_eq_true {r : LineRange} {n : N} :
    spans r n = .ok true ↔ ¬ Overflows r n ∧ Covers r n := by
  rw [spans_eq]
  split <;> simp_all

def eligibleIn (r : LineRange) (ls : List (Located N)) : List (Located N) :=
  ls.filter fun l => decide (Eligible r l.node)

/-- The nodes that a search for the range may report, in pre-order. -/
def candidates (r : LineRange) (root : N) : List (Located N) := eligibleIn r (preorder root)

/-- The rule: of the candidates, the first one with the most rows. -/
def selection (r : LineRange) (root : N) : Option (Located N) :=
  firstLargest (fun l => rows l.node) (candidates r root)

/-- No node starts or stops on the last row of all. -/
def RowsFit (root : N) : Prop :=
  ∀ l ∈ preorder root, startRow l.node ≠ lastRow ∧ stopRow l.node ≠ lastRow

instance (root : N) : Decidable (RowsFit root) := inferInstanceAs (Decidable (∀ l ∈ preorder root, _))

theorem rowsFit_iff {n : N} :
    RowsFit n ↔ (startRow n ≠ lastRow ∧ stopRow n ≠ lastRow) ∧ ∀ c ∈ children n, RowsFit c := by
  unfold RowsFit
  rw [preorder_eq, List.forall_mem_cons]
  refine and_congr_right fun _ => ?_
  constructor
  · intro h c hc l hl
    obtain ⟨i, hi⟩ := List.mem_iff_getElem?.mp hc
    exact h (l.beneath i) (mem_preorderBelow.mpr ⟨i, c, l, hi, hl, rfl⟩)
  · intro h l hl
    obtain ⟨i, c, l', hi, hl', rfl⟩ := mem_preorderBelow.mp hl
    exact h c (List.mem_of_getElem? hi) l' hl'

end TreeNode

/-! ## What a search selects -/

namespace Sweep

open TreeNode

variable {N : Type} [TreeNode N]

def better (r : LineRange) (best : Option (Located N)) (l : Located N) : Option (Located N) :=
  if Covers r l.node ∧ (spanOf best).toNat < rows l.node then some l else best

theorem weigh_eq (r : LineRange) (best : Option (Located N)) (l : Located N) :
    weigh r best l = if Overflows r l.node then .error ⟨⟩ else .ok (better r best l) := by
  unfold weigh better
  rw [spans_eq]
  split
  · rfl
  · simp only [bind, Except.bind, pure, Except.pure, UInt64.lt_iff_toNat_lt, toNat_rowSpan,
      Bool.and_eq_true, decide_eq_true_eq]

theorem foldlM_weigh (r : LineRange) (xs : List (Located N)) (best : Option (Located N)) :
    xs.foldlM (weigh r) best =
      if ∃ l ∈ xs, Overflows r l.node then .error ⟨⟩ else .ok (xs.foldl (better r) best) := by
  induction xs generalizing best with
  | nil => simp [pure, Except.pure]
  | cons l xs ih =>
    rw [List.foldlM_cons, weigh_eq]
    by_cases hl : Overflows r l.node
    · rw [if_pos hl, if_pos ⟨l, List.mem_cons_self, hl⟩]
      rfl
    · rw [if_neg hl]
      simp only [bind, Except.bind, ih, List.exists_mem_cons_iff, hl, false_or, List.foldl_cons]

/-- Weighing a node keeps the invariant: of a node that is no candidate nothing is seen afterwards, and
a candidate takes its turn in the contest. -/
theorem leads_better (r : LineRange) {done : List (Located N)} {best : Option (Located N)}
    (l : Located N) (h : Leads (fun l => rows l.node) (eligibleIn r done) best) :
    Leads (fun l => rows l.node) (eligibleIn r (done ++ [l])) (better r best l) := by
  have hbest : 0 < rows l.node →
      ((spanOf best).toNat < rows l.node ↔ ∀ m ∈ best, rows m.node < rows l.node) := by
    intro hpos
    cases best with
    | none => simpa [spanOf] using hpos
    | some m => simp [spanOf, toNat_rowSpan]
  rw [eligibleIn, List.filter_append]
  by_cases hl : Eligible r l.node
  · have hb : better r best l =
        if ∀ m ∈ best, rows m.node < rows l.node then some l else best := by
      simp only [better, hl.1, true_and, hbest hl.2]
    rw [hb, List.filter_cons_of_pos (by simpa using hl), List.filter_nil]
    exact leads_concat l h
  · have hb : better r best l = best := by
      refine if_neg fun ⟨hc, hlt⟩ => hl ⟨hc, ?_⟩
      omega
    rw [hb, List.filter_cons_of_neg (by simpa using hl), List.filter_nil, List.append_nil]
    exact h

/-- **The invariant of a search.** After any nodes, the best one leads the candidates among them. -/
theorem leads_foldl (r : LineRange) (done todo : List (Located N)) (best : Option (Located N))
    (h : Leads (fun l => rows l.node) (eligibleIn r done) best) :
    Leads (fun l => rows l.node) (eligibleIn r (done ++ todo)) (todo.foldl (better r) best) := by
  induction todo generalizing done best with
  | nil => simpa using h
  | cons l todo ih =>
    rw [List.foldl_cons, List.append_cons]
    exact ih _ _ (leads_better r l h)

end Sweep

section Search

open TreeNode Sweep

variable {N : Type} [TreeNode N]

theorem leads_foldl_preorder (r : LineRange) (root : N) :
    Leads (fun l => rows l.node) (candidates r root) ((preorder root).foldl (better r) none) :=
  leads_foldl r [] (preorder root) none rfl

theorem selection_eq (r : LineRange) (root : N) :
    selection r root = (preorder root).foldl (better r) none :=
  firstLargest_eq (leads_foldl_preorder r root)

theorem leads_selection (r : LineRange) (root : N) :
    Leads (fun l => rows l.node) (candidates r root) (selection r root) := by
  rw [selection_eq]
  exact leads_foldl_preorder r root

/-- **What a search answers.** It overflows exactly if the test of some node does, wherever the node
stands, and gives the selection otherwise. -/
theorem enclosing?_eq_ite (root : N) (r : LineRange) :
    enclosing? (some root) r =
      if ∃ l ∈ preorder root, Overflows r l.node then .error .overflow
      else .ok (selection r root) := by
  rw [enclosing?_eq, foldlM_weigh, selection_eq]
  split <;> rfl

theorem candidates_eq_nil {r : LineRange} {root : N} :
    candidates r root = [] ↔ ∀ l ∈ preorder root, ¬ Eligible r l.node := by
  simp [candidates, eligibleIn, List.filter_eq_nil_iff]

theorem not_overflows {r : LineRange} {root : N} (h : RowsFit root) :
    ¬ ∃ l ∈ preorder root, Overflows r l.node := by
  rintro ⟨l, hl, hs | ⟨-, he⟩⟩
  · exact (h l hl).1 hs
  · exact (h l hl).2 he

theorem not_overflows_root {r : LineRange} {root : N} (h : RowsFit root) : ¬ Overflows r root := by
  intro ho
  exact not_overflows h ⟨.root root, root_mem_preorder root, ho⟩

theorem enclosing?_of_rowsFit {root : N} (h : RowsFit root) (r : LineRange) :
    enclosing? (some root) r = .ok (selection r root) := by
  rw [enclosing?_eq_ite, if_neg (not_overflows h)]

theorem mem_candidates {r : LineRange} {root : N} {l : Located N} :
    l ∈ candidates r root ↔ at? root l.path = some l.node ∧ Eligible r l.node := by
  rw [candidates, eligibleIn, List.mem_filter, mem_preorder, decide_eq_true_eq]

theorem not_overflows_of_enclosing? {r : LineRange} {root : N} {found : Option (Located N)}
    (h : enclosing? (some root) r = .ok found) : ¬ ∃ l ∈ preorder root, Overflows r l.node := by
  intro ho
  rw [enclosing?_eq_ite, if_pos ho] at h
  cases h

/-- A search that succeeds has selected, whether or not the tree stays clear of the last row. -/
theorem leads_of_enclosing? {r : LineRange} {root : N} {found : Option (Located N)}
    (h : enclosing? (some root) r = .ok found) :
    Leads (fun l => rows l.node) (candidates r root) found := by
  have ho := not_overflows_of_enclosing? h
  rw [enclosing?_eq_ite, if_neg ho] at h
  cases h
  exact leads_selection r root

theorem enclosing?_error {r : LineRange} {root : N} {f : Failure}
    (h : enclosing? (some root) r = .error f) : f = .overflow := by
  rw [enclosing?_eq_ite] at h
  split at h
  · cases h; rfl
  · cases h

theorem enclosing?_found {r : LineRange} {root : N} {l : Located N}
    (h : enclosing? (some root) r = .ok (some l)) :
    at? root l.path = some l.node ∧ Eligible r l.node :=
  mem_candidates.mp (leads_mem (leads_of_enclosing? h))

/-- **The selection rule.** In a tree that stays clear of the last row, a search for any range succeeds
and gives the first of the largest candidates in pre-order, at its path; it finds nothing exactly if
there is no candidate. -/
theorem enclosing?_eq_selection (root : N) (r : LineRange) (h : RowsFit root) :
    enclosing? (some root) r = .ok (selection r root) ∧
      (∀ l, selection r root = some l → at? root l.path = some l.node) ∧
      (selection r root = none ↔ ∀ l ∈ preorder root, ¬ Eligible r l.node) := by
  have hok : enclosing? (some root) r = .ok (selection r root) := by
    rw [enclosing?_eq_ite, if_neg (not_overflows h)]
  refine ⟨hok, fun l hl => ?_, ?_⟩
  · rw [hl] at hok
    exact (enclosing?_found hok).1
  · rw [leads_none_iff (leads_selection r root), candidates_eq_nil]

end Search

/-! ## An example

The inner node outgrows the one around it and is as large as its uncle, and the root does not cover the
range at all: the inner node is selected because it comes first. -/

/-- A tree whose nodes do not lie inside their parents. -/
def overgrown : OutlineNode :=
  (OutlineNode.leaf "root" 19 20).withChildren
    [(OutlineNode.leaf "outer" 0 4).withChildren [.leaf "inner" 0 6], .leaf "uncle" 0 6]

def lineTwoToThree : LineRange := ⟨2, 3, by decide, by decide⟩

theorem rowsFit_overgrown : TreeNode.RowsFit overgrown := by decide +kernel

theorem overgrown_inner : enclosing? (some overgrown) lineTwoToThree =
    .ok (some ⟨[0, 0], .leaf "inner" 0 6⟩) := by
  rw [enclosing?_of_rowsFit rowsFit_overgrown]
  with_unfolding_all rfl

theorem enclosing?_overgrown : TreeNode.RowsFit overgrown ∧
    enclosing? (some overgrown) lineTwoToThree = .ok (some ⟨[0, 0], .leaf "inner" 0 6⟩) := by
  have hfit : TreeNode.RowsFit overgrown := by decide +kernel
  have hsel : TreeNode.selection lineTwoToThree overgrown = some ⟨[0, 0], .leaf "inner" 0 6⟩ := by
    with_unfolding_all rfl
  refine ⟨hfit, ?_⟩
  rw [(enclosing?_eq_selection overgrown lineTwoToThree hfit).1, hsel]

end LineScope
