import LineScope.Tree.Node
import Mathlib.Data.List.Basic

/-!
# Paths and pre-order

A node of a tree is known by its path, the child indices from the root: `at?` follows a path and
`preorder` lists the nodes with their paths. The listing of a node is put together from those of its
children, so it says nothing about how a walk gets there; a walk that carries the way along makes
`Located.listing`.

Results:
* `mem_preorder`: the listing holds exactly the nodes that paths lead to.
* `preorder_sorted`: it is in strictly increasing order of paths, where a path comes before all that
  extend it and smaller indices come before larger ones. So every node is listed once, after the
  nodes above it and after all that is to its left.
* `listing_root`: a walk from the root meets the nodes in this order and knows their paths.
-/
namespace LineScope

/-- The place of a node as seen from one node higher up, of which it is beneath the child `i`. -/
def Located.beneath {N : Type} (i : Nat) (l : Located N) : Located N := ⟨l.trail ++ [i], l.node⟩

@[simp] theorem Located.path_root {N : Type} (n : N) : (Located.root n).path = [] := rfl

@[simp] theorem Located.path_beneath {N : Type} (i : Nat) (l : Located N) :
    (l.beneath i).path = i :: l.path := by
  simp [path, beneath]

theorem Located.ext_path {N : Type} {l m : Located N} (hp : l.path = m.path) (hn : l.node = m.node) :
    l = m := by
  obtain ⟨t, n⟩ := l
  obtain ⟨t', n'⟩ := m
  simp only [path, List.reverse_inj] at hp
  rw [Located.mk.injEq]
  exact ⟨hp, hn⟩

theorem Located.exists_path {N : Type} (p : List Nat) (n : N) :
    ∃ l : Located N, l.path = p ∧ l.node = n := by
  refine ⟨⟨p.reverse, n⟩, ?_, rfl⟩
  simp [path]

namespace TreeNode

variable {N : Type} [TreeNode N]

theorem count_lt_of_mem {n c : N} (h : c ∈ children n) : count c < count n := by
  have hc := Located.le_total_of_mem (List.mem_map_of_mem (f := count) h)
  have := count_eq n
  omega

def at? : N → List Nat → Option N
  | n, [] => some n
  | n, i :: path => (children n)[i]?.bind fun c => at? c path

@[simp] theorem at?_nil (n : N) : at? n [] = some n := rfl

theorem at?_cons {n m : N} {i : Nat} {path : List Nat} :
    at? n (i :: path) = some m ↔ ∃ c, (children n)[i]? = some c ∧ at? c path = some m := by
  simp [at?, Option.bind_eq_some_iff]

/-- The nodes at and beneath a node, with their paths from it: first the node, then all that each child
lists, child by child. -/
def preorder (n : N) : List (Located N) :=
  .root n :: (children n).zipIdx.attach.flatMap fun c => (preorder c.1.1).map (.beneath c.1.2)
termination_by count n
decreasing_by exact count_lt_of_mem (List.fst_mem_of_mem_zipIdx c.2)

/-- What the children of a node add to its listing. -/
def preorderBelow (n : N) : List (Located N) :=
  (children n).zipIdx.flatMap fun c => (preorder c.1).map (.beneath c.2)

theorem preorder_eq (n : N) : preorder n = .root n :: preorderBelow n := by
  rw [preorder, preorderBelow]
  conv => rhs; rw [← List.attach_map_subtype_val (children n).zipIdx, List.flatMap_map]

theorem mem_preorderBelow {n : N} {l : Located N} :
    l ∈ preorderBelow n ↔ ∃ i c l', (children n)[i]? = some c ∧ l' ∈ preorder c ∧ l = l'.beneath i := by
  simp only [preorderBelow, List.mem_flatMap, List.mem_map, Prod.exists, List.mk_mem_zipIdx_iff_getElem?]
  constructor
  · rintro ⟨c, i, hc, l', hl', rfl⟩
    exact ⟨i, c, l', hc, hl', rfl⟩
  · rintro ⟨i, c, l', hc, hl', rfl⟩
    exact ⟨c, i, hc, l', hl', rfl⟩

/-- **The listing is the tree.** A node is listed under a path exactly if the path leads to it. -/
theorem mem_preorder {n : N} {l : Located N} : l ∈ preorder n ↔ at? n l.path = some l.node := by
  rw [preorder_eq, List.mem_cons, mem_preorderBelow]
  -- by the path: the empty one leads to the node itself, any other one through a child
  induction hp : l.path generalizing n l with
  | nil =>
    rw [at?_nil, Option.some_inj]
    constructor
    · rintro (rfl | ⟨i, c, l', -, -, rfl⟩)
      · rfl
      · simp at hp
    · intro hn
      exact Or.inl (Located.ext_path hp hn.symm)
  | cons i path ih =>
    rw [at?_cons]
    constructor
    · rintro (rfl | ⟨j, c, l', hc, hl', rfl⟩)
      · simp at hp
      · rw [Located.path_beneath, List.cons.injEq] at hp
        obtain ⟨rfl, hp⟩ := hp
        rw [preorder_eq, List.mem_cons, mem_preorderBelow, ih hp] at hl'
        exact ⟨c, hc, hl'⟩
    · rintro ⟨c, hc, hm⟩
      have hl' : (⟨path.reverse, l.node⟩ : Located N).path = path := by simp [Located.path]
      refine Or.inr ⟨i, c, ⟨path.reverse, l.node⟩, hc, ?_, Located.ext_path ?_ rfl⟩
      · rw [preorder_eq, List.mem_cons, mem_preorderBelow, ih hl']
        exact hm
      · rw [hp, Located.path_beneath, hl']

theorem root_mem_preorder (n : N) : Located.root n ∈ preorder n := by
  rw [mem_preorder]; rfl

theorem exists_at?_child {n m c : N} {path : List Nat} (h : at? n path = some m)
    (hc : c ∈ children m) : ∃ path', at? n path' = some c := by
  induction path generalizing n with
  | nil =>
    rw [at?_nil, Option.some_inj] at h
    obtain ⟨i, hi⟩ := List.getElem?_of_mem hc
    exact ⟨[i], at?_cons.mpr ⟨c, h ▸ hi, at?_nil c⟩⟩
  | cons i path ih =>
    obtain ⟨d, hd, hm⟩ := at?_cons.mp h
    obtain ⟨path', hpath'⟩ := ih hm
    exact ⟨i :: path', at?_cons.mpr ⟨d, hd, hpath'⟩⟩

theorem exists_mem_preorder_child {n c : N} {l : Located N} (hl : l ∈ preorder n)
    (hc : c ∈ children l.node) : ∃ m ∈ preorder n, m.node = c := by
  obtain ⟨path, hpath⟩ := exists_at?_child (mem_preorder.mp hl) hc
  obtain ⟨m, rfl, rfl⟩ := Located.exists_path path c
  exact ⟨m, mem_preorder.mpr hpath, rfl⟩

/-! ## The order of the listing -/

theorem zipIdx_indices {α : Type} (xs : List α) : xs.zipIdx.Pairwise fun a b => a.2 < b.2 := by
  have h : (xs.zipIdx.map Prod.snd).Pairwise (· < ·) := by
    rw [List.zipIdx_map_snd]
    exact List.pairwise_lt_range'
  exact List.pairwise_map.mp h

/-- **The order of the listing** is the order of paths. -/
theorem preorder_sorted (n : N) : (preorder n).Pairwise fun l m => l.path < m.path := by
  induction hk : count n using Nat.strongRecOn generalizing n with
  | ind k ih =>
    subst hk
    rw [preorder_eq, List.pairwise_cons]
    constructor
    · intro l hl
      obtain ⟨i, c, l', -, -, rfl⟩ := mem_preorderBelow.mp hl
      simp
    · rw [preorderBelow, List.pairwise_flatMap]
      constructor
      · intro c hc
        have hlt := count_lt_of_mem (List.fst_mem_of_mem_zipIdx hc)
        refine List.pairwise_map.mpr ((ih _ hlt c.1 rfl).imp fun hlm => ?_)
        simpa [List.cons_lt_cons_iff] using hlm
      · refine (zipIdx_indices (children n)).imp fun hab l hl m hm => ?_
        obtain ⟨l', -, rfl⟩ := List.mem_map.mp hl
        obtain ⟨m', -, rfl⟩ := List.mem_map.mp hm
        simp [List.cons_lt_cons_iff, hab]

/-! ## The listing of a walk -/

end TreeNode

namespace Located

open TreeNode

variable {N : Type} [TreeNode N]

theorem listing_eq (l : Located N) : l.listing = l :: l.children.flatMap listing := by
  rw [listing]
  simp

/-- A walk that enters a subtree lists it with the way to the subtree put in front. -/
theorem listing_eq_preorder (l : Located N) :
    l.listing = (preorder l.node).map fun m => ⟨m.trail ++ l.trail, m.node⟩ := by
  induction hk : l.count using Nat.strongRecOn generalizing l with
  | ind k ih =>
    subst hk
    have hchildren : l.children.flatMap listing =
        (preorderBelow l.node).map fun m => ⟨m.trail ++ l.trail, m.node⟩ := by
      rw [children, List.flatMap_map, preorderBelow, List.map_flatMap]
      refine List.flatMap_congr fun c hc => ?_
      have hmem : (⟨c.2 :: l.trail, c.1⟩ : Located N) ∈ l.children := List.mem_map_of_mem hc
      rw [ih _ (count_lt_of_mem hmem) _ rfl, List.map_map]
      simp [Function.comp_def, beneath]
    rw [listing_eq, hchildren, preorder_eq]
    simp [root]

theorem listing_root (n : N) : (root n).listing = preorder n := by
  rw [listing_eq_preorder]
  simp [root]

end Located

end LineScope
