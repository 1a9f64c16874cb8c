import LineScope.Proofs.Tree.Overflow

/-!
# The visits of a search

The loop behind a search takes the top node off a stack, weighs it and puts its children in its place, until
the stack is empty. `Visits` records the nodes that a part of this loop takes off, one in each round.

What every round keeps (`Underway`): the nodes taken off so far, followed by what the subtrees on the stack
list from the top down, make up the pre-order of the tree; the counter counts the former; and no subtree on
the stack lies in another. A round moves one node from the one list to the other. So the loop ends, after as
many rounds as the tree has nodes, and has then taken off every node once, after all that is above it or to
its left (`visits_preorder`).
-/
namespace LineScope

open TreeNode

/-! ## Places in a tree -/

/-- The first path leads to a node above the one at the end of the second path, or to its left. -/
def Precedes (p q : List Nat) : Prop :=
  (∃ i rest, q = p ++ i :: rest) ∨
    ∃ front i j rest rest', i < j ∧ p = front ++ i :: rest ∧ q = front ++ j :: rest'

theorem precedes_of_lt {p q : List Nat} (h : p < q) : Precedes p q := by
  induction p generalizing q with
  | nil =>
    cases q with
    | nil => simp at h
    | cons j q => exact Or.inl ⟨j, q, rfl⟩
  | cons i p ih =>
    cases q with
    | nil => simp at h
    | cons j q =>
      rcases List.cons_lt_cons_iff.mp h with hij | ⟨rfl, hpq⟩
      · exact Or.inr ⟨[], i, j, p, q, hij, rfl, rfl⟩
      · rcases ih hpq with ⟨k, rest, rfl⟩ | ⟨front, a, b, rest, rest', hab, rfl, rfl⟩
        · exact Or.inl ⟨k, rest, rfl⟩
        · exact Or.inr ⟨i :: front, a, b, rest, rest', hab, rfl, rfl⟩

section

variable {N : Type}

/-- Neither of two nodes is in the subtree of the other. -/
def Located.Apart (l m : Located N) : Prop := ¬ l.path <+: m.path ∧ ¬ m.path <+: l.path

def Located.under (l m : Located N) : Located N := ⟨m.trail ++ l.trail, m.node⟩

end

variable {N : Type} [TreeNode N]

theorem Located.path_of_mem_children {l c : Located N} (h : c ∈ l.children) :
    ∃ i, c.path = l.path ++ [i] := by
  obtain ⟨e, -, rfl⟩ := List.mem_map.mp h
  exact ⟨e.2, by simp [path]⟩

/-- A child keeps the distance of its parent. -/
theorem Located.apart_of_mem_children {l c m : Located N} (h : c ∈ l.children) (hlm : l.Apart m) :
    c.Apart m := by
  obtain ⟨i, hi⟩ := path_of_mem_children h
  unfold Apart
  rw [hi]
  constructor
  · intro hc
    exact hlm.1 ((List.prefix_append _ _).trans hc)
  · intro hm
    rcases List.prefix_concat_iff.mp hm with heq | hm
    · exact hlm.1 ⟨[i], heq.symm⟩
    · exact hlm.2 hm

theorem Located.apart_children (l : Located N) : l.children.Pairwise Apart := by
  unfold children
  refine List.pairwise_map.mpr ((zipIdx_indices (TreeNode.children l.node)).imp fun {c d} hcd => ?_)
  have hne : c.2 ≠ d.2 := Nat.ne_of_lt hcd
  constructor
  · simp [path, List.prefix_append_right_inj, hne]
  · simp [path, List.prefix_append_right_inj, hne.symm]

namespace Sweep

/-! ## Rounds -/

/-- `Visits r s taken s'`: the loop comes from `s` to `s'`, and takes the nodes `taken` off the stack on the
way. -/
inductive Visits (r : LineRange) : Sweep N → List (Located N) → Sweep N → Prop where
  | stay (s : Sweep N) : Visits r s [] s
  | next {s s' s'' : Sweep N} {top : Located N} {rest taken : List (Located N)}
    (hs : s.stack = top :: rest) (hv : s.visit r top rest = .ok s') (h : Visits r s' taken s'') :
    Visits r s (top :: taken) s''

/-- What holds of a loop through a tree after it has taken nodes off. -/
structure Underway (root : N) (taken : List (Located N)) (s : Sweep N) : Prop where
  listed : taken ++ s.pending = preorder root
  counted : s.visited = taken.length
  load : taken.length + s.load = count root
  apart : s.stack.Pairwise Located.Apart

variable {r : LineRange} {root : N} {s s' : Sweep N} {taken : List (Located N)}

theorem underway_start (root : N) : Underway root [] (start root) where
  listed := by simp [pending, start, Located.listing_root]
  counted := rfl
  load := by simp [load, start, total, Located.count, Located.root]
  apart := by simp [start]

/-- **One round** moves the top node from the stack to the nodes taken off. -/
theorem Underway.visit {top : Located N} {rest : List (Located N)} (h : Underway root taken s)
    (hs : s.stack = top :: rest) (hv : s.visit r top rest = .ok s') :
    Underway root (taken ++ [top]) s' := by
  have hstack := stack_of_visit hv
  have hvisited : s'.visited = s.visited + 1 := by
    rw [visit_eq] at hv
    cases hw : weigh r s.best top with
    | error o => rw [hw] at hv; cases hv
    | ok best => rw [hw] at hv; cases hv; rfl
  constructor
  · rw [← h.listed, pending_cons hs hstack]
    simp
  · rw [hvisited, h.counted]
    simp
  · have hload := load_of_visit hs hv
    have htotal := h.load
    simp only [List.length_append, List.length_singleton]
    omega
  · have hapart := h.apart
    rw [hs, List.pairwise_cons] at hapart
    rw [hstack, List.pairwise_append]
    refine ⟨Located.apart_children top, hapart.2, ?_⟩
    intro c hc m hm
    exact Located.apart_of_mem_children hc (hapart.1 m hm)

theorem Underway.visits {more : List (Located N)} (h : Underway root taken s)
    (hvisits : Visits r s more s') : Underway root (taken ++ more) s' := by
  induction hvisits generalizing taken with
  | stay s => simpa using h
  | next hs hv _ ih =>
    rw [List.append_cons]
    exact ih (h.visit hs hv)

theorem Visits.concat {s'' : Sweep N} {top : Located N} {rest : List (Located N)}
    (h : Visits r s taken s') (hs : s'.stack = top :: rest) (hv : s'.visit r top rest = .ok s'') :
    Visits r s (taken ++ [top]) s'' := by
  induction h with
  | stay s => exact .next hs hv (.stay s'')
  | next hs₁ hv₁ _ ih => exact .next hs₁ hv₁ (ih hs hv)

theorem visits_of_run {last : Sweep N} (h : s.run r = .ok last) :
    Visits r s s.pending last ∧ last.stack = [] := by
  fun_induction run r s with
  | case1 s hs =>
    rw [Except.ok.injEq] at h
    subst h
    have hp : s.pending = [] := by simp [pending, hs]
    rw [hp]
    exact ⟨.stay s, hs⟩
  | case2 s top rest hs o hv => cases h
  | case3 s top rest hs s' hv ih =>
    obtain ⟨hvisits, hlast⟩ := ih h
    rw [pending_cons hs (stack_of_visit hv)]
    exact ⟨.next hs hv hvisits, hlast⟩

/-- A round takes place as long as a node is left, unless its test overflows. -/
theorem exists_visit (top : Located N) (rest : List (Located N)) (h : ¬ Overflows r top.node) :
    ∃ s', s.visit r top rest = .ok s' := by
  rw [visit_eq, weigh_eq, if_neg h]
  exact ⟨_, rfl⟩

theorem Underway.mem_preorder {l : Located N} (h : Underway root taken s) (hl : l ∈ s.stack) :
    l ∈ preorder root := by
  have hself : l ∈ l.listing := by simp [Located.listing_eq l]
  rw [← h.listed, pending, List.mem_append, List.mem_flatMap]
  exact Or.inr ⟨l, hl, hself⟩

/-- **The visits of a search.** Let the test of no node of a tree overflow. Then the loop ends: it takes off the
nodes in pre-order, until the stack is empty and its counter is the number of nodes. In this order every node
stands once, behind all nodes above it and to its left. At every moment of the loop, the subtrees on the stack
lie apart, and what they list, from the top of the stack down, is the part of the pre-order that is still to
come; and while there is any, there is a next round. -/
theorem visits_preorder (root : N) (r : LineRange)
    (h : ¬ ∃ p n, at? root p = some n ∧ Overflows r n) :
    (∃ last, (start root).run r = .ok last ∧ Visits r (start root) (preorder root) last ∧
      last.stack = [] ∧ last.visited = count root) ∧
    (∀ l, l ∈ preorder root ↔ at? root l.path = some l.node) ∧
    ((preorder root).Pairwise fun l m => l.path ≠ m.path ∧ Precedes l.path m.path) ∧
    ∀ taken s, Visits r (start root) taken s →
      taken ++ (s.stack.flatMap fun l => (preorder l.node).map l.under) = preorder root ∧
      s.visited = taken.length ∧
      s.stack.Pairwise Located.Apart ∧
      (∀ l ∈ s.stack, at? root l.path = some l.node) ∧
      (s.stack ≠ [] → ∃ top s', Visits r (start root) (taken ++ [top]) s') := by
  rw [← exists_preorder_iff] at h
  have hpending : (start root).pending = preorder root := (underway_start root).listed
  have hunderway {taken : List (Located N)} {s : Sweep N} (hv : Visits r (start root) taken s) :
      Underway root taken s := (underway_start root).visits hv
  refine ⟨?_, fun l => mem_preorder, ?_, fun taken s hv => ?_⟩
  · have hrun : ∃ last, (start root).run r = .ok last := by
      rw [run_eq, hpending, foldlM_weigh, if_neg h]
      exact ⟨_, rfl⟩
    obtain ⟨last, hlast⟩ := hrun
    obtain ⟨hvisits, hstack⟩ := visits_of_run hlast
    rw [hpending] at hvisits
    have hend := hunderway hvisits
    have hload := hend.load
    refine ⟨last, hlast, hvisits, hstack, ?_⟩
    rw [hend.counted, ← hload]
    simp [load, hstack, total]
  · refine (preorder_sorted root).imp fun {l m} hlm => ⟨?_, precedes_of_lt hlm⟩
    intro heq
    rw [heq] at hlm
    exact List.lt_irrefl _ hlm
  · have hs := hunderway hv
    have hlisted : s.pending = s.stack.flatMap fun l => (preorder l.node).map l.under := by
      unfold pending
      exact List.flatMap_congr fun l _ => Located.listing_eq_preorder l
    refine ⟨by rw [← hlisted, hs.listed], hs.counted, hs.apart, fun l hl => ?_, fun hne => ?_⟩
    · exact TreeNode.mem_preorder.mp (hs.mem_preorder hl)
    · obtain ⟨top, rest, hstack⟩ := List.exists_cons_of_ne_nil hne
      have htop : top ∈ s.stack := by simp [hstack]
      have hclear : ¬ Overflows r top.node := fun ho => h ⟨top, hs.mem_preorder htop, ho⟩
      obtain ⟨s', hs'⟩ := exists_visit (s := s) top rest hclear
      exact ⟨top, s', hv.concat hstack hs'⟩

/-- The loop through the overgrown tree after two of its four rounds. The child of the second node has taken its
parent's place on the stack, above its uncle. -/
def overgrownMidway : Sweep OutlineNode where
  stack := [⟨[0, 0], .leaf "inner" 0 6⟩, ⟨[1], .leaf "uncle" 0 6⟩]
  best := some ⟨[0], (OutlineNode.leaf "outer" 0 4).withChildren [.leaf "inner" 0 6]⟩
  visited := 2

theorem visits_preorder_overgrown :
    (∃ last, (start overgrown).run lineTwoToThree = .ok last ∧ last.stack = [] ∧ last.visited = 4) ∧
      ∃ taken, Visits lineTwoToThree (start overgrown) taken overgrownMidway ∧
        taken.map Located.path = [[], [0]] ∧
        overgrownMidway.stack.Pairwise Located.Apart ∧
        ∃ top s, Visits lineTwoToThree (start overgrown) (taken ++ [top]) s := by
  have hclear := not_overflows (r := lineTwoToThree) rowsFit_overgrown
  rw [exists_preorder_iff] at hclear
  obtain ⟨⟨last, hrun, -, hstack, hvisited⟩, -, -, hmoment⟩ :=
    visits_preorder overgrown lineTwoToThree hclear
  have hmidway : Visits lineTwoToThree (start overgrown) [.root overgrown, _] overgrownMidway :=
    .next rfl rfl (.next rfl rfl (.stay _))
  obtain ⟨-, -, hapart, -, hnext⟩ := hmoment _ _ hmidway
  exact ⟨⟨last, hrun, hstack, hvisited⟩, _, hmidway, rfl, hapart, hnext (by simp [overgrownMidway])⟩

end Sweep

end LineScope
