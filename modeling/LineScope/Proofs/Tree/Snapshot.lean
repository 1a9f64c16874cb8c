import LineScope.Proofs.Tree.Selection
import Mathlib.Data.List.Forall2

/-!
# Searches in step

Two trees of different make may look the same to a search: related nodes answer the search's questions
alike, and their children are related one by one (`InStep`). Then two sweeps that stand at related nodes
stay related. Each visit fails in both or leads to related sweeps (`visit_pair`), so whole sweeps end
alike (`run_pair`), and the searches fail alike, find nothing alike, or find related nodes at the same
path (`enclosing?_pair`).

The outline taken from a source tree is such a pair: `enclosing?_ofSource` says that a search in the
outline and one in the source tree cannot be told apart by anything that is asked of the node they find.
-/
namespace LineScope

/-- Two computations end alike: both fail for one reason, or both succeed with related results. -/
inductive Alike {ε α β : Type} (R : α → β → Prop) : Except ε α → Except ε β → Prop where
  | error (e : ε) : Alike R (.error e) (.error e)
  | ok {a : α} {b : β} (h : R a b) : Alike R (.ok a) (.ok b)

theorem Alike.eq_error {ε α β : Type} {R : α → β → Prop} {e : ε} {y : Except ε β}
    (h : Alike R (.error e) y) : y = .error e := by
  cases h; rfl

theorem Alike.eq_ok {ε α β : Type} {R : α → β → Prop} {a : α} {y : Except ε β}
    (h : Alike R (.ok a) y) : ∃ b, y = .ok b ∧ R a b := by
  cases h with
  | ok h => exact ⟨_, rfl, h⟩

theorem Alike.map {ε α β γ δ : Type} {R : α → β → Prop} {S : γ → δ → Prop} {f : α → γ} {g : β → δ}
    {x : Except ε α} {y : Except ε β} (h : Alike R x y) (hfg : ∀ a b, R a b → S (f a) (g b)) :
    Alike S (x.map f) (y.map g) := by
  cases h with
  | error e => exact .error e
  | ok h => exact .ok (hfg _ _ h)

section InStep

open TreeNode

variable {N M : Type} [TreeNode N] [TreeNode M]

/-- Related nodes answer the search for `r` in one tree and for `r'` in the other alike, and so do the
nodes beneath them. -/
structure InStep (R : N → M → Prop) (r r' : LineRange) : Prop where
  spans {n : N} {m : M} (h : R n m) : spans r n = spans r' m
  rowSpan {n : N} {m : M} (h : R n m) : rowSpan n = rowSpan m
  children {n : N} {m : M} (h : R n m) : List.Forall₂ R (children n) (children m)

structure Located.Pair (R : N → M → Prop) (l : Located N) (m : Located M) : Prop where
  trail : l.trail = m.trail
  node : R l.node m.node

structure Sweep.Pair (R : N → M → Prop) (s : Sweep N) (t : Sweep M) : Prop where
  stack : List.Forall₂ (Located.Pair R) s.stack t.stack
  best : Option.Rel (Located.Pair R) s.best t.best
  visited : s.visited = t.visited

variable {R : N → M → Prop} {r r' : LineRange}

omit [TreeNode N] [TreeNode M] in
/-- Related lists of siblings are in step place by place, whatever index `k` they begin with. -/
theorem Located.siblings_pair {ns : List N} {ms : List M} (h : List.Forall₂ R ns ms)
    (trail : List Nat) (k : Nat) :
    List.Forall₂ (Located.Pair R) ((ns.zipIdx k).map fun c => ⟨c.2 :: trail, c.1⟩)
      ((ms.zipIdx k).map fun c => ⟨c.2 :: trail, c.1⟩) := by
  induction h generalizing k with
  | nil => exact .nil
  | cons hc _ ih => exact .cons ⟨rfl, hc⟩ (ih (k + 1))

theorem Located.children_pair (hR : InStep R r r') {l : Located N} {m : Located M}
    (h : Located.Pair R l m) : List.Forall₂ (Located.Pair R) l.children m.children := by
  unfold Located.children
  rw [h.trail]
  exact Located.siblings_pair (hR.children h.node) m.trail 0

namespace Sweep

theorem spanOf_pair (hR : InStep R r r') {o : Option (Located N)} {o' : Option (Located M)}
    (h : Option.Rel (Located.Pair R) o o') : spanOf o = spanOf o' := by
  cases h with
  | none => rfl
  | some h => exact hR.rowSpan h.node

theorem weigh_pair (hR : InStep R r r') {o : Option (Located N)} {o' : Option (Located M)}
    {l : Located N} {m : Located M} (ho : Option.Rel (Located.Pair R) o o')
    (h : Located.Pair R l m) :
    Alike (Option.Rel (Located.Pair R)) (weigh r o l) (weigh r' o' m) := by
  unfold weigh
  rw [hR.spans h.node, spanOf_pair hR ho, hR.rowSpan h.node]
  cases TreeNode.spans r' m.node with
  | error e => exact .error e
  | ok fits =>
    refine .ok ?_
    split
    · exact .some h
    · exact ho

theorem visit_pair (hR : InStep R r r') {s : Sweep N} {t : Sweep M} {top : Located N}
    {top' : Located M} {rest : List (Located N)} {rest' : List (Located M)} (h : Sweep.Pair R s t)
    (htop : Located.Pair R top top') (hrest : List.Forall₂ (Located.Pair R) rest rest') :
    Alike (Sweep.Pair R) (s.visit r top rest) (t.visit r' top' rest') := by
  rw [visit_eq, visit_eq]
  refine (weigh_pair hR h.best htop).map fun best best' hbest => ⟨?_, hbest, ?_⟩
  · exact List.rel_append (Located.children_pair hR htop) hrest
  · rw [h.visited]

theorem run_pair (hR : InStep R r r') {s : Sweep N} {t : Sweep M} (h : Sweep.Pair R s t) :
    Alike (Sweep.Pair R) (s.run r) (t.run r') := by
  fun_induction run r s generalizing t with
  | case1 s hs =>
    have ht : t.stack = [] := by
      rw [← List.forall₂_nil_left_iff (R := Located.Pair R), ← hs]
      exact h.stack
    rw [run_nil r' ht]
    exact .ok h
  | case2 s top rest hs o hv =>
    obtain ⟨top', rest', htop, hrest, ht⟩ := List.forall₂_cons_left_iff.mp (hs ▸ h.stack)
    have hvisit := visit_pair hR h htop hrest
    rw [hv] at hvisit
    rw [run_cons r' ht, hvisit.eq_error]
    exact .error o
  | case3 s top rest hs s' hv ih =>
    obtain ⟨top', rest', htop, hrest, ht⟩ := List.forall₂_cons_left_iff.mp (hs ▸ h.stack)
    have hvisit := visit_pair hR h htop hrest
    rw [hv] at hvisit
    obtain ⟨t', ht', hpair⟩ := hvisit.eq_ok
    rw [run_cons r' ht, ht']
    exact ih hpair

end Sweep

/-- **Searches in step.** They fail alike, find nothing alike, or find related nodes at one path. -/
theorem enclosing?_pair (hR : InStep R r r') {n : N} {m : M} (h : R n m) :
    Alike (Option.Rel (Located.Pair R)) (enclosing? (some n) r) (enclosing? (some m) r') := by
  have hstart : Sweep.Pair R (Sweep.start n) (Sweep.start m) := ⟨.cons ⟨rfl, h⟩ .nil, .none, rfl⟩
  have hrun := Sweep.run_pair hR hstart
  simp only [enclosing?]
  revert hrun
  generalize (Sweep.start n).run r = x
  generalize (Sweep.start m).run r' = y
  rintro (e | hpair)
  · exact .error Failure.overflow
  · exact .ok hpair.best

end InStep

/-! ## The outline of a source tree -/

namespace OutlineNode

open TreeNode

theorem ofSources_eq_map (ns : List SourceNode) : ofSources ns = ns.map ofSource := by
  induction ns with
  | nil => rfl
  | cons n ns ih => rw [ofSources, ih, List.map_cons]

theorem kind_ofSource (n : SourceNode) : TreeNode.kind (ofSource n) = TreeNode.kind n := by
  cases n; rw [ofSource]; rfl

theorem start_ofSource (n : SourceNode) : TreeNode.start (ofSource n) = TreeNode.start n := by
  cases n; rw [ofSource]; rfl

theorem stop_ofSource (n : SourceNode) : TreeNode.stop (ofSource n) = TreeNode.stop n := by
  cases n; rw [ofSource]; rfl

theorem children_ofSource (n : SourceNode) :
    TreeNode.children (ofSource n) = (TreeNode.children n).map ofSource := by
  cases n; rw [ofSource, ofSources_eq_map]; rfl

end OutlineNode

/-- All that can be asked of a found node: its kind, its lines, its rows, how many children it has, which
ranges it spans and its place in 32-bit words; an answer may be that an addition overflows. -/
structure SameFace {N M : Type} [TreeNode N] [TreeNode M] (n : N) (m : M) : Prop where
  kind : TreeNode.kind n = TreeNode.kind m
  startLine : TreeNode.startLine n = TreeNode.startLine m
  endLine : TreeNode.endLine n = TreeNode.endLine m
  rowSpan : TreeNode.rowSpan n = TreeNode.rowSpan m
  children : (TreeNode.children n).length = (TreeNode.children m).length
  spans (r : LineRange) : TreeNode.spans r n = TreeNode.spans r m
  span : TreeNode.span n = TreeNode.span m

section OfSource

open OutlineNode

theorem sameFace_ofSource (n : SourceNode) : SameFace n (ofSource n) where
  kind := (kind_ofSource n).symm
  startLine := by unfold TreeNode.startLine; rw [start_ofSource]
  endLine := by unfold TreeNode.endLine; rw [stop_ofSource]
  rowSpan := by unfold TreeNode.rowSpan; rw [start_ofSource, stop_ofSource]
  children := by rw [children_ofSource, List.length_map]
  spans r := by
    unfold TreeNode.spans TreeNode.startLine TreeNode.endLine
    rw [start_ofSource, stop_ofSource]
  span := by unfold TreeNode.span; rw [start_ofSource, stop_ofSource]

theorem inStep_ofSource (r : LineRange) :
    InStep (fun (n : SourceNode) (m : OutlineNode) => m = ofSource n) r r where
  spans h := by rw [h]; exact (sameFace_ofSource _).spans r
  rowSpan h := by rw [h]; exact (sameFace_ofSource _).rowSpan
  children h := by
    rw [h, children_ofSource, List.forall₂_map_right_iff, List.forall₂_same]
    exact fun _ _ => rfl

/-- **A search in the outline is a search in the source tree.** For every source tree and every range
both overflow, or both find nothing, or both find the node at one path, and the two nodes show the same
face. -/
theorem enclosing?_ofSource (t : SourceTree) (r : LineRange) :
    (enclosing? (some t.root) r = .error .overflow ∧
        enclosing? (Outline.ofSource t).root r = .error .overflow) ∨
      (enclosing? (some t.root) r = .ok none ∧ enclosing? (Outline.ofSource t).root r = .ok none) ∨
      ∃ l m, enclosing? (some t.root) r = .ok (some l) ∧
        enclosing? (Outline.ofSource t).root r = .ok (some m) ∧ l.path = m.path ∧
        TreeNode.at? t.root l.path = some l.node ∧
        TreeNode.at? (ofSource t.root) m.path = some m.node ∧ SameFace l.node m.node := by
  have hroot : (Outline.ofSource t).root = some (ofSource t.root) := rfl
  have halike := enclosing?_pair (inStep_ofSource r) (n := t.root) rfl
  rw [hroot]
  cases hsrc : enclosing? (some t.root) r with
  | error f =>
    left
    rw [hsrc] at halike
    rw [enclosing?_error hsrc] at halike ⊢
    exact ⟨rfl, halike.eq_error⟩
  | ok found =>
    right
    rw [hsrc] at halike
    obtain ⟨found', hout, hpair⟩ := halike.eq_ok
    rw [hout]
    cases hpair with
    | none => exact Or.inl ⟨rfl, rfl⟩
    | @some l m hpair =>
      have hpath : l.path = m.path := by unfold Located.path; rw [hpair.trail]
      have hface : SameFace l.node m.node := by rw [hpair.node]; exact sameFace_ofSource _
      exact Or.inr ⟨l, m, rfl, rfl, hpath, (enclosing?_found hsrc).1, (enclosing?_found hout).1, hface⟩

end OfSource

end LineScope
