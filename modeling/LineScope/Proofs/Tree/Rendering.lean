import LineScope.Proofs.Lookup
import LineScope.Proofs.Tree.RoundTrip

/-!
# What is read as an outline

An outline that was made elsewhere may be written in many ways. Every record, at every depth and whatever
the records around it look like, is an object with its fields as members, in any order and with any others
beside them, or an array of its fields in order. Two fields may be missing: the root of an outline, where
it is an object, and the children of a node, where it has none. The root may be null and the children may
not.

`Renders` says this without the reader, one constructor for each way to write a record. The reader accepts
exactly the renderings (`read_iff_renders`), on values whose objects have no key twice: of two members with
one key, membership in an object would see both and a look-up only the first.
-/
namespace LineScope

namespace Json

/-- In no object, at any depth, does a key occur twice. -/
inductive Value.DistinctKeys : Value → Prop where
  | leaf {v : Value} (h : v.isLeaf) : v.DistinctKeys
  | array {items : List Value} (h : ∀ v ∈ items, v.DistinctKeys) : (Value.array items).DistinctKeys
  | object {members : List (String × Value)} (hkeys : (members.map Prod.fst).Nodup)
      (h : ∀ m ∈ members, m.2.DistinctKeys) : (Value.object members).DistinctKeys

@[simp] theorem Value.distinctKeys_null : Value.null.DistinctKeys := .leaf rfl

@[simp] theorem Value.distinctKeys_nat (n : Nat) : (Value.nat n).DistinctKeys := .leaf rfl

@[simp] theorem Value.distinctKeys_string (s : String) : (Value.string s).DistinctKeys := .leaf rfl

@[simp] theorem Value.distinctKeys_array {items : List Value} :
    (Value.array items).DistinctKeys ↔ ∀ v ∈ items, v.DistinctKeys := by
  refine ⟨fun h => ?_, .array⟩
  cases h with
  | leaf h => cases h
  | array h => exact h

@[simp] theorem Value.distinctKeys_object {members : List (String × Value)} :
    (Value.object members).DistinctKeys ↔
      (members.map Prod.fst).Nodup ∧ ∀ m ∈ members, m.2.DistinctKeys := by
  refine ⟨fun h => ?_, fun h => .object h.1 h.2⟩
  cases h with
  | leaf h => cases h
  | object hkeys h => exact ⟨hkeys, h⟩

theorem Value.word?_eq_some {v : Value} {x : UInt64} : v.word? = some x ↔ v = .nat x.toNat := by
  constructor
  · intro h
    cases v with
    | number n =>
      cases n with
      | whole n =>
        simp only [word?, nat?] at h
        split at h
        · rename_i hlt
          cases h
          rw [UInt64.toNat_ofNat_of_lt' hlt]
          rfl
        · cases h
      | other literal => cases h
    | _ => cases h
  · rintro rfl
    exact word?_nat x

theorem Value.text?_eq_some {v : Value} {s : String} : v.text? = some s ↔ v = .string s := by
  cases v <;> simp [text?]

end Json

open Json (Value)

/-! ## Renderings -/

/-- `Renders v p`: the value is a rendering of the position, which gives both its numbers. -/
inductive Position.Renders : Value → Position → Prop where
  | object {members : List (String × Value)} {p : Position}
      (hrow : ("row", .nat p.row.toNat) ∈ members)
      (hcolumn : ("column", .nat p.column.toNat) ∈ members) : Renders (.object members) p
  | array (p : Position) : Renders (.array [.nat p.row.toNat, .nat p.column.toNat]) p

/-- `Renders v n`: the value is a rendering of the node. The children may be left off where there are
none. -/
inductive OutlineNode.Renders : Value → OutlineNode → Prop where
  | object {members : List (String × Value)} {start stop : Value} {items : List Value} {n : OutlineNode}
      (hkind : ("kind", .string n.kind) ∈ members)
      (hstart : ("start", start) ∈ members) (hstart' : Position.Renders start n.start)
      (hstop : ("end", stop) ∈ members) (hstop' : Position.Renders stop n.stop)
      (hchildren : ("children", .array items) ∈ members)
      (hchildren' : List.Forall₂ Renders items n.children) : Renders (.object members) n
  | childless {members : List (String × Value)} {start stop : Value} {n : OutlineNode}
      (hkind : ("kind", .string n.kind) ∈ members)
      (hstart : ("start", start) ∈ members) (hstart' : Position.Renders start n.start)
      (hstop : ("end", stop) ∈ members) (hstop' : Position.Renders stop n.stop)
      (hmissing : ∀ v, ("children", v) ∉ members) (hnone : n.children = []) :
      Renders (.object members) n
  | array {start stop : Value} {items : List Value} {n : OutlineNode}
      (hstart : Position.Renders start n.start) (hstop : Position.Renders stop n.stop)
      (hchildren : List.Forall₂ Renders items n.children) :
      Renders (.array [.string n.kind, start, stop, .array items]) n
  | short {start stop : Value} {n : OutlineNode}
      (hstart : Position.Renders start n.start) (hstop : Position.Renders stop n.stop)
      (hnone : n.children = []) : Renders (.array [.string n.kind, start, stop]) n

/-- `RendersRoot v root`: the value is a rendering of the root, or null where there is none. -/
inductive Outline.RendersRoot : Value → Option OutlineNode → Prop where
  | null : RendersRoot .null none
  | root {v : Value} {n : OutlineNode} (h : OutlineNode.Renders v n) : RendersRoot v (some n)

/-- `Renders v t`: the value is a rendering of the outline. Where there is no root, an object may leave it
off. -/
inductive Outline.Renders : Value → Outline → Prop where
  | object {members : List (String × Value)} {v : Value} {t : Outline} (h : ("root", v) ∈ members)
      (hroot : RendersRoot v t.root) : Renders (.object members) t
  | rootless {members : List (String × Value)} (hmissing : ∀ v, ("root", v) ∉ members) :
      Renders (.object members) .empty
  | array {v : Value} {t : Outline} (hroot : RendersRoot v t.root) : Renders (.array [v]) t

/-! ## Reading -/

theorem Position.ofJson?_eq_some {v : Value} (hv : v.DistinctKeys) {p : Position} :
    ofJson? v = some p ↔ Renders v p := by
  constructor
  · intro h
    unfold ofJson? at h
    split at h
    · simp only [Option.bind_eq_bind, Option.bind_eq_some_iff, Value.word?_eq_some] at h
      obtain ⟨x, rfl, y, rfl, h⟩ := h
      cases h
      exact .array ⟨x, y⟩
    · obtain ⟨hkeys, -⟩ := Value.distinctKeys_object.mp hv
      simp only [Option.bind_eq_bind, Option.bind_eq_some_iff, Value.word?_eq_some,
        lookup_eq_some_iff_mem hkeys] at h
      obtain ⟨_, hrow, _, hcolumn, x, rfl, y, rfl, h⟩ := h
      cases h
      exact .object (p := ⟨x, y⟩) hrow hcolumn
    · cases h
  · intro h
    cases h with
    | array => simp [ofJson?]
    | object hrow hcolumn =>
      obtain ⟨hkeys, -⟩ := Value.distinctKeys_object.mp hv
      rw [← lookup_eq_some_iff_mem hkeys] at hrow hcolumn
      simp [ofJson?, hrow, hcolumn]

namespace OutlineNode

theorem childrenMember?_eq (members : List (String × Value)) :
    childrenMember? members =
      match members.lookup "children" with
      | some v => childrenOfJson? v
      | none => some [] := by
  induction members with
  | nil => rfl
  | cons m members ih =>
    obtain ⟨k, v⟩ := m
    by_cases hk : k = "children"
    · simp [childrenMember?, hk]
    · have hne : ("children" == k) = false := beq_eq_false_iff_ne.mpr (Ne.symm hk)
      simp [childrenMember?, List.lookup_cons, hk, hne, ih]

def ReadsChildren (v : Value) : Prop :=
  ∀ ns, childrenOfJson? v = some ns ↔ ∃ items, v = .array items ∧ List.Forall₂ Renders items ns

theorem childrenMember?_eq_some {members : List (String × Value)}
    (hkeys : (members.map Prod.fst).Nodup) (h : ∀ m ∈ members, ReadsChildren m.2)
    (ns : List OutlineNode) :
    childrenMember? members = some ns ↔
      (∃ items, ("children", .array items) ∈ members ∧ List.Forall₂ Renders items ns) ∨
        (∀ v, ("children", v) ∉ members) ∧ ns = [] := by
  rw [childrenMember?_eq]
  cases hfound : members.lookup "children" with
  | none =>
    have hmissing := lookup_eq_none_iff_not_mem.mp hfound
    simp [hmissing, eq_comm]
  | some v =>
    have hmem := (lookup_eq_some_iff_mem hkeys).mp hfound
    have honly : ∀ w, ("children", w) ∈ members ↔ v = w := by
      intro w
      rw [← lookup_eq_some_iff_mem hkeys, hfound, Option.some_inj]
    simp [h _ hmem ns, honly]

/-- Reading an object, member by member. -/
theorem ofJson?_object_iff {members : List (String × Value)} {n : OutlineNode}
    (hkeys : (members.map Prod.fst).Nodup) (hmembers : ∀ m ∈ members, m.2.DistinctKeys) :
    ofJson? (.object members) = some n ↔
      ("kind", .string n.kind) ∈ members ∧
      (∃ v, ("start", v) ∈ members ∧ Position.Renders v n.start) ∧
      (∃ v, ("end", v) ∈ members ∧ Position.Renders v n.stop) ∧
      childrenMember? members = some n.children := by
  obtain ⟨kind, start, stop, children⟩ := n
  constructor
  · intro h
    simp only [ofJson?, Option.bind_eq_bind, Option.bind_eq_some_iff, Value.text?_eq_some,
      lookup_eq_some_iff_mem hkeys] at h
    obtain ⟨_, ⟨_, hkind, rfl⟩, _, ⟨v, hstart, hp⟩, _, ⟨w, hstop, hq⟩, _, hchildren, h⟩ := h
    cases h
    rw [Position.ofJson?_eq_some (hmembers _ hstart)] at hp
    rw [Position.ofJson?_eq_some (hmembers _ hstop)] at hq
    exact ⟨hkind, ⟨v, hstart, hp⟩, ⟨w, hstop, hq⟩, hchildren⟩
  · rintro ⟨hkind, ⟨v, hstart, hp⟩, ⟨w, hstop, hq⟩, hchildren⟩
    rw [← Position.ofJson?_eq_some (hmembers _ hstart)] at hp
    rw [← Position.ofJson?_eq_some (hmembers _ hstop)] at hq
    rw [← lookup_eq_some_iff_mem hkeys] at hkind hstart hstop
    simp [ofJson?, Value.text?, hkind, hstart, hstop, hp, hq, hchildren]

theorem ofJson?_object_eq_some {members : List (String × Value)} {n : OutlineNode}
    (hkeys : (members.map Prod.fst).Nodup) (hmembers : ∀ m ∈ members, m.2.DistinctKeys)
    (h : ∀ m ∈ members, ReadsChildren m.2) :
    ofJson? (.object members) = some n ↔ Renders (.object members) n := by
  rw [ofJson?_object_iff hkeys hmembers, childrenMember?_eq_some hkeys h]
  constructor
  · rintro ⟨hkind, ⟨v, hstart, hp⟩, ⟨w, hstop, hq⟩, ⟨items, hitems, hchildren⟩ | ⟨hmissing, hnone⟩⟩
    · exact .object hkind hstart hp hstop hq hitems hchildren
    · exact .childless hkind hstart hp hstop hq hmissing hnone
  · intro hn
    cases hn with
    | object hkind hstart hp hstop hq hitems hchildren =>
      exact ⟨hkind, ⟨_, hstart, hp⟩, ⟨_, hstop, hq⟩, Or.inl ⟨_, hitems, hchildren⟩⟩
    | childless hkind hstart hp hstop hq hmissing hnone =>
      exact ⟨hkind, ⟨_, hstart, hp⟩, ⟨_, hstop, hq⟩, Or.inr ⟨hmissing, hnone⟩⟩

theorem ofJson?_array_eq_some {items : List Value} {n : OutlineNode}
    (hitems : ∀ v ∈ items, v.DistinctKeys) (h : ∀ v ∈ items, ReadsChildren v) :
    ofJson? (.array items) = some n ↔ Renders (.array items) n := by
  obtain ⟨kind, start, stop, children⟩ := n
  constructor
  · intro hread
    unfold ofJson? at hread
    split at hread
    · rename_i k p q heq
      cases heq
      simp only [Option.bind_eq_bind, Option.bind_eq_some_iff, Value.text?_eq_some,
        Position.ofJson?_eq_some (hitems p (by simp)),
        Position.ofJson?_eq_some (hitems q (by simp))] at hread
      obtain ⟨_, rfl, _, hp, _, hq, hread⟩ := hread
      cases hread
      exact .short (n := ⟨_, _, _, []⟩) hp hq rfl
    · rename_i k p q cs heq
      cases heq
      simp only [Option.bind_eq_bind, Option.bind_eq_some_iff, Value.text?_eq_some,
        Position.ofJson?_eq_some (hitems p (by simp)),
        Position.ofJson?_eq_some (hitems q (by simp)), h cs (by simp) _] at hread
      obtain ⟨_, rfl, _, hp, _, hq, _, ⟨items, rfl, hchildren⟩, hread⟩ := hread
      cases hread
      exact .array (n := ⟨_, _, _, _⟩) hp hq hchildren
    · rename_i heq
      cases heq
    · cases hread
  · intro hn
    cases hn with
    | @array p q cs _ hp hq hchildren =>
      rw [← Position.ofJson?_eq_some (hitems _ (by simp))] at hp hq
      have hchildren := (h (.array cs) (by simp) _).mpr ⟨cs, rfl, hchildren⟩
      simp [ofJson?, Value.text?, hp, hq, hchildren]
    | @short p q _ hp hq hnone =>
      rw [← Position.ofJson?_eq_some (hitems _ (by simp))] at hp hq
      simp [ofJson?, Value.text?, hp, hq, ← hnone]

theorem ofJsons?_eq_some {items : List Value} {ns : List OutlineNode}
    (h : ∀ v ∈ items, ∀ n, ofJson? v = some n ↔ Renders v n) :
    ofJsons? items = some ns ↔ List.Forall₂ Renders items ns := by
  induction items generalizing ns with
  | nil => simp [ofJsons?, eq_comm]
  | cons v items ih =>
    rw [List.forall_mem_cons] at h
    simp only [ofJsons?, Option.bind_eq_bind, Option.bind_eq_some_iff, h.1, ih h.2,
      List.forall₂_cons_left_iff]
    constructor
    · rintro ⟨n, hn, ns', hns, heq⟩
      cases heq
      exact ⟨n, ns', hn, hns, rfl⟩
    · rintro ⟨n, ns', hn, hns, rfl⟩
      exact ⟨n, hn, ns', hns, rfl⟩

theorem not_reads_of_isLeaf {v : Value} (h : v.isLeaf) :
    ofJson? v = none ∧ childrenOfJson? v = none := by
  cases v <;> simp_all [Value.isLeaf, ofJson?, childrenOfJson?]

/-- **Reading a node** succeeds exactly on its renderings, and reading children on the arrays of
renderings of children. -/
theorem ofJson?_eq_some {v : Value} (hv : v.DistinctKeys) :
    (∀ n, ofJson? v = some n ↔ Renders v n) ∧ ReadsChildren v := by
  -- both at once: the children of a node stand one array further in than the node itself
  induction hv with
  | leaf h =>
    obtain ⟨hnode, hchildren⟩ := not_reads_of_isLeaf h
    refine ⟨fun n => iff_of_false (by simp [hnode]) fun hn => ?_,
      fun ns => iff_of_false (by simp [hchildren]) ?_⟩
    · cases hn <;> cases h
    · rintro ⟨items, rfl, -⟩
      cases h
  | @array items hitems ih =>
    constructor
    · exact fun n => ofJson?_array_eq_some hitems fun v hv => (ih v hv).2
    · intro ns
      rw [childrenOfJson?, ofJsons?_eq_some fun v hv => (ih v hv).1]
      simp
  | object hkeys hmembers ih =>
    constructor
    · exact fun n => ofJson?_object_eq_some hkeys hmembers fun m hm => (ih m hm).2
    · intro ns
      simp [childrenOfJson?]

end OutlineNode

namespace Outline

theorem rootOfJson?_eq_some {v : Value} (hv : v.DistinctKeys) {root : Option OutlineNode} :
    rootOfJson? v = some root ↔ RendersRoot v root := by
  have hread := (OutlineNode.ofJson?_eq_some hv).1
  constructor
  · intro h
    unfold rootOfJson? at h
    split at h
    · cases h
      exact .null
    · obtain ⟨n, hn, rfl⟩ := Option.map_eq_some_iff.mp h
      exact .root ((hread n).mp hn)
  · intro h
    cases h with
    | null => rfl
    | @root _ n h =>
      have hnull : v ≠ .null := by
        rintro rfl
        cases h
      rw [rootOfJson?, (hread n).mpr h, Option.map_some]
      exact hnull

theorem ofJson?_eq_some {v : Value} (hv : v.DistinctKeys) {t : Outline} :
    ofJson? v = some t ↔ Renders v t := by
  constructor
  · intro h
    unfold ofJson? at h
    split at h
    · have hitem := Value.distinctKeys_array.mp hv _ List.mem_cons_self
      obtain ⟨root, hroot, rfl⟩ := Option.map_eq_some_iff.mp h
      exact .array ((rootOfJson?_eq_some hitem).mp hroot)
    · obtain ⟨hkeys, hmembers⟩ := Value.distinctKeys_object.mp hv
      split at h
      · rename_i w hw
        rw [lookup_eq_some_iff_mem hkeys] at hw
        obtain ⟨root, hroot, rfl⟩ := Option.map_eq_some_iff.mp h
        exact .object hw ((rootOfJson?_eq_some (hmembers _ hw)).mp hroot)
      · rename_i hmissing
        cases h
        exact .rootless (lookup_eq_none_iff_not_mem.mp hmissing)
    · cases h
  · intro h
    cases h with
    | object hw hroot =>
      obtain ⟨hkeys, hmembers⟩ := Value.distinctKeys_object.mp hv
      rw [← rootOfJson?_eq_some (hmembers _ hw)] at hroot
      rw [← lookup_eq_some_iff_mem hkeys] at hw
      simp [ofJson?, hw, hroot]
    | rootless hmissing =>
      rw [ofJson?, lookup_eq_none_iff_not_mem.mpr hmissing]
    | array hroot =>
      have hitem := Value.distinctKeys_array.mp hv _ List.mem_cons_self
      rw [← rootOfJson?_eq_some hitem] at hroot
      simp [ofJson?, hroot]

/-- **What is read as an outline.** A value in which no object has a key twice is read as an outline
exactly if it is a rendering of that outline. So two renderings of one outline are read alike, and a value
that is no rendering is refused as a whole. -/
theorem read_iff_renders (v : Value) (hv : v.DistinctKeys) :
    (∀ t, ofJson? v = some t ↔ Renders v t) ∧
    (∀ w t, w.DistinctKeys → Renders v t → Renders w t → ofJson? v = ofJson? w) ∧
    ((¬ ∃ t, Renders v t) → ofJson? v = none) := by
  refine ⟨fun t => ofJson?_eq_some hv, fun w t hw hv' hw' => ?_, fun hnot => ?_⟩
  · rw [(ofJson?_eq_some hv).mpr hv', (ofJson?_eq_some hw).mpr hw']
  · rw [Option.eq_none_iff_forall_ne_some]
    exact fun t ht => hnot ⟨t, (ofJson?_eq_some hv).mp ht⟩

def nullChildren : Value :=
  .object [("root", .array [.string "file", .array [.nat 0, .nat 0], .array [.nat 9, .nat 0], .null])]

/-- Forms may change from record to record. A null is no rendering of children, not even in a record that
could have left them off. -/
theorem read_iff_renders_loose :
    (looseValue.DistinctKeys ∧ Renders looseValue looseOutline) ∧
      nullChildren.DistinctKeys ∧ ∀ t, ¬ Renders nullChildren t := by
  have hloose : looseValue.DistinctKeys := by simp [looseValue]
  have hnull : nullChildren.DistinctKeys := by simp [nullChildren]
  refine ⟨⟨hloose, ((read_iff_renders looseValue hloose).1 _).mp rfl⟩, hnull, fun t ht => ?_⟩
  cases ((read_iff_renders nullChildren hnull).1 t).mpr ht

end Outline

end LineScope
