import LineScope.Proofs.Tree.Preorder
import LineScope.Tree.Outline.Json

/-!
# Writing an outline and reading it back

An outline is written as JSON objects, where a node without children has no member for them, and a
missing member is read as no children. So what one side leaves off the other side puts back, at every
depth (`OutlineNode.ofJson?_toJson`), and an outline without a root survives as a null.

`At` walks into a JSON value by keys and indices. With it `has_children_iff` says where the key
`children` occurs in a written outline: at the nodes that have children and nowhere else.

Reading accepts more than writing produces (arrays for objects, members in any order, members nobody
asked for). Writing what was read picks one of these forms, the canonical one, and picks itself when it
is read again (`Outline.json_roundTrip`).
-/
namespace LineScope

/-! ## Ways into a value -/

namespace Json

/-- One step into a value: to a member of an object or to an item of an array. -/
inductive Step where
  | member (key : String)
  | item (index : Nat)
  deriving DecidableEq, Repr

/-- `v.At way w`: the way leads from the value `v` to the value `w`. -/
inductive Value.At : Value → List Step → Value → Prop where
  | here (v : Value) : At v [] v
  | member {members : List (String × Value)} {key : String} {v w : Value} {way : List Step}
      (h : (key, v) ∈ members) (hw : At v way w) : At (.object members) (.member key :: way) w
  | item {items : List Value} {i : Nat} {v w : Value} {way : List Step}
      (h : items[i]? = some v) (hw : At v way w) : At (.array items) (.item i :: way) w

/-- At the end of the way stands an object with a member of the name. -/
def Value.HasAt (v : Value) (way : List Step) (key : String) : Prop :=
  ∃ members w, v.At way (.object members) ∧ (key, w) ∈ members

def Value.isLeaf : Value → Bool
  | .array _ => false
  | .object _ => false
  | _ => true

section HasAt

variable {members : List (String × Value)} {items : List Value} {key : String} {way : List Step}

theorem not_hasAt_of_isLeaf {v : Value} (h : v.isLeaf) : ¬ v.HasAt way key := by
  rintro ⟨members, w, hat, -⟩
  cases hat <;> cases h

theorem hasAt_nil : (Value.object members).HasAt [] key ↔ ∃ w, (key, w) ∈ members := by
  constructor
  · rintro ⟨members', w, hat, hw⟩
    cases hat
    exact ⟨w, hw⟩
  · rintro ⟨w, hw⟩
    exact ⟨members, w, .here _, hw⟩

theorem hasAt_member {k : String} : (Value.object members).HasAt (.member k :: way) key ↔
    ∃ v, (k, v) ∈ members ∧ v.HasAt way key := by
  constructor
  · rintro ⟨members', w, hat, hw⟩
    cases hat with
    | member h hat => exact ⟨_, h, members', w, hat, hw⟩
  · rintro ⟨v, h, members', w, hat, hw⟩
    exact ⟨members', w, .member h hat, hw⟩

theorem not_hasAt_item {i : Nat} : ¬ (Value.object members).HasAt (.item i :: way) key := by
  rintro ⟨members', w, hat, -⟩
  cases hat

theorem hasAt_array : (Value.array items).HasAt way key ↔
    ∃ i v way', way = .item i :: way' ∧ items[i]? = some v ∧ v.HasAt way' key := by
  constructor
  · rintro ⟨members', w, hat, hw⟩
    cases hat with
    | item h hat => exact ⟨_, _, _, rfl, h, members', w, hat, hw⟩
  · rintro ⟨i, v, way', rfl, h, members', w, hat, hw⟩
    exact ⟨members', w, .item h hat, hw⟩

end HasAt

@[simp] theorem Value.word?_nat (x : UInt64) : (Value.nat x.toNat).word? = some x := by
  simp [nat, word?, nat?, x.toNat_lt_size]

end Json

open Json (Value Step)

/-! ## Reading what was written -/

@[simp] theorem Position.ofJson?_toJson (p : Position) : ofJson? p.toJson = some p := by
  simp [toJson, ofJson?, List.lookup_cons]

namespace OutlineNode

theorem toJsons_eq_map (ns : List OutlineNode) : toJsons ns = ns.map toJson := by
  induction ns with
  | nil => rfl
  | cons n ns ih => rw [toJsons, ih, List.map_cons]

def members (n : OutlineNode) : List (String × Value) :=
  [("kind", .string n.kind), ("start", n.start.toJson), ("end", n.stop.toJson)] ++
    if n.children.isEmpty then [] else [("children", .array (n.children.map toJson))]

theorem toJson_eq (n : OutlineNode) : n.toJson = .object n.members := by
  obtain ⟨kind, start, stop, children⟩ := n
  cases children with
  | nil => simp [toJson, members]
  | cons c cs => simp [toJson, members, toJsons_eq_map]

theorem mem_members {n : OutlineNode} {key : String} {v : Value} :
    (key, v) ∈ n.members ↔
      key = "kind" ∧ v = .string n.kind ∨ key = "start" ∧ v = n.start.toJson ∨
        key = "end" ∧ v = n.stop.toJson ∨
        key = "children" ∧ n.children ≠ [] ∧ v = .array (n.children.map toJson) := by
  by_cases h : n.children = []
  · simp [members, h]
  · simp [members, h]

mutual

theorem ofJson?_toJson : ∀ n : OutlineNode, ofJson? n.toJson = some n
  | ⟨kind, start, stop, []⟩ => by
    simp [toJson, ofJson?, List.lookup_cons, Value.text?, childrenMember?]
  | ⟨kind, start, stop, c :: cs⟩ => by
    have ih := ofJsons?_toJsons (c :: cs)
    simp [toJson, ofJson?, List.lookup_cons, Value.text?, childrenMember?, childrenOfJson?, ih]

theorem ofJsons?_toJsons : ∀ ns : List OutlineNode, ofJsons? (toJsons ns) = some ns
  | [] => rfl
  | n :: ns => by
    have hn := ofJson?_toJson n
    have hns := ofJsons?_toJsons ns
    simp [toJsons, ofJsons?, hn, hns]

end

end OutlineNode

namespace Outline

theorem rootOfJson?_toJson (root : OutlineNode) : rootOfJson? root.toJson = some (some root) := by
  have h := OutlineNode.ofJson?_toJson root
  rw [OutlineNode.toJson_eq] at h ⊢
  rw [rootOfJson?, h]
  · rfl
  · simp

theorem ofJson?_toJson (t : Outline) : ofJson? t.toJson = some t := by
  obtain ⟨root⟩ := t
  cases root with
  | none => rfl
  | some root => simp [toJson, ofJson?, rootOfJson?_toJson]

theorem toJson_injective : Function.Injective toJson := by
  intro t u h
  have ht := ofJson?_toJson t
  rw [h, ofJson?_toJson, Option.some_inj] at ht
  exact ht.symm

end Outline

/-! ## Where children are written -/

def wayAlong (path : List Nat) : List Step := path.flatMap fun i => [.member "children", .item i]

theorem Position.not_hasAt_children {p : Position} {way : List Step} :
    ¬ p.toJson.HasAt way "children" := by
  rw [Position.toJson]
  cases way with
  | nil => simp [Json.hasAt_nil]
  | cons step way =>
    cases step with
    | item i => exact Json.not_hasAt_item
    | member key =>
      rw [Json.hasAt_member]
      rintro ⟨v, hv, hat⟩
      simp only [List.mem_cons, Prod.mk.injEq, List.not_mem_nil, or_false] at hv
      obtain ⟨-, rfl⟩ | ⟨-, rfl⟩ := hv
      · exact Json.not_hasAt_of_isLeaf rfl hat
      · exact Json.not_hasAt_of_isLeaf rfl hat

namespace OutlineNode

theorem hasAt_nil_children {n : OutlineNode} : n.toJson.HasAt [] "children" ↔ n.children ≠ [] := by
  rw [toJson_eq, Json.hasAt_nil]
  simp [mem_members]

/-- Beyond a node's own members the key can only occur inside one of its children. -/
theorem hasAt_cons_children {n : OutlineNode} {step : Step} {way : List Step} :
    n.toJson.HasAt (step :: way) "children" ↔
      ∃ i c way', step = .member "children" ∧ way = .item i :: way' ∧ n.children[i]? = some c ∧
        c.toJson.HasAt way' "children" := by
  rw [toJson_eq]
  cases step with
  | item i => simp [Json.not_hasAt_item]
  | member key =>
    rw [Json.hasAt_member]
    constructor
    · rintro ⟨v, hv, hat⟩
      obtain ⟨-, rfl⟩ | ⟨-, rfl⟩ | ⟨-, rfl⟩ | ⟨rfl, -, rfl⟩ := mem_members.mp hv
      · exact absurd hat (Json.not_hasAt_of_isLeaf rfl)
      · exact absurd hat Position.not_hasAt_children
      · exact absurd hat Position.not_hasAt_children
      · obtain ⟨i, v, way', rfl, hv, hat⟩ := Json.hasAt_array.mp hat
        rw [List.getElem?_map, Option.map_eq_some_iff] at hv
        obtain ⟨c, hc, rfl⟩ := hv
        exact ⟨i, c, way', rfl, rfl, hc, hat⟩
    · rintro ⟨i, c, way', hkey, rfl, hc, hat⟩
      cases hkey
      have hne : n.children ≠ [] := List.ne_nil_of_mem (List.mem_of_getElem? hc)
      refine ⟨_, mem_members.mpr (Or.inr (Or.inr (Or.inr ⟨rfl, hne, rfl⟩))), ?_⟩
      exact Json.hasAt_array.mpr ⟨i, c.toJson, way', rfl, by simp [hc], hat⟩

/-- **Where children are written.** -/
theorem has_children_iff (n : OutlineNode) (way : List Step) :
    n.toJson.HasAt way "children" ↔
      ∃ p m, TreeNode.at? n p = some m ∧ m.children ≠ [] ∧ way = wayAlong p := by
  -- by the way: a child is two steps further on
  induction hk : way.length using Nat.strongRecOn generalizing n way with
  | ind k ih =>
    subst hk
    cases way with
    | nil =>
      rw [hasAt_nil_children]
      constructor
      · intro h
        exact ⟨[], n, rfl, h, rfl⟩
      · rintro ⟨p, m, hm, hne, hway⟩
        cases p with
        | nil => cases hm; exact hne
        | cons i p => simp [wayAlong] at hway
    | cons step way =>
      rw [hasAt_cons_children]
      constructor
      · rintro ⟨i, c, way', rfl, rfl, hc, hat⟩
        have hlt : way'.length < (Step.member "children" :: .item i :: way').length := by
          simp only [List.length_cons]; omega
        obtain ⟨p, m, hm, hne, rfl⟩ := (ih _ hlt c way' rfl).mp hat
        exact ⟨i :: p, m, TreeNode.at?_cons.mpr ⟨c, hc, hm⟩, hne, rfl⟩
      · rintro ⟨p, m, hm, hne, hway⟩
        cases p with
        | nil => simp [wayAlong] at hway
        | cons i p =>
          obtain ⟨c, hc, hm⟩ := TreeNode.at?_cons.mp hm
          cases hway
          have hlt : (wayAlong p).length < (wayAlong (i :: p)).length := by
            simp only [wayAlong, List.flatMap_cons, List.length_append, List.length_cons]; omega
          exact ⟨i, c, wayAlong p, rfl, rfl, hc, (ih _ hlt c _ rfl).mpr ⟨p, m, hm, hne, rfl⟩⟩

end OutlineNode

namespace Outline

theorem has_children_iff (t : Outline) (way : List Step) :
    t.toJson.HasAt way "children" ↔
      ∃ root p n, t.root = some root ∧ TreeNode.at? root p = some n ∧ n.children ≠ [] ∧
        way = .member "root" :: wayAlong p := by
  obtain ⟨root⟩ := t
  cases way with
  | nil => simp [toJson, Json.hasAt_nil]
  | cons step way =>
    cases step with
    | item i => simp [toJson, Json.not_hasAt_item]
    | member key =>
      cases root with
      | none =>
        have hnull : ¬ Value.null.HasAt way "children" := Json.not_hasAt_of_isLeaf rfl
        simp [toJson, Json.hasAt_member, hnull]
      | some root =>
        rw [toJson, Json.hasAt_member]
        constructor
        · rintro ⟨v, hv, hat⟩
          cases List.mem_singleton.mp hv
          obtain ⟨p, n, hn, hne, rfl⟩ := (OutlineNode.has_children_iff root way).mp hat
          exact ⟨root, p, n, rfl, hn, hne, rfl⟩
        · rintro ⟨root', p, n, hroot, hn, hne, hway⟩
          cases hroot
          cases hway
          exact ⟨root.toJson, List.mem_singleton_self _,
            (OutlineNode.has_children_iff root _).mpr ⟨p, n, hn, hne, rfl⟩⟩

/-! ## Both ways -/

/-- The form in which a value that can be read is written again. -/
def canonical? (v : Value) : Option Value := (ofJson? v).map toJson

/-- **Outlines and JSON.** Every outline is read back from what it is written as, so no two outlines are
written alike; the key `children` occurs in it exactly at the nodes that have children. A value that
can be read has a canonical form, which reads the same and is its own canonical form. -/
theorem json_roundTrip :
    (∀ t : Outline, ofJson? t.toJson = some t) ∧
    (∀ (t : Outline) (way : List Step), t.toJson.HasAt way "children" ↔
      ∃ root p n, t.root = some root ∧ TreeNode.at? root p = some n ∧ n.children ≠ [] ∧
        way = .member "root" :: wayAlong p) ∧
    Function.Injective toJson ∧
    ∀ (v : Value) (t : Outline), ofJson? v = some t →
      canonical? v = some t.toJson ∧ ofJson? t.toJson = some t ∧
        canonical? t.toJson = some t.toJson := by
  refine ⟨ofJson?_toJson, has_children_iff, toJson_injective, fun v t h => ⟨?_, ?_, ?_⟩⟩
  · rw [canonical?, h, Option.map_some]
  · exact ofJson?_toJson t
  · rw [canonical?, ofJson?_toJson, Option.map_some]

/-- A file with one function, written with arrays for objects, members out of order and one too many. -/
def looseValue : Value :=
  .array [.array [.string "file", .array [.nat 0, .nat 0], .object [("column", .nat 0), ("row", .nat 9)],
    .array [.object [("end", .array [.nat 6, .nat 1]), ("note", .null), ("start", .array [.nat 2, .nat 0]),
      ("kind", .string "function")]]]]

def looseOutline : Outline :=
  ⟨some ⟨"file", ⟨0, 0⟩, ⟨9, 0⟩, [⟨"function", ⟨2, 0⟩, ⟨6, 1⟩, []⟩]⟩⟩

theorem canonical?_loose :
    ofJson? looseValue = some looseOutline ∧ canonical? looseValue = some looseOutline.toJson ∧
      canonical? looseOutline.toJson = some looseOutline.toJson := by
  have h : ofJson? looseValue = some looseOutline := rfl
  obtain ⟨-, -, -, hread⟩ := json_roundTrip
  obtain ⟨hcanonical, -, hself⟩ := hread looseValue looseOutline h
  exact ⟨h, hcanonical, hself⟩

end Outline

end LineScope
