import Mathlib.Data.List.Nodup

/-!
# Looking a key up

A list of pairs in which no key occurs twice is a table: looking a key up finds a value exactly if the list
has the pair (`lookup_eq_some_iff_mem`). The members of a JSON object are such a list.
-/
namespace LineScope

variable {α β : Type} [BEq α] [LawfulBEq α] {pairs : List (α × β)} {key : α} {b : β}

theorem lookup_eq_some_iff_mem (hkeys : (pairs.map Prod.fst).Nodup) :
    pairs.lookup key = some b ↔ (key, b) ∈ pairs := by
  constructor
  · intro h
    obtain ⟨front, back, rfl, -⟩ := List.lookup_eq_some_iff.mp h
    exact List.mem_append_right _ List.mem_cons_self
  · intro h
    obtain ⟨front, back, rfl⟩ := List.append_of_mem h
    refine List.lookup_eq_some_iff.mpr ⟨front, back, rfl, fun p hp => ?_⟩
    -- a pair in front with the same key would be the pair itself
    rw [List.map_append, List.map_cons, List.nodup_append] at hkeys
    have hne := hkeys.2.2 p.1 (List.mem_map_of_mem hp) key List.mem_cons_self
    simpa using Ne.symm hne

theorem lookup_eq_none_iff_not_mem : pairs.lookup key = none ↔ ∀ b, (key, b) ∉ pairs := by
  rw [List.lookup_eq_none_iff]
  constructor
  · intro h b hb
    simpa using h _ hb
  · rintro h ⟨k, b⟩ hb
    have hne : key ≠ k := by rintro rfl; exact h b hb
    simpa using hne

end LineScope
