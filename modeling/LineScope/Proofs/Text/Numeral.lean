import LineScope.Proofs.Text.White
import LineScope.Text.Numeral
import Mathlib.Data.List.Induction
import Mathlib.Data.Nat.Digits.Defs

/-!
# Numerals

What a numeral is, said without the reader: one or more ASCII digits, after at most one plus sign, with
the value that the places of the digits give them (`Numeral`). The reader accepts exactly the numerals,
with that value, as far as they fit into a word (`readWord?_eq_some`). The decimal of a number is a numeral of
it (`numeral_digits`).
-/
namespace LineScope.Text

/-- The value of digits, the last one standing for ones, the one before it for tens, and so on. -/
def placeValue (cs : List Char) : Nat :=
  Nat.ofDigits 10 (cs.reverse.map fun c => c.toNat - '0'.toNat)

structure Digits (cs : List Char) : Prop where
  ne_nil : cs ≠ []
  digit {c : Char} (h : c ∈ cs) : c.isDigit = true

/-- `Numeral cs n`: the characters are a numeral of the number. Leading zeros are allowed. -/
inductive Numeral : List Char → Nat → Prop where
  | unsigned {cs : List Char} (h : Digits cs) : Numeral cs (placeValue cs)
  | signed {cs : List Char} (h : Digits cs) : Numeral ('+' :: cs) (placeValue cs)

/-! ## The characters of a numeral -/

theorem toNat_of_digit {c : Char} (h : c.isDigit = true) : 48 ≤ c.toNat ∧ c.toNat ≤ 57 := by
  simpa [Char.isDigit, UInt32.le_iff_toNat_le] using h

theorem not_white_of_digit {c : Char} (h : c.isDigit = true) : isWhite c = false := by
  have := toNat_of_digit h
  simp [isWhite, inRanges, whiteRanges]
  omega

theorem Numeral.ne_nil {cs : List Char} {n : Nat} (h : Numeral cs n) : cs ≠ [] := by
  cases h with
  | unsigned h => exact h.ne_nil
  | signed h => exact List.cons_ne_nil _ _

theorem Numeral.char {cs : List Char} {n : Nat} (h : Numeral cs n) {c : Char} (hc : c ∈ cs) :
    c = '+' ∨ c.isDigit = true := by
  cases h with
  | unsigned h => exact Or.inr (h.digit hc)
  | signed h =>
    rcases List.mem_cons.mp hc with hc | hc
    · exact Or.inl hc
    · exact Or.inr (h.digit hc)

theorem Numeral.tight {cs : List Char} {n : Nat} (h : Numeral cs n) : Tight cs := by
  apply tight_of_forall
  intro c hc
  rcases h.char hc with rfl | hd
  · decide
  · exact not_white_of_digit hd

/-! ## Reading -/

theorem placeValue_concat (cs : List Char) (c : Char) :
    placeValue (cs ++ [c]) = placeValue cs * 10 + digitValue c := by
  simp only [placeValue, List.reverse_append, List.reverse_singleton, List.singleton_append,
    List.map_cons, Nat.ofDigits_cons, digitValue]
  show c.toNat - 48 + 10 * _ = _ * 10 + (c.toNat - 48)
  omega

/-- Reading digits from the front adds up to the value of their places. -/
theorem digitsValue_eq (cs : List Char) : digitsValue 0 cs = placeValue cs := by
  induction cs using List.reverseRecOn with
  | nil => rfl
  | append_singleton cs c ih =>
    rw [placeValue_concat, ← ih]
    simp [digitsValue]

theorem readDigits?_eq_some {cs : List Char} {n : Nat} :
    readDigits? cs = some n ↔ Digits cs ∧ placeValue cs = n := by
  have hdigits : (!cs.isEmpty && cs.all isDigit) = true ↔ Digits cs := by
    simp only [Bool.and_eq_true, Bool.not_eq_true', List.isEmpty_eq_false_iff, List.all_eq_true]
    exact ⟨fun h => ⟨h.1, fun hc => h.2 _ hc⟩, fun h => ⟨h.ne_nil, fun _ hc => h.digit hc⟩⟩
  unfold readDigits?
  split
  · rename_i h
    rw [digitsValue_eq, Option.some_inj]
    exact (and_iff_right (hdigits.mp h)).symm
  · rename_i h
    simp [mt hdigits.mpr h]

theorem readUnsigned?_eq_some {cs : List Char} {n : Nat} :
    readUnsigned? cs = some n ↔ Numeral cs n := by
  unfold readUnsigned?
  split
  · rw [readDigits?_eq_some]
    constructor
    · rintro ⟨h, rfl⟩
      exact .signed h
    · intro h
      cases h with
      | unsigned h => exact absurd (h.digit List.mem_cons_self) (by decide)
      | signed h => exact ⟨h, rfl⟩
  · rename_i hplus
    rw [readDigits?_eq_some]
    constructor
    · rintro ⟨h, rfl⟩
      exact .unsigned h
    · intro h
      cases h with
      | unsigned h => exact ⟨h, rfl⟩
      | signed h => exact absurd rfl (hplus _)

/-- **Reading a word** succeeds exactly on the numerals that fit into one. -/
theorem readWord?_eq_some {cs : List Char} {x : UInt64} :
    readWord? cs = some x ↔ Numeral cs x.toNat := by
  rw [← readUnsigned?_eq_some]
  unfold readWord?
  cases hn : readUnsigned? cs with
  | none => simp
  | some n =>
    have hx := x.toNat_lt_size
    simp only [Option.some_inj]
    split
    · rename_i hlt
      rw [Option.some_inj]
      constructor
      · rintro rfl
        exact (UInt64.toNat_ofNat_of_lt' hlt).symm
      · rintro rfl
        exact UInt64.ofNat_toNat
    · rename_i hge
      simp only [reduceCtorEq, false_iff]
      omega

/-! ## Writing -/

theorem digitChar_spec {d : Nat} (h : d < 10) :
    (digitChar d).isDigit = true ∧ digitValue (digitChar d) = d := by
  have hall : ∀ d : Fin 10, (digitChar d).isDigit = true ∧ digitValue (digitChar d) = d := by decide
  exact hall ⟨d, h⟩

theorem digits_digits (n : Nat) : Digits (digits n) := by
  induction n using digits.induct with
  | case1 n h =>
    rw [digits, if_pos h]
    exact ⟨List.cons_ne_nil _ _, fun hc => List.mem_singleton.mp hc ▸ (digitChar_spec h).1⟩
  | case2 n h ih =>
    rw [digits, if_neg h]
    refine ⟨by simp, fun hc => ?_⟩
    rcases List.mem_append.mp hc with hc | hc
    · exact ih.digit hc
    · exact List.mem_singleton.mp hc ▸ (digitChar_spec (Nat.mod_lt n (by decide))).1

theorem placeValue_digits (n : Nat) : placeValue (digits n) = n := by
  induction n using digits.induct with
  | case1 n h =>
    have hone := placeValue_concat [] (digitChar n)
    rw [(digitChar_spec h).2] at hone
    rw [digits, if_pos h]
    simpa [placeValue] using hone
  | case2 n h ih =>
    rw [digits, if_neg h, placeValue_concat, ih, (digitChar_spec (Nat.mod_lt n (by decide))).2]
    omega

theorem numeral_digits (n : Nat) : Numeral (digits n) n := by
  have h := Numeral.unsigned (digits_digits n)
  rwa [placeValue_digits] at h

theorem digitChar_eq {d : Nat} (h : d < 10) : digitChar d = d.digitChar := by
  have hall : ∀ d : Fin 10, digitChar d = (d : Nat).digitChar := by decide
  exact hall ⟨d, h⟩

theorem digits_eq_toDigits (n : Nat) : digits n = Nat.toDigits 10 n := by
  induction n using digits.induct with
  | case1 n h => rw [digits, if_pos h, Nat.toDigits_of_lt_base h, digitChar_eq h]
  | case2 n h ih =>
    have hlast : n % 10 < 10 := Nat.mod_lt n (by decide)
    have hparts := Nat.toDigits_append_toDigits (b := 10) (n := n / 10) (by decide) (by omega) hlast
    rw [Nat.div_add_mod, Nat.toDigits_of_lt_base hlast, ← digitChar_eq hlast, ← ih] at hparts
    rw [digits, if_neg h, hparts]

theorem decimal_eq_toString (n : Nat) : decimal n = toString n := by
  rw [decimal, digits_eq_toDigits, Nat.toString_eq_ofList_toDigits]

theorem length_digits_le {m n : Nat} (h : m ≤ n) : (digits m).length ≤ (digits n).length := by
  induction n using digits.induct generalizing m with
  | case1 n hn =>
    have hm : m < 10 := by omega
    rw [digits, if_pos hm, digits, if_pos hn]
    simp
  | case2 n hn ih =>
    rw [digits.eq_def m, digits.eq_def n, if_neg hn]
    split
    · simp
    · have := ih (m := m / 10) (by omega)
      simpa using this

end LineScope.Text
