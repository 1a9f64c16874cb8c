import LineScope.Proofs.LineRange.Grammar
import Mathlib.Data.List.Basic

/-!
# Writing a line range and reading it back

A range is written as one number where it has one line, and otherwise as two with a dash between them. The
reader takes the dash for the separator that it is, since a numeral holds none, and puts the second number
back where there is only one. It takes a colon for a dash, and white space goes unseen at the ends of the
text and around the separator (`Spaced`).

So every way of writing a range down is read as that range (`parse_written`), for all its bounds up to the
last 64-bit word. A range holds the proof that its bounds are in order, so nothing is left out: whichever
way a range was made, by its bounds, by one line or from a text, it is one of these.
-/
namespace LineScope.LineRange

open Text

/-- `Spaced r s`: the text is the range as it is written or its two numbers with a separator between them,
with white space added at the ends and around the separator. -/
inductive Spaced (r : LineRange) : String → Prop where
  | rendered {ws ws' : String} (hws : White ws.toList) (hws' : White ws'.toList) :
      Spaced r (ws ++ r.render ++ ws')
  | separated {ws ws₁ ws₂ ws' sep : String} (hws : White ws.toList) (hws₁ : White ws₁.toList)
      (hsep : sep = ":" ∨ sep = "-") (hws₂ : White ws₂.toList) (hws' : White ws'.toList) :
      Spaced r (ws ++ decimal r.first.toNat ++ ws₁ ++ sep ++ ws₂ ++ decimal r.last.toNat ++ ws')

/-! ## Forms and ranges -/

theorem Spells.tight {cs : List Char} {a b : Nat} (h : Spells cs a b) : Tight cs := by
  cases h with
  | line h => exact h.tight
  | @range front ws ws' back sep _ _ ha _ _ _ hb =>
    refine ⟨fun {c} hc => ha.tight.head ?_, fun {c} hc => hb.tight.last ?_⟩
    · rwa [List.append_assoc, List.head?_append_of_ne_nil _ ha.ne_nil] at hc
    · have hback : (front ++ ws ++ sep :: (ws' ++ back)).getLast? = back.getLast? := by
        rw [← List.cons_append, ← List.append_assoc, List.getLast?_append_of_ne_nil _ hb.ne_nil]
      rwa [hback] at hc

theorem eq_of_bounds {r r' : LineRange} (hfirst : r.first.toNat = r'.first.toNat)
    (hlast : r.last.toNat = r'.last.toNat) : r = r' := by
  obtain ⟨first, last, _, _⟩ := r
  obtain ⟨first', last', _, _⟩ := r'
  obtain rfl : first = first' := UInt64.toNat_inj.mp hfirst
  obtain rfl : last = last' := UInt64.toNat_inj.mp hlast
  rfl

/-- **Reading a form.** One of the two forms with the bounds of a range, between white space, is read as
that range. -/
theorem parse_of_spells {r : LineRange} {s : String} {front back cs : List Char} (hfront : White front)
    (hback : White back) (hs : s.toList = front ++ cs ++ back)
    (h : Spells cs r.first.toNat r.last.toNat) : parse s = .ok r := by
  have haccepts : Accepts s r.first.toNat r.last.toNat :=
    ⟨cs, ⟨⟨front, back, hfront, hback, hs⟩, h.tight⟩, h, r.first.toNat_lt_size, r.last.toNat_lt_size,
      UInt64.le_iff_toNat_le.mp r.one_le_first, UInt64.le_iff_toNat_le.mp r.first_le_last⟩
  obtain ⟨r', hr', hfirst, hlast⟩ := (parse_iff_accepts s _ _).mpr haccepts
  rw [hr', eq_of_bounds hfirst hlast]

/-! ## Writing -/

/-- The two numbers of a range, with a separator and white space between them, are the form of two
numbers. -/
theorem spells_separated (r : LineRange) {ws ws' : List Char} {c : Char} (hws : White ws)
    (hc : c = ':' ∨ c = '-') (hws' : White ws') :
    Spells ((decimal r.first.toNat).toList ++ ws ++ c :: (ws' ++ (decimal r.last.toNat).toList))
      r.first.toNat r.last.toNat := by
  rw [decimal, decimal, String.toList_ofList, String.toList_ofList]
  exact .range (numeral_digits _) hws hc hws' (numeral_digits _)

theorem spells_render (r : LineRange) : Spells r.render.toList r.first.toNat r.last.toNat := by
  unfold render
  split
  · rename_i hone
    rw [← hone]
    simpa [decimal] using Spells.line (numeral_digits r.first.toNat)
  · have hnone : White [] := by decide
    simpa using spells_separated r hnone (Or.inr rfl) hnone

theorem parse_of_spaced {r : LineRange} {s : String} (h : Spaced r s) : parse s = .ok r := by
  cases h with
  | rendered hws hws' => exact parse_of_spells hws hws' (by simp) (spells_render r)
  | @separated ws ws₁ ws₂ ws' sep hws hws₁ hsep hws₂ hws' =>
    obtain ⟨c, rfl, hc⟩ : ∃ c : Char, sep = String.singleton c ∧ (c = ':' ∨ c = '-') := by
      obtain rfl | rfl := hsep
      · exact ⟨':', rfl, Or.inl rfl⟩
      · exact ⟨'-', rfl, Or.inr rfl⟩
    exact parse_of_spells hws hws' (by simp) (spells_separated r hws₁ hc hws₂)

/-- **Writing and reading.** Every range is read back from what it is written as, and from its two numbers
in decimal with a colon between them. White space at both ends of either text or around its separator
changes nothing. So no two ranges are written alike. -/
theorem parse_written :
    (∀ r : LineRange, parse r.render = .ok r) ∧
    (∀ r : LineRange, parse (decimal r.first.toNat ++ ":" ++ decimal r.last.toNat) = .ok r) ∧
    (∀ (r : LineRange) (s : String), Spaced r s → parse s = .ok r) ∧
    Function.Injective render := by
  have hnone : White "".toList := by decide
  have hrender : ∀ r : LineRange, parse r.render = .ok r := fun r => by
    simpa using parse_of_spaced (.rendered (r := r) hnone hnone)
  refine ⟨hrender, fun r => ?_, fun r s => parse_of_spaced, fun r r' h => ?_⟩
  · simpa using parse_of_spaced (.separated (r := r) hnone hnone (Or.inl rfl) hnone hnone)
  · have hsame := hrender r
    rw [h, hrender r'] at hsame
    cases hsame
    rfl

def linesFromEight : LineRange := ⟨8, 18446744073709551615, by decide, by decide⟩

/-- The last word has twenty digits; a wide blank, a tab and a line end are white space. -/
theorem parse_written_spaced :
    Spaced linesFromEight "\u30008 :\t18446744073709551615\n" ∧
      parse "\u30008 :\t18446744073709551615\n" = .ok linesFromEight := by
  have h : Spaced linesFromEight
      ("\u3000" ++ decimal 8 ++ " " ++ ":" ++ "\t" ++ decimal 18446744073709551615 ++ "\n") :=
    .separated (by decide) (by decide) (Or.inl rfl) (by decide) (by decide)
  have htext : "\u3000" ++ decimal 8 ++ " " ++ ":" ++ "\t" ++ decimal 18446744073709551615 ++ "\n" =
      "\u30008 :\t18446744073709551615\n" := by decide +kernel
  rw [htext] at h
  exact ⟨h, parse_written.2.2.1 _ _ h⟩

end LineScope.LineRange
