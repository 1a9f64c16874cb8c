import LineScope.Proofs.Command.Excerpt

/-!
# The column of numbers

An excerpt shows the first fifteen lines of a text, each behind its number and a bar, and says how many lines
it leaves out. The numbers stand at the right of a column. Its width is that of the number after the text's
last line, which is never shown; but a larger number has no fewer digits, so each number that is shown fits
(`length_toString_le`). Then number and bar take up the same space in every row, also where the numbers get
longer (`length_gutter`), and the note on what is left out is indented by that space.
-/
namespace LineScope.Report

open Text

/-- A number that fits into the column takes up the whole of it with the blanks in front, and the bar two characters
more. -/
theorem length_gutter {width number : Nat} (h : (toString number).length ≤ width) :
    (blanks (width - (toString number).length) ++ toString number ++ " │").length = width + 2 := by
  have hbar : " │".length = 2 := rfl
  rw [String.length_append, String.length_append, hbar, blanks, String.length_ofList,
    List.length_replicate, Nat.sub_add_cancel h]

variable {first : Nat} {lines : List String}

theorem map_fst_shown :
    (shown first lines).map Prod.fst = List.range' first (min lines.length 15) := by
  rw [shown, List.map_fst_zip]
  simp

theorem map_snd_shown :
    (shown first lines).map Prod.snd = lines.take (min lines.length 15) := by
  rw [shown, List.map_snd_zip]
  · simp [Nat.min_comm]
  · simp

theorem length_shown : (shown first lines).length = min lines.length 15 := by
  rw [← List.length_map (f := Prod.fst), map_fst_shown, List.length_range']

theorem length_toString_le {entry : Nat × String} (h : entry ∈ shown first lines) :
    (toString entry.1).length ≤ (toString (first + lines.length)).length := by
  have hmem : entry.1 ∈ (shown first lines).map Prod.fst := List.mem_map_of_mem h
  rw [map_fst_shown, List.mem_range'_1] at hmem
  rw [← decimal_eq_toString, ← decimal_eq_toString, decimal, decimal, String.length_ofList,
    String.length_ofList]
  exact length_digits_le (by omega)

/-- How many lines are not shown, if there are any. -/
def left? (lines : List String) : Option Nat :=
  if 15 < lines.length then some (lines.length - 15) else none

/-- **An excerpt loses nothing and stays in line.** The report on a summary shows the first lines of its text, all
if there are at most fifteen, in their order and with numbers that count on from the first line of its span. Each
stands in a row of its own, and is painted piece by piece where it is. What follows the rows is a note exactly if
there are more lines, and the note gives the number of those that are missing. Each number fits into the column, so
that blanks, number and bar have the same length in every row, and the note is indented by as many blanks. -/
theorem context_in_column (colour : Bool) (path : String) (r : LineRange) (s : Summary) :
    let all := (segments s.text.toList).map fun line => String.ofList (withoutEnding line)
    let first := s.span.startLine.toNat
    let width := (toString (first + all.length)).length
    ∃ (entries : List (Nat × String)) (left : Option Nat),
      context colour path r (some s) =
        heading colour path r s ++ "\n\n" ++
          String.join (entries.map fun e =>
            row colour (decide (r.first.toNat ≤ e.1 ∧ e.1 ≤ r.last.toNat)) width e.1 e.2) ++
          left.elim "" (note width) ∧
      entries.length = min all.length 15 ∧
      entries.map Prod.fst = List.range' first entries.length ∧
      entries.map Prod.snd = all.take entries.length ∧
      (left.isSome ↔ 15 < all.length) ∧
      (∀ missing ∈ left, missing + entries.length = all.length) ∧
      ∀ e ∈ entries,
        (toString e.1).length ≤ width ∧
        (blanks (width - (toString e.1).length) ++ toString e.1 ++ " │").length =
          (blanks (width + 2)).length ∧
        Painted colour .faint e.2 (paint colour .faint e.2) := by
  intro all first width
  have hall : Text.lines s.text = all := lines_eq s.text
  have hblanks : (blanks (width + 2)).length = width + 2 := by
    rw [blanks, String.length_ofList, List.length_replicate]
  refine ⟨shown first all, left? all, ?_, length_shown, ?_, ?_, ?_, ?_, ?_⟩
  · have hcontext := context_eq colour path r s
    rw [hall] at hcontext
    rw [hcontext, left?]
    split <;> rfl
  · rw [length_shown, map_fst_shown]
  · rw [length_shown, map_snd_shown]
  · unfold left?
    split <;> simp_all
  · intro missing hmissing
    rw [length_shown]
    unfold left? at hmissing
    split at hmissing
    · cases hmissing
      omega
    · cases hmissing
  · intro e he
    have hfits := length_toString_le he
    exact ⟨hfits, (length_gutter hfits).trans hblanks.symm, painted_paint _ _ _⟩

example : row false true 3 9 "a" ++ row false true 3 10 "" ++ note 3 2 =
    "    9 │ a\n   10 │ \n        ... and 2 more lines\n" := by decide +kernel

end LineScope.Report
