import LineScope.Text.Paint
import Mathlib.Data.List.Infix

/-!
# What painting does to a text

Painting puts a style around a text and changes nothing in it, but that the style is opened again behind each
reset (`painted_paint`). A text in which no escape sequence begins has no resets (`paint_of_not_mem`).
-/
namespace LineScope.Text

/-- What opens a style, if there are colours. -/
def opening (colour : Bool) (style : Style) : String := if colour then style.code else ""

def closing (colour : Bool) : String := if colour then resetCode else ""

/-- `Painted colour style text painted`: the style stands around the pieces of the text that its resets divide, and
is opened again behind each reset. -/
def Painted (colour : Bool) (style : Style) (text painted : String) : Prop :=
  ∃ pieces : List String,
    (∀ piece ∈ pieces, ¬ resetCode.toList <:+: piece.toList) ∧
    text = resetCode.intercalate pieces ∧
    painted = opening colour style ++
      (resetCode ++ opening colour style).intercalate pieces ++ closing colour

/-! ## Pieces -/

theorem intercalate_cons_char (sep : List Char) (c : Char) (piece : List Char)
    (pieces : List (List Char)) :
    sep.intercalate ((c :: piece) :: pieces) = c :: sep.intercalate (piece :: pieces) := by
  cases pieces with
  | nil => simp
  | cons next pieces => simp [List.intercalate_cons_cons]

theorem intercalate_ofList (sep : String) (pieces : List (List Char)) :
    sep.intercalate (pieces.map String.ofList) = String.ofList (sep.toList.intercalate pieces) := by
  rw [← String.toList_inj, String.toList_intercalate, String.toList_ofList, List.map_map]
  congr 1
  simp [Function.comp_def]

theorem first_piece (sep piece : List Char) (pieces : List (List Char)) :
    piece <+: sep.intercalate (piece :: pieces) := by
  cases pieces with
  | nil => simp
  | cons next pieces =>
    rw [List.intercalate_cons_cons, List.append_assoc]
    exact List.prefix_append _ _

/-- The resets divide a text into pieces, and behind each the style is opened again. -/
theorem exists_pieces (code cs : List Char) :
    ∃ piece pieces, (∀ p ∈ piece :: pieces, ¬ resetCode.toList <:+: p) ∧
      cs = resetCode.toList.intercalate (piece :: pieces) ∧
      reopen code cs = (resetCode.toList ++ code).intercalate (piece :: pieces) := by
  have hempty : ¬ resetCode.toList <:+: [] := by decide +kernel
  induction cs using reopen.induct with
  | case1 => exact ⟨[], [], by simpa using hempty, by simp, by simp [reopen]⟩
  | case2 c cs hreset ih =>
    obtain ⟨piece, pieces, hclean, htext, hreopened⟩ := ih
    obtain ⟨rest, hrest⟩ := List.isPrefixOf_iff_prefix.mp hreset
    have hdrop : cs.drop 3 = rest := by
      have hfour : (c :: cs).drop 4 = (resetCode.toList ++ rest).drop 4 := by rw [hrest]
      exact hfour
    refine ⟨[], piece :: pieces, List.forall_mem_cons.mpr ⟨hempty, hclean⟩, ?_, ?_⟩
    · rw [List.intercalate_cons_cons, ← htext, hdrop, List.nil_append, hrest]
    · rw [reopen, if_pos hreset, hreopened, List.intercalate_cons_cons, List.nil_append]
  | case3 c cs hreset ih =>
    obtain ⟨piece, pieces, hclean, htext, hreopened⟩ := ih
    rw [List.forall_mem_cons] at hclean
    refine ⟨c :: piece, pieces, List.forall_mem_cons.mpr ⟨?_, hclean.2⟩, ?_, ?_⟩
    · rw [List.infix_cons_iff]
      rintro (h | h)
      · -- the piece begins the text, and so would its reset
        have hbegins : c :: piece <+: c :: cs :=
          (List.prefix_cons_inj c).mpr (htext ▸ first_piece _ _ _)
        exact hreset (List.isPrefixOf_iff_prefix.mpr (h.trans hbegins))
      · exact hclean.1 h
    · rw [intercalate_cons_char, ← htext]
    · rw [reopen, if_neg hreset, hreopened, intercalate_cons_char]

/-! ## Painting -/

/-- **Painting** keeps the pieces of a text and puts the style around each. -/
theorem painted_paint (colour : Bool) (style : Style) (text : String) :
    Painted colour style text (paint colour style text) := by
  obtain ⟨piece, pieces, hclean, htext, hreopened⟩ :=
    exists_pieces style.code.toList text.toList
  have hjoined : text = resetCode.intercalate ((piece :: pieces).map String.ofList) := by
    rw [intercalate_ofList, ← htext, String.ofList_toList]
  refine ⟨(piece :: pieces).map String.ofList, ?_, hjoined, ?_⟩
  · intro p hp
    obtain ⟨cs, hcs, rfl⟩ := List.mem_map.mp hp
    rw [String.toList_ofList]
    exact hclean cs hcs
  · cases colour with
    | true =>
      show style.code ++ String.ofList (reopen style.code.toList text.toList) ++ resetCode = _
      rw [hreopened, ← String.toList_append, ← intercalate_ofList]
      rfl
    | false =>
      show text = "" ++ (resetCode ++ "").intercalate _ ++ ""
      rw [String.append_empty, String.append_empty, String.empty_append, ← hjoined]

theorem reopen_of_not_mem {code cs : List Char} (h : '\x1b' ∉ cs) : reopen code cs = cs := by
  induction cs with
  | nil => rw [reopen]
  | cons c cs ih =>
    rw [List.mem_cons, not_or] at h
    have hreset : resetCode.toList.isPrefixOf (c :: cs) = false := by
      show List.isPrefixOf ('\x1b' :: _) (c :: cs) = false
      simp [List.isPrefixOf, h.1]
    rw [reopen, hreset, ih h.2]
    rfl

/-- A text in which no style ends is painted as it is. -/
theorem paint_of_not_mem {text : String} (h : '\x1b' ∉ text.toList) (colour : Bool)
    (style : Style) : paint colour style text = opening colour style ++ text ++ closing colour := by
  unfold paint opening closing
  cases colour with
  | true => simp [reopen_of_not_mem h]
  | false => simp

end LineScope.Text
