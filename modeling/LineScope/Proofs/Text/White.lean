import LineScope.Text.White
import Mathlib.Data.List.TakeWhile

/-!
# Trimming

Trimming is said without recursion: a text consists of white space, what is left, and white space again,
and what is left neither begins nor ends with white space (`Strips`). What trimming leaves is left in this way
(`strips_trimChars`), and nothing else is (`trimChars_of_strips`).
-/
namespace LineScope.Text

def White (cs : List Char) : Prop := ∀ c ∈ cs, isWhite c = true

instance (cs : List Char) : Decidable (White cs) :=
  decidable_of_iff (cs.all isWhite = true) List.all_eq_true

structure Tight (cs : List Char) : Prop where
  head {c : Char} (h : c ∈ cs.head?) : isWhite c = false
  last {c : Char} (h : c ∈ cs.getLast?) : isWhite c = false

/-- `body` is what is left of `cs` without the white space at its ends. -/
structure Strips (cs body : List Char) : Prop where
  around : ∃ front back, White front ∧ White back ∧ cs = front ++ body ++ back
  tight : Tight body

theorem tight_of_forall {cs : List Char} (h : ∀ c ∈ cs, isWhite c = false) : Tight cs where
  head hc := h _ (List.mem_of_mem_head? hc)
  last hc := h _ (List.mem_of_getLast? hc)

theorem strips_self {cs : List Char} (h : Tight cs) : Strips cs cs where
  around := ⟨[], [], by simp [White], by simp [White], by simp⟩
  tight := h

theorem nil_of_tight_front {ws cs : List Char} (hws : White ws) (h : Tight (ws ++ cs)) : ws = [] := by
  cases ws with
  | nil => rfl
  | cons c ws =>
    have hnot : isWhite c = false := h.head rfl
    rw [hws c List.mem_cons_self] at hnot
    cases hnot

theorem nil_of_tight_back {ws cs : List Char} (hws : White ws) (h : Tight (cs ++ ws)) : ws = [] := by
  cases hlast : ws.getLast? with
  | none => exact List.getLast?_eq_none_iff.mp hlast
  | some c =>
    have hnot : isWhite c = false := h.last (by simp [List.getLast?_append, hlast])
    rw [hws c (List.mem_of_getLast? hlast)] at hnot
    cases hnot

/-! ## One end -/

theorem trimFront_append {front : List Char} (h : White front) (cs : List Char) :
    trimFront (front ++ cs) = trimFront cs :=
  List.dropWhile_append_of_pos h

theorem trimBack_append {back : List Char} (h : White back) (cs : List Char) :
    trimBack (cs ++ back) = trimBack cs := by
  have hback : White back.reverse := fun c hc => h c (List.mem_reverse.mp hc)
  rw [trimBack, List.reverse_append, trimFront_append hback, trimBack]

theorem trimFront_of_head {cs : List Char} (h : ∀ c ∈ cs.head?, isWhite c = false) :
    trimFront cs = cs := by
  cases cs with
  | nil => rfl
  | cons c cs =>
    have hc := h c rfl
    simp [trimFront, hc]

theorem trimBack_of_last {cs : List Char} (h : ∀ c ∈ cs.getLast?, isWhite c = false) :
    trimBack cs = cs := by
  rw [trimBack, trimFront_of_head (by simpa using h), List.reverse_reverse]

theorem trimFront_around (cs : List Char) :
    ∃ front, White front ∧ cs = front ++ trimFront cs ∧
      ∀ c ∈ (trimFront cs).head?, isWhite c = false := by
  refine ⟨cs.takeWhile isWhite, fun c hc => List.mem_takeWhile_imp hc,
    List.takeWhile_append_dropWhile.symm, fun c hc => ?_⟩
  have hnot := List.head?_dropWhile_not isWhite cs
  rw [show (cs.dropWhile isWhite).head? = some c from hc] at hnot
  simpa using hnot

theorem trimBack_around (cs : List Char) :
    ∃ back, White back ∧ cs = trimBack cs ++ back ∧
      ∀ c ∈ (trimBack cs).getLast?, isWhite c = false := by
  obtain ⟨front, hwhite, hcs, hhead⟩ := trimFront_around cs.reverse
  refine ⟨front.reverse, fun c hc => hwhite c (List.mem_reverse.mp hc), ?_, ?_⟩
  · have := congrArg List.reverse hcs
    rwa [List.reverse_reverse, List.reverse_append] at this
  · simpa [trimBack] using hhead

/-! ## Both ends -/

theorem strips_trimChars (cs : List Char) : Strips cs (trimChars cs) := by
  obtain ⟨front, hfront, hcs, hhead⟩ := trimFront_around cs
  obtain ⟨back, hback, hrest, hlast⟩ := trimBack_around (trimFront cs)
  refine ⟨⟨front, back, hfront, hback, ?_⟩, ⟨fun {c} hc => hhead c ?_, fun {c} hc => hlast c hc⟩⟩
  · rw [List.append_assoc, trimChars, ← hrest]
    exact hcs
  · -- what is left begins as the text without its white front does
    have hhead' : (trimChars cs).head? = some c := hc
    rw [hrest, List.head?_append, ← trimChars, hhead']
    rfl

theorem trimChars_of_strips {cs body : List Char} (h : Strips cs body) : trimChars cs = body := by
  obtain ⟨⟨front, back, hfront, hback, rfl⟩, htight⟩ := h
  rw [trimChars, List.append_assoc, trimFront_append hfront]
  cases body with
  | nil =>
    have hnil : trimFront back = [] := List.dropWhile_eq_nil_iff.mpr hback
    rw [List.nil_append, hnil]
    rfl
  | cons c body =>
    have hhead : ∀ d ∈ (c :: body ++ back).head?, isWhite d = false := fun d hd => htight.head hd
    rw [trimFront_of_head hhead, trimBack_append hback]
    exact trimBack_of_last fun d hd => htight.last hd

end LineScope.Text
