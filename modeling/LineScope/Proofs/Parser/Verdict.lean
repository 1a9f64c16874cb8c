import LineScope.Proofs.Parser.Context
import LineScope.Proofs.Text.White

/-!
# What a dry run says

A dry run and a question for a context both begin with a parse and part when it fails. The dry run makes a
verdict of the failure, which is put in words: the reason alone where the parser gave up on the text, the
full text of any other error, and a stock phrase for a reason that is blank (`Explains`). The question for a
context passes the failure on as it is.

So a text is valid exactly if its parse succeeds, exactly if nothing is said of it, and, where no row or
column reaches the last 32-bit word and no node leaves the text, exactly if every range of its lines has an answer
(`check_iff_context`). This holds of every parser, whatever errors it has: a verdict is never silent on a
failure, because headings are not blank and neither is the stock phrase.
-/
namespace LineScope

open TreeNode Text

/-- What is said of a text whose parse failed. -/
structure Explains (e : Error) (said : String) : Prop where
  wordy : ∃ c ∈ said.toList, isWhite c = false
  reason (hparse : e.category = .parse) (h : ¬ White e.reason.toList) : said = e.reason
  unknown (hparse : e.category = .parse) (h : White e.reason.toList) : said = "Unknown error"
  full (hparse : e.category ≠ .parse) : said = e.message

theorem isBlank_iff {s : String} : isBlank s = true ↔ White s.toList := List.all_eq_true

theorem not_white_iff {cs : List Char} : ¬ White cs ↔ ∃ c ∈ cs, isWhite c = false := by
  simp [White]

theorem Error.not_white_message (e : Error) : ¬ White e.message.toList := by
  intro h
  have hheading : White e.category.heading.toList := fun c hc => h c (by simp [message, hc])
  revert hheading
  cases e.category <;> decide

/-! ## Verdicts -/

namespace Validity

theorem failed_of_white {reason : String} (h : White reason.toList) :
    failed reason = ⟨false, "Unknown error"⟩ := by
  rw [failed, if_pos (isBlank_iff.mpr h)]
  rfl

theorem failed_of_not_white {reason : String} (h : ¬ White reason.toList) :
    failed reason = ⟨false, reason⟩ := by
  rw [failed, if_neg (mt isBlank_iff.mp h)]

theorem valid_failed (reason : String) : (failed reason).valid = false := rfl

theorem not_white_failed (reason : String) : ¬ White (failed reason).error.toList := by
  by_cases h : White reason.toList
  · rw [failed_of_white h]
    decide
  · rwa [failed_of_not_white h]

variable {α : Type}

theorem ofParse_error (e : Error) :
    ofParse (.error e : Except Error α) =
      failed (if e.category = .parse then e.reason else e.message) := by
  simp only [ofParse]
  split <;> rfl

theorem valid_ofParse_error (e : Error) : (ofParse (.error e : Except Error α)).valid = false := by
  rw [ofParse_error, valid_failed]

/-- **A failed parse** is explained. -/
theorem explains_ofParse_error (e : Error) :
    Explains e (ofParse (.error e : Except Error α)).error := by
  rw [ofParse_error]
  exact {
    wordy := not_white_iff.mp (not_white_failed _)
    reason := fun hparse h => by rw [if_pos hparse, failed_of_not_white h]
    unknown := fun hparse h => by rw [if_pos hparse, failed_of_white h]
    full := fun hparse => by rw [if_neg hparse, failed_of_not_white e.not_white_message] }

theorem valid_ofParse {parsed : Except Error α} :
    (ofParse parsed).valid = true ↔ ∃ a, parsed = .ok a := by
  cases parsed with
  | ok a => exact iff_of_true rfl ⟨a, rfl⟩
  | error e => simp [valid_ofParse_error]

theorem error_ofParse {parsed : Except Error α} :
    (ofParse parsed).error = "" ↔ ∃ a, parsed = .ok a := by
  cases parsed with
  | ok a => exact iff_of_true rfl ⟨a, rfl⟩
  | error e =>
    refine iff_of_false (fun h => ?_) (by rintro ⟨a, ⟨⟩⟩)
    have hsaid : Explains e (ofParse (.error e : Except Error α)).error := explains_ofParse_error e
    obtain ⟨c, hc, -⟩ := hsaid.wordy
    rw [h] at hc
    cases hc

end Validity

/-! ## Verdicts and answers -/

namespace SourceParser

variable {p : SourceParser} {text : String}

theorem context_of_error {e : Error} (h : p.parse text = .error e) (r : LineRange) :
    p.context text r = .error (.reported e) := by
  rw [context, h]
  rfl

/-- A parse that gives a tree in bounds is one under which every range has an answer. -/
theorem context_iff_parse (h : ∀ tree, p.parse text = .ok tree → tree.InBounds text) :
    (∀ r, ∃ answer, p.context text r = .ok answer) ↔ ∃ tree, p.parse text = .ok tree := by
  constructor
  · intro hall
    obtain ⟨answer, hanswer⟩ := hall lineTwoToThree
    cases hparse : p.parse text with
    | ok tree => exact ⟨tree, rfl⟩
    | error e =>
      rw [context_of_error hparse] at hanswer
      cases hanswer
  · rintro ⟨tree, hparse⟩ r
    rw [context, hparse]
    exact contextOf_of_inBounds p.language text (h tree hparse) r

/-- **Verdicts and answers.** For every parser and every text, the text is valid exactly if its parse
succeeds, exactly if nothing is said of it, and, where the nodes of its tree are short and in the text, exactly if
every range has an answer. If the parse fails, what is said explains the failure, and a question for any range is
answered with the failure itself.

A parser may also give a tree of another text. Then a range has an answer unless the node that is found for it leaves
the text, by its own places or by those of its name, and the question for such a range panics. -/
theorem check_iff_context (p : SourceParser) (text : String) :
    ((p.check text).valid = true ↔ ∃ tree, p.parse text = .ok tree) ∧
    ((p.check text).error = "" ↔ ∃ tree, p.parse text = .ok tree) ∧
    ((∀ tree, p.parse text = .ok tree → tree.InBounds text) →
      ((∀ r, ∃ answer, p.context text r = .ok answer) ↔ ∃ tree, p.parse text = .ok tree)) ∧
    (∀ e, p.parse text = .error e →
      Explains e (p.check text).error ∧ ∀ r, p.context text r = .error (.reported e)) ∧
    ∀ tree, p.parse text = .ok tree → (∀ l ∈ preorder tree.root, Short l.node) → ∀ r,
      ((∃ answer, p.context text r = .ok answer) ↔
        ∀ l, enclosing? (some tree.root) r = .ok (some l) → l.node.InText (Utf8.encode text)) ∧
      ((¬ ∃ answer, p.context text r = .ok answer) →
        ∃ slice, p.context text r = .error (.outside slice)) := by
  refine ⟨Validity.valid_ofParse, Validity.error_ofParse, context_iff_parse, fun e he => ⟨?_, ?_⟩,
    fun tree htree hshort r => ?_⟩
  · rw [check, he]
    exact Validity.explains_ofParse_error e
  · exact context_of_error he
  · rw [context, htree]
    exact contextOf_outcome p.language text hshort r

def failing (e : Error) : SourceParser := ⟨.python, fun _ => .error e⟩

/-- A wide blank is no reason, and an error of the file system is given in full even if it has none. A text has an
answer for all its ranges under its own tree. Without its blank lines it is too short for that tree, and the root,
which is found for the last two lines, leaves it. -/
theorem check_iff_context_failing :
    ((failing ⟨.parse, "\u3000"⟩).check "x").error = "Unknown error" ∧
      ((failing ⟨.io, ""⟩).check "x").error = "I/O error: " ∧
      (∀ r, ∃ answer, assignmentParser.context ("\n\n" ++ "π = 1\n") r = .ok answer) ∧
      ∃ slice, assignmentParser.context "π = 1\n" lineThreeToFour = .error (.outside slice) := by
  have hbounds : assignmentTree.InBounds ("\n\n" ++ "π = 1\n") :=
    ⟨by decide +kernel, by decide +kernel⟩
  have hroot : enclosing? (some assignmentTree.root) lineThreeToFour =
      .ok (some (.root assignmentTree.root)) := by
    rw [enclosing?_of_rowsFit (rowsFit_of_short hbounds.short)]
    with_unfolding_all rfl
  obtain ⟨-, -, -, hblank, -⟩ := check_iff_context (failing ⟨.parse, "\u3000"⟩) "x"
  obtain ⟨-, -, -, hmissing, -⟩ := check_iff_context (failing ⟨.io, ""⟩) "x"
  obtain ⟨-, -, hanswers, -⟩ := check_iff_context assignmentParser ("\n\n" ++ "π = 1\n")
  obtain ⟨-, -, -, -, hpanics⟩ := check_iff_context assignmentParser "π = 1\n"
  obtain ⟨hanswered, houtside⟩ := hpanics assignmentTree rfl hbounds.short lineThreeToFour
  refine ⟨(hblank _ rfl).1.unknown rfl (by decide), (hmissing _ rfl).1.full (by decide), ?_, ?_⟩
  · refine (hanswers fun tree htree => ?_).mpr ⟨assignmentTree, rfl⟩
    cases htree
    exact hbounds
  · refine houtside fun hanswer => ?_
    have hout : ¬ assignmentTree.root.Within (Utf8.encode "π = 1\n") := by decide +kernel
    exact hout (hanswered.mp hanswer _ hroot).own

end SourceParser

end LineScope
