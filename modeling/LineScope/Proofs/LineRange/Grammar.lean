import LineScope.Command.Arguments
import LineScope.Proofs.Text.Numeral

/-!
# What is read as a line range

The grammar of line ranges, said without the reader. A text without the white space at its ends is a
numeral, or two numerals with a colon or a dash between them and white space around that (`Spells`). It is
read as a range exactly if the numerals fit into words and the range is in order.

Every other text is refused, for the first of four reasons (`Fault`): the part before the first separator
is no numeral of a word, the part after it is none, the first line is line zero, or it comes after the
last. In a text without a separator both parts are the text itself (`Divides`). A part is quoted as it
stands, with the white space that was ignored around its numeral.

Results:
* `parseChars_eq`: reading a text is reading its two parts and putting them together.
* `bounds_iff_spells`: the parts of a text are numerals exactly if the text is one of the two forms.
* `parse_iff_grammar`: which texts are read and as what, and what is said of the others, by the library and
  by the command line.
-/
namespace LineScope.LineRange

open Text

/-- `Spells cs a b`: the characters are one of the two forms of a range, with the numbers `a` and `b`. -/
inductive Spells : List Char → Nat → Nat → Prop where
  | line {cs : List Char} {n : Nat} (h : Numeral cs n) : Spells cs n n
  | range {front ws ws' back : List Char} {sep : Char} {a b : Nat} (ha : Numeral front a)
      (hws : White ws) (hsep : sep = ':' ∨ sep = '-') (hws' : White ws') (hb : Numeral back b) :
      Spells (front ++ ws ++ sep :: (ws' ++ back)) a b

/-- `Divides cs front back`: the parts of the characters before and after the first separator; both are
all the characters if there is none. -/
inductive Divides : List Char → List Char → List Char → Prop where
  | line {cs : List Char} (h : ∀ c ∈ cs, isSeparator c = false) : Divides cs cs cs
  | cut {front back : List Char} {sep : Char} (h : ∀ c ∈ front, isSeparator c = false)
      (hsep : isSeparator sep = true) : Divides (front ++ sep :: back) front back

/-- The part is a numeral of a word, with white space around it. -/
def Bound (part : List Char) (n : Nat) : Prop :=
  ∃ numeral, Strips part numeral ∧ Numeral numeral n ∧ n < UInt64.size

/-- What is said of a part that is no numeral of a word. -/
def malformed (part whole : List Char) : String :=
  "invalid line number '" ++ String.ofList part ++ "' in range '" ++ String.ofList whole ++
    "'. Expected START:END or LINE"

/-- `Fault cs reason`: the first thing that is wrong with the characters, in words. -/
inductive Fault (cs : List Char) : String → Prop where
  | start {front back : List Char} (hd : Divides cs front back) (h : ¬ ∃ a, Bound front a) :
      Fault cs (malformed front cs)
  | stop {front back : List Char} {a : Nat} (hd : Divides cs front back) (ha : Bound front a)
      (h : ¬ ∃ b, Bound back b) : Fault cs (malformed back cs)
  | zero {front back : List Char} {b : Nat} (hd : Divides cs front back) (ha : Bound front 0)
      (hb : Bound back b) : Fault cs "line numbers are 1-based; line_start must be at least 1"
  | reversed {front back : List Char} {a b : Nat} (hd : Divides cs front back) (ha : Bound front a)
      (hb : Bound back b) (hpos : 1 ≤ a) (hlt : b < a) :
      Fault cs ("line_start " ++ decimal a ++ " is after line_end " ++ decimal b)

/-! ## Parts and bounds -/

theorem numeral_unique {cs : List Char} {a b : Nat} (ha : Numeral cs a) (hb : Numeral cs b) :
    a = b := by
  rw [← readUnsigned?_eq_some] at ha hb
  rw [ha] at hb
  exact Option.some_inj.mp hb

theorem bound_unique {part : List Char} {a b : Nat} (ha : Bound part a) (hb : Bound part b) :
    a = b := by
  obtain ⟨numeral, hs, hn, -⟩ := ha
  obtain ⟨numeral', hs', hn', -⟩ := hb
  have hsame : numeral = numeral' := by
    rw [← trimChars_of_strips hs, ← trimChars_of_strips hs']
  rw [← hsame] at hn'
  exact numeral_unique hn hn'

theorem readBound_eq_ok {whole part : List Char} {x : UInt64} :
    readBound whole part = .ok x ↔ Bound part x.toNat := by
  have hbound : Bound part x.toNat ↔ readWord? (trimChars part) = some x := by
    rw [readWord?_eq_some]
    constructor
    · rintro ⟨numeral, hs, hn, -⟩
      rwa [trimChars_of_strips hs]
    · intro hn
      exact ⟨_, strips_trimChars part, hn, x.toNat_lt_size⟩
  rw [hbound, readBound]
  cases readWord? (trimChars part) <;> simp

theorem readBound_of_bound {part : List Char} {a : Nat} (whole : List Char) (h : Bound part a) :
    ∃ x : UInt64, x.toNat = a ∧ readBound whole part = .ok x := by
  obtain ⟨-, -, -, hlt⟩ := id h
  have hx : (UInt64.ofNat a).toNat = a := UInt64.toNat_ofNat_of_lt' hlt
  exact ⟨UInt64.ofNat a, hx, readBound_eq_ok.mpr (by rwa [hx])⟩

theorem readBound_of_not_bound {whole part : List Char} (h : ¬ ∃ a, Bound part a) :
    readBound whole part = .error (.notANumber (String.ofList part) (String.ofList whole)) := by
  cases hread : readBound whole part with
  | ok x => exact absurd ⟨_, readBound_eq_ok.mp hread⟩ h
  | error e =>
    unfold readBound at hread
    split at hread
    · cases hread
    · cases hread
      rfl

theorem splitChars_cut {front back : List Char} {sep : Char}
    (h : ∀ c ∈ front, isSeparator c = false) (hsep : isSeparator sep = true) :
    splitChars (front ++ sep :: back) = some (front, back) := by
  have hp : ∀ c ∈ front, (!isSeparator c) = true := fun c hc => by simp [h c hc]
  unfold splitChars
  rw [List.dropWhile_append_of_pos hp, List.takeWhile_append_of_pos hp]
  simp [hsep]

theorem splitChars_line {cs : List Char} (h : ∀ c ∈ cs, isSeparator c = false) :
    splitChars cs = none := by
  have hnil : cs.dropWhile (!isSeparator ·) = [] := by
    rw [List.dropWhile_eq_nil_iff]
    exact fun c hc => by simp [h c hc]
  rw [splitChars, hnil]

theorem exists_divides (cs : List Char) : ∃ front back, Divides cs front back := by
  induction cs with
  | nil => exact ⟨[], [], .line (by simp)⟩
  | cons c cs ih =>
    cases hc : isSeparator c with
    | true =>
      have hcut : Divides ([] ++ c :: cs) [] cs := .cut (by simp) hc
      exact ⟨[], cs, hcut⟩
    | false =>
      obtain ⟨front, back, hd⟩ := ih
      cases hd with
      | line h => exact ⟨c :: cs, c :: cs, .line (List.forall_mem_cons.mpr ⟨hc, h⟩)⟩
      | cut h hsep =>
        have hcut : Divides ((c :: front) ++ _ :: back) (c :: front) back :=
          .cut (List.forall_mem_cons.mpr ⟨hc, h⟩) hsep
        exact ⟨c :: front, back, hcut⟩

/-- **Reading a text** is reading its two parts and putting the numbers together. -/
theorem parseChars_eq {cs front back : List Char} (h : Divides cs front back) :
    parseChars cs =
      (do
        let x ← readBound cs front
        let y ← readBound cs back
        between x y) := by
  cases h with
  | cut h hsep =>
    rw [parseChars, splitChars_cut h hsep]
  | line h =>
    rw [parseChars, splitChars_line h]
    show (readBound cs cs >>= single) = _
    cases readBound cs cs <;> rfl

theorem between_eq_ok {x y : UInt64} {r : LineRange} :
    between x y = .ok r ↔ r.first = x ∧ r.last = y := by
  obtain ⟨first, last, hone, hle⟩ := r
  unfold between
  constructor
  · intro h
    split at h
    · split at h
      · cases h
        exact ⟨rfl, rfl⟩
      · cases h
    · cases h
  · rintro ⟨rfl, rfl⟩
    rw [dif_pos hone, dif_pos hle]

theorem between_reversed {x y : UInt64} (hpos : 1 ≤ x.toNat) (hlt : y.toNat < x.toNat) :
    between x y = .error (.reversed x y) := by
  have hone : 1 ≤ x := UInt64.le_iff_toNat_le.mpr hpos
  have hnot : ¬ x ≤ y := by
    rw [UInt64.le_iff_toNat_le]
    omega
  rw [between, dif_pos hone, dif_neg hnot]

/-! ## Accepted texts -/

theorem not_separator_of_numeral {cs : List Char} {n : Nat} (h : Numeral cs n) {c : Char}
    (hc : c ∈ cs) : isSeparator c = false := by
  rcases h.char hc with rfl | hd
  · decide
  · have := toNat_of_digit hd
    have hcolon : c ≠ ':' := by rintro rfl; simp at this
    have hdash : c ≠ '-' := by rintro rfl; simp at this
    simp [isSeparator, hcolon, hdash]

theorem not_separator_of_white {c : Char} (h : isWhite c = true) : isSeparator c = false := by
  have hcolon : c ≠ ':' := by rintro rfl; exact absurd h (by decide)
  have hdash : c ≠ '-' := by rintro rfl; exact absurd h (by decide)
  simp [isSeparator, hcolon, hdash]

theorem isSeparator_iff {c : Char} : isSeparator c = true ↔ c = ':' ∨ c = '-' := by
  simp [isSeparator]

/-- **The two forms.** In a text without white space at its ends, the parts are numerals of words exactly
if the text is one of the two forms with such numerals. -/
theorem bounds_iff_spells {cs : List Char} (ht : Tight cs) {a b : Nat} :
    (∃ front back, Divides cs front back ∧ Bound front a ∧ Bound back b) ↔
      Spells cs a b ∧ a < UInt64.size ∧ b < UInt64.size := by
  constructor
  · rintro ⟨front, back, hd, ha, hb⟩
    cases hd with
    | line h =>
      obtain rfl := bound_unique ha hb
      obtain ⟨numeral, hs, hn, hlt⟩ := ha
      have hsame : numeral = cs := by
        rw [← trimChars_of_strips hs, trimChars_of_strips (strips_self ht)]
      rw [hsame] at hn
      exact ⟨.line hn, hlt, hlt⟩
    | @cut _ _ sep h hsep =>
      obtain ⟨n, ⟨⟨w, ws, hw, hws, rfl⟩, -⟩, hn, hlt⟩ := ha
      obtain ⟨m, ⟨⟨ws', w', hws', hw', rfl⟩, -⟩, hm, hlt'⟩ := hb
      -- the outer white space of the two parts would be at the ends of the text
      have hfront : Tight (w ++ (n ++ ws ++ sep :: (ws' ++ m ++ w'))) := by simpa using ht
      have hback : Tight ((w ++ n ++ ws ++ sep :: (ws' ++ m)) ++ w') := by simpa using ht
      obtain rfl := nil_of_tight_front hw hfront
      obtain rfl := nil_of_tight_back hw' hback
      refine ⟨?_, hlt, hlt'⟩
      simpa using Spells.range hn hws (isSeparator_iff.mp hsep) hws' hm
  · rintro ⟨hspells, hlt, hlt'⟩
    cases hspells with
    | line h =>
      have hbound : Bound cs a := ⟨cs, strips_self ht, h, hlt⟩
      exact ⟨cs, cs, .line fun c hc => not_separator_of_numeral h hc, hbound, hbound⟩
    | range ha hws hsep hws' hb =>
      refine ⟨_, _, .cut ?_ (isSeparator_iff.mpr hsep), ?_, ?_⟩
      · intro c hc
        rcases List.mem_append.mp hc with hc | hc
        · exact not_separator_of_numeral ha hc
        · exact not_separator_of_white (hws c hc)
      · exact ⟨_, ⟨⟨[], _, by simp [White], hws, rfl⟩, ha.tight⟩, ha, hlt⟩
      · exact ⟨_, ⟨⟨_, [], hws', by simp [White], by simp⟩, hb.tight⟩, hb, hlt'⟩

theorem parseChars_eq_ok {cs : List Char} {r : LineRange} :
    parseChars cs = .ok r ↔
      ∃ front back, Divides cs front back ∧ Bound front r.first.toNat ∧ Bound back r.last.toNat := by
  constructor
  · intro h
    obtain ⟨front, back, hd⟩ := exists_divides cs
    rw [parseChars_eq hd] at h
    cases hx : readBound cs front with
    | error e => rw [hx] at h; cases h
    | ok x =>
      cases hy : readBound cs back with
      | error e => rw [hx, hy] at h; cases h
      | ok y =>
        rw [hx, hy] at h
        obtain ⟨hfirst, hlast⟩ := between_eq_ok.mp h
        rw [hfirst, hlast]
        exact ⟨front, back, hd, readBound_eq_ok.mp hx, readBound_eq_ok.mp hy⟩
  · rintro ⟨front, back, hd, ha, hb⟩
    rw [parseChars_eq hd, readBound_eq_ok.mpr ha, readBound_eq_ok.mpr hb]
    exact between_eq_ok.mpr ⟨rfl, rfl⟩

/-! ## Refused texts -/

/-- The first check that fails decides what is said. -/
theorem fault_of_error {cs : List Char} {e : Rejection} (h : parseChars cs = .error e) :
    Fault cs e.message := by
  obtain ⟨front, back, hd⟩ := exists_divides cs
  rw [parseChars_eq hd] at h
  by_cases ha : ∃ a, Bound front a
  · obtain ⟨a, ha⟩ := ha
    obtain ⟨x, rfl, hx⟩ := readBound_of_bound cs ha
    rw [hx] at h
    by_cases hb : ∃ b, Bound back b
    · obtain ⟨b, hb⟩ := hb
      obtain ⟨y, rfl, hy⟩ := readBound_of_bound cs hb
      rw [hy] at h
      have h : between x y = .error e := h
      by_cases hpos : 1 ≤ x.toNat
      · by_cases hlt : y.toNat < x.toNat
        · rw [between_reversed hpos hlt] at h
          cases h
          exact .reversed hd ha hb hpos hlt
        · have hone : 1 ≤ x := UInt64.le_iff_toNat_le.mpr hpos
          have hle : x ≤ y := UInt64.le_iff_toNat_le.mpr (Nat.le_of_not_lt hlt)
          rw [between, dif_pos hone, dif_pos hle] at h
          cases h
      · have hzero : x = 0 := UInt64.toNat_inj.mp (by rw [UInt64.toNat_zero]; omega)
        subst hzero
        cases h
        exact .zero hd ha hb
    · rw [readBound_of_not_bound hb] at h
      cases h
      exact .stop hd ha hb
  · rw [readBound_of_not_bound ha] at h
    cases h
    exact .start hd ha

theorem error_of_fault {cs : List Char} {reason : String} (h : Fault cs reason) :
    ∃ e, parseChars cs = .error e ∧ e.message = reason := by
  cases h with
  | start hd h =>
    rw [parseChars_eq hd, readBound_of_not_bound h]
    exact ⟨_, rfl, rfl⟩
  | stop hd ha h =>
    obtain ⟨x, -, hx⟩ := readBound_of_bound cs ha
    rw [parseChars_eq hd, hx, readBound_of_not_bound h]
    exact ⟨_, rfl, rfl⟩
  | zero hd ha hb =>
    obtain ⟨x, hzero, hx⟩ := readBound_of_bound cs ha
    obtain ⟨y, -, hy⟩ := readBound_of_bound cs hb
    obtain rfl : x = 0 := UInt64.toNat_inj.mp hzero
    rw [parseChars_eq hd, hx, hy]
    exact ⟨_, rfl, rfl⟩
  | reversed hd ha hb hpos hlt =>
    obtain ⟨x, rfl, hx⟩ := readBound_of_bound cs ha
    obtain ⟨y, rfl, hy⟩ := readBound_of_bound cs hb
    rw [parseChars_eq hd, hx, hy]
    exact ⟨_, between_reversed hpos hlt, rfl⟩

/-! ## From text to range -/

/-- A text is read as a range from `a` to `b`: its form says so, and there is such a range. -/
def Accepts (s : String) (a b : Nat) : Prop :=
  ∃ cs, Strips s.toList cs ∧ Spells cs a b ∧ a < UInt64.size ∧ b < UInt64.size ∧ 1 ≤ a ∧ a ≤ b

def Refuses (s : String) (reason : String) : Prop := ∃ cs, Strips s.toList cs ∧ Fault cs reason

theorem exists_strips {s : String} {P : List Char → Prop} :
    (∃ cs, Strips s.toList cs ∧ P cs) ↔ P (trimChars s.toList) := by
  constructor
  · rintro ⟨cs, hs, hP⟩
    rwa [trimChars_of_strips hs]
  · intro hP
    exact ⟨_, strips_trimChars _, hP⟩

theorem parse_iff_accepts (s : String) (a b : Nat) :
    (∃ r, parse s = .ok r ∧ r.first.toNat = a ∧ r.last.toNat = b) ↔ Accepts s a b := by
  have ht : Tight (trimChars s.toList) := (strips_trimChars s.toList).tight
  unfold Accepts parse
  rw [exists_strips]
  constructor
  · rintro ⟨r, hr, rfl, rfl⟩
    obtain ⟨hspells, hlt, hlt'⟩ := (bounds_iff_spells ht).mp (parseChars_eq_ok.mp hr)
    exact ⟨hspells, hlt, hlt', UInt64.le_iff_toNat_le.mp r.one_le_first,
      UInt64.le_iff_toNat_le.mp r.first_le_last⟩
  · rintro ⟨hspells, hlt, hlt', hpos, hle⟩
    have ha : (UInt64.ofNat a).toNat = a := UInt64.toNat_ofNat_of_lt' hlt
    have hb : (UInt64.ofNat b).toNat = b := UInt64.toNat_ofNat_of_lt' hlt'
    let r : LineRange := {
      first := UInt64.ofNat a
      last := UInt64.ofNat b
      one_le_first := UInt64.le_iff_toNat_le.mpr (by rwa [ha])
      first_le_last := UInt64.le_iff_toNat_le.mpr (by rwa [ha, hb]) }
    refine ⟨r, parseChars_eq_ok.mpr ?_, ha, hb⟩
    show ∃ front back, _ ∧ Bound front (UInt64.ofNat a).toNat ∧ Bound back (UInt64.ofNat b).toNat
    rw [ha, hb]
    exact (bounds_iff_spells ht).mpr ⟨hspells, hlt, hlt'⟩

theorem parse_iff_refuses (s : String) (reason : String) :
    (∃ e, parse s = .error e ∧ e.toError = ⟨.invalidInput, reason⟩) ↔ Refuses s reason := by
  unfold Refuses parse
  rw [exists_strips]
  constructor
  · rintro ⟨e, he, hreason⟩
    have hmessage : e.message = reason := congrArg Error.reason hreason
    rw [← hmessage]
    exact fault_of_error he
  · intro h
    obtain ⟨e, he, rfl⟩ := error_of_fault h
    exact ⟨e, he, rfl⟩

theorem message_toError (e : Rejection) : e.toError.message = "invalid input: " ++ e.message := rfl

/-- **What is read as a line range.** For every text the reader gives the range from `a` to `b` exactly if
the text, without the white space at its ends, is a numeral or two numerals with a colon or a dash
between them, of these values, and these are words with `1 ≤ a ≤ b`. Every other text is refused as a bad
request, for the first check that fails. The command line takes the same texts for the same ranges, and
leaves the heading off what is said of the others. -/
theorem parse_iff_grammar (s : String) :
    (∀ a b, (∃ r, parse s = .ok r ∧ r.first.toNat = a ∧ r.last.toNat = b) ↔ Accepts s a b) ∧
    (∀ reason, (∃ e, parse s = .error e ∧ e.toError = ⟨.invalidInput, reason⟩) ↔
      Refuses s reason) ∧
    ((¬ ∃ a b, Accepts s a b) → ∃ reason, Refuses s reason) ∧
    (∀ r, Arguments.linesValue s = .ok r ↔ parse s = .ok r) ∧
    (∀ reason, Arguments.linesValue s = .error reason ↔
      ∃ e, parse s = .error e ∧ e.toError.message = "invalid input: " ++ reason) := by
  refine ⟨parse_iff_accepts s, parse_iff_refuses s, fun hnot => ?_, fun r => ?_, fun reason => ?_⟩
  · cases hparse : parse s with
    | ok r => exact absurd ⟨_, _, (parse_iff_accepts s _ _).mp ⟨r, hparse, rfl, rfl⟩⟩ hnot
    | error e => exact ⟨e.message, (parse_iff_refuses s _).mp ⟨e, hparse, rfl⟩⟩
  · unfold Arguments.linesValue
    cases parse s <;> simp [Except.mapError]
  · unfold Arguments.linesValue
    cases parse s with
    | ok r => simp [Except.mapError]
    | error e =>
      have hbare : e.toError.bareMessage = e.message := rfl
      simp [Except.mapError, hbare, message_toError]

/-- Signs, leading zeros and wide white space are allowed. The part after the first separator goes on to
the end, and it is looked at before line zero is refused. -/
theorem parse_iff_grammar_padded :
    Accepts " +07 :\u300012\n" 7 12 ∧
      Refuses "3-4:5" "invalid line number '4:5' in range '3-4:5'. Expected START:END or LINE" ∧
      Refuses " 0: x" "invalid line number ' x' in range '0: x'. Expected START:END or LINE" := by
  refine ⟨?_, ?_, ?_⟩
  · exact ((parse_iff_grammar _).1 7 12).mp ⟨⟨7, 12, by decide, by decide⟩, rfl, rfl, rfl⟩
  · exact ((parse_iff_grammar _).2.1 _).mp ⟨.notANumber "4:5" "3-4:5", rfl, rfl⟩
  · exact ((parse_iff_grammar _).2.1 _).mp ⟨.notANumber " x" "0: x", rfl, rfl⟩

end LineScope.LineRange
