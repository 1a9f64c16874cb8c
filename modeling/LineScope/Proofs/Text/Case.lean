import LineScope.Text.Case

/-!
# What lowercasing makes

A lowercase text has more characters than the case table knows of: two are made outside it, and most stay
as they are. But whatever is made is a lowercase letter or a mark, and none of these stands before the
letter a among the characters (`lowerRuns_images`). So a character before it, a dot or a slash for instance,
is in the lowercase form of a text only if it is in the text (`mem_of_mem_lowercase`).

What is made is left alone from then on. No run of the table moves a character that a run makes
(`lowerRuns_spare`), and the two special characters are not made at all, so a second pass changes nothing,
whatever the neighbours (`lowercase_lowercase`).

Among the ASCII letters, k alone is made of a character that is not ASCII, the Kelvin sign. So a text whose
lowercase form is a word of other ASCII letters is that word up to the case of ASCII letters
(`lowercase_eq_iff`).
-/
namespace LineScope.Text

/-! ## One character -/

theorem covers_bounds {run : CaseRun} {n : Nat} (h : run.covers n = true) :
    run.first ≤ n ∧ n ≤ run.last := by
  simp only [CaseRun.covers, Bool.and_eq_true, decide_eq_true_eq] at h
  exact h.1

/-- Each run goes to characters, the first of them not before the letter a. -/
theorem lowerRuns_images : ∀ run ∈ lowerRuns, run.first ≤ run.last ∧ 'a'.toNat ≤ run.image ∧
    (run.image + (run.last - run.first) < 0xD800 ∨
      0xDFFF < run.image ∧ run.image + (run.last - run.first) < 0x110000) := by
  decide +kernel

theorem toNat_ofNat_lower {run : CaseRun} (h : run ∈ lowerRuns) {n : Nat} (hn : run.covers n = true) :
    (Char.ofNat (run.lower n)).toNat = run.lower n ∧ 'a'.toNat ≤ run.lower n := by
  obtain ⟨hle, himage, hvalid⟩ := lowerRuns_images run h
  have hn' := covers_bounds hn
  have hbounds : run.image ≤ run.lower n ∧ run.lower n ≤ run.image + (run.last - run.first) := by
    unfold CaseRun.lower
    omega
  have hchar : (run.lower n).isValidChar := by
    unfold Nat.isValidChar
    omega
  refine ⟨?_, by omega⟩
  rw [Char.ofNat, dif_pos hchar]
  rfl

theorem lowerChar_of_uncovered {c : Char} (h : ∀ run ∈ lowerRuns, run.covers c.toNat = false) :
    lowerChar c = c := by
  have hfind : lowerRuns.find? (·.covers c.toNat) = none := by
    rw [List.find?_eq_none]
    intro run hrun
    simp [h run hrun]
  rw [lowerChar, hfind]

/-- A character stays, or a run of the table moves it. -/
theorem lowerChar_moves (c : Char) : lowerChar c = c ∨
    ∃ run ∈ lowerRuns, run.covers c.toNat = true ∧ (lowerChar c).toNat = run.lower c.toNat := by
  unfold lowerChar
  cases hfind : lowerRuns.find? (·.covers c.toNat) with
  | none => exact Or.inl rfl
  | some run =>
    have hrun : run ∈ lowerRuns := List.mem_of_find?_eq_some hfind
    have hcovers : run.covers c.toNat = true :=
      List.find?_some (p := fun run : CaseRun => run.covers c.toNat) hfind
    exact Or.inr ⟨run, hrun, hcovers, (toNat_ofNat_lower hrun hcovers).1⟩

theorem lowerChar_cases (c : Char) : lowerChar c = c ∨ 'a'.toNat ≤ (lowerChar c).toNat := by
  refine (lowerChar_moves c).imp_right ?_
  rintro ⟨run, hrun, hcovers, hlower⟩
  rw [hlower]
  exact (toNat_ofNat_lower hrun hcovers).2

theorem mem_lowerAt {before after : List Char} {c d : Char} (h : d ∈ lowerAt before c after) :
    d = c ∨ 'a'.toNat ≤ d.toNat := by
  unfold lowerAt at h
  split at h
  · right
    rw [List.mem_singleton] at h
    split at h <;> (rw [h]; decide)
  · split at h
    · right
      simp only [List.mem_cons, List.not_mem_nil, or_false] at h
      rcases h with rfl | rfl <;> decide
    · rw [List.mem_singleton] at h
      rw [h]
      exact lowerChar_cases c

theorem mem_lowerFrom {before cs : List Char} {d : Char} (h : d ∈ lowerFrom before cs) :
    d ∈ cs ∨ 'a'.toNat ≤ d.toNat := by
  induction cs generalizing before with
  | nil => cases h
  | cons c cs ih =>
    rcases List.mem_append.mp h with h | h
    · rcases mem_lowerAt h with rfl | hd
      · exact Or.inl List.mem_cons_self
      · exact Or.inr hd
    · exact (ih h).imp_left (List.mem_cons_of_mem c)

/-- **Lowercasing makes no character** before the letter a. -/
theorem mem_of_mem_lowercase {s : String} {d : Char} (h : d ∈ (lowercase s).toList)
    (hd : d.toNat < 'a'.toNat) : d ∈ s.toList := by
  rw [lowercase, String.toList_ofList, lowerChars] at h
  exact (mem_lowerFrom h).resolve_right (Nat.not_le.mpr hd)

/-! ## A second pass -/

/-- No character that the run `r` makes is moved by the run `q`: the two lie apart, or they take turns. -/
def CaseRun.spares (r q : CaseRun) : Bool :=
  q.last.blt r.image || (r.image + (r.last - r.first)).blt q.first ||
    ((r.stride == 2 || r.first == r.last) && q.stride == 2 && (r.image + q.first) % 2 == 1)

theorem not_covers_of_spares {r q : CaseRun} (h : r.spares q = true) {n : Nat}
    (hn : r.covers n = true) : q.covers (r.lower n) = false := by
  rw [← Bool.not_eq_true]
  intro hq
  simp only [CaseRun.covers, Bool.and_eq_true, decide_eq_true_eq, beq_iff_eq] at hn hq
  unfold CaseRun.lower at hq
  obtain ⟨⟨hfirst, hlast⟩, hstep⟩ := hn
  obtain ⟨⟨hfirst', hlast'⟩, hstep'⟩ := hq
  simp only [CaseRun.spares, Bool.or_eq_true, Bool.and_eq_true, beq_iff_eq, Nat.blt_eq] at h
  rcases h with (hbelow | habove) | ⟨⟨htwo | hone, htwo'⟩, hodd⟩
  · omega
  · omega
  · rw [htwo] at hstep
    rw [htwo'] at hstep'
    omega
  · rw [htwo'] at hstep'
    omega

theorem lowerRuns_spare : lowerRuns.all (fun r => lowerRuns.all r.spares) = true := by
  decide +kernel

/-- The capital I with a dot above is outside of the table on both sides. -/
theorem lowerRuns_undotted : ∀ run ∈ lowerRuns,
    run.image + (run.last - run.first) < 'İ'.toNat ∨ 'İ'.toNat < run.image := by
  decide +kernel

theorem lowerChar_lowerChar (c : Char) : lowerChar (lowerChar c) = lowerChar c := by
  rcases lowerChar_moves c with hc | ⟨run, hrun, hcovers, hlower⟩
  · rw [hc, hc]
  · apply lowerChar_of_uncovered
    intro q hq
    have hspares := List.all_eq_true.mp (List.all_eq_true.mp lowerRuns_spare run hrun) q hq
    rw [hlower]
    exact not_covers_of_spares hspares hcovers

/-- A character that lowercasing leaves alone, wherever it stands. -/
structure Settled (c : Char) : Prop where
  stays : lowerChar c = c
  notSigma : c ≠ 'Σ'
  notDotted : c ≠ 'İ'

theorem lowerAt_of_settled {c : Char} (h : Settled c) (before after : List Char) :
    lowerAt before c after = [c] := by
  simp [lowerAt, h.stays, h.notSigma, h.notDotted]

theorem settled_lowerChar {c : Char} (hc : c ≠ 'İ') : Settled (lowerChar c) where
  stays := lowerChar_lowerChar c
  notSigma hsigma := by
    have hstays := lowerChar_lowerChar c
    rw [hsigma] at hstays
    exact absurd hstays (by decide +kernel)
  notDotted hdotted := by
    rcases lowerChar_moves c with hstays | ⟨run, hrun, hcovers, hlower⟩
    · exact hc (hstays ▸ hdotted)
    · have hbounds := covers_bounds hcovers
      have hrange := lowerRuns_undotted run hrun
      rw [hdotted, CaseRun.lower] at hlower
      omega

theorem settled_of_mem_lowerAt {before after : List Char} {c d : Char}
    (h : d ∈ lowerAt before c after) : Settled d := by
  unfold lowerAt at h
  split at h
  · have hsigma : Settled 'σ' ∧ Settled 'ς' :=
      ⟨⟨by decide +kernel, by decide, by decide⟩, ⟨by decide +kernel, by decide, by decide⟩⟩
    rw [List.mem_singleton] at h
    split at h
    · exact h ▸ hsigma.2
    · exact h ▸ hsigma.1
  split at h
  · have hdotless : Settled 'i' ∧ Settled '\u0307' :=
      ⟨⟨by decide +kernel, by decide, by decide⟩, ⟨by decide +kernel, by decide, by decide⟩⟩
    simp only [List.mem_cons, List.not_mem_nil, or_false] at h
    rcases h with rfl | rfl
    · exact hdotless.1
    · exact hdotless.2
  · rename_i hdotted
    rw [List.mem_singleton] at h
    exact h ▸ settled_lowerChar hdotted

theorem settled_of_mem_lowerFrom {before cs : List Char} {d : Char} (h : d ∈ lowerFrom before cs) :
    Settled d := by
  induction cs generalizing before with
  | nil => cases h
  | cons c cs ih =>
    rcases List.mem_append.mp h with h | h
    · exact settled_of_mem_lowerAt h
    · exact ih h

theorem lowerFrom_of_settled {before cs : List Char} (h : ∀ c ∈ cs, Settled c) :
    lowerFrom before cs = cs := by
  induction cs generalizing before with
  | nil => rfl
  | cons c cs ih =>
    obtain ⟨hc, hcs⟩ := List.forall_mem_cons.mp h
    rw [lowerFrom, lowerAt_of_settled hc, ih hcs]
    rfl

theorem lowercase_lowercase (s : String) : lowercase (lowercase s) = lowercase s := by
  have hsettled : ∀ c ∈ (lowercase s).toList, Settled c := by
    intro c hc
    rw [lowercase, String.toList_ofList, lowerChars] at hc
    exact settled_of_mem_lowerFrom hc
  rw [lowercase, lowerChars, lowerFrom_of_settled hsettled, String.ofList_toList]

theorem lowerAt_ne_nil (before : List Char) (c : Char) (after : List Char) :
    lowerAt before c after ≠ [] := by
  unfold lowerAt
  split
  · simp
  · split <;> simp

theorem lowercase_ne_empty {s : String} (h : s ≠ "") : lowercase s ≠ "" := by
  cases hs : s.toList with
  | nil => exact absurd (String.toList_eq_nil_iff.mp hs) h
  | cons c cs =>
    rw [lowercase, hs, lowerChars, lowerFrom]
    simp [lowerAt_ne_nil]

/-! ## ASCII words -/

/-- The run of the ASCII capitals. -/
def capitals : CaseRun := ⟨0x41, 0x5A, 1, 0x61⟩

def kelvin : CaseRun := ⟨0x212A, 0x212A, 1, 0x6B⟩

/-- Two runs only go to ASCII letters. -/
theorem lowerRuns_toAscii : ∀ run ∈ lowerRuns, run.image < 0x80 → run = capitals ∨ run = kelvin := by
  decide +kernel

/-- One run only comes from ASCII letters. -/
theorem lowerRuns_fromAscii : ∀ run ∈ lowerRuns, run.first < 0x80 → run = capitals := by
  decide +kernel

theorem covers_capitals (c : Char) : capitals.covers c.toNat = true ↔ 'A' ≤ c ∧ c ≤ 'Z' := by
  rw [Char.le_def, Char.le_def, UInt32.le_iff_toNat_le, UInt32.le_iff_toNat_le]
  simp only [CaseRun.covers, Bool.and_eq_true, decide_eq_true_eq, beq_iff_eq]
  simp only [capitals, Nat.mod_one, and_true]
  rfl

theorem lowerChar_of_ascii {c : Char} (hc : c.toNat < 0x80) : lowerChar c = lowerAscii c := by
  by_cases hcap : capitals.covers c.toNat = true
  · have hfind : lowerRuns.find? (·.covers c.toNat) = some capitals := by
      rw [show lowerRuns = capitals :: lowerRuns.tail from rfl]
      exact List.find?_cons_of_pos hcap
    have hlower : capitals.lower c.toNat = c.toNat + 32 := by
      have hbounds := covers_bounds hcap
      simp only [capitals, CaseRun.lower] at hbounds ⊢
      omega
    simp only [lowerChar, hfind, hlower]
    rw [lowerAscii, if_pos ((covers_capitals c).mp hcap)]
  · rw [lowerAscii, if_neg (mt (covers_capitals c).mpr hcap)]
    apply lowerChar_of_uncovered
    intro run hrun
    rw [← Bool.not_eq_true]
    intro hcovers
    have hfirst : run.first < 0x80 := Nat.lt_of_le_of_lt (covers_bounds hcovers).1 hc
    exact hcap (lowerRuns_fromAscii run hrun hfirst ▸ hcovers)

/-- What an ASCII letter other than k is the lowercase form of is an ASCII letter too. -/
theorem ascii_of_lowerChar {c : Char} (h : (lowerChar c).toNat < 0x80) (hk : lowerChar c ≠ 'k') :
    c.toNat < 0x80 := by
  rcases lowerChar_moves c with hc | ⟨run, hrun, hcovers, hlower⟩
  · exact hc ▸ h
  · have himage : run.image < 0x80 := by
      rw [hlower, CaseRun.lower] at h
      omega
    have hbounds := covers_bounds hcovers
    rcases lowerRuns_toAscii run hrun himage with rfl | rfl
    · simp only [capitals] at hbounds
      omega
    · -- the Kelvin sign itself
      have hkelvin : c.toNat = 0x212A := by
        simp only [kelvin] at hbounds
        omega
      refine absurd (Char.toNat_inj.mp ?_) hk
      rw [hlower, hkelvin]
      rfl

/-- An ASCII character that is no k and no capital letter. -/
structure Plain (c : Char) : Prop where
  ascii : c.toNat < 0x80
  notK : c ≠ 'k'
  small : lowerAscii c = c

instance (c : Char) : Decidable (Plain c) :=
  decidable_of_iff (c.toNat < 0x80 ∧ c ≠ 'k' ∧ lowerAscii c = c)
    ⟨fun h => ⟨h.1, h.2.1, h.2.2⟩, fun h => ⟨h.ascii, h.notK, h.small⟩⟩

theorem lowerAt_of_ascii {c : Char} (hc : c.toNat < 0x80) (before after : List Char) :
    lowerAt before c after = [lowerAscii c] := by
  have hsigma : c ≠ 'Σ' := by rintro rfl; exact absurd hc (by decide)
  have hdotted : c ≠ 'İ' := by rintro rfl; exact absurd hc (by decide)
  simp [lowerAt, hsigma, hdotted, lowerChar_of_ascii hc]

theorem lowerFrom_of_ascii {before cs : List Char} (h : ∀ c ∈ cs, c.toNat < 0x80) :
    lowerFrom before cs = cs.map lowerAscii := by
  induction cs generalizing before with
  | nil => rfl
  | cons c cs ih =>
    obtain ⟨hc, hcs⟩ := List.forall_mem_cons.mp h
    rw [lowerFrom, lowerAt_of_ascii hc, ih hcs]
    rfl

theorem ascii_of_lowerAt {before after : List Char} {c : Char}
    (h : ∀ d ∈ lowerAt before c after, Plain d) : c.toNat < 0x80 := by
  unfold lowerAt at h
  split at h
  · have hplain := h _ (List.mem_singleton.mpr rfl)
    split at hplain
    · exact absurd hplain.ascii (by decide)
    · exact absurd hplain.ascii (by decide)
  split at h
  · exact absurd (h '\u0307' (by simp)).ascii (by decide)
  · have hplain := h _ (List.mem_singleton.mpr rfl)
    exact ascii_of_lowerChar hplain.ascii hplain.notK

theorem ascii_of_lowerFrom {before cs : List Char} (h : ∀ d ∈ lowerFrom before cs, Plain d) :
    ∀ c ∈ cs, c.toNat < 0x80 := by
  induction cs generalizing before with
  | nil => simp
  | cons c cs ih =>
    obtain ⟨hc, hcs⟩ := List.forall_mem_append.mp h
    exact List.forall_mem_cons.mpr ⟨ascii_of_lowerAt hc, ih hcs⟩

theorem ascii_of_lowerAscii {c : Char} (h : (lowerAscii c).toNat < 0x80) : c.toNat < 0x80 := by
  by_cases hc : c.toNat < 0x80
  · exact hc
  · have hstays : lowerAscii c = c := by
      rw [lowerAscii, if_neg]
      rintro ⟨-, hz⟩
      have hz' : c.toNat ≤ 'Z'.toNat := hz
      exact hc (Nat.lt_of_le_of_lt hz' (by decide))
    exact hstays ▸ h

/-- **A word of plain letters** is the lowercase form of exactly those texts that are the word in some ASCII
case. -/
theorem lowercase_eq_iff {word : String} (hword : ∀ c ∈ word.toList, Plain c) (s : String) :
    lowercase s = word ↔ eqIgnoreAsciiCase word s = true := by
  have hsmall : word.toList.map lowerAscii = word.toList := by
    rw [List.map_congr_left (fun c hc => (hword c hc).small), List.map_id']
  rw [eqIgnoreAsciiCase, beq_iff_eq, hsmall, lowercase, ← String.toList_inj, String.toList_ofList,
    lowerChars]
  constructor
  · intro h
    rw [← h] at hword ⊢
    exact lowerFrom_of_ascii (ascii_of_lowerFrom hword)
  · intro h
    rw [h]
    apply lowerFrom_of_ascii
    intro c hc
    have hplain := hword (lowerAscii c) (h ▸ List.mem_map_of_mem hc)
    exact ascii_of_lowerAscii hplain.ascii

end LineScope.Text
