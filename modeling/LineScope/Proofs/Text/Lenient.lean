import LineScope.Proofs.Text.Utf8

/-!
# Lenient reading

What lenient reading makes of bytes, said by the encodings of characters alone (`Lenient`). Where the encoding
of a character stands, it gives the character. Where none stands, it gives one replacement for the longest
part that begins the encoding of a character, or for a single byte if no part does (`Broken`). So an overlong
form, a surrogate or a number past the last code point is replaced byte by byte, and a sequence that is cut
off is replaced as a whole.

The reader works with what a leading byte announces: bits, and a range for each byte to come. Bytes that lie
in the first of these ranges can always be completed, so they are exactly what begins a character
(`begins_cons`), and the reader stops where the longest such part ends (`broken_of_front`).

Results:
* `lenient_iff`: lenient reading gives what the rules give, and they give nothing else.
* `decodeLossy_encode`: it agrees with strict reading on all that is well formed.
-/
namespace LineScope.Text.Utf8

open String (utf8EncodeChar)

/-! ## The rules -/

/-- The bytes are a part, from the start on, of a character's encoding. -/
def Begins (bs : List UInt8) : Prop := ∃ c, bs <+: utf8EncodeChar c

/-- No character stands in front of `bad ++ rest`, and `bad` is the longest part of it that begins one, or a
single byte if no part does. -/
structure Broken (bad rest : List UInt8) : Prop where
  ne_nil : bad ≠ []
  not_char (c : Char) : ¬ utf8EncodeChar c <+: bad ++ rest
  begins : Begins bad ∨ bad.length = 1
  longest (more : List UInt8) (h : more <+: bad ++ rest) (hlen : bad.length < more.length) :
    ¬ Begins more

/-- The characters that stand for bytes: those that are encoded, in their order, with one replacement for each
broken part. -/
inductive Lenient : List UInt8 → List Char → Prop where
  | nil : Lenient [] []
  | char {rest : List UInt8} {cs : List Char} (c : Char) (h : Lenient rest cs) :
    Lenient (utf8EncodeChar c ++ rest) (c :: cs)
  | broken {bad rest : List UInt8} {cs : List Char} (hbad : Broken bad rest) (h : Lenient rest cs) :
    Lenient (bad ++ rest) (replacement :: cs)

/-! ## Bytes in their ranges -/

/-- The bytes lie in the first of the ranges, one in each. -/
inductive Fits : List (UInt8 × UInt8) → List UInt8 → Prop where
  | nil (ranges : List (UInt8 × UInt8)) : Fits ranges []
  | cons {lo hi b : UInt8} {ranges : List (UInt8 × UInt8)} {bs : List UInt8} (hlo : lo ≤ b)
    (hhi : b ≤ hi) (h : Fits ranges bs) : Fits ((lo, hi) :: ranges) (b :: bs)

theorem Fits.of_front {ranges : List (UInt8 × UInt8)} {bs front : List UInt8} (h : Fits ranges bs)
    (hfront : front <+: bs) : Fits ranges front := by
  induction h generalizing front with
  | nil ranges =>
    rw [List.prefix_nil.mp hfront]
    exact .nil ranges
  | cons hlo hhi _ ih =>
    cases front with
    | nil => exact .nil _
    | cons b front =>
      obtain ⟨rfl, htail⟩ := List.cons_prefix_cons.mp hfront
      exact .cons hlo hhi (ih htail)

theorem announce_ranges {b : UInt8} {bits : Nat} {ranges : List (UInt8 × UInt8)}
    (h : announce b = some (bits, ranges)) : ∀ range ∈ ranges, range.1 ≤ range.2 := by
  unfold announce at h
  repeat' split at h
  all_goals simp only [reduceCtorEq, Option.some.injEq, Prod.mk.injEq] at h
  all_goals
    obtain ⟨-, rfl⟩ := h
    simp

theorem complete_lowest (bits : Nat) {ranges : List (UInt8 × UInt8)}
    (h : ∀ range ∈ ranges, range.1 ≤ range.2) :
    ∃ c, complete bits ranges (ranges.map Prod.fst) = .char c [] := by
  induction ranges generalizing bits with
  | nil => exact ⟨_, rfl⟩
  | cons range ranges ih =>
    rw [List.forall_mem_cons] at h
    obtain ⟨lo, hi⟩ := range
    have hin : lo ≤ lo ∧ lo ≤ hi := ⟨UInt8.le_refl lo, h.1⟩
    rw [List.map_cons, complete, if_pos hin]
    exact ih _ h.2

theorem complete_of_fits (bits : Nat) {ranges : List (UInt8 × UInt8)} {bs : List UInt8}
    (hranges : ∀ range ∈ ranges, range.1 ≤ range.2) (h : Fits ranges bs) :
    ∃ tail c, complete bits ranges (bs ++ tail) = .char c [] := by
  induction h generalizing bits with
  | nil ranges => exact ⟨_, complete_lowest bits hranges⟩
  | cons hlo hhi _ ih =>
    rw [List.forall_mem_cons] at hranges
    obtain ⟨tail, c, hc⟩ := ih _ hranges.2
    refine ⟨tail, c, ?_⟩
    rw [List.cons_append, complete, if_pos ⟨hlo, hhi⟩]
    exact hc

theorem fits_of_complete {bits : Nat} {ranges : List (UInt8 × UInt8)} {bs rest : List UInt8} {c : Char}
    (h : complete bits ranges bs = .char c rest) : ∃ body, bs = body ++ rest ∧ Fits ranges body := by
  induction ranges generalizing bits bs with
  | nil =>
    obtain ⟨-, rfl⟩ := complete_nil_eq_char h
    exact ⟨[], rfl, .nil []⟩
  | cons range ranges ih =>
    obtain ⟨lo, hi⟩ := range
    cases bs with
    | nil => cases h
    | cons b bs =>
      rw [complete] at h
      split at h
      · rename_i hin
        obtain ⟨body, rfl, hbody⟩ := ih h
        exact ⟨b :: body, rfl, .cons hin.1 hin.2 hbody⟩
      · cases h

/-- A character that was not completed took up all bytes in their ranges. -/
theorem fits_of_complete_broken {bits : Nat} {ranges : List (UInt8 × UInt8)} {bs rest : List UInt8}
    (h : complete bits ranges bs = .broken rest) :
    ∃ body, bs = body ++ rest ∧ Fits ranges body ∧
      ∀ more, more <+: bs → body.length < more.length → ¬ Fits ranges more := by
  induction ranges generalizing bits bs with
  | nil => cases h
  | cons range ranges ih =>
    obtain ⟨lo, hi⟩ := range
    cases bs with
    | nil =>
      cases h
      refine ⟨[], rfl, .nil _, fun more hmore hlen => ?_⟩
      rw [List.prefix_nil.mp hmore] at hlen
      simp at hlen
    | cons b bs =>
      rw [complete] at h
      split at h
      · rename_i hin
        obtain ⟨body, rfl, hbody, hlongest⟩ := ih h
        refine ⟨b :: body, rfl, .cons hin.1 hin.2 hbody, fun more hmore hlen hfits => ?_⟩
        cases hfits with
        | nil => simp at hlen
        | cons _ _ hfits =>
          exact hlongest _ (List.cons_prefix_cons.mp hmore).2 (by simpa using hlen) hfits
      · rename_i hin
        cases h
        refine ⟨[], rfl, .nil _, fun more hmore hlen hfits => ?_⟩
        cases hfits with
        | nil => simp at hlen
        | cons hlo hhi _ =>
          obtain ⟨rfl, -⟩ := List.cons_prefix_cons.mp hmore
          exact hin ⟨hlo, hhi⟩

/-! ## The front of bytes -/

/-- **What begins a character**: a leading byte and bytes in the ranges that it announces. -/
theorem begins_cons {b : UInt8} {bs : List UInt8} :
    Begins (b :: bs) ↔ ∃ bits ranges, announce b = some (bits, ranges) ∧ Fits ranges bs := by
  constructor
  · rintro ⟨c, hc⟩
    obtain ⟨b', bs', hencode, hfront⟩ := front_encode c []
    rw [hencode] at hc
    obtain ⟨rfl, hbs⟩ := List.cons_prefix_cons.mp hc
    unfold front at hfront
    split at hfront
    · rename_i bits ranges hannounce
      obtain ⟨body, hbody, hfits⟩ := fits_of_complete hfront
      rw [List.append_nil, List.append_nil] at hbody
      subst hbody
      exact ⟨bits, ranges, hannounce, hfits.of_front hbs⟩
    · cases hfront
  · rintro ⟨bits, ranges, hannounce, hfits⟩
    obtain ⟨tail, c, hcomplete⟩ := complete_of_fits bits (announce_ranges hannounce) hfits
    have hfront : front b (bs ++ tail) = .char c [] := by
      unfold front
      rw [hannounce]
      exact hcomplete
    have hencode := encode_front hfront
    rw [List.append_nil] at hencode
    exact ⟨c, tail, by rw [hencode, List.cons_append]⟩

theorem front_eq_char {b : UInt8} {bs rest : List UInt8} {c : Char}
    (h : utf8EncodeChar c ++ rest = b :: bs) : front b bs = .char c rest := by
  obtain ⟨b', bs', hencode, hfront⟩ := front_encode c rest
  rw [hencode, List.cons_append, List.cons.injEq] at h
  obtain ⟨rfl, rfl⟩ := h
  exact hfront

/-- The reader stops behind a broken part. -/
theorem broken_of_front {b : UInt8} {bs rest : List UInt8} (h : front b bs = .broken rest) :
    ∃ bad, b :: bs = bad ++ rest ∧ Broken bad rest := by
  have hchar : ∀ c, ¬ utf8EncodeChar c <+: b :: bs := by
    rintro c ⟨rest', hrest'⟩
    rw [front_eq_char hrest'] at h
    cases h
  unfold front at h
  split at h
  · rename_i bits ranges hannounce
    obtain ⟨body, rfl, hfits, hlongest⟩ := fits_of_complete_broken h
    refine ⟨b :: body, rfl, by simp, hchar, Or.inl (begins_cons.mpr ⟨_, _, hannounce, hfits⟩), ?_⟩
    intro more hmore hlen hbegins
    cases more with
    | nil => simp at hlen
    | cons b' more =>
      obtain ⟨rfl, htail⟩ := List.cons_prefix_cons.mp hmore
      obtain ⟨bits', ranges', hannounce', hfits'⟩ := begins_cons.mp hbegins
      rw [hannounce] at hannounce'
      cases hannounce'
      exact hlongest more htail (by simpa using hlen) hfits'
  · rename_i hannounce
    cases h
    refine ⟨[b], rfl, by simp, hchar, Or.inr rfl, ?_⟩
    intro more hmore hlen hbegins
    cases more with
    | nil => simp at hlen
    | cons b' more =>
      obtain ⟨rfl, -⟩ := List.cons_prefix_cons.mp hmore
      obtain ⟨bits, ranges, hsome, -⟩ := begins_cons.mp hbegins
      rw [hannounce] at hsome
      cases hsome

theorem Broken.unique {bad rest bad' rest' : List UInt8} (h : Broken bad rest) (h' : Broken bad' rest')
    (heq : bad ++ rest = bad' ++ rest') : bad = bad' ∧ rest = rest' := by
  -- of two parts the longer one would be a single byte, and the shorter one empty
  have key {bad rest bad' rest' : List UInt8} (h : Broken bad rest) (h' : Broken bad' rest')
      (heq : bad ++ rest = bad' ++ rest') : ¬ bad.length < bad'.length := by
    intro hlt
    have hfront : bad' <+: bad ++ rest := ⟨rest', heq.symm⟩
    have hpos := List.length_pos_iff.mpr h.ne_nil
    rcases h'.begins with hbegins | hone
    · exact h.longest bad' hfront hlt hbegins
    · omega
  have hle := key h h' heq
  have hge := key h' h heq.symm
  exact List.append_inj heq (by omega)

theorem front_eq_broken {b : UInt8} {bs bad rest : List UInt8} (hbad : Broken bad rest)
    (heq : bad ++ rest = b :: bs) : front b bs = .broken rest := by
  cases hfront : front b bs with
  | char c after =>
    have hencode := encode_front hfront
    exact absurd ⟨after, by rw [hencode, heq]⟩ (hbad.not_char c)
  | broken after =>
    obtain ⟨bad', heq', hbad'⟩ := broken_of_front hfront
    obtain ⟨-, rfl⟩ := hbad.unique hbad' (heq.trans heq')
    rfl

/-! ## The whole text -/

theorem decodeLossyOnto_char {acc : List Char} {b : UInt8} {bs rest : List UInt8} {c : Char}
    (h : front b bs = .char c rest) :
    decodeLossyOnto acc (b :: bs) = decodeLossyOnto (c :: acc) rest := by
  rw [decodeLossyOnto]
  split <;> rename_i heq <;> rw [h] at heq <;> cases heq
  rfl

theorem decodeLossyOnto_broken {acc : List Char} {b : UInt8} {bs rest : List UInt8}
    (h : front b bs = .broken rest) :
    decodeLossyOnto acc (b :: bs) = decodeLossyOnto (replacement :: acc) rest := by
  rw [decodeLossyOnto]
  split <;> rename_i heq <;> rw [h] at heq <;> cases heq
  rfl

theorem decodeLossyOnto_of_lenient {bs : List UInt8} {cs : List Char} (h : Lenient bs cs)
    (acc : List Char) : decodeLossyOnto acc bs = acc.reverse ++ cs := by
  induction h generalizing acc with
  | nil => simp [decodeLossyOnto]
  | @char rest cs c _ ih =>
    obtain ⟨b, bs, hencode, hfront⟩ := front_encode c rest
    rw [hencode, List.cons_append, decodeLossyOnto_char hfront, ih]
    simp
  | @broken bad rest cs hbad _ ih =>
    obtain ⟨b, bad', rfl⟩ := List.exists_cons_of_ne_nil hbad.ne_nil
    have hfront : front b (bad' ++ rest) = .broken rest := front_eq_broken hbad rfl
    rw [List.cons_append, decodeLossyOnto_broken hfront, ih]
    simp

theorem exists_lenient (bs : List UInt8) : ∃ cs, Lenient bs cs := by
  induction hk : bs.length using Nat.strongRecOn generalizing bs with
  | ind k ih =>
    subst hk
    cases bs with
    | nil => exact ⟨[], .nil⟩
    | cons b bs =>
      have hrest := length_rest_front b bs
      cases hfront : front b bs with
      | char c rest =>
        rw [hfront] at hrest
        obtain ⟨cs, hcs⟩ := ih rest.length (Nat.lt_succ_of_le hrest) rest rfl
        rw [← encode_front hfront]
        exact ⟨_, .char c hcs⟩
      | broken rest =>
        rw [hfront] at hrest
        obtain ⟨cs, hcs⟩ := ih rest.length (Nat.lt_succ_of_le hrest) rest rfl
        obtain ⟨bad, heq, hbad⟩ := broken_of_front hfront
        rw [heq]
        exact ⟨_, .broken hbad hcs⟩

/-- **Lenient reading** follows the rules, and they leave it no choice. -/
theorem lenient_iff {bs : List UInt8} {cs : List Char} :
    Lenient bs cs ↔ cs = (decodeLossy bs).toList := by
  have hread {cs : List Char} (h : Lenient bs cs) : cs = (decodeLossy bs).toList := by
    rw [decodeLossy, decodeLossyOnto_of_lenient h]
    simp
  constructor
  · exact hread
  · rintro rfl
    obtain ⟨cs, hcs⟩ := exists_lenient bs
    rw [← hread hcs]
    exact hcs

theorem lenient_encodeChars (cs : List Char) : Lenient (encodeChars cs) cs := by
  induction cs with
  | nil => exact .nil
  | cons c cs ih =>
    rw [encodeChars, List.flatMap_cons]
    exact .char c ih

/-- **On well-formed bytes** lenient reading replaces nothing. -/
theorem decodeLossy_encode (s : String) : decodeLossy (encode s) = s := by
  have h := lenient_iff.mp (lenient_encodeChars s.toList)
  exact String.toList_inj.mp h.symm

/-- Strict reading gives a text exactly if the bytes are those of the text. -/
theorem decode?_eq_some_iff {bs : List UInt8} {s : String} : decode? bs = some s ↔ encode s = bs := by
  constructor
  · exact encode_of_decode?
  · rintro rfl
    exact decode?_encode s

end LineScope.Text.Utf8
