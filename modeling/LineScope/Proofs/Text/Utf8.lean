import LineScope.Text.Utf8

/-!
# Strict reading and writing undo each other

A character is written as one to four bytes. The first of them announces how many bytes follow and what
ranges these lie in; each following byte holds six further bits. Read back, the bits make up the
character's number again, and the narrowed ranges of the announcement are no obstacle: what they exclude
is not the number of a character, or has a shorter form. For the same reason no two strings of bytes are
read as one text.

Results:
* `front_encode`: what stands at the front of written bytes is the first character written.
* `decode?_encode`: the strict reading of what was written gives the text back.
* `encode_front`: what is read at the front of any bytes is written as it stood there.
* `encode_of_decode?`: a text that was read from bytes is written as these bytes.
-/
namespace LineScope.Text.Utf8

open String (utf8EncodeChar)

/-! ## Announcements -/

theorem announce_one : ∀ k < 128, announce (UInt8.ofNat k) = some (k, []) := by decide

/-- The first two leading bytes of two could only begin overlong forms. -/
theorem announce_two :
    ∀ k < 32, announce (UInt8.ofNat (k + 192)) =
      if k < 2 then none else some (k, [(0x80, 0xBF)]) := by
  decide

/-- The second of three bytes is narrowed after the first leading byte, by overlong forms, and after the
fourteenth, by surrogates. -/
theorem announce_three :
    ∀ k < 16, announce (UInt8.ofNat (k + 224)) =
      some (k, [(if k = 0 then 0xA0 else 0x80, if k = 13 then 0x9F else 0xBF), (0x80, 0xBF)]) := by
  decide

/-- The second of four bytes is narrowed after the first leading byte, by overlong forms, and after the
last, by the last code point. -/
theorem announce_four :
    ∀ k < 5, announce (UInt8.ofNat (k + 240)) =
      some (k, [(if k = 0 then 0x90 else 0x80, if k = 4 then 0x8F else 0xBF), (0x80, 0xBF),
        (0x80, 0xBF)]) := by
  decide

/-- A following byte in its range adds six bits. -/
theorem complete_byte {bits n : Nat} {lo hi : UInt8} (ranges : List (UInt8 × UInt8))
    (bs : List UInt8) (hlo : lo.toNat ≤ n + 128) (hhi : n + 128 ≤ hi.toNat) :
    complete bits ((lo, hi) :: ranges) (UInt8.ofNat (n + 128) :: bs) =
      complete (bits * 64 + n) ranges bs := by
  have hn : (UInt8.ofNat (n + 128)).toNat = n + 128 := by
    rw [UInt8.toNat_ofNat']
    exact Nat.mod_eq_of_lt (Nat.lt_of_le_of_lt hhi hi.toNat_lt)
  have hin : lo ≤ UInt8.ofNat (n + 128) ∧ UInt8.ofNat (n + 128) ≤ hi := by
    rw [UInt8.le_iff_toNat_le, UInt8.le_iff_toNat_le, hn]
    exact ⟨hlo, hhi⟩
  rw [complete, if_pos hin, hn, Nat.add_sub_cancel]

theorem complete_tail (bits v : Nat) (ranges : List (UInt8 × UInt8)) (bs : List UInt8) :
    complete bits ((0x80, 0xBF) :: ranges) (UInt8.ofNat (v % 64 + 128) :: bs) =
      complete (bits * 64 + v % 64) ranges bs := by
  have hlo : (0x80 : UInt8).toNat = 128 := rfl
  have hhi : (0xBF : UInt8).toNat = 191 := rfl
  exact complete_byte ranges bs (by omega) (by omega)

/-! ## One character -/

section Lengths

variable {v : Nat} (rest : List UInt8)

theorem front_one (hv : v ≤ 127) : front (UInt8.ofNat v) rest = .char (Char.ofNat v) rest := by
  rw [front, announce_one v (by omega)]
  rfl

theorem front_two (hlo : 127 < v) (hhi : v ≤ 2047) :
    front (UInt8.ofNat (v / 64 % 32 + 192)) (UInt8.ofNat (v % 64 + 128) :: rest) =
      .char (Char.ofNat v) rest := by
  have hbits : v / 64 % 32 * 64 + v % 64 = v := by omega
  rw [front, announce_two _ (by omega), if_neg (by omega)]
  simp only
  rw [complete_tail, complete, hbits]

theorem front_three (hlo : 2047 < v) (hhi : v ≤ 65535) (hv : v.isValidChar) :
    front (UInt8.ofNat (v / 4096 % 16 + 224))
        (UInt8.ofNat (v / 64 % 64 + 128) :: UInt8.ofNat (v % 64 + 128) :: rest) =
      .char (Char.ofNat v) rest := by
  have hbits : (v / 4096 % 16 * 64 + v / 64 % 64) * 64 + v % 64 = v := by omega
  -- below the first bound lie shorter forms, above the second one surrogates
  have hfirst : (if v / 4096 % 16 = 0 then 0xA0 else 0x80 : UInt8).toNat ≤ v / 64 % 64 + 128 := by
    split
    · simp; omega
    · simp
  have hlast : v / 64 % 64 + 128 ≤ (if v / 4096 % 16 = 13 then 0x9F else 0xBF : UInt8).toNat := by
    unfold Nat.isValidChar at hv
    split
    · simp; omega
    · simp; omega
  rw [front, announce_three _ (by omega)]
  simp only
  rw [complete_byte _ _ hfirst hlast, complete_tail, complete, hbits]

theorem front_four (hlo : 65535 < v) (hv : v.isValidChar) :
    front (UInt8.ofNat (v / 262144 % 8 + 240))
        (UInt8.ofNat (v / 4096 % 64 + 128) :: UInt8.ofNat (v / 64 % 64 + 128) ::
          UInt8.ofNat (v % 64 + 128) :: rest) =
      .char (Char.ofNat v) rest := by
  unfold Nat.isValidChar at hv
  have hbits :
      ((v / 262144 % 8 * 64 + v / 4096 % 64) * 64 + v / 64 % 64) * 64 + v % 64 = v := by omega
  -- below the first bound lie shorter forms, above the second one no code points
  have hfirst : (if v / 262144 % 8 = 0 then 0x90 else 0x80 : UInt8).toNat ≤ v / 4096 % 64 + 128 := by
    split
    · simp; omega
    · simp
  have hlast : v / 4096 % 64 + 128 ≤ (if v / 262144 % 8 = 4 then 0x8F else 0xBF : UInt8).toNat := by
    split
    · simp; omega
    · simp; omega
  rw [front, announce_four _ (by omega)]
  simp only
  rw [complete_byte _ _ hfirst hlast, complete_tail, complete_tail, complete, hbits]

end Lengths

/-- **One character is read back**, whatever follows it. -/
theorem front_encode (c : Char) (rest : List UInt8) :
    ∃ b bs, utf8EncodeChar c = b :: bs ∧ front b (bs ++ rest) = .char c rest := by
  have hc : Char.ofNat c.val.toNat = c := c.ofNat_toNat
  have hv : c.val.toNat.isValidChar := c.valid
  unfold utf8EncodeChar
  simp only
  generalize c.val.toNat = v at hc hv ⊢
  rw [← hc]
  split
  · exact ⟨_, _, rfl, front_one rest ‹_›⟩
  split
  · exact ⟨_, _, rfl, front_two rest (by omega) ‹_›⟩
  split
  · exact ⟨_, _, rfl, front_three rest (by omega) ‹_› hv⟩
  · exact ⟨_, _, rfl, front_four rest (by omega) hv⟩

/-! ## A whole text -/

theorem decodeOnto?_char {acc : List Char} {b : UInt8} {bs rest : List UInt8} {c : Char}
    (h : front b bs = .char c rest) : decodeOnto? acc (b :: bs) = decodeOnto? (c :: acc) rest := by
  rw [decodeOnto?]
  split
  · rename_i heq; rw [h] at heq; cases heq; rfl
  · rename_i heq; rw [h] at heq; cases heq

theorem decodeOnto?_encodeChars (acc cs : List Char) :
    decodeOnto? acc (encodeChars cs) = some (acc.reverse ++ cs) := by
  induction cs generalizing acc with
  | nil => simp [encodeChars, decodeOnto?]
  | cons c cs ih =>
    obtain ⟨b, bs, hc, hfront⟩ := front_encode c (encodeChars cs)
    have hcons : encodeChars (c :: cs) = b :: (bs ++ encodeChars cs) := by
      rw [encodeChars, List.flatMap_cons, hc]
      rfl
    rw [hcons, decodeOnto?_char hfront, ih]
    simp

theorem decode?_encode (s : String) : decode? (encode s) = some s := by
  rw [decode?, encode, decodeOnto?_encodeChars]
  simp

theorem encode_append (s t : String) : encode (s ++ t) = encode s ++ encode t := by
  simp [encode, encodeChars]

/-! ## Strict reading keeps every byte -/

theorem announce_none :
    (∀ k < 64, announce (UInt8.ofNat (k + 128)) = none) ∧
      ∀ k < 11, announce (UInt8.ofNat (k + 245)) = none := by
  decide

/-- What follows a leading byte that announces more: a byte in its range, and the rest of the character. -/
theorem complete_eq_char {bits : Nat} {lo hi : UInt8} {ranges : List (UInt8 × UInt8)}
    {bs rest : List UInt8} {c : Char} (hlo : 128 ≤ lo.toNat)
    (h : complete bits ((lo, hi) :: ranges) bs = .char c rest) :
    ∃ n after, bs = UInt8.ofNat (n + 128) :: after ∧ lo.toNat ≤ n + 128 ∧ n + 128 ≤ hi.toNat ∧
      complete (bits * 64 + n) ranges after = .char c rest := by
  cases bs with
  | nil => cases h
  | cons b after =>
    rw [complete] at h
    split at h
    · rename_i hin
      obtain ⟨hlo', hhi⟩ := hin
      rw [UInt8.le_iff_toNat_le] at hlo' hhi
      have hb : b.toNat - 128 + 128 = b.toNat := by omega
      refine ⟨b.toNat - 128, after, ?_, by omega, by omega, h⟩
      rw [hb, UInt8.ofNat_toNat]
    · cases h

theorem complete_nil_eq_char {bits : Nat} {bs rest : List UInt8} {c : Char}
    (h : complete bits [] bs = .char c rest) : Char.ofNat bits = c ∧ bs = rest := by
  cases h
  exact ⟨rfl, rfl⟩

theorem complete_tail_eq_char {bits : Nat} {ranges : List (UInt8 × UInt8)} {bs rest : List UInt8}
    {c : Char} (h : complete bits ((0x80, 0xBF) :: ranges) bs = .char c rest) :
    ∃ n after, bs = UInt8.ofNat (n + 128) :: after ∧ n < 64 ∧
      complete (bits * 64 + n) ranges after = .char c rest := by
  obtain ⟨n, after, hbs, -, hhi, h⟩ := complete_eq_char (by decide) h
  exact ⟨n, after, hbs, by simp at hhi; omega, h⟩

/-- The bytes of a character by its number. -/
theorem utf8EncodeChar_ofNat {v : Nat} (hv : v.isValidChar) : utf8EncodeChar (Char.ofNat v) =
    if v ≤ 127 then [UInt8.ofNat v]
    else if v ≤ 2047 then [UInt8.ofNat (v / 64 % 32 + 192), UInt8.ofNat (v % 64 + 128)]
    else if v ≤ 65535 then
      [UInt8.ofNat (v / 4096 % 16 + 224), UInt8.ofNat (v / 64 % 64 + 128), UInt8.ofNat (v % 64 + 128)]
    else
      [UInt8.ofNat (v / 262144 % 8 + 240), UInt8.ofNat (v / 4096 % 64 + 128),
        UInt8.ofNat (v / 64 % 64 + 128), UInt8.ofNat (v % 64 + 128)] := by
  have hval : (Char.ofNat v).val.toNat = v := by
    rw [Char.ofNat, dif_pos hv]
    rfl
  unfold utf8EncodeChar
  simp only [hval]

section Lengths

variable {k l m n : Nat}

theorem utf8EncodeChar_two (hk : 2 ≤ k) (hk' : k < 32) (hn : n < 64) :
    utf8EncodeChar (Char.ofNat (k * 64 + n)) = [UInt8.ofNat (k + 192), UInt8.ofNat (n + 128)] := by
  have hv : (k * 64 + n).isValidChar := by unfold Nat.isValidChar; omega
  rw [utf8EncodeChar_ofNat hv, if_neg (by omega), if_pos (by omega)]
  have hfirst : (k * 64 + n) / 64 % 32 = k := by omega
  have hsecond : (k * 64 + n) % 64 = n := by omega
  rw [hfirst, hsecond]

theorem utf8EncodeChar_three (hk : k < 16) (hm : m < 64) (hn : n < 64) (hlong : k = 0 → 32 ≤ m)
    (hsurrogate : k = 13 → m < 32) :
    utf8EncodeChar (Char.ofNat ((k * 64 + m) * 64 + n)) =
      [UInt8.ofNat (k + 224), UInt8.ofNat (m + 128), UInt8.ofNat (n + 128)] := by
  have hv : ((k * 64 + m) * 64 + n).isValidChar := by unfold Nat.isValidChar; omega
  rw [utf8EncodeChar_ofNat hv, if_neg (by omega), if_neg (by omega), if_pos (by omega)]
  have hfirst : ((k * 64 + m) * 64 + n) / 4096 % 16 = k := by omega
  have hsecond : ((k * 64 + m) * 64 + n) / 64 % 64 = m := by omega
  have hthird : ((k * 64 + m) * 64 + n) % 64 = n := by omega
  rw [hfirst, hsecond, hthird]

theorem utf8EncodeChar_four (hk : k < 5) (hl : l < 64) (hm : m < 64) (hn : n < 64)
    (hlong : k = 0 → 16 ≤ l) (hlast : k = 4 → l < 16) :
    utf8EncodeChar (Char.ofNat (((k * 64 + l) * 64 + m) * 64 + n)) =
      [UInt8.ofNat (k + 240), UInt8.ofNat (l + 128), UInt8.ofNat (m + 128),
        UInt8.ofNat (n + 128)] := by
  have hv : (((k * 64 + l) * 64 + m) * 64 + n).isValidChar := by unfold Nat.isValidChar; omega
  rw [utf8EncodeChar_ofNat hv, if_neg (by omega), if_neg (by omega), if_neg (by omega)]
  have hfirst : (((k * 64 + l) * 64 + m) * 64 + n) / 262144 % 8 = k := by omega
  have hsecond : (((k * 64 + l) * 64 + m) * 64 + n) / 4096 % 64 = l := by omega
  have hthird : (((k * 64 + l) * 64 + m) * 64 + n) / 64 % 64 = m := by omega
  have hfourth : (((k * 64 + l) * 64 + m) * 64 + n) % 64 = n := by omega
  rw [hfirst, hsecond, hthird, hfourth]

end Lengths

/-- **The front of bytes** is made of the bytes of the character that stands there. -/
theorem encode_front {b : UInt8} {bs rest : List UInt8} {c : Char} (h : front b bs = .char c rest) :
    utf8EncodeChar c ++ rest = b :: bs := by
  have hb := b.toNat_lt
  have hnat : UInt8.ofNat b.toNat = b := UInt8.ofNat_toNat
  generalize b.toNat = v at hb hnat
  subst hnat
  rw [front] at h
  by_cases hone : v < 128
  · rw [announce_one v hone] at h
    obtain ⟨rfl, rfl⟩ := complete_nil_eq_char h
    have hv : v.isValidChar := by unfold Nat.isValidChar; omega
    rw [utf8EncodeChar_ofNat hv, if_pos (by omega)]
    rfl
  by_cases hnone : v < 192
  · obtain ⟨k, rfl⟩ : ∃ k, v = k + 128 := ⟨v - 128, by omega⟩
    rw [announce_none.1 k (by omega)] at h
    cases h
  by_cases htwo : v < 224
  · obtain ⟨k, rfl⟩ : ∃ k, v = k + 192 := ⟨v - 192, by omega⟩
    rw [announce_two k (by omega)] at h
    split at h
    · rename_i ranges hranges
      split at hranges
      · cases hranges
      · cases hranges
        obtain ⟨n, after, rfl, hn, h⟩ := complete_tail_eq_char h
        obtain ⟨rfl, rfl⟩ := complete_nil_eq_char h
        rw [utf8EncodeChar_two (by omega) (by omega) hn]
        rfl
    · cases h
  by_cases hthree : v < 240
  · obtain ⟨k, rfl⟩ : ∃ k, v = k + 224 := ⟨v - 224, by omega⟩
    rw [announce_three k (by omega)] at h
    dsimp only at h
    obtain ⟨m, after, rfl, hlo, hhi, h⟩ := complete_eq_char (by split <;> decide) h
    obtain ⟨n, after, rfl, hn, h⟩ := complete_tail_eq_char h
    obtain ⟨rfl, rfl⟩ := complete_nil_eq_char h
    have hm : m < 64 ∧ (k = 0 → 32 ≤ m) ∧ (k = 13 → m < 32) := by
      split at hlo <;> split at hhi <;> simp at hlo hhi <;> omega
    rw [utf8EncodeChar_three (by omega) hm.1 hn hm.2.1 hm.2.2]
    rfl
  by_cases hfour : v < 245
  · obtain ⟨k, rfl⟩ : ∃ k, v = k + 240 := ⟨v - 240, by omega⟩
    rw [announce_four k (by omega)] at h
    dsimp only at h
    obtain ⟨l, after, rfl, hlo, hhi, h⟩ := complete_eq_char (by split <;> decide) h
    obtain ⟨m, after, rfl, hm, h⟩ := complete_tail_eq_char h
    obtain ⟨n, after, rfl, hn, h⟩ := complete_tail_eq_char h
    obtain ⟨rfl, rfl⟩ := complete_nil_eq_char h
    have hl : l < 64 ∧ (k = 0 → 16 ≤ l) ∧ (k = 4 → l < 16) := by
      split at hlo <;> split at hhi <;> simp at hlo hhi <;> omega
    rw [utf8EncodeChar_four (by omega) hl.1 hm hn hl.2.1 hl.2.2]
    rfl
  · obtain ⟨k, rfl⟩ : ∃ k, v = k + 245 := ⟨v - 245, by omega⟩
    rw [announce_none.2 k (by omega)] at h
    cases h

theorem encodeChars_of_decodeOnto? {acc cs : List Char} {bs : List UInt8}
    (h : decodeOnto? acc bs = some cs) : encodeChars cs = encodeChars acc.reverse ++ bs := by
  fun_induction decodeOnto? acc bs generalizing cs with
  | case1 acc =>
    cases h
    simp
  | case2 acc b bs c rest hfront ih =>
    rw [ih h, ← encode_front hfront]
    simp [encodeChars]
  | case3 => cases h

/-- **Strict reading keeps every byte**: what was read is written as it stood. -/
theorem encode_of_decode? {bs : List UInt8} {s : String} (h : decode? bs = some s) :
    encode s = bs := by
  obtain ⟨cs, hcs, rfl⟩ := Option.map_eq_some_iff.mp h
  rw [encode, String.toList_ofList, encodeChars_of_decodeOnto? hcs]
  simp [encodeChars]

/-! ## ASCII bytes -/

theorem utf8EncodeChar_of_ascii {c : Char} (hc : c.toNat < 128) :
    utf8EncodeChar c = [UInt8.ofNat c.toNat] := by
  have hv : c.toNat.isValidChar := c.valid
  have h := utf8EncodeChar_ofNat hv
  rw [c.ofNat_toNat, if_pos (by omega)] at h
  exact h

/-- A byte below 128 is no part of a longer character. -/
theorem toNat_of_mem_utf8EncodeChar {c : Char} {b : UInt8} (h : b ∈ utf8EncodeChar c)
    (hb : b.toNat < 128) : b.toNat = c.toNat := by
  have hv : c.toNat.isValidChar := c.valid
  have hlong {k : Nat} (hk : 128 ≤ k) (hk' : k < 256) : b ≠ UInt8.ofNat k := by
    rintro rfl
    rw [UInt8.toNat_ofNat', Nat.mod_eq_of_lt hk'] at hb
    omega
  rw [← c.ofNat_toNat, utf8EncodeChar_ofNat hv] at h
  unfold Nat.isValidChar at hv
  split at h
  · rw [List.mem_singleton] at h
    rw [h, UInt8.toNat_ofNat']
    omega
  -- every byte of two, three or four is above
  split at h
  · simp only [List.mem_cons, List.not_mem_nil, or_false] at h
    rcases h with h | h
    all_goals exact absurd h (hlong (by omega) (by omega))
  split at h
  · simp only [List.mem_cons, List.not_mem_nil, or_false] at h
    rcases h with h | h | h
    all_goals exact absurd h (hlong (by omega) (by omega))
  · simp only [List.mem_cons, List.not_mem_nil, or_false] at h
    rcases h with h | h | h | h
    all_goals exact absurd h (hlong (by omega) (by omega))

end LineScope.Text.Utf8
