import LineScope.Path
import LineScope.Proofs.Text.Utf8
import Mathlib.Data.List.TakeWhile

/-!
# Extensions of paths

The extension of a path is cut out of it at a slash and a dot, the last ones there are, so it holds neither
(`not_mem_extension`). Every text that holds neither is an extension: of the file that is called by one letter,
a dot and the text (`extension?_f`).

A path of any bytes is cut in the same places. Where the bytes are those of a text, its extension is the one
of the text (`extensionOfBytes?_encode`).
-/
namespace LineScope.Path

open Text

/-! ## Cutting -/

theorem splitAt_of_not_mem {sep : Char} {cs : List Char} (h : sep ∉ cs) : splitAt sep cs = [cs] := by
  induction cs with
  | nil => rfl
  | cons c cs ih =>
    rw [List.mem_cons, not_or] at h
    rw [splitAt, if_neg (Ne.symm h.1), ih h.2]

theorem not_mem_of_mem_splitAt {sep : Char} {cs piece : List Char} (h : piece ∈ splitAt sep cs) :
    sep ∉ piece := by
  induction cs generalizing piece with
  | nil =>
    rw [splitAt, List.mem_singleton] at h
    simp [h]
  | cons c cs ih =>
    rw [splitAt] at h
    split at h
    · rcases List.mem_cons.mp h with rfl | h
      · exact List.not_mem_nil
      · exact ih h
    · rename_i hc
      split at h
      · rw [List.mem_singleton] at h
        simp [h, Ne.symm hc]
      · rename_i front rest hsplit
        rcases List.mem_cons.mp h with rfl | h
        · have hfront : sep ∉ front := ih (by simp [hsplit])
          simp [Ne.symm hc, hfront]
        · exact ih (by simp [hsplit, h])

theorem mem_of_mem_splitAt {sep c : Char} {cs piece : List Char} (h : piece ∈ splitAt sep cs)
    (hc : c ∈ piece) : c ∈ cs := by
  induction cs generalizing piece with
  | nil =>
    rw [splitAt, List.mem_singleton] at h
    exact h ▸ hc
  | cons d cs ih =>
    rw [splitAt] at h
    split at h
    · rcases List.mem_cons.mp h with rfl | h
      · cases hc
      · exact List.mem_cons_of_mem d (ih h hc)
    · split at h
      · rw [List.mem_singleton] at h
        rw [h, List.mem_singleton] at hc
        exact hc ▸ List.mem_cons_self
      · rename_i front rest hsplit
        rcases List.mem_cons.mp h with rfl | h
        · rcases List.mem_cons.mp hc with rfl | hc
          · exact List.mem_cons_self
          · exact List.mem_cons_of_mem d (ih (by simp [hsplit]) hc)
        · exact List.mem_cons_of_mem d (ih (by simp [hsplit, h]) hc)

theorem exists_splitAt (sep : Char) (cs : List Char) :
    ∃ piece pieces, splitAt sep cs = piece :: pieces := by
  cases cs with
  | nil => exact ⟨[], [], rfl⟩
  | cons c cs =>
    rw [splitAt]
    split
    · exact ⟨_, _, rfl⟩
    · split <;> exact ⟨_, _, rfl⟩

theorem splitAt_append_of_not_mem {sep : Char} {front cs piece : List Char} {pieces : List (List Char)}
    (hfront : sep ∉ front) (hcs : splitAt sep cs = piece :: pieces) :
    splitAt sep (front ++ cs) = (front ++ piece) :: pieces := by
  induction front with
  | nil => simpa using hcs
  | cons c front ih =>
    rw [List.mem_cons, not_or] at hfront
    rw [List.cons_append, splitAt, if_neg (Ne.symm hfront.1), ih hfront.2]
    rfl

/-! ## File names -/

theorem mem_splitAt_fileName {path : String} {name : List Char} (h : fileName? path = some name) :
    name ∈ splitAt '/' path.toList := by
  unfold fileName? at h
  split at h
  · rename_i last hlast
    split at h
    · cases h
    · cases h
      exact (List.mem_filter.mp (List.mem_of_getLast? hlast)).1
  · cases h

theorem fileName?_ofList {name : List Char} (h : '/' ∉ name) (hnil : name ≠ []) (hdot : name ≠ ['.'])
    (hup : name ≠ ['.', '.']) : fileName? (String.ofList name) = some name := by
  have hparts : parts (String.ofList name) = [name] := by
    rw [parts, String.toList_ofList, splitAt_of_not_mem h]
    simp [hnil, hdot]
  simp [fileName?, hparts, hup]

/-! ## Extensions -/

theorem extensionOf?_of_not_mem {name : List Char} (h : '.' ∉ name) : extensionOf? name = none := by
  have hnil : name.reverse.dropWhile (· ≠ '.') = [] := by
    rw [List.dropWhile_eq_nil_iff]
    intro c hc
    rw [decide_eq_true_iff]
    rintro rfl
    exact h (List.mem_reverse.mp hc)
  rw [extensionOf?, hnil]

/-- What follows the last dot is the extension, if there is anything in front of that dot. -/
theorem extensionOf?_cut {stem ext : List Char} (hext : '.' ∉ ext) :
    extensionOf? (stem ++ '.' :: ext) = if stem = [] then none else some ext := by
  have hbefore : ∀ c ∈ ext.reverse, decide (c ≠ '.') = true := by
    intro c hc
    rw [decide_eq_true_iff]
    rintro rfl
    exact hext (List.mem_reverse.mp hc)
  have hreverse : (stem ++ '.' :: ext).reverse = ext.reverse ++ '.' :: stem.reverse := by simp
  unfold extensionOf?
  rw [hreverse, List.dropWhile_append_of_pos hbefore, List.takeWhile_append_of_pos hbefore]
  simp

theorem exists_last_dot {name : List Char} (h : '.' ∈ name) :
    ∃ stem ext, name = stem ++ '.' :: ext ∧ '.' ∉ ext := by
  obtain ⟨ext, stem, hname, hext⟩ := List.eq_append_cons_of_mem (List.mem_reverse.mpr h)
  refine ⟨stem.reverse, ext.reverse, ?_, by simpa using hext⟩
  rw [← List.reverse_inj, hname]
  simp

/-- What an extension is: it stands behind a dot, has no dot in it, and something stands in front of that
dot. -/
theorem extensionOf?_eq_some {name ext : List Char} :
    extensionOf? name = some ext ↔ ∃ stem, stem ≠ [] ∧ name = stem ++ '.' :: ext ∧ '.' ∉ ext := by
  constructor
  · intro h
    by_cases hdot : '.' ∈ name
    · obtain ⟨stem, ext', rfl, hext'⟩ := exists_last_dot hdot
      rw [extensionOf?_cut hext'] at h
      split at h
      · cases h
      · rename_i hstem
        cases h
        exact ⟨stem, hstem, rfl, hext'⟩
    · rw [extensionOf?_of_not_mem hdot] at h
      cases h
  · rintro ⟨stem, hstem, rfl, hext⟩
    rw [extensionOf?_cut hext, if_neg hstem]

theorem extension?_eq_some {path ext : String} (h : extension? path = some ext) :
    ∃ stem, stem ++ '.' :: ext.toList ∈ splitAt '/' path.toList ∧ '.' ∉ ext.toList := by
  obtain ⟨cs, hcs, rfl⟩ := Option.map_eq_some_iff.mp h
  obtain ⟨name, hname, hext⟩ := Option.bind_eq_some_iff.mp hcs
  obtain ⟨stem, -, rfl, hdot⟩ := extensionOf?_eq_some.mp hext
  rw [String.toList_ofList]
  exact ⟨stem, mem_splitAt_fileName hname, hdot⟩

/-- **An extension** has neither a dot nor a slash in it. -/
theorem not_mem_extension {path ext : String} (h : extension? path = some ext) :
    '.' ∉ ext.toList ∧ '/' ∉ ext.toList := by
  obtain ⟨stem, hpiece, hdot⟩ := extension?_eq_some h
  refine ⟨hdot, fun hmem => not_mem_of_mem_splitAt hpiece ?_⟩
  exact List.mem_append_right _ (List.mem_cons_of_mem _ hmem)

theorem mem_of_mem_extension {path ext : String} (h : extension? path = some ext) {c : Char}
    (hc : c ∈ ext.toList) : c ∈ path.toList := by
  obtain ⟨stem, hpiece, -⟩ := extension?_eq_some h
  exact mem_of_mem_splitAt hpiece (List.mem_append_right _ (List.mem_cons_of_mem _ hc))

/-- **Every such text is an extension**, of the file with one letter and a dot in front of it. -/
theorem extension?_f {ext : String} (hdot : '.' ∉ ext.toList) (hslash : '/' ∉ ext.toList) :
    extension? ("f." ++ ext) = some ext := by
  have htext : "f." ++ ext = String.ofList ('f' :: '.' :: ext.toList) := by
    rw [← String.toList_inj]
    simp
  have hname : fileName? ("f." ++ ext) = some ('f' :: '.' :: ext.toList) := by
    rw [htext]
    exact fileName?_ofList (by simp [hslash]) (by simp) (by simp) (by simp)
  have hext : extensionOf? ('f' :: '.' :: ext.toList) = some ext.toList :=
    extensionOf?_eq_some.mpr ⟨['f'], by simp, rfl, hdot⟩
  simp [extension?, hname, hext]

/-! ## Paths of any bytes -/

theorem toNat_ofNat_byte (b : UInt8) : (Char.ofNat b.toNat).toNat = b.toNat := by
  have hb := b.toNat_lt
  have hv : b.toNat.isValidChar := by unfold Nat.isValidChar; omega
  rw [Char.ofNat, dif_pos hv]
  rfl

theorem toBytes_ofBytes (bs : List UInt8) : toBytes (ofBytes bs) = bs := by
  have hbyte : ((fun c : Char => UInt8.ofNat c.toNat) ∘ fun b => Char.ofNat b.toNat) = id := by
    funext b
    simp [toNat_ofNat_byte]
  rw [toBytes, ofBytes, List.map_map, hbyte, List.map_id]

/-- The bytes of characters, each as the character that stands for it. -/
def bytewise (cs : List Char) : List Char := ofBytes (Utf8.encodeChars cs)

theorem bytewise_append (cs ds : List Char) : bytewise (cs ++ ds) = bytewise cs ++ bytewise ds := by
  simp [bytewise, ofBytes, Utf8.encodeChars]

theorem toBytes_bytewise (cs : List Char) : toBytes (bytewise cs) = Utf8.encodeChars cs :=
  toBytes_ofBytes _

theorem bytewise_injective {cs ds : List Char} (h : bytewise cs = bytewise ds) : cs = ds := by
  have hread := congrArg (fun cs => Utf8.decodeOnto? [] (toBytes cs)) h
  simpa [toBytes_bytewise, Utf8.decodeOnto?_encodeChars] using hread

theorem bytewise_of_ascii {cs : List Char} (h : ∀ c ∈ cs, c.toNat < 128) : bytewise cs = cs := by
  induction cs with
  | nil => rfl
  | cons c cs ih =>
    obtain ⟨hc, hcs⟩ := List.forall_mem_cons.mp h
    have hone : bytewise [c] = [c] := by
      have hbyte : c.toNat % 256 = c.toNat := by omega
      simp [bytewise, ofBytes, Utf8.encodeChars, Utf8.utf8EncodeChar_of_ascii hc, hbyte]
    rw [← List.singleton_append, bytewise_append, hone, ih hcs]

theorem bytewise_eq_iff {cs ds : List Char} (hds : ∀ d ∈ ds, d.toNat < 128) :
    bytewise cs = ds ↔ cs = ds := by
  constructor
  · intro h
    rw [← bytewise_of_ascii hds] at h
    exact bytewise_injective h
  · rintro rfl
    exact bytewise_of_ascii hds

theorem mem_bytewise {sep : Char} (hsep : sep.toNat < 128) {cs : List Char} :
    sep ∈ bytewise cs ↔ sep ∈ cs := by
  constructor
  · intro h
    obtain ⟨b, hb, rfl⟩ := List.mem_map.mp h
    obtain ⟨c, hc, hbc⟩ := List.mem_flatMap.mp hb
    rw [toNat_ofNat_byte] at hsep
    rw [Utf8.toNat_of_mem_utf8EncodeChar hbc hsep, c.ofNat_toNat]
    exact hc
  · intro h
    obtain ⟨front, back, rfl⟩ := List.append_of_mem h
    have hone : bytewise [sep] = [sep] := bytewise_of_ascii (by simpa using hsep)
    rw [← List.singleton_append, bytewise_append, bytewise_append, hone]
    simp

theorem splitAt_bytewise {sep : Char} (hsep : sep.toNat < 128) (cs : List Char) :
    splitAt sep (bytewise cs) = (splitAt sep cs).map bytewise := by
  induction cs with
  | nil => rfl
  | cons c cs ih =>
    have hcons (cs : List Char) : bytewise (c :: cs) = bytewise [c] ++ bytewise cs :=
      bytewise_append [c] cs
    by_cases hc : c = sep
    · rw [hcons, hc, bytewise_of_ascii (by simpa using hsep)]
      simp [splitAt, ih]
      rfl
    · obtain ⟨piece, pieces, hcs⟩ := exists_splitAt sep cs
      have hnot : sep ∉ bytewise [c] := by
        rw [mem_bytewise hsep]
        simpa using Ne.symm hc
      rw [hcs] at ih
      rw [hcons, splitAt_append_of_not_mem hnot ih, splitAt, if_neg hc, hcs, ← hcons]
      rfl

theorem fileName?_bytewise (path : String) :
    fileName? (String.ofList (bytewise path.toList)) = (fileName? path).map bytewise := by
  have hparts : parts (String.ofList (bytewise path.toList)) = (parts path).map bytewise := by
    rw [parts, parts, String.toList_ofList, splitAt_bytewise (by decide), List.filter_map]
    congr 1
    apply List.filter_congr
    intro part _
    simp [bytewise_eq_iff]
  rw [fileName?, fileName?, hparts, List.getLast?_map]
  cases (parts path).getLast? with
  | none => rfl
  | some name =>
    have hup : bytewise name = ['.', '.'] ↔ name = ['.', '.'] := bytewise_eq_iff (by simp)
    simp only [Option.map_some, hup]
    split <;> rfl

theorem extensionOf?_bytewise (name : List Char) :
    extensionOf? (bytewise name) = (extensionOf? name).map bytewise := by
  have hdot (cs : List Char) : '.' ∈ bytewise cs ↔ '.' ∈ cs := mem_bytewise (by decide)
  by_cases hmem : '.' ∈ name
  · obtain ⟨stem, ext, rfl, hext⟩ := exists_last_dot hmem
    have hcut : bytewise (stem ++ '.' :: ext) = bytewise stem ++ '.' :: bytewise ext := by
      rw [← List.singleton_append, bytewise_append, bytewise_append]
      rfl
    have hnil : bytewise stem = [] ↔ stem = [] := bytewise_eq_iff (by simp)
    rw [hcut, extensionOf?_cut (mt (hdot ext).mp hext), extensionOf?_cut hext]
    simp only [hnil]
    split <;> rfl
  · rw [extensionOf?_of_not_mem hmem, extensionOf?_of_not_mem (mt (hdot name).mp hmem)]
    rfl

/-- **The extension of a text's bytes** is the extension of the text. -/
theorem extensionOfBytes?_encode (path : String) :
    extensionOfBytes? (Utf8.encode path) = extension? path := by
  have hpath : ofBytes (Utf8.encode path) = bytewise path.toList := rfl
  rw [extensionOfBytes?, hpath, extension?, extension?, fileName?_bytewise]
  cases hname : fileName? path with
  | none => rfl
  | some name =>
    simp only [Option.map_some, Option.bind_some, extensionOf?_bytewise]
    cases hext : extensionOf? name with
    | none => rfl
    | some ext =>
      have hread := Utf8.decode?_encode (String.ofList ext)
      rw [Utf8.encode, String.toList_ofList] at hread
      simpa [toBytes_bytewise] using hread

/-- An extension that is text in a path of any bytes has neither a dot nor a slash in it. -/
theorem not_mem_extensionOfBytes {path : List UInt8} {ext : String}
    (h : extensionOfBytes? path = some ext) : '.' ∉ ext.toList ∧ '/' ∉ ext.toList := by
  obtain ⟨raw, hraw, hread⟩ := Option.bind_eq_some_iff.mp h
  obtain ⟨hdot, hslash⟩ := not_mem_extension hraw
  -- an ASCII character of the text is one of the bytes that it was read from
  have hmem {sep : Char} (hsep : sep.toNat < 128) (hext : sep ∈ ext.toList) : sep ∈ raw.toList := by
    have hbytes := (mem_bytewise hsep).mpr hext
    rw [bytewise, ← Utf8.encode, Utf8.encode_of_decode? hread] at hbytes
    obtain ⟨b, hb, rfl⟩ := List.mem_map.mp hbytes
    obtain ⟨c, hc, rfl⟩ := List.mem_map.mp hb
    have hpath := mem_of_mem_extension hraw hc
    rw [String.toList_ofList] at hpath
    obtain ⟨b, -, rfl⟩ := List.mem_map.mp hpath
    rw [toNat_ofNat_byte, UInt8.ofNat_toNat]
    exact hc
  exact ⟨mt (hmem (by decide)) hdot, mt (hmem (by decide)) hslash⟩

end LineScope.Path
