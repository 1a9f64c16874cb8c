import LineScope.Config
import LineScope.Proofs.Lookup
import LineScope.Proofs.Path
import LineScope.Proofs.Text.Case
import Mathlib.Data.String.Basic

/-!
# Configured extensions that no file has

A check refuses the extensions that no file could have: the empty one, one with a dot in front and one that is
not in lowercase. It does not look inside an extension. But a path is cut at its slashes and its last dot, so
an extension with a dot or a slash in it (`tar.gz`) is accepted and never looked up.

These are all of them: the entries of an accepted configuration whose extensions have neither are exactly those
that give some file its language (`reaches_iff_undivided`). The entries are a table, since reading puts each in
its place and so keeps them in order (`ascending_ofDocument`), and an extension that is its own lowercase form
is found under it.
-/
namespace LineScope

theorem exists_of_bind_eq_ok {ε α β : Type} {x : Except ε α} {f : α → Except ε β} {b : β}
    (h : x >>= f = .ok b) : ∃ a, x = .ok a ∧ f a = .ok b := by
  cases x with
  | error e => cases h
  | ok a => exact ⟨a, rfl, h⟩

theorem keeps_of_foldlM {ε α β : Type} {f : β → α → Except ε β} {P : β → Prop}
    (hstep : ∀ b a b', P b → f b a = .ok b' → P b') {as : List α} {b b' : β} (hb : P b)
    (h : as.foldlM f b = .ok b') : P b' := by
  induction as generalizing b with
  | nil =>
    cases h
    exact hb
  | cons a as ih =>
    rw [List.foldlM_cons] at h
    obtain ⟨c, hc, h⟩ := exists_of_bind_eq_ok h
    exact ih (hstep b a c hb hc) h

namespace Config

/-! ## Entries in order -/

def Ascending (entries : List (String × Language)) : Prop := (entries.map Prod.fst).Pairwise (· < ·)

theorem ascending_nil : Ascending [] := List.Pairwise.nil

theorem Ascending.nodup {entries : List (String × Language)} (h : Ascending entries) :
    (entries.map Prod.fst).Nodup :=
  List.Pairwise.imp (fun hlt => ne_of_lt hlt) h

theorem mem_keys_putExtension {ext key : String} {language : Language}
    {entries : List (String × Language)}
    (h : key ∈ (putExtension ext language entries).map Prod.fst) :
    key = ext ∨ key ∈ entries.map Prod.fst := by
  induction entries with
  | nil => simpa [putExtension] using h
  | cons entry entries ih =>
    obtain ⟨e, l⟩ := entry
    unfold putExtension at h
    split at h
    · rename_i heq
      simpa [heq] using h
    · split at h
      · simpa using h
      · rcases List.mem_cons.mp h with h | h
        · exact Or.inr (List.mem_cons.mpr (Or.inl h))
        · exact (ih h).imp_right (List.mem_cons_of_mem _)

/-- **Putting an entry** in its place keeps the order. -/
theorem ascending_putExtension {ext : String} {language : Language}
    {entries : List (String × Language)} (h : Ascending entries) :
    Ascending (putExtension ext language entries) := by
  induction entries with
  | nil => simp [putExtension, Ascending]
  | cons entry entries ih =>
    obtain ⟨e, l⟩ := entry
    obtain ⟨hfirst, hrest⟩ := List.pairwise_cons.mp h
    unfold putExtension
    split
    · rename_i heq
      rw [heq]
      exact h
    · rename_i hne
      split
      · rename_i hlt
        refine List.pairwise_cons.mpr ⟨fun key hkey => ?_, h⟩
        rcases List.mem_cons.mp hkey with rfl | hkey
        · exact hlt
        · exact lt_trans hlt (hfirst key hkey)
      · rename_i hle
        have hlt : e < ext := lt_of_le_of_ne (not_lt.mp hle) (Ne.symm hne)
        refine List.pairwise_cons.mpr ⟨fun key hkey => ?_, ih hrest⟩
        rcases mem_keys_putExtension hkey with rfl | hkey
        · exact hlt
        · exact hfirst key hkey

/-! ## Reading -/

theorem ascending_readExtensions {d : Yaml.Document} {path : String} {n : Yaml.Node}
    {entries : List (String × Language)} (h : readExtensions d path n = .ok entries) :
    Ascending entries := by
  obtain ⟨pairs, -, h⟩ := exists_of_bind_eq_ok h
  refine keeps_of_foldlM (P := Ascending) (fun entries pair entries' hentries hstep => ?_)
    ascending_nil h
  obtain ⟨ext, -, hstep⟩ := exists_of_bind_eq_ok hstep
  obtain ⟨language, -, hstep⟩ := exists_of_bind_eq_ok hstep
  cases hstep
  exact ascending_putExtension hentries

def Draft.Ascending (draft : Draft) : Prop :=
  ∀ entries, draft.extensions = some entries → Config.Ascending entries

theorem Draft.ascending_read {draft draft' : Draft} {d : Yaml.Document} {root : Yaml.Mark}
    {key value : Yaml.Node} (hdraft : draft.Ascending)
    (h : draft.read d root key value = .ok draft') : draft'.Ascending := by
  obtain ⟨name, -, h⟩ := exists_of_bind_eq_ok h
  split at h
  · split at h
    · cases h
    · obtain ⟨timeout, -, h⟩ := exists_of_bind_eq_ok h
      cases h
      exact hdraft
  · split at h
    · cases h
    · obtain ⟨entries, hentries, h⟩ := exists_of_bind_eq_ok h
      cases h
      rintro _ ⟨⟩
      exact ascending_readExtensions hentries
  · cases h

theorem ascending_ofDocument {d : Yaml.Document} {c : Config} (h : ofDocument d = .ok c) :
    Ascending c.extensions := by
  unfold ofDocument at h
  dsimp only at h
  split at h
  · -- a problem behind what was read refuses it, and changes nothing in it
    split at h
    · cases h
    · cases h
      exact ascending_nil
  · obtain ⟨pairs, -, h⟩ := exists_of_bind_eq_ok h
    obtain ⟨draft, hdraft, h⟩ := exists_of_bind_eq_ok h
    have hascending : draft.Ascending :=
      keeps_of_foldlM (fun _ _ _ => Draft.ascending_read) (by rintro _ ⟨⟩) hdraft
    split at h
    · cases h
    · cases h
      cases hextensions : draft.extensions with
      | none => simp [ascending_nil]
      | some entries => simp [hascending entries hextensions]

/-- What a check lets through it leaves as it is, and all its extensions are usable. -/
theorem usable_of_validate {c c' : Config} (h : validate c = .ok c') :
    c' = c ∧ ∀ entry ∈ c.extensions, usable entry.1 = true := by
  unfold validate at h
  split at h
  · cases h
  · split at h
    · cases h
    · rename_i hfind
      cases h
      refine ⟨rfl, fun entry hentry => ?_⟩
      simpa using List.find?_eq_none.mp hfind entry hentry

/-- **What is accepted** has its extensions in order, and they are usable. -/
theorem accepted_of_parse {text : String} {c : Config} (h : parse text = .ok c) :
    Ascending c.extensions ∧ ∀ entry ∈ c.extensions, usable entry.1 = true := by
  unfold parse at h
  split at h
  · cases h
    exact ⟨ascending_nil, by simp [empty]⟩
  · obtain ⟨config, hconfig, h⟩ := exists_of_bind_eq_ok h
    obtain ⟨rfl, husable⟩ := usable_of_validate h
    exact ⟨ascending_ofDocument hconfig, husable⟩

theorem eq_lowercase_of_usable {ext : String} (h : usable ext = true) : Text.lowercase ext = ext := by
  simp only [usable, Bool.and_eq_true, beq_iff_eq] at h
  exact h.2.symm

/-! ## Looking up -/

/-- The entry of the extension `key` gives the file at the path its language. -/
structure Reaches (c : Config) (path key : String) (language : Language) : Prop where
  entry : (key, language) ∈ c.extensions
  key : ∃ ext, Path.extension? path = some ext ∧ Text.lowercase ext = key
  language : c.languageForPath? path = some language

/-- The key has neither of the characters at which a path is cut. -/
def Undivided (key : String) : Prop := '.' ∉ key.toList ∧ '/' ∉ key.toList

instance (key : String) : Decidable (Undivided key) := inferInstanceAs (Decidable (_ ∧ _))

/-- The lowercase form of an extension has no dot and no slash, since lowercasing makes neither. -/
theorem undivided_of_extension {path ext : String} (h : Path.extension? path = some ext) :
    Undivided (Text.lowercase ext) := by
  obtain ⟨hdot, hslash⟩ := Path.not_mem_extension h
  exact ⟨fun hmem => hdot (Text.mem_of_mem_lowercase hmem (by decide)),
    fun hmem => hslash (Text.mem_of_mem_lowercase hmem (by decide))⟩

theorem undivided_of_reaches {c : Config} {path key : String} {language : Language}
    (h : c.Reaches path key language) : Undivided key := by
  obtain ⟨ext, hext, rfl⟩ := h.key
  exact undivided_of_extension hext

/-- An entry decides the language of every path whose extension has its key as lowercase form. -/
theorem reaches_of_extension {c : Config} {path ext key : String} {language : Language}
    (hascending : Ascending c.extensions) (hentry : (key, language) ∈ c.extensions)
    (hext : Path.extension? path = some ext) (hkey : Text.lowercase ext = key) :
    c.Reaches path key language := by
  have hlookup : c.extensions.lookup key = some language :=
    (lookup_eq_some_iff_mem hascending.nodup).mpr hentry
  refine ⟨hentry, ⟨ext, hext, hkey⟩, ?_⟩
  simp [languageForPath?, hext, hkey, hlookup]

theorem reaches_f {c : Config} {key : String} {language : Language}
    (hascending : Ascending c.extensions) (hentry : (key, language) ∈ c.extensions)
    (husable : usable key = true) (h : Undivided key) : c.Reaches ("f." ++ key) key language :=
  reaches_of_extension hascending hentry (Path.extension?_f h.1 h.2) (eq_lowercase_of_usable husable)

/-- **Which entries are alive.** In a configuration that is accepted, an entry gives some file its language
exactly if its key has neither a dot nor a slash in it, and then it does so for the file `f` with that
extension. -/
theorem reaches_iff_undivided {text : String} {c : Config} (h : parse text = .ok c) {key : String}
    {language : Language} (hentry : (key, language) ∈ c.extensions) :
    ((∃ path, c.Reaches path key language) ↔ Undivided key) ∧
      (c.Reaches ("f." ++ key) key language ↔ Undivided key) := by
  obtain ⟨hascending, husable⟩ := accepted_of_parse h
  have hf := reaches_f hascending hentry (husable _ hentry)
  refine ⟨⟨?_, fun hkey => ⟨_, hf hkey⟩⟩, ⟨undivided_of_reaches, hf⟩⟩
  rintro ⟨path, hpath⟩
  exact undivided_of_reaches hpath

def archives : Config := ⟨none, [("pyw", .rust), ("tar.gz", .python)]⟩

theorem reaches_iff_undivided_archives :
    parse "extensions:\n  tar.gz: python\n  pyw: rust\n" = .ok archives ∧
      archives.Reaches "f.pyw" "pyw" .rust ∧ ¬ ∃ path, archives.Reaches path "tar.gz" .python := by
  have h : parse "extensions:\n  tar.gz: python\n  pyw: rust\n" = .ok archives := by decide +kernel
  have hplain : ("pyw", Language.rust) ∈ archives.extensions := by decide
  have hcompound : ("tar.gz", Language.python) ∈ archives.extensions := by decide
  exact ⟨h, (reaches_iff_undivided h hplain).2.mpr (by decide),
    mt (reaches_iff_undivided h hcompound).1.mp (by decide)⟩

/-- A compound extension is accepted, and no file has it. -/
theorem compound_extension_dead :
    parse "extensions:\n  tar.gz: python\n" = .ok ⟨none, [("tar.gz", .python)]⟩ ∧
      (∀ path, ¬ Reaches ⟨none, [("tar.gz", .python)]⟩ path "tar.gz" .python) ∧
      languageForPath? ⟨none, [("tar.gz", .python)]⟩ "f.tar.gz" = none := by
  refine ⟨by decide +kernel, fun path h => ?_, by decide +kernel⟩
  exact absurd (undivided_of_reaches h) (by decide)

end Config

end LineScope
