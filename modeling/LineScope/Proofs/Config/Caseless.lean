import LineScope.Proofs.Config.Extensions
import LineScope.Proofs.Language

/-!
# Extensions in any case

The language of a path depends on the lowercase form of its extension alone (`languageForPath?_eq`): the
configured extensions are looked up by it, and those that are known without a configuration could be
(`Language.ofExtension?_eq`). So paths whose extensions have one lowercase form have one language
(`languageFor_caseless`).

No extension is out of reach of a configuration. The lowercase form of an extension is not empty, has no dot
in front and is its own lowercase form, which is all that the check asks for; and an entry of that form is
found (`usable_lowercase`, `lowercase_configurable`).
-/
namespace LineScope.Config

open Text (lowercase Utf8.encode)

/-! ## Looking up -/

/-- The language of the files whose extension has the lowercase form. -/
def languageOfLowercase? (c : Config) (small : String) : Option Language :=
  (c.extensions.lookup small).or (Language.all.find? (·.extensions.contains small))

theorem languageForPathBytes?_eq (c : Config) (path : List UInt8) :
    c.languageForPathBytes? path =
      ((Path.extensionOfBytes? path).map lowercase).bind c.languageOfLowercase? := by
  unfold languageForPathBytes?
  cases Path.extensionOfBytes? path with
  | none => rfl
  | some ext =>
    simp only [Option.map_some, Option.bind_some, bind, languageOfLowercase?, Language.ofExtension?_eq]
    cases c.extensions.lookup (lowercase ext) <;> rfl

theorem languageForPathBytes?_encode (c : Config) (path : String) :
    c.languageForPathBytes? (Utf8.encode path) = c.languageForPath? path := by
  rw [languageForPathBytes?, Path.extensionOfBytes?_encode, languageForPath?]

theorem languageForPath?_eq (c : Config) (path : String) :
    c.languageForPath? path = ((Path.extension? path).map lowercase).bind c.languageOfLowercase? := by
  rw [← languageForPathBytes?_encode, languageForPathBytes?_eq, Path.extensionOfBytes?_encode]

/-- **Case plays no part.** Two paths whose extensions have one lowercase form have one language, be the
paths texts or any bytes. Where no extensions are configured, it is the one that is known without a
configuration. -/
theorem languageFor_caseless (c : Config) :
    (∀ path path' ext ext', Path.extensionOfBytes? path = some ext →
      Path.extensionOfBytes? path' = some ext' → lowercase ext = lowercase ext' →
      c.languageForPathBytes? path = c.languageForPathBytes? path') ∧
    (∀ path path' ext ext', Path.extension? path = some ext → Path.extension? path' = some ext' →
      lowercase ext = lowercase ext' → c.languageForPath? path = c.languageForPath? path') ∧
    (c.extensions = [] →
      (∀ path, c.languageForPathBytes? path = Language.ofPathBytes? path) ∧
        ∀ path, c.languageForPath? path = Language.ofPath? path) := by
  refine ⟨fun path path' ext ext' h h' hsame => ?_, fun path path' ext ext' h h' hsame => ?_,
    fun hempty => ⟨fun path => ?_, fun path => ?_⟩⟩
  · rw [languageForPathBytes?_eq, languageForPathBytes?_eq, h, h', Option.map_some, Option.map_some,
      hsame]
  · rw [languageForPath?_eq, languageForPath?_eq, h, h', Option.map_some, Option.map_some, hsame]
  · simp [languageForPathBytes?, Language.ofPathBytes?, hempty, bind]
  · simp [languageForPath?, Language.ofPath?, hempty, bind]

def kelvins : Config := ⟨none, [("k", .rust)]⟩

/-- The Kelvin sign is a capital k: a file `a.` with it, its name no text otherwise, is in Rust like `a.k`. -/
theorem languageFor_caseless_kelvins :
    kelvins.languageForPathBytes? ([0xFF, 0x2E] ++ Utf8.encode "\u212A") =
        kelvins.languageForPathBytes? (Utf8.encode "a.k") ∧
      kelvins.languageForPath? "a.\u212A" = kelvins.languageForPath? "a.k" ∧
      kelvins.languageForPath? "a.k" = some .rust ∧
      Config.empty.languageForPath? "a.PYI" = Language.ofPath? "a.PYI" := by
  obtain ⟨hbytes, htext, -⟩ := languageFor_caseless kelvins
  have hkelvin : lowercase "\u212A" = lowercase "k" := by decide +kernel
  exact ⟨hbytes _ _ "\u212A" "k" (by decide +kernel) (by decide +kernel) hkelvin,
    htext _ _ "\u212A" "k" (by decide +kernel) (by decide +kernel) hkelvin, by decide +kernel,
    ((languageFor_caseless Config.empty).2.2 rfl).2 _⟩

/-! ## Checking -/

theorem validate_of_usable {c : Config} (htimeout : c.parseTimeoutMicros ≠ some 0)
    (h : ∀ entry ∈ c.extensions, usable entry.1 = true) : c.validate = .ok c := by
  have hfind : c.extensions.find? (!usable ·.1) = none := by
    rw [List.find?_eq_none]
    intro entry hentry
    simp [h entry hentry]
  rw [validate, if_neg htimeout, hfind]

theorem usable_lowercase {ext : String} (hne : ext ≠ "") (hdot : '.' ∉ ext.toList) :
    usable (lowercase ext) = true := by
  have hhead : (lowercase ext).toList.head? ≠ some '.' := by
    intro hhead
    exact hdot (Text.mem_of_mem_lowercase (List.mem_of_mem_head? hhead) (by decide))
  have hempty : lowercase ext ≠ "" := Text.lowercase_ne_empty hne
  simp [usable, hempty, hhead, Text.lowercase_lowercase]

/-- **Every extension can be configured.** Take the extension of any path, if it is text and not empty, and the
configuration whose one entry maps its lowercase form to a language. With no timeout, or one above zero, the
configuration passes its check, and it gives the path that language, whatever else is known of the extension.
For the lowercase form is its own lowercase form, as the check demands. -/
theorem lowercase_configurable {path : List UInt8} {ext : String}
    (hext : Path.extensionOfBytes? path = some ext) (hne : ext ≠ "") (language : Language)
    {timeout : Option UInt64} (htimeout : timeout ≠ some 0) :
    lowercase (lowercase ext) = lowercase ext ∧
      validate ⟨timeout, [(lowercase ext, language)]⟩ =
        .ok ⟨timeout, [(lowercase ext, language)]⟩ ∧
      languageForPathBytes? ⟨timeout, [(lowercase ext, language)]⟩ path = some language ∧
      ∀ text, Utf8.encode text = path →
        languageForPath? ⟨timeout, [(lowercase ext, language)]⟩ text = some language := by
  have hfound : languageForPathBytes? ⟨timeout, [(lowercase ext, language)]⟩ path = some language := by
    simp [languageForPathBytes?, hext]
  refine ⟨Text.lowercase_lowercase ext, ?_, hfound, ?_⟩
  · apply validate_of_usable htimeout
    intro entry hentry
    rw [List.mem_singleton] at hentry
    rw [hentry]
    exact usable_lowercase hne (Path.not_mem_extensionOfBytes hext).1
  · rintro text rfl
    rw [← languageForPathBytes?_encode]
    exact hfound

/-- An extension of two letters that makes three characters: the first becomes a letter and a mark, and the
second, a sigma at the end of a word, its final form. -/
theorem lowercase_configurable_twoCapitals :
    lowercase "İΣ" = "i\u0307ς" ∧
      validate ⟨some 1, [("i\u0307ς", .csharp)]⟩ = .ok ⟨some 1, [("i\u0307ς", .csharp)]⟩ ∧
      languageForPathBytes? ⟨some 1, [("i\u0307ς", .csharp)]⟩ ([0xFF, 0x2E] ++ Utf8.encode "İΣ") =
        some .csharp := by
  have hsmall : lowercase "İΣ" = "i\u0307ς" := by decide +kernel
  have hext : Path.extensionOfBytes? ([0xFF, 0x2E] ++ Utf8.encode "İΣ") = some "İΣ" := by
    decide +kernel
  obtain ⟨-, hvalid, hfound, -⟩ :=
    lowercase_configurable hext (by decide) .csharp (show some (1 : UInt64) ≠ some 0 by decide)
  rw [hsmall] at hvalid hfound
  exact ⟨hsmall, hvalid, hfound⟩

end LineScope.Config
