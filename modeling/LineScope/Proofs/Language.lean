import LineScope.Command.Arguments
import LineScope.Proofs.Text.Case

/-!
# Names and extensions in any case

A language is called by a few words, and known by a few extensions. The words are looked up after full
Unicode lowercasing, the extensions by a comparison that knows of ASCII letters only. All of these are plain
words (`plain_of_mem`), for which the two notions are one (`Text.lowercase_eq_iff`):

* a text is a name of a language exactly if it is one of its words up to the case of ASCII letters, and
  everything else is refused, on the command line as elsewhere (`parse_iff_named`);
* the language of an extension depends on the lowercase form alone (`ofExtension?_eq`).
-/
namespace LineScope.Language

open Text

/-! ## Plain words -/

theorem plain_of_mem {language : Language} {word : String}
    (h : word ∈ language.aliases ∨ word ∈ language.extensions) : ∀ c ∈ word.toList, Plain c := by
  have hall : ∀ word ∈ language.aliases ++ language.extensions,
      word.toList.all (fun c => decide (Plain c)) = true := by
    cases language <;> decide
  intro c hc
  exact of_decide_eq_true (List.all_eq_true.mp (hall word (List.mem_append.mpr h)) c hc)

theorem ofExtension?_eq (ext : String) :
    ofExtension? ext = all.find? fun language => language.extensions.contains (lowercase ext) := by
  have hsame (language : Language) : language.extensions.any (eqIgnoreAsciiCase · ext) =
      language.extensions.contains (lowercase ext) := by
    rw [Bool.eq_iff_iff, List.any_eq_true, List.contains_iff_mem]
    constructor
    · rintro ⟨word, hword, hext⟩
      rw [(lowercase_eq_iff (plain_of_mem (Or.inr hword)) ext).mpr hext]
      exact hword
    · intro hword
      exact ⟨_, hword, (lowercase_eq_iff (plain_of_mem (Or.inr hword)) ext).mp rfl⟩
  unfold ofExtension?
  simp only [hsame]

/-! ## Names -/

inductive Named : Language → String → Prop where
  | python : Named .python "python"
  | py : Named .python "py"
  | rust : Named .rust "rust"
  | rs : Named .rust "rs"
  | csharp : Named .csharp "csharp"
  | cHash : Named .csharp "c#"
  | cs : Named .csharp "cs"

theorem named_iff_mem {language : Language} {name : String} :
    Named language name ↔ name ∈ language.aliases := by
  constructor
  · intro h
    cases h <;> decide
  · intro h
    cases language with
    | python =>
      simp only [aliases, List.mem_cons, List.not_mem_nil, or_false] at h
      rcases h with rfl | rfl
      · exact .python
      · exact .py
    | rust =>
      simp only [aliases, List.mem_cons, List.not_mem_nil, or_false] at h
      rcases h with rfl | rfl
      · exact .rust
      · exact .rs
    | csharp =>
      simp only [aliases, List.mem_cons, List.not_mem_nil, or_false] at h
      rcases h with rfl | rfl | rfl
      · exact .csharp
      · exact .cHash
      · exact .cs

theorem find_of_mem_aliases {language : Language} {name : String} (h : name ∈ language.aliases) :
    all.find? (·.aliases.contains name) = some language := by
  have hall : ∀ name ∈ language.aliases, all.find? (·.aliases.contains name) = some language := by
    cases language <;> decide
  exact hall name h

theorem parse_eq_ok {s : String} {language : Language} :
    parse s = .ok language ↔ lowercase s ∈ language.aliases := by
  unfold parse
  constructor
  · intro h
    split at h
    · rename_i found hfind
      cases h
      simpa using List.find?_some hfind
    · cases h
  · intro h
    rw [find_of_mem_aliases h]

theorem parse_eq_ok_iff {s : String} {language : Language} :
    parse s = .ok language ↔ ∃ name, Named language name ∧ eqIgnoreAsciiCase name s = true := by
  rw [parse_eq_ok]
  constructor
  · intro h
    exact ⟨_, named_iff_mem.mpr h, (lowercase_eq_iff (plain_of_mem (Or.inl h)) s).mp rfl⟩
  · rintro ⟨name, hname, hs⟩
    rw [named_iff_mem] at hname
    rw [(lowercase_eq_iff (plain_of_mem (Or.inl hname)) s).mpr hs]
    exact hname

theorem lowerAscii_of_white {c : Char} (h : isWhite c = true) : lowerAscii c = c := by
  rw [lowerAscii, if_neg]
  intro hcapital
  have hbounds : 65 ≤ c.toNat ∧ c.toNat ≤ 90 := hcapital
  simp [isWhite, inRanges, whiteRanges] at h
  omega

theorem char_of_parse {s : String} {language : Language} (h : parse s = .ok language) :
    ∀ c ∈ s.toList, c.toNat < 128 ∧ isWhite c = false := by
  obtain ⟨name, hname, hs⟩ := parse_eq_ok_iff.mp h
  rw [named_iff_mem] at hname
  have hplain := plain_of_mem (Or.inl hname)
  rw [eqIgnoreAsciiCase, beq_iff_eq] at hs
  intro c hc
  have hletter : lowerAscii c ∈ name.toList.map lowerAscii := hs ▸ List.mem_map_of_mem hc
  obtain ⟨d, hd, hcd⟩ := List.mem_map.mp hletter
  rw [(hplain d hd).small] at hcd
  have hascii : (lowerAscii c).toNat < 128 := hcd ▸ (hplain d hd).ascii
  refine ⟨ascii_of_lowerAscii hascii, ?_⟩
  rw [← Bool.not_eq_true]
  intro hwhite
  have hblack : ∀ name ∈ language.aliases, name.toList.all (fun d => !isWhite d) = true := by
    cases language <;> decide
  have hd' := List.all_eq_true.mp (hblack name hname) d hd
  rw [hcd, lowerAscii_of_white hwhite, hwhite] at hd'
  cases hd'

/-! ## The option -/

theorem languageValue_eq_ok {s : String} {language : Language} :
    Arguments.languageValue s = .ok language ↔ parse s = .ok language := by
  unfold Arguments.languageValue
  cases parse s with
  | ok found =>
    constructor
    · intro h
      cases h
      rfl
    · intro h
      cases h
      rfl
  | error unknown => constructor <;> intro h <;> cases h

/-- The option refuses what is no name, and says so without the heading. -/
theorem languageValue_eq_error {s message : String} :
    Arguments.languageValue s = .error message ↔
      ∃ unknown, parse s = .error unknown ∧
        unknown.toError.message = "configuration error: " ++ message := by
  unfold Arguments.languageValue
  cases parse s with
  | ok found =>
    constructor
    · intro h
      cases h
    · rintro ⟨unknown, h, -⟩
      cases h
  | error unknown =>
    have hfull : unknown.toError.message = "configuration error: " ++ unknown.toError.bareMessage := rfl
    constructor
    · intro h
      cases h
      exact ⟨unknown, rfl, hfull⟩
    · rintro ⟨unknown', h, hmessage⟩
      cases h
      rw [hfull, String.append_right_inj] at hmessage
      rw [← hmessage]
      rfl

/-- **The names of the languages.** A text is read as a language exactly if it is one of the language's names
up to the case of ASCII letters; so it is ASCII, and has no white space around it or in it. Any other text is
an error of the configuration. The option for a language takes the same texts, and says what is wrong with
another one in the words of that error without its heading. -/
theorem parse_iff_named (s : String) :
    (∀ language, parse s = .ok language ↔
      ∃ name, Named language name ∧ eqIgnoreAsciiCase name s = true) ∧
    (∀ language, parse s = .ok language → ∀ c ∈ s.toList, c.toNat < 128 ∧ isWhite c = false) ∧
    ((¬ ∃ language name, Named language name ∧ eqIgnoreAsciiCase name s = true) →
      ∃ unknown, parse s = .error unknown ∧ unknown.toError.category = .config) ∧
    (∀ language, Arguments.languageValue s = .ok language ↔ parse s = .ok language) ∧
    ∀ message, Arguments.languageValue s = .error message ↔
      ∃ unknown, parse s = .error unknown ∧
        unknown.toError.message = "configuration error: " ++ message := by
  refine ⟨fun language => parse_eq_ok_iff, fun language => char_of_parse, fun hnone => ?_,
    fun language => languageValue_eq_ok, fun message => languageValue_eq_error⟩
  cases hparse : parse s with
  | ok language => exact absurd ⟨language, parse_eq_ok_iff.mp hparse⟩ hnone
  | error unknown => exact ⟨unknown, rfl, rfl⟩

/-- The long s is a letter of its own: it makes no name. -/
theorem parse_iff_named_longS :
    parse "C#" = .ok .csharp ∧ (∀ c ∈ "C#".toList, c.toNat < 128 ∧ isWhite c = false) ∧
      (¬ ∃ language name, Named language name ∧ eqIgnoreAsciiCase name "ruſt" = true) ∧
      ∃ unknown, parse "ruſt" = .error unknown ∧ unknown.toError.category = .config := by
  obtain ⟨hok, hchars, -⟩ := parse_iff_named "C#"
  obtain ⟨hok', -, hrefused, -⟩ := parse_iff_named "ruſt"
  have hsharp : parse "C#" = .ok .csharp := (hok .csharp).mpr ⟨"c#", .cHash, by decide +kernel⟩
  have hnone : ¬ ∃ language name, Named language name ∧ eqIgnoreAsciiCase name "ruſt" = true := by
    rintro ⟨language, name, hname, hcase⟩
    cases hname <;> exact absurd hcase (by decide +kernel)
  exact ⟨hsharp, hchars .csharp hsharp, hnone, hrefused hnone⟩

end LineScope.Language
