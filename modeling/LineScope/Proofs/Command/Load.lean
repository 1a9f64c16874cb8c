import LineScope.Proofs.Command.Status
import LineScope.Proofs.Config.Extensions

/-!
# What is loaded, and what stands in the way

Several things can be wrong with a request at once: the working directory, the configuration, the language of the
file, the file itself. One order decides which of them is reported, and several places can say what the language is,
of which one decides (`Config.Picks`). All of it is one statement over every combination (`load_precedence`). A
working directory that is gone comes first, even where every path is absolute.

The other half is what has no influence. A configuration that is asked for by its path puts the usual one out
of play, and a language that is asked for puts all extensions out of play, those of the file and those of the
configuration. Both compare two loads, in worlds that need not have much in common.
-/
namespace LineScope

open Text (Utf8.encode)

/-! ## Reading -/

theorem Files.readText_eq_ok_iff {files : Files} {path : FilePath} {text : String} :
    files.readText path = .ok text ↔ files.read path = .ok (Utf8.encode text) := by
  constructor
  · intro h
    obtain ⟨bytes, hbytes, h⟩ := exists_of_bind_eq_ok h
    split at h
    · rename_i decoded hdecoded
      cases h
      rw [hbytes, Text.Utf8.encode_of_decode? hdecoded]
    · cases h
  · exact readText_of_encode

theorem Files.exists_fault {files : Files} {path : FilePath}
    (h : ∀ text, files.read path ≠ .ok (Utf8.encode text)) :
    ∃ fault, files.readText path = .error fault := by
  cases hread : files.readText path with
  | error fault => exact ⟨fault, rfl⟩
  | ok text => exact absurd (readText_eq_ok_iff.mp hread) (h text)

theorem Files.readText_congr {files files' : Files} {path path' : FilePath}
    (h : files'.read path' = files.read path) : files'.readText path' = files.readText path := by
  unfold readText
  rw [h]

namespace Config

theorem load_congr {files files' : Files} {path : FilePath} (h : files'.read path = files.read path) :
    load files' path = load files path := by
  unfold load
  rw [Files.readText_congr h]

theorem ascending_load {files : Files} {path : FilePath} {c : Config} (h : load files path = .ok c) :
    Ascending c.extensions := by
  unfold load at h
  split at h
  · cases h
  · split at h
    · cases h
    · rename_i hparse
      cases h
      exact (accepted_of_parse hparse).1

theorem ascending_discover {files : Files} {path : Option FilePath} {dir : FilePath} {c : Config}
    (h : discover files path dir = .ok c) : Ascending c.extensions := by
  unfold discover at h
  dsimp only at h
  split at h
  · exact ascending_load h
  · split at h
    · cases h
    · exact ascending_load h
    · cases h
      exact ascending_nil

/-! ## The language -/

/-- Which language a file is taken to be in: the one that is asked for, else the one that is configured for its
extension, else the one that its extension is known for. -/
inductive Picks (c : Config) (asked : Option Language) (file : FilePath) : Language → Prop where
  | asked {language : Language} (h : asked = some language) : Picks c asked file language
  | configured {language : Language} {ext : String} (h : asked = none)
    (hext : Path.extensionOfBytes? file.bytes = some ext) (hentry : (Text.lowercase ext, language) ∈ c.extensions) :
    Picks c asked file language
  | known {language : Language} {ext : String} (h : asked = none)
    (hext : Path.extensionOfBytes? file.bytes = some ext)
    (hnone : ∀ other, (Text.lowercase ext, other) ∉ c.extensions)
    (hknown : Language.ofExtension? ext = some language) : Picks c asked file language

theorem picks_iff {c : Config} (hc : Ascending c.extensions) {asked : Option Language} {file : FilePath}
    {language : Language} :
    asked.or (c.languageForPathBytes? file.bytes) = some language ↔ c.Picks asked file language := by
  have hlookup (key : String) (l : Language) :
      c.extensions.lookup key = some l ↔ (key, l) ∈ c.extensions := lookup_eq_some_iff_mem hc.nodup
  constructor
  · intro h
    cases asked with
    | some l => exact .asked (by simpa using h)
    | none =>
      rw [Option.none_or] at h
      unfold languageForPathBytes? at h
      cases hext : Path.extensionOfBytes? file.bytes with
      | none => simp [hext] at h
      | some ext =>
        simp only [hext, bind, Option.bind_some] at h
        cases hfound : c.extensions.lookup (Text.lowercase ext) with
        | some l =>
          rw [hfound] at h
          cases h
          exact .configured rfl hext ((hlookup _ _).mp hfound)
        | none =>
          rw [hfound] at h
          refine .known rfl hext (fun other hmem => ?_) h
          rw [(hlookup _ _).mpr hmem] at hfound
          cases hfound
  · intro h
    cases h with
    | asked h => simp [h]
    | configured h hext hentry =>
      simp [h, languageForPathBytes?, hext, (hlookup _ _).mpr hentry]
    | @known ext h hext hnone hknown =>
      have hmissing : c.extensions.lookup (Text.lowercase ext) = none := by
        rw [Option.eq_none_iff_forall_ne_some]
        intro l hl
        exact hnone l ((hlookup _ _).mp hl)
      simp [h, languageForPathBytes?, hext, hmissing, hknown]

end Config

theorem Registry.handle_new {initializer : Initializer} {language : Language} {options : ParseOptions}
    {h : Handle} (hmade : initializer language options = .ok h) :
    ((Registry.new options).handle initializer language).2 = .ok ⟨0, h⟩ := by
  simp only [handle, new, hmade]
  rfl

namespace Command

/-! ## The stages -/

section Stages

variable {w : World} {file dir : FilePath} {asked : Option Language} {config : Option FilePath}

theorem loadSource_of_no_cwd {fault : ReadFault} (h : w.cwd = .error fault) :
    loadSource w file asked config = .error fault.toError := by
  unfold loadSource
  rw [h]

theorem loadSource_of_trouble (hdir : w.cwd = .ok dir) {trouble : Config.Trouble}
    (h : Config.discover w.files config dir = .error trouble) :
    loadSource w file asked config = .error trouble.toError := by
  unfold loadSource
  rw [hdir]
  simp only [h]

variable {c : Config} {language : Language}

theorem loadSource_of_no_language (hdir : w.cwd = .ok dir)
    (hc : Config.discover w.files config dir = .ok c)
    (h : ∀ language, ¬ c.Picks asked file language) :
    loadSource w file asked config = .error (unknownLanguage file) := by
  have hnone : asked.or (c.languageForPathBytes? file.bytes) = none := by
    rw [Option.eq_none_iff_forall_ne_some]
    intro language hl
    exact h language ((Config.picks_iff (Config.ascending_discover hc)).mp hl)
  unfold loadSource
  rw [hdir]
  simp only [hc, hnone]

theorem loadSource_of_fault (hdir : w.cwd = .ok dir)
    (hc : Config.discover w.files config dir = .ok c) (hlanguage : c.Picks asked file language)
    {fault : ReadFault} (h : w.files.readText file = .error fault) :
    loadSource w file asked config = .error (unreadable file fault) := by
  have hpicked := (Config.picks_iff (Config.ascending_discover hc)).mpr hlanguage
  unfold loadSource
  rw [hdir]
  simp only [hc, hpicked, h]

theorem loadSource_of_text (hdir : w.cwd = .ok dir)
    (hc : Config.discover w.files config dir = .ok c) (hlanguage : c.Picks asked file language)
    {text : String} {h : Handle} (htext : w.files.read file = .ok (Utf8.encode text))
    (hmade : w.initializer language c.parseOptions = .ok h) :
    loadSource w file asked config = .ok ⟨file, text, h⟩ := by
  have hpicked := (Config.picks_iff (Config.ascending_discover hc)).mpr hlanguage
  have hread := Files.readText_of_encode htext
  have hhandle := Registry.handle_new hmade
  unfold loadSource
  rw [hdir]
  simp only [hc, hpicked, hread, hhandle]

end Stages

/-! ## Two loads -/

/-- What is loaded under a configuration that is asked for depends on two reads: of that configuration, and of the
file. -/
theorem loadSource_of_reads {w : World} {files : Files} {file path : FilePath}
    {asked : Option Language} (hpath : files.read path = w.files.read path)
    (hfile : files.read file = w.files.read file) :
    loadSource { w with files } file asked (some path) = loadSource w file asked (some path) := by
  have hconfig (dir : FilePath) :
      Config.discover files (some path) dir = Config.discover w.files (some path) dir :=
    Config.load_congr hpath
  unfold loadSource
  simp only [hconfig, Files.readText_congr hfile]

/-- Two outcomes are the same but for the file that they name. -/
inductive Echoes (file file' : FilePath) : Except Error Loaded → Except Error Loaded → Prop where
  | loaded (text : String) (handle : Handle) :
    Echoes file file' (.ok ⟨file, text, handle⟩) (.ok ⟨file', text, handle⟩)
  | unread (fault : ReadFault) :
    Echoes file file' (.error (unreadable file fault)) (.error (unreadable file' fault))
  | failed (e : Error) : Echoes file file' (.error e) (.error e)

/-- With a language that is asked for, nothing is looked up in the configuration but its options. -/
theorem loadSource_asked {w : World} {file dir : FilePath} {config : Option FilePath}
    (hdir : w.cwd = .ok dir) (language : Language) :
    loadSource w file (some language) config =
      match (Config.discover w.files config dir).map Config.parseOptions with
      | .error trouble => .error trouble.toError
      | .ok options =>
        match w.files.readText file with
        | .error fault => .error (unreadable file fault)
        | .ok text =>
          match ((Registry.new options).handle w.initializer language).2 with
          | .error e => .error e
          | .ok found => .ok ⟨file, text, found.handle⟩ := by
  unfold loadSource
  rw [hdir]
  dsimp only
  generalize Config.discover w.files config dir = found
  cases found with
  | error trouble => rfl
  | ok c => rfl

/-- What is loaded in a language that is asked for depends on how the configuration lets parses be made, and on what
the file holds. -/
theorem loadSource_echoes {w w' : World} {file file' : FilePath} {config config' : Option FilePath}
    (hcwd : w'.cwd = w.cwd) (hinit : w'.initializer = w.initializer)
    (hoptions : ∀ dir, w.cwd = .ok dir →
      (Config.discover w'.files config' dir).map Config.parseOptions =
        (Config.discover w.files config dir).map Config.parseOptions)
    (hfile : w'.files.read file' = w.files.read file) (language : Language) :
    Echoes file file' (loadSource w file (some language) config)
      (loadSource w' file' (some language) config') := by
  cases hdir : w.cwd with
  | error fault =>
    rw [loadSource_of_no_cwd hdir, loadSource_of_no_cwd (hcwd.trans hdir)]
    exact .failed _
  | ok dir =>
    rw [loadSource_asked hdir, loadSource_asked (hcwd.trans hdir), hoptions dir hdir, hinit,
      Files.readText_congr hfile]
    cases (Config.discover w.files config dir).map Config.parseOptions with
    | error trouble => exact .failed _
    | ok options =>
      cases w.files.readText file with
      | error fault => exact .unread fault
      | ok text =>
        dsimp only
        cases ((Registry.new options).handle w.initializer language).2 with
        | error e => exact .failed e
        | ok found => exact .loaded text found.handle

/-- **What is loaded.** If the working directory cannot be told, that is reported before anything else. Else, if there
is trouble with the configuration, the trouble is reported, whatever the file and its language. Else, if nothing tells
the language, that is reported, whether or not the file can be read. Else, if the file holds no text, it is reported
as unreadable. Else, if the grammar loads, the text is loaded as the file holds it, with a parser of the language that
comes first and with the configured timeout.

With a configuration that is asked for, nothing else in the file system has a part in this but the file itself; so
it does not matter whether there is a configuration under the usual name, or what is in it. With a language that is
asked for, neither the name of the file has a part in it, but that it is repeated, nor anything in an accepted
configuration but its timeout; so extensions do not matter, the file's or those that are configured. -/
theorem load_precedence (w : World) (file : FilePath) (asked : Option Language)
    (config : Option FilePath) :
    (∀ fault, w.cwd = .error fault →
      loadSource w file asked config = .error fault.toError ∧ fault.toError.category = .io) ∧
    (∀ dir, w.cwd = .ok dir →
      (∀ trouble, Config.discover w.files config dir = .error trouble →
        loadSource w file asked config = .error trouble.toError) ∧
      ∀ c, Config.discover w.files config dir = .ok c →
        ((∀ language, ¬ c.Picks asked file language) →
          loadSource w file asked config = .error (unknownLanguage file) ∧
            (unknownLanguage file).category = .config) ∧
        ∀ language, c.Picks asked file language →
          ((∀ text, w.files.read file ≠ .ok (Utf8.encode text)) →
            ∃ fault, loadSource w file asked config = .error (unreadable file fault) ∧
              (unreadable file fault).category = .io) ∧
          ∀ text, w.files.read file = .ok (Utf8.encode text) →
            w.initializer language c.parseOptions = .ok (.make language c.parseOptions) →
            loadSource w file asked config =
              .ok ⟨file, text, .make language ⟨c.parseTimeoutMicros⟩⟩) ∧
    (∀ path files, config = some path → files.read path = w.files.read path →
      files.read file = w.files.read file →
      loadSource { w with files } file asked config = loadSource w file asked config) ∧
    ∀ language files file' config', asked = some language →
      (∀ dir, w.cwd = .ok dir →
        (Config.discover files config' dir).map Config.parseOptions =
          (Config.discover w.files config dir).map Config.parseOptions) →
      files.read file' = w.files.read file →
      Echoes file file' (loadSource w file asked config)
        (loadSource { w with files } file' asked config') := by
  refine ⟨fun fault hfault => ⟨loadSource_of_no_cwd hfault, rfl⟩, fun dir hdir => ⟨?_, ?_⟩, ?_, ?_⟩
  · exact fun trouble => loadSource_of_trouble hdir
  · refine fun c hc => ⟨fun hnone => ?_, fun language hlanguage => ⟨fun hread => ?_, ?_⟩⟩
    · exact ⟨loadSource_of_no_language hdir hc hnone, rfl⟩
    · obtain ⟨fault, hfault⟩ := Files.exists_fault hread
      exact ⟨fault, loadSource_of_fault hdir hc hlanguage hfault, rfl⟩
    · exact fun text htext hmade => loadSource_of_text hdir hc hlanguage htext hmade
  · rintro path files rfl hpath hfile
    exact loadSource_of_reads hpath hfile
  · rintro language files file' config' rfl hoptions hfile
    exact @loadSource_echoes w { w with files } file file' config config' rfl rfl hoptions hfile language

/-- A file that is known for Rust, two configurations that take it for something else, and a third one, under the
usual name, that is none. One more file has a name that is no text. -/
def contested (cwd : Except ReadFault FilePath) (usual : Except ReadFault (List UInt8)) : World where
  cwd := cwd
  files := .ofContents [(.ofText "/work/.enclosure.yaml", usual),
    (.ofText "/python.yaml", .ok (Utf8.encode "parse-timeout-micros: 7\nextensions:\n  rs: python\n")),
    (.ofText "/csharp.yaml", .ok (Utf8.encode "extensions:\n  rs: csharp\nparse-timeout-micros: 7\n")),
    (.ofText "/a.rs", .ok (Utf8.encode "π\n")), (.ofText "/a", .ok (Utf8.encode "π\n")),
    (⟨0xFF :: Utf8.encode ".rs"⟩, .ok [0xFF])]
  engine := ⟨fun _ _ => assignmentTree, fun _ _ _ => assignmentTree⟩
  clock := ⟨fun _ _ _ => .inTime⟩
  initializer := .bundled
  colour := false

/-- The file is loaded as Python where that is configured, also without a configuration under the usual name, but not
without a working directory. Trouble with the usual configuration comes before a missing file, as does its unknown
language, and bytes that are no text come last. A language that is asked for makes extensions and their configurations
alike. -/
theorem load_precedence_contested :
    let w := contested (.ok (.ofText "/work")) (.ok (Utf8.encode "extensions: ["))
    let python := some (FilePath.ofText "/python.yaml")
    loadSource w (.ofText "/a.rs") none python = .ok ⟨.ofText "/a.rs", "π\n", .make .python ⟨some 7⟩⟩ ∧
      loadSource (contested (.ok (.ofText "/work")) (.error .missing)) (.ofText "/a.rs") none python =
        loadSource w (.ofText "/a.rs") none python ∧
      loadSource (contested (.error .missing) (.error .missing)) (.ofText "/a.rs") none python =
        .error ReadFault.missing.toError ∧
      (∃ trouble, loadSource w (.ofText "/missing") none none = .error (Config.Trouble.toError trouble)) ∧
      loadSource w (.ofText "/missing") none python = .error (unknownLanguage (.ofText "/missing")) ∧
      (∃ fault, loadSource w ⟨0xFF :: Utf8.encode ".rs"⟩ none python =
        .error (unreadable ⟨0xFF :: Utf8.encode ".rs"⟩ fault)) ∧
      Echoes (.ofText "/a.rs") (.ofText "/a") (loadSource w (.ofText "/a.rs") (some .rust) python)
        (loadSource w (.ofText "/a") (some .rust) (some (.ofText "/csharp.yaml"))) := by
  intro w python
  have hdir : w.cwd = .ok (.ofText "/work") := rfl
  have hpython (dir : FilePath) :
      Config.discover w.files python dir = .ok ⟨some 7, [("rs", .python)]⟩ := by
    have hload : Config.load w.files (.ofText "/python.yaml") = .ok ⟨some 7, [("rs", .python)]⟩ := by
      decide +kernel
    exact hload
  have hcsharp (dir : FilePath) : Config.discover w.files (some (.ofText "/csharp.yaml")) dir =
      .ok ⟨some 7, [("rs", .csharp)]⟩ := by
    have hload : Config.load w.files (.ofText "/csharp.yaml") = .ok ⟨some 7, [("rs", .csharp)]⟩ := by
      decide +kernel
    exact hload
  have husual : ∃ trouble, Config.discover w.files none (.ofText "/work") = .error trouble := by
    cases h : Config.discover w.files none (.ofText "/work") with
    | error trouble => exact ⟨trouble, rfl⟩
    | ok c =>
      have hfails : (Config.discover w.files none (.ofText "/work")).isOk = false := by decide +kernel
      rw [h] at hfails
      cases hfails
  have hpicks {file : FilePath} (hext : Path.extensionOfBytes? file.bytes = some "rs") :
      Config.Picks ⟨some 7, [("rs", .python)]⟩ none file .python :=
    .configured rfl hext (by decide +kernel)
  obtain ⟨trouble, htrouble⟩ := husual
  obtain ⟨-, hload, husual', -⟩ := load_precedence w (.ofText "/a.rs") none python
  obtain ⟨hgone, -⟩ :=
    load_precedence (contested (.error .missing) (.error .missing)) (.ofText "/a.rs") none python
  obtain ⟨-, hreport, -⟩ := load_precedence w (.ofText "/missing") none none
  obtain ⟨-, hmissing, -⟩ := load_precedence w (.ofText "/missing") none python
  obtain ⟨-, hbytes, -⟩ := load_precedence w ⟨0xFF :: Utf8.encode ".rs"⟩ none python
  obtain ⟨-, -, -, hechoes⟩ := load_precedence w (.ofText "/a.rs") (some .rust) python
  refine ⟨?_, ?_, (hgone _ rfl).1, ⟨trouble, (hreport _ hdir).1 trouble htrouble⟩, ?_, ?_, ?_⟩
  · have hread : w.files.read (.ofText "/a.rs") = .ok (Utf8.encode "π\n") := by decide +kernel
    exact (((hload _ hdir).2 _ (hpython _)).2 .python (hpicks (by decide +kernel))).2 _ hread rfl
  · refine husual' (.ofText "/python.yaml") (contested (.ok (.ofText "/work")) (.error .missing)).files
      rfl ?_ ?_ <;> decide +kernel
  · refine (((hmissing _ hdir).2 _ (hpython _)).1 ?_).1
    have hext : Path.extensionOfBytes? (FilePath.ofText "/missing").bytes = none := by decide +kernel
    intro language h
    cases h with
    | asked h => cases h
    | configured _ h _ => rw [hext] at h; cases h
    | known _ h _ _ => rw [hext] at h; cases h
  · have hnotext : ∀ text, w.files.read ⟨0xFF :: Utf8.encode ".rs"⟩ ≠ .ok (Utf8.encode text) := by
      intro text htext
      have hbroken : Text.Utf8.decode? [0xFF] = none := by decide +kernel
      have hread : w.files.read ⟨0xFF :: Utf8.encode ".rs"⟩ = .ok [0xFF] := by decide +kernel
      rw [hread, Except.ok.injEq] at htext
      rw [htext, Text.Utf8.decode?_encode] at hbroken
      cases hbroken
    obtain ⟨hunreadable, -⟩ :=
      ((hbytes _ hdir).2 _ (hpython _)).2 .python (hpicks (by decide +kernel))
    obtain ⟨fault, hfault, -⟩ := hunreadable hnotext
    exact ⟨fault, hfault⟩
  · refine hechoes .rust w.files (.ofText "/a") (some (.ofText "/csharp.yaml")) rfl
      (fun dir _ => by rw [hpython, hcsharp]; rfl) ?_
    decide +kernel

end Command

end LineScope
