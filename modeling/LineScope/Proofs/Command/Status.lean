import LineScope.Command.Run
import LineScope.Proofs.Parser.Verdict

/-!
# The exit status of the commands

Both commands load a source file and parse it, and then part. One searches the tree and reports an error
of the parse as an error of its own. The other keeps no tree and turns such an error into a verdict on
the file. Their exit statuses come out of two different places, and yet they agree: each is the status
that loading and parsing alone decide (`status`).

The search adds two ways to fail: an addition that leaves its word, and a node that leaves its text. Both are
excluded for trees in bounds; then every range has an answer (`contextOf_of_inBounds`), and finding no node is
one. If only the rows and columns are known to be small, a search panics exactly where the node that it finds
leaves the text (`find_code_of_short`).

Results:
* `find_code`, `check_code`: the status of either command is that of loading and parsing.
* `commands_agree`: two runs on the same files whose parses agree leave with the same status, and which
  one it is.
-/
namespace LineScope

open TreeNode

theorem Handle.category_of_parse_error {engine : Engine} {verdict : Verdict} {h : Handle}
    {text : String} {e : Error} (he : (h.parse engine verdict text).2 = .error e) :
    e.category = .parse := by
  unfold Handle.parse at he
  split at he
  · cases he
  · cases he
    rfl

theorem Files.readText_of_encode {files : Files} {path : FilePath} {text : String}
    (h : files.read path = .ok (Text.Utf8.encode text)) : files.readText path = .ok text := by
  have hdecode := Text.Utf8.decode?_encode text
  simp [readText, h, hdecode, bind, Except.bind, pure, Except.pure]

namespace Command

/-- What parsing the loaded text gives. -/
def Loaded.parsed (w : World) (source : Loaded) : Except Error SourceTree :=
  (source.handle.parse w.engine (verdict w source) source.text).2

section

variable (w : World) (file : FilePath) (language : Option Language) (config : Option FilePath)

/-- The request is at fault: what is asked for cannot be loaded, for a reason that the caller can
mend. -/
def Refused : Prop :=
  ∃ e, loadSource w file language config = .error e ∧
    (e.category = .invalidInput ∨ e.category = .config)

def Parses : Prop :=
  ∃ source tree, loadSource w file language config = .ok source ∧ source.parsed w = .ok tree

/-- Where the file is loaded and its text has a tree, the tree is in bounds. -/
def BoundedTree : Prop :=
  ∀ source tree, loadSource w file language config = .ok source → source.parsed w = .ok tree →
    tree.InBounds source.text

/-- The exit status that loading and parsing decide. -/
def status : Nat :=
  match loadSource w file language config with
  | .error e => exitStatus e
  | .ok source =>
    match source.parsed w with
    | .error _ => 1
    | .ok _ => 0

end

section Status

variable {w w' : World} {file : FilePath} {language : Option Language} {config : Option FilePath}

theorem exitStatus_eq_two (e : Error) :
    exitStatus e = 2 ↔ e.category = .invalidInput ∨ e.category = .config := by
  unfold exitStatus
  cases e.category <;> simp [Category.isRequest]

theorem exitStatus_cases (e : Error) : exitStatus e = 1 ∨ exitStatus e = 2 := by
  unfold exitStatus
  split
  · exact Or.inr rfl
  · exact Or.inl rfl

theorem status_eq_two : status w file language config = 2 ↔ Refused w file language config := by
  unfold status Refused
  cases hload : loadSource w file language config with
  | error e => simp [exitStatus_eq_two]
  | ok source => cases hparse : source.parsed w <;> simp [hparse]

theorem status_eq_zero : status w file language config = 0 ↔ Parses w file language config := by
  unfold status Parses
  cases hload : loadSource w file language config with
  | error e => rcases exitStatus_cases e with he | he <;> simp [he]
  | ok source => cases hparse : source.parsed w <;> simp [hparse]

theorem status_cases (w : World) (file : FilePath) (language : Option Language)
    (config : Option FilePath) : status w file language config = 0 ∨ status w file language config = 1 ∨
    status w file language config = 2 := by
  unfold status
  split
  · exact Or.inr (exitStatus_cases _)
  · split
    · exact Or.inr (Or.inl rfl)
    · exact Or.inl rfl

/-! ## The two commands -/

/-- A dry run fails exactly where the parse does. -/
theorem check_code (json : Bool) :
    (run w config (.check file language json)).code = status w file language config := by
  rw [run, status]
  cases loadSource w file language config with
  | error e => rfl
  | ok source =>
    show (if (Validity.ofParse (source.parsed w)).valid then 0 else 1) = _
    cases hparse : source.parsed w with
    | error e => simp [hparse, Validity.valid_ofParse_error]
    | ok tree => simp [hparse, Validity.ofParse, Validity.parsed]

theorem find_of_loaded {source : Loaded} (hload : loadSource w file language config = .ok source)
    (range : LineRange) (json : Bool) :
    run w config (.find file range language json) =
      match contextOf source.handle.language source.text (source.parsed w) range with
      | .error failure => stopped w failure
      | .ok found => ⟨0, renderContext w json source.path range found, ""⟩ := by
  rw [run, hload]
  rfl

/-- A search fails where the parse does, and nowhere else if the tree is in bounds. -/
theorem find_code (range : LineRange) (json : Bool) (h : BoundedTree w file language config) :
    (run w config (.find file range language json)).code = status w file language config := by
  unfold status
  cases hload : loadSource w file language config with
  | error e => rw [run, hload]; rfl
  | ok source =>
    rw [find_of_loaded hload]
    cases hparse : source.parsed w with
    | error e =>
      have hcategory : e.category = .parse := Handle.category_of_parse_error hparse
      have hreported : contextOf source.handle.language source.text (.error e) range =
          .error (.reported e) := rfl
      simp [hparse, hreported, stopped, failed, exitStatus, hcategory, Category.isRequest]
    | ok tree =>
      obtain ⟨found, hfound⟩ := contextOf_of_inBounds source.handle.language source.text
        (h source tree hload hparse) range
      simp [hparse, hfound]

/-- A search of a tree of short nodes leaves with success, unless the node that it finds leaves the text, by its own
places or by those of its name. Then it panics. -/
theorem find_code_of_short (range : LineRange) (json : Bool) {source : Loaded} {tree : SourceTree}
    (hload : loadSource w file language config = .ok source) (hparse : source.parsed w = .ok tree)
    (hshort : ∀ l ∈ preorder tree.root, Short l.node) :
    let code := (run w config (.find file range language json)).code
    (code = 0 ∨ code = 101) ∧
      (code = 0 ↔ ∀ l, enclosing? (some tree.root) range = .ok (some l) →
        l.node.InText (Text.Utf8.encode source.text)) := by
  obtain ⟨hanswers, hpanics⟩ :=
    contextOf_outcome source.handle.language source.text hshort range
  rw [← hanswers, find_of_loaded hload, hparse]
  by_cases h : ∃ answer, contextOf source.handle.language source.text (.ok tree) range = .ok answer
  · obtain ⟨answer, hanswer⟩ := h
    simp [hanswer]
  · obtain ⟨slice, hslice⟩ := hpanics h
    simp [hslice, stopped, panicked]

/-- What is loaded depends on the working directory, on the files and on the making of handles, and on nothing
else. -/
theorem loadSource_congr (hcwd : w'.cwd = w.cwd) (hfiles : w'.files = w.files)
    (hinit : w'.initializer = w.initializer) :
    loadSource w' file language config = loadSource w file language config := by
  unfold loadSource
  rw [hcwd, hfiles, hinit]

theorem status_congr (hcwd : w'.cwd = w.cwd) (hfiles : w'.files = w.files)
    (hinit : w'.initializer = w.initializer)
    (hparse : ∀ source, loadSource w file language config = .ok source →
      source.parsed w' = source.parsed w) :
    status w' file language config = status w file language config := by
  unfold status
  rw [loadSource_congr hcwd hfiles hinit]
  cases hload : loadSource w file language config with
  | error e => rfl
  | ok source => simp only [hparse source hload]

end Status

/-- **The two commands agree.** Let both be run for the same file, language and configuration, in worlds
that have the same working directory and files and make the same handles, let the parser answer both runs alike, and
let its tree be in bounds. Then they leave with the same status, for every range and with either form of output. It
is 2 exactly if the request is at fault, 0 exactly if the file is loaded and parsed, whether or not a node encloses
the range, and 1 otherwise. -/
theorem commands_agree (w w' : World) (file : FilePath) (language : Option Language)
    (config : Option FilePath) (range : LineRange) (json json' : Bool)
    (hcwd : w'.cwd = w.cwd) (hfiles : w'.files = w.files) (hinit : w'.initializer = w.initializer)
    (hparse : ∀ source, loadSource w file language config = .ok source →
      source.parsed w' = source.parsed w)
    (hbounds : BoundedTree w file language config) :
    let found := run w config (.find file range language json)
    let checked := run w' config (.check file language json')
    found.code = checked.code ∧
      (found.code = 2 ↔ Refused w file language config) ∧
      (found.code = 0 ↔ Parses w file language config) ∧
      (found.code = 1 ↔ ¬ Refused w file language config ∧ ¬ Parses w file language config) := by
  intro found checked
  have hfound : found.code = status w file language config := find_code range json hbounds
  have hchecked : checked.code = status w file language config := by
    rw [← status_congr hcwd hfiles hinit hparse]
    exact check_code json'
  rw [hchecked, hfound]
  refine ⟨rfl, status_eq_two, status_eq_zero, ?_⟩
  rw [← status_eq_two, ← status_eq_zero]
  have := status_cases w file language config
  omega

def assignmentPath : FilePath := .ofText "pi.py"

/-- A world with one file, of an assignment after two blank lines, and a clock with one verdict. -/
def assignmentWorld (verdict : Verdict) (colour : Bool) : World where
  cwd := .ok (.ofText "/work")
  files := .ofContents [(assignmentPath, .ok (Text.Utf8.encode ("\n\n" ++ "π = 1\n")))]
  engine := ⟨fun _ _ => assignmentTree, fun _ _ _ => assignmentTree⟩
  clock := ⟨fun _ _ _ => verdict⟩
  initializer := .bundled
  colour := colour

theorem loadSource_assignment (verdict : Verdict) (colour : Bool) :
    loadSource (assignmentWorld verdict colour) assignmentPath none none =
      .ok ⟨assignmentPath, "\n\n" ++ "π = 1\n", .make .python ⟨none⟩⟩ := by
  have hcwd : (assignmentWorld verdict colour).cwd = .ok (.ofText "/work") := rfl
  have hconfig : Config.discover (assignmentWorld verdict colour).files none (.ofText "/work") =
      .ok .empty := rfl
  have hlanguage : Config.empty.languageForPathBytes? assignmentPath.bytes = some .python := by
    decide +kernel
  have htext : (assignmentWorld verdict colour).files.readText assignmentPath =
      .ok ("\n\n" ++ "π = 1\n") := Files.readText_of_encode rfl
  rw [loadSource, hcwd]
  simp only [hconfig, Option.none_or, hlanguage, htext]
  rfl

/-- Blank lines before the assignment are inside no node, and that is no failure. A parse that the clock
stops is one for both commands. -/
theorem commands_agree_assignment :
    (run (assignmentWorld .inTime false) none (.find assignmentPath lineTwoToThree none false)).code = 0 ∧
      (run (assignmentWorld .inTime true) none (.check assignmentPath none true)).code = 0 ∧
      (run (assignmentWorld .late false) none (.find assignmentPath lineTwoToThree none false)).code = 1 ∧
      (run (assignmentWorld .late true) none (.check assignmentPath none true)).code = 1 := by
  have htree : assignmentTree.InBounds ("\n\n" ++ "π = 1\n") :=
    ⟨by decide +kernel, by decide +kernel⟩
  have hbounds : ∀ v c, BoundedTree (assignmentWorld v c) assignmentPath none none := by
    intro v c source tree hload hparse
    rw [loadSource_assignment] at hload
    cases hload
    cases v with
    | inTime => cases hparse; exact htree
    | late => cases hparse
  have hagree : ∀ v, _ := fun v =>
    commands_agree (assignmentWorld v false) (assignmentWorld v true) assignmentPath none none
      lineTwoToThree false true rfl rfl rfl (fun _ _ => rfl) (hbounds v false)
  obtain ⟨hsame, -, hzero, -⟩ := hagree .inTime
  obtain ⟨hsame', -, -, hone⟩ := hagree .late
  have hfound := hzero.mpr ⟨_, assignmentTree, loadSource_assignment .inTime false, rfl⟩
  have hfound' := hone.mpr ⟨?_, ?_⟩
  · exact ⟨hfound, hsame ▸ hfound, hfound', hsame' ▸ hfound'⟩
  · rintro ⟨e, he, -⟩
    rw [loadSource_assignment] at he
    cases he
  · rintro ⟨source, tree, hload, hparse⟩
    rw [loadSource_assignment] at hload
    cases hload
    cases hparse

end Command

end LineScope
