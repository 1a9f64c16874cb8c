import LineScope.Parser.Handle
import LineScope.Yaml.Form

/-!
# Configuration

An optional file sets how long a parse may take and maps further file extensions to languages. What it
maps is looked up before the extensions that are known without it.
-/
namespace LineScope

structure Config where
  parseTimeoutMicros : Option UInt64
  /-- Extensions and their languages, in rising order of the extensions. -/
  extensions : List (String × Language)
  deriving DecidableEq, Repr

namespace Config

/-- The name of the file that is looked for when none is given (`CONFIG_FILE_NAME`). -/
def fileName : String := ".enclosure.yaml"

def empty : Config := ⟨none, []⟩

/-- What in a text is wrong: the settings that lead to it, and where it stands. -/
structure Spot where
  path : String
  mark : Yaml.Mark
  deriving DecidableEq, Repr

def Spot.say (s : Spot) (message : String) : String :=
  (if s.path = "" then "" else s.path ++ ": ") ++ message ++ s.mark.suffix

/-- Why a text is not a configuration. -/
inductive Rejection where
  /-- The text is not YAML. -/
  | malformed (problem : Yaml.Problem)
  /-- A setting that does not exist. -/
  | unknownField (name : String) (spot : Spot)
  /-- A setting that is given twice. -/
  | duplicateField (name : String) (spot : Spot)
  /-- A value that is not of the right form. -/
  | wrongForm (form : Yaml.Form) (expected : String) (spot : Spot)
  /-- A text that does not spell what it should. -/
  | wrongText (text expected : String) (spot : Spot)
  /-- A language that does not exist. -/
  | unknownLanguage (name : String) (spot : Spot)
  /-- A timeout of zero. -/
  | zeroTimeout
  /-- An extension that no file can have. -/
  | badExtension (ext : String)
  deriving DecidableEq, Repr

/-- Whether the text could be read, and what it sets is wrong. -/
def Rejection.isValidation : Rejection → Bool
  | .zeroTimeout => true
  | .badExtension _ => true
  | _ => false

def Rejection.message : Rejection → String
  | .malformed problem => problem.message
  | .unknownField name spot =>
    spot.say ("unknown field `" ++ name ++ "`, expected `parse-timeout-micros` or `extensions`")
  | .duplicateField name spot => spot.say ("duplicate field `" ++ name ++ "`")
  | .wrongForm form expected spot =>
    spot.say ("invalid type: " ++ form.describe ++ ", expected " ++ expected)
  | .wrongText text expected spot =>
    spot.say ("invalid value: string " ++ Text.quoted text ++ ", expected " ++ expected)
  | .unknownLanguage name spot =>
    spot.say ("unknown variant `" ++ name ++ "`, expected one of `python`, `rust`, `csharp`")
  | .zeroTimeout => "parse-timeout-micros must be greater than 0; omit it to disable the timeout"
  | .badExtension ext =>
    "extension '" ++ ext ++ "' must be lowercase and given without a leading dot"

def Rejection.toError (r : Rejection) : Error := ⟨.config, r.message⟩

/-! ## Reading -/

/-- The name in a tag of the document's own, which an exclamation mark is in front of. The exclamation mark
alone is its own name. -/
def localName? : Option Yaml.Tag → Option String
  | some [0x21] => some "!"
  | some (0x21 :: name) => Text.Utf8.decode? name
  | _ => none

/-- What is said of a node of the wrong form. -/
def misformed (path expected : String) (n : Yaml.Node) : Rejection :=
  let spot : Spot := ⟨path, n.mark⟩
  match n with
  | .scalar _ tag style text =>
    match Yaml.Form.ofScalar tag style text with
    | .ok form => .wrongForm form expected spot
    | .error wanted => .wrongText text wanted spot
  | .sequence _ _ _ => .wrongForm .sequence expected spot
  | .mapping _ _ _ => .wrongForm .mapping expected spot
  | .alias mark _ => .malformed (.unknownAnchor mark)
  | .cut problem => .malformed problem

/-- Reads a timeout, in a configuration that starts at a mark. Nothing and null are no timeout, unless a
tag says that there is a value. -/
def readTimeout (d : Yaml.Document) (root : Yaml.Mark) (path : String) (n : Yaml.Node) :
    Except Rejection (Option UInt64) :=
  let n := d.resolve n
  let wrong : Except Rejection (Option UInt64) := .error (misformed path "u64" n)
  match n with
  | .scalar _ tag style text =>
    let integer : Except Rejection (Option UInt64) :=
      match Yaml.readUnsigned? UInt64.size text with
      | some n => .ok (some (UInt64.ofNat n))
      | none => wrong
    match style, tag with
    | .plain, none => if text == "" || Yaml.isNull text then .ok none else integer
    | .plain, some tag =>
      if tag = Yaml.coreTag "null" then
        if Yaml.isNull text then .ok none else .error (.wrongText text "null" ⟨"", root⟩)
      else integer
    | .literal, some tag => if tag = Yaml.coreTag "int" then integer else wrong
    | _, _ => wrong
  | _ => wrong

def readName (name : String) (spot : Spot) : Except Rejection Language :=
  match Language.ofName? name with
  | some language => .ok language
  | none => .error (.unknownLanguage name spot)

/-- Whether a node is empty or null, and is not quoted. -/
def isBare : Yaml.Node → Bool
  | .scalar _ _ .plain text => text == "" || Yaml.isNull text
  | _ => false

/-- Reads a language: its name, or a tag with its name and nothing behind it. What is wrong with a tag is
said of the spot around it, or of the alias that leads to it. -/
def readLanguage (d : Yaml.Document) (around : Spot) (path : String) (n : Yaml.Node) :
    Except Rejection Language :=
  let around : Spot := match n with
    | .alias mark _ => ⟨path, mark⟩
    | _ => around
  let n := d.resolve n
  let byTag (name : String) : Except Rejection Language := do
    let language ← readName name around
    if isBare n then return language
    match n with
    | .scalar mark _ _ text => throw (.wrongText text "null" ⟨path, mark⟩)
    | _ => throw (misformed path "unit" n)
  match n with
  | .scalar mark tag _ text =>
    match localName? tag with
    | some name => byTag name
    | none => readName text ⟨path, mark⟩
  | .sequence _ tag _ =>
    match localName? tag with
    | some name => byTag name
    | none => .error (misformed path "a YAML tag starting with '!'" n)
  | .mapping _ tag _ =>
    match localName? tag with
    | some name => byTag name
    | none => .error (misformed path "a YAML tag starting with '!'" n)
  | _ => .error (misformed path "" n)

def readText (d : Yaml.Document) (path expected : String) (n : Yaml.Node) : Except Rejection String :=
  match d.resolve n with
  | .scalar _ _ _ text => .ok text
  | n => .error (misformed path expected n)

/-- Reads the pairs of a mapping. Nothing is a mapping without pairs. -/
def readPairs (d : Yaml.Document) (path expected : String) (n : Yaml.Node) :
    Except Rejection (List (Yaml.Node × Yaml.Node)) :=
  match d.resolve n with
  | .mapping _ _ pairs => .ok pairs
  | .scalar _ _ .plain "" => .ok []
  | n => .error (misformed path expected n)

/-- The part of a path that a key makes, behind what leads to it. -/
def keyPath (parent : String) (key : Yaml.Node) : String :=
  (if parent = "" then "" else parent ++ ".") ++ match key with
    | .scalar _ _ _ text => text
    | _ => "?"

/-- Puts an entry in its place; an entry of the same extension is replaced. -/
def putExtension (ext : String) (language : Language) :
    List (String × Language) → List (String × Language)
  | [] => [(ext, language)]
  | (e, l) :: entries =>
    if ext = e then (ext, language) :: entries
    else if ext < e then (ext, language) :: (e, l) :: entries
    else (e, l) :: putExtension ext language entries

def readExtensions (d : Yaml.Document) (path : String) (n : Yaml.Node) :
    Except Rejection (List (String × Language)) := do
  let around : Spot := ⟨path, (d.resolve n).mark⟩
  (← readPairs d path "a map" n).foldlM (fun entries (key, value) => do
    let ext ← readText d path "a string" key
    return putExtension ext (← readLanguage d around (keyPath path key) value) entries) []

/-- What has been read of a configuration so far; a setting that was not given is missing. -/
structure Draft where
  timeout : Option (Option UInt64)
  extensions : Option (List (String × Language))

/-- Reads one setting of a configuration that starts at a mark. -/
def Draft.read (draft : Draft) (d : Yaml.Document) (root : Yaml.Mark) (key value : Yaml.Node) :
    Except Rejection Draft := do
  match ← readText d "" "field identifier" key with
  | "parse-timeout-micros" =>
    if draft.timeout.isSome then throw (.duplicateField "parse-timeout-micros" ⟨"", root⟩)
    return { draft with timeout := some (← readTimeout d root (keyPath "" key) value) }
  | "extensions" =>
    if draft.extensions.isSome then throw (.duplicateField "extensions" ⟨"", root⟩)
    return { draft with extensions := some (← readExtensions d (keyPath "" key) value) }
  | name => throw (.unknownField name ⟨"", (d.resolve key).mark⟩)

/-- Reads a configuration from a document, whose problem shows only when nothing else is wrong with what
comes before it. A stream without a document sets nothing. -/
def ofDocument (d : Yaml.Document) : Except Rejection Config := do
  let config ← match d.root with
    | none => pure empty
    | some n => do
      let pairs ← readPairs d "" "struct Config" n
      let draft ← pairs.foldlM (fun (draft : Draft) (key, value) => draft.read d n.mark key value)
        ⟨none, none⟩
      pure ⟨draft.timeout.getD none, draft.extensions.getD []⟩
  match d.problem with
  | some problem => throw (.malformed problem)
  | none => return config

/-! ## Checking -/

/-- Whether a file can have the extension: it is not empty, has no dot in front and is in lowercase. -/
def usable (ext : String) : Bool :=
  ext != "" && ext.toList.head? != some '.' && ext == Text.lowercase ext

/-- Checks what the configuration sets, the timeout first. -/
def validate (c : Config) : Except Rejection Config :=
  if c.parseTimeoutMicros = some 0 then .error .zeroTimeout
  else
    match c.extensions.find? (!usable ·.1) with
    | some (ext, _) => .error (.badExtension ext)
    | none => .ok c

/-- Reads a configuration (`Config::from_yaml`). A blank text, and one without a document, sets nothing. -/
def parse (text : String) : Except Rejection Config :=
  if Text.isBlank text then .ok empty else ofDocument (Yaml.parse text) >>= validate

/-! ## Use -/

/-- How parses are made under the configuration (`parse_options`). -/
def parseOptions (c : Config) : ParseOptions := ⟨c.parseTimeoutMicros⟩

/-- The language of the file at a path (`language_for_path`): by the configured extensions, else by those known without
them. -/
def languageForPath? (c : Config) (path : String) : Option Language := do
  let ext ← Path.extension? path
  match c.extensions.lookup (Text.lowercase ext) with
  | some language => some language
  | none => Language.ofExtension? ext

/-- The language of the file at a path of any bytes. An extension that is not text is not known. -/
def languageForPathBytes? (c : Config) (path : List UInt8) : Option Language := do
  let ext ← Path.extensionOfBytes? path
  match c.extensions.lookup (Text.lowercase ext) with
  | some language => some language
  | none => Language.ofExtension? ext

end Config

end LineScope
