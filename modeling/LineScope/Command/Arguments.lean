import LineScope.Language
import LineScope.LineRange
import LineScope.Text.Paint
import LineScope.Text.Terminal

/-!
# Command lines

Reading the arguments of the program. An option's value is checked when the next argument that makes
sense arrives, or at the end; an argument that makes no sense is reported at once.
-/
namespace LineScope

/-- What the program is asked to do with a file (`Commands`). -/
inductive Command where
  | find (file : FilePath) (lines : LineRange) (language : Option Language) (json : Bool)
  | check (file : FilePath) (language : Option Language) (json : Bool)
  deriving DecidableEq, Repr

/-- A command and the configuration file to use (`Cli`). -/
structure Invocation where
  config : Option FilePath
  command : Command
  deriving DecidableEq, Repr

namespace Arguments

def program : String := "enclosure"

def version : String := "0.1.0"

/-- A level of the command line: the program itself, or one of its commands. -/
inductive Level where
  | top
  | find
  | check
  deriving DecidableEq, Repr

/-- The name that the level's version is given under. -/
def Level.title : Level → String
  | .top => program
  | .find => program ++ "-find"
  | .check => program ++ "-check"

inductive Setting where
  | config
  | verbose
  | lines
  | language
  | json
  | help
  | version
  deriving DecidableEq, Repr

namespace Setting

def letter? : Setting → Option Char
  | .config => some 'c'
  | .verbose => some 'v'
  | .lines => some 'l'
  | .language => some 'L'
  | .json => none
  | .help => some 'h'
  | .version => some 'V'

def word : Setting → String
  | .config => "config"
  | .verbose => "verbose"
  | .lines => "lines"
  | .language => "language"
  | .json => "json"
  | .help => "help"
  | .version => "version"

/-- What stands for the option's value, if it takes one. -/
def placeholder? : Setting → Option String
  | .config => some "<CONFIG>"
  | .lines => some "<LINES>"
  | .language => some "<LANGUAGE>"
  | _ => none

/-- The option as messages show it. -/
def display (s : Setting) : String :=
  "--" ++ s.word ++ match s.placeholder? with
    | some placeholder => " " ++ placeholder
    | none => if s = .verbose then "..." else ""

end Setting

/-- The file as messages show it. -/
def fileDisplay : String := "<FILE>"

/-- The options of a level. -/
def Level.settings : Level → List Setting
  | .top => [.config, .verbose, .help, .version]
  | .find => [.lines, .language, .json, .config, .verbose, .help, .version]
  | .check => [.language, .json, .config, .verbose, .help, .version]

/-- Why a command line makes no sense. -/
inductive UsageError where
  | unexpected (argument : String)
  | unknownCommand (name : String)
  | noCommand
  | noValue (option : String)
  | repeated (option : String)
  | badValue (value option reason : String)
  | needlessValue (value option : String)
  | missing (options : List String)
  deriving DecidableEq, Repr

/-- How a part of a message stands out. -/
inductive Emphasis where
  /-- What kind of message it is: bold and red. -/
  | heading
  /-- What is wrong: yellow. -/
  | culprit
  /-- What it is wrong for: bold. -/
  | subject
  /-- What would be right: green. -/
  | wanted
  deriving DecidableEq, Repr

def Emphasis.code : Emphasis → String
  | .heading => "\x1b[1m\x1b[31m"
  | .culprit => "\x1b[33m"
  | .subject => "\x1b[1m"
  | .wanted => "\x1b[32m"

/-- A part of a message: a text, and how it stands out. -/
structure Part where
  emphasis : Option Emphasis
  text : String

instance : Coe String Part := ⟨fun text => ⟨none, text⟩⟩

/-- The part with the sequences of its emphasis around it. -/
def Part.styled (p : Part) : String :=
  match p.emphasis with
  | some emphasis => emphasis.code ++ p.text ++ Text.resetCode
  | none => p.text

/-- The parts of what the error says. -/
def UsageError.parts (e : UsageError) : List Part :=
  let culprit (text : String) : Part := ⟨some .culprit, text⟩
  let subject (text : String) : Part := ⟨some .subject, text⟩
  let wanted (text : String) : Part := ⟨some .wanted, text⟩
  ⟨some .heading, "error:"⟩ :: (" " : Part) :: match e with
  | .unexpected argument => ["unexpected argument '", culprit argument, "' found"]
  | .unknownCommand name => ["unrecognized subcommand '", culprit name, "'"]
  | .noCommand =>
    ["'", culprit program, "' requires a subcommand but one was not provided\n  [subcommands: ",
      wanted "find", ", ", wanted "check", ", ", wanted "help", "]"]
  | .noValue option =>
    ["a value is required for '", culprit option, "' but none was supplied"]
  | .repeated option => ["the argument '", culprit option, "' cannot be used multiple times"]
  | .badValue value option reason =>
    ["invalid value '", culprit value, "' for '", subject option, "': ", reason]
  | .needlessValue value option =>
    ["unexpected value '", culprit value, "' for '", subject option,
      "' found; no more were expected"]
  | .missing options =>
    "the following required arguments were not provided:" ::
      options.flatMap fun option => [("\n  " : Part), wanted option]

def UsageError.message (e : UsageError) : String := String.join (e.parts.map (·.text))

/-- The error as it is printed. Without colours, sequences that an argument brings in do not show
either. -/
def UsageError.render (colour : Bool) (e : UsageError) : String :=
  let styled := String.join (e.parts.map Part.styled)
  if colour then styled else Text.Terminal.visible styled

/-- Why there is no command to run. -/
inductive Stop where
  | wrong (e : UsageError)
  | showVersion (level : Level)
  | showHelp
  /-- Nothing was asked for. -/
  | needsHelp
  deriving DecidableEq, Repr

/-- An argument that was read and not yet checked. -/
inductive Pending where
  | option (setting : Setting) (value : Option String)
  | file (path : String)

/-- What has been read of a level's arguments. -/
structure Draft where
  seen : List Setting
  config : Option String
  lines : Option LineRange
  language : Option Language
  json : Bool
  file : Option String
  pending : Option Pending

/-- Reads the value of the option for lines (`parse_line_range`). What is wrong with it is said without the category,
since the message around it has a heading of its own. -/
def linesValue (text : String) : Except String LineRange :=
  (LineRange.parse text).mapError fun e => e.toError.bareMessage

/-- Reads the value of the option for a language, in the same way (`parse_language`). -/
def languageValue (text : String) : Except String Language :=
  (Language.parse text).mapError fun e => e.toError.bareMessage

namespace Draft

def empty : Draft := ⟨[], none, none, none, false, none, none⟩

def accept (level : Level) (d : Draft) (setting : Setting) (value : Option String) :
    Except Stop Draft := do
  if setting = .help then throw .showHelp
  if setting = .version then throw (.showVersion level)
  if setting = .verbose then return d
  if setting.placeholder?.isSome && value.isNone then throw (.wrong (.noValue setting.display))
  if d.seen.contains setting then throw (.wrong (.repeated setting.display))
  let text := value.getD ""
  let d := { d with seen := setting :: d.seen }
  match setting with
  | .config =>
    if text = "" then throw (.wrong (.noValue setting.display))
    return { d with config := some text }
  | .lines =>
    match linesValue text with
    | .ok range => return { d with lines := some range }
    | .error reason => throw (.wrong (.badValue text setting.display reason))
  | .language =>
    match languageValue text with
    | .ok language => return { d with language := some language }
    | .error reason => throw (.wrong (.badValue text setting.display reason))
  | .json => return { d with json := true }
  | _ => return d

/-- Accepts what is pending. -/
def settle (level : Level) (d : Draft) : Except Stop Draft :=
  let clear := { d with pending := none }
  match d.pending with
  | none => .ok d
  | some (.option setting value) => clear.accept level setting value
  | some (.file path) =>
    if path = "" then .error (.wrong (.noValue fileDisplay))
    else .ok { clear with file := some path }

/-- Accepts what is pending, and then an option that came with all it needs. -/
def take (level : Level) (d : Draft) (setting : Setting) (value : Option String) :
    Except Stop Draft := do
  (← d.settle level).accept level setting value

/-- Accepts what is pending, and leaves an option to wait for its value. -/
def await (level : Level) (d : Draft) (setting : Setting) : Except Stop Draft := do
  return { ← d.settle level with pending := some (.option setting none) }

def waiting? (d : Draft) : Option Setting :=
  match d.pending with
  | some (.option setting none) => some setting
  | _ => none

/-- Reads an option given by its word, with the value after an equals sign, if there is one. -/
def readWord (level : Level) (d : Draft) (argument word : List Char) (value : Option (List Char)) :
    Except Stop Draft :=
  match level.settings.find? (·.word.toList == word) with
  | none => .error (.wrong (.unexpected (String.ofList argument)))
  | some setting =>
    match setting.placeholder?, value with
    | some _, some value => d.take level setting (some (String.ofList value))
    | some _, none => d.await level setting
    | none, some value => .error (.wrong (.needlessValue (String.ofList value) setting.display))
    | none, none => d.take level setting none

/-- Reads options given by their letters; the rest of the argument is the value of one that takes a
value. -/
def readLetters (level : Level) : List Char → Draft → Except Stop Draft
  | [], d => .ok d
  | c :: cs, d =>
    match level.settings.find? (·.letter? == some c) with
    | none => .error (.wrong (.unexpected (String.ofList ['-', c])))
    | some setting =>
      if setting.placeholder?.isSome then
        match cs with
        | [] => d.await level setting
        | '=' :: value => d.take level setting (some (String.ofList value))
        | value => d.take level setting (some (String.ofList value))
      else do readLetters level cs (← d.take level setting none)

/-- Reads an argument that is not an option: the value of one that waits, or else the file. -/
def readPlain (level : Level) (afterDashes : Bool) (d : Draft) (argument : String) :
    Except Stop Draft := do
  match d.waiting?, afterDashes with
  | some setting, false => return { d with pending := some (.option setting (some argument)) }
  | _, _ =>
    let hasFile : Bool := d.file.isSome || match d.pending with
      | some (.file _) => true
      | _ => false
    if level = .top || hasFile then throw (.wrong (.unexpected argument))
    else return { ← d.settle level with pending := some (.file argument) }

end Draft

/-- The parts of an argument that begins with two dashes: its word, and the value after an equals
sign. -/
def splitWord (cs : List Char) : List Char × Option (List Char) :=
  match cs.dropWhile (· ≠ '=') with
  | [] => (cs, none)
  | _ :: value => (cs.takeWhile (· ≠ '='), some value)

def readArgument (level : Level) (d : Draft) (argument : String) : Except Stop Draft :=
  match argument.toList with
  | '-' :: '-' :: cs =>
    let (word, value) := splitWord cs
    d.readWord level ('-' :: '-' :: word) word value
  | '-' :: c :: cs => d.readLetters level (c :: cs)
  | _ => d.readPlain level false argument

/-- Reads all arguments of a command; after two dashes alone nothing is an option. -/
def readCommand (level : Level) (afterDashes : Bool) : List String → Draft → Except Stop Draft
  | [], d => d.settle level
  | argument :: arguments, d =>
    if afterDashes then do
      readCommand level true arguments (← d.readPlain level true argument)
    else if argument = "--" then readCommand level true arguments d
    else do readCommand level false arguments (← readArgument level d argument)

def level? (name : String) : Option Level :=
  if name = "find" then some .find else if name = "check" then some .check else none

def isCommand (name : String) : Bool := (level? name).isSome || name = "help"

/-- What asking for help comes to. It may be about one command. -/
def readHelp : List String → Stop
  | [] => .showHelp
  | name :: names =>
    if isCommand name then
      match names with
      | [] => .showHelp
      | other :: _ => .wrong (.unknownCommand other)
    else .wrong (.unknownCommand name)

def missing (level : Level) (d : Draft) : List String :=
  (if level = .find ∧ d.lines.isNone then [Setting.lines.display] else []) ++
    (if d.file.isNone then [fileDisplay] else [])

def command (level : Level) (d : Draft) : Except Stop Command :=
  match level, d.lines, d.file with
  | .find, some lines, some file => .ok (.find (.ofText file) lines d.language d.json)
  | .check, _, some file => .ok (.check (.ofText file) d.language d.json)
  | _, _, _ => .error (.wrong (.missing (missing level d)))

/-- Reads the program's arguments up to its command, and then the command's. Whether any option was given
is known; without one there is only help to give. -/
def readTop (afterDashes given : Bool) : List String → Draft → Except Stop Invocation
  | [], d => do
    let _ ← d.settle .top
    .error (if given then .wrong .noCommand else .needsHelp)
  | argument :: arguments, d =>
    if afterDashes then
      .error (.wrong (if isCommand argument then .unexpected argument else .unknownCommand argument))
    else
      match d.waiting?, level? argument with
      | none, some level => do
        let draft ← readCommand level false arguments .empty
        let command ← command level draft
        let d ← d.settle .top
        return ⟨(draft.config.or d.config).map .ofText, command⟩
      | waiting, _ =>
        if argument = "--" then readTop true given arguments d
        else if waiting.isNone && argument = "help" then .error (readHelp arguments)
        else if waiting.isNone && (argument = "-" || argument.toList.head? ≠ some '-') then
          .error (.wrong (.unknownCommand argument))
        else do readTop false true arguments (← readArgument .top d argument)

def parse (arguments : List String) : Except Stop Invocation :=
  readTop false false arguments .empty

end Arguments

end LineScope
