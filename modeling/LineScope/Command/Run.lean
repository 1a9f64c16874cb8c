import LineScope.Command.Arguments
import LineScope.Command.Report
import LineScope.Files
import LineScope.Json.Writer
import LineScope.Parser.Registry

/-!
# Running commands

What a command line does: the text it prints and its exit status. The status is 2 where the request is
at fault, 1 where something else is or the file does not parse, and 0 otherwise.
-/
namespace LineScope

structure Output where
  code : Nat
  stdout : String
  stderr : String
  deriving DecidableEq, Repr

/-- What a run depends on besides its arguments. The working directory may be gone. -/
structure World where
  cwd : Except ReadFault FilePath
  files : Files
  engine : Engine
  clock : Clock
  initializer : Initializer
  colour : Bool

namespace Command

def file : Command → FilePath
  | .find file _ _ _ => file
  | .check file _ _ => file

/-- A source file with the handle that parses it (`LoadedSource`). -/
structure Loaded where
  path : FilePath
  text : String
  handle : Handle

/-- What is said of a file whose language is not known. -/
def unknownLanguage (file : FilePath) : Error :=
  ⟨.config, "cannot tell the language of '" ++ file.display ++
    "'. Pass --language (python, rust, csharp) or map its extension in " ++ Config.fileName⟩

/-- What is said of a source file that could not be read. -/
def unreadable (file : FilePath) (fault : ReadFault) : Error :=
  ⟨.io, "failed to read " ++ file.display ++ ": " ++ fault.message⟩

/-- Reads a source file and picks its parser (`load_source`). The working directory is asked for first, whether or
not a path is taken from it. Then the configuration is read, the language is settled, and the file is read last.
The language that was asked for goes before the configured one, and that before the one known by the
extension. -/
def loadSource (w : World) (file : FilePath) (language : Option Language)
    (config : Option FilePath) : Except Error Loaded :=
  match w.cwd with
  | .error fault => .error fault.toError
  | .ok dir =>
    match Config.discover w.files config dir with
    | .error trouble => .error trouble.toError
    | .ok settings =>
      match language.or (settings.languageForPathBytes? file.bytes) with
      | none => .error (unknownLanguage file)
      | some language =>
        match w.files.readText file with
        | .error fault => .error (unreadable file fault)
        | .ok text =>
          match ((Registry.new settings.parseOptions).handle w.initializer language).2 with
          | .error e => .error e
          | .ok found => .ok ⟨file, text, found.handle⟩

/-- The exit status for an error (`exit_status`). -/
def exitStatus (e : Error) : Nat := if e.category.isRequest then 2 else 1

def failed (w : World) (e : Error) : Output := ⟨exitStatus e, "", Report.error w.colour e⟩

def panicked (message : String) : Output := ⟨101, "", message ++ "\n"⟩

/-- The output of a run that gave no result. -/
def stopped (w : World) : Failure → Output
  | .overflow => panicked (Overflow.message ⟨⟩)
  | .outside s => panicked s.message
  | .reported e => failed w e

def verdict (w : World) (source : Loaded) : Verdict :=
  w.clock.verdict source.handle.language source.handle.options source.text

/-- What `find` prints. -/
def renderContext (w : World) (json : Bool) (path : FilePath) (range : LineRange)
    (found : Option Summary) : String :=
  if json then
    (match found with
      | some s => s.toJson
      | none => .null).pretty ++ "\n"
  else Report.context w.colour path.display range found

/-- What `check` prints. -/
def renderValidity (w : World) (json : Bool) (path : FilePath) (language : Language)
    (v : Validity) : String :=
  if json then v.toJson.pretty ++ "\n" else Report.validity w.colour path.display language v

/-- Runs a command. -/
def run (w : World) (config : Option FilePath) : Command → Output
  | .find file range language json =>
    match loadSource w file language config with
    | .error e => failed w e
    | .ok source =>
      match (source.handle.context w.engine (verdict w source) source.text range).2 with
      | .error failure => stopped w failure
      | .ok found => ⟨0, renderContext w json source.path range found, ""⟩
  | .check file language json =>
    match loadSource w file language config with
    | .error e => failed w e
    | .ok source =>
      let v := (source.handle.check w.engine (verdict w source) source.text).2
      ⟨if v.valid then 0 else 1, renderValidity w json source.path source.handle.language v, ""⟩

end Command

/-- The files that running the arguments in a directory may read. -/
def pathsRead (dir : FilePath) (arguments : List String) : List FilePath :=
  match Arguments.parse arguments with
  | .ok invocation =>
    [invocation.config.getD (dir.join (.ofText Config.fileName)), invocation.command.file]
  | .error _ => []

def helpText : String :=
  "Find the syntax node enclosing a line range of source code\n\n" ++
  "Usage: enclosure [OPTIONS] <COMMAND>\n\n" ++
  "Commands:\n" ++
  "  find   Report the node enclosing a line range\n" ++
  "  check  Check that a file parses (dry run)\n" ++
  "  help   Print this message or the help of the given subcommand(s)\n"

/-- Runs the program with arguments (`main`). If they ask for nothing, its help is printed as an error. -/
def runProgram (w : World) (arguments : List String) : Output :=
  match Arguments.parse arguments with
  | .ok invocation => invocation.command.run w invocation.config
  | .error (.wrong e) => ⟨2, "", e.render w.colour ++ "\n"⟩
  | .error (.showVersion level) => ⟨0, level.title ++ " " ++ Arguments.version ++ "\n", ""⟩
  | .error .showHelp => ⟨0, helpText, ""⟩
  | .error .needsHelp => ⟨2, "", helpText⟩

end LineScope
