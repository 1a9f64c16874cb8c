import LineScope.Yaml.Problem

/-!
# YAML tokens

The tokens that a YAML stream is made of, and where each one starts and stops.
-/
namespace LineScope.Yaml

inductive ScalarStyle where
  | plain
  | singleQuoted
  | doubleQuoted
  | literal
  | folded
  deriving DecidableEq, Repr

/-- The name of a type, as the bytes that spell it. -/
abbrev Tag := List UInt8

inductive TokenKind where
  | versionDirective (major minor : Nat)
  | tagDirective (handle : String) (uri : Tag)
  | documentStart
  | documentEnd
  | blockSequenceStart
  | blockMappingStart
  | blockEnd
  | flowSequenceStart
  | flowSequenceEnd
  | flowMappingStart
  | flowMappingEnd
  | blockEntry
  | flowEntry
  | key
  | value
  | alias (name : String)
  | anchor (name : String)
  | tag (handle : String) (suffix : Tag)
  | scalar (style : ScalarStyle) (text : String)
  | streamEnd
  /-- The stream cannot be read on. -/
  | broken (problem : Problem)
  deriving DecidableEq, Repr

structure Token where
  kind : TokenKind
  start : Mark
  stop : Mark
  deriving DecidableEq, Repr

end LineScope.Yaml
