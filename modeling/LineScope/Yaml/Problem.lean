import LineScope.Text.Numeral

/-!
# Problems of a YAML stream

What can be wrong with a stream, where, and what was being read there.
-/
namespace LineScope.Yaml

/-- A place in a stream: the bytes before it, and its line and column in characters, counted from
zero. -/
structure Mark where
  index : Nat
  line : Nat
  column : Nat
  deriving DecidableEq, Repr

namespace Mark

def start : Mark := ⟨0, 0, 0⟩

/-- Whether the place is in front of the first character of the first line. -/
def isFirst (m : Mark) : Bool := m.line == 0 && m.column == 0

/-- The place in words, unless it is the first one. -/
def suffix (m : Mark) : String :=
  if m.isFirst then ""
  else " at line " ++ Text.decimal (m.line + 1) ++ " column " ++ Text.decimal (m.column + 1)

end Mark

inductive Fault where
  | tokenStart
  | missingColon
  | misplacedEntry
  | misplacedKey
  | misplacedValue
  | directiveName
  | directiveCharacter
  | unknownDirective
  | directiveEnd
  | longVersion
  | noVersion
  | versionDot
  | tagMark
  | directiveBlank
  | tagEnd
  | tagUri
  | uriOctet
  | uriLead
  | uriTail
  | tagBracket
  | anchorName
  | zeroIndentation
  | blockHeader
  | blockTab
  | documentMark
  | streamEnd
  | unknownEscape
  | hexadecimal
  | escapedCharacter
  | plainColon
  | plainTab
  | documentStart
  | repeatedVersion
  | otherVersion
  | repeatedHandle
  | unknownHandle
  | nodeContent
  | entryMark
  | key
  | sequenceComma
  | mappingComma
  deriving DecidableEq, Repr

def Fault.message : Fault → String
  | .tokenStart => "found character that cannot start any token"
  | .missingColon => "could not find expected ':'"
  | .misplacedEntry => "block sequence entries are not allowed in this context"
  | .misplacedKey => "mapping keys are not allowed in this context"
  | .misplacedValue => "mapping values are not allowed in this context"
  | .directiveName => "could not find expected directive name"
  | .directiveCharacter => "found unexpected non-alphabetical character"
  | .unknownDirective => "found unknown directive name"
  | .directiveEnd => "did not find expected comment or line break"
  | .longVersion => "found extremely long version number"
  | .noVersion => "did not find expected version number"
  | .versionDot => "did not find expected digit or '.' character"
  | .tagMark => "did not find expected '!'"
  | .directiveBlank => "did not find expected whitespace"
  | .tagEnd => "did not find expected whitespace or line break"
  | .tagUri => "did not find expected tag URI"
  | .uriOctet => "did not find URI escaped octet"
  | .uriLead => "found an incorrect leading UTF-8 octet"
  | .uriTail => "found an incorrect trailing UTF-8 octet"
  | .tagBracket => "did not find the expected '>'"
  | .anchorName => "did not find expected alphabetic or numeric character"
  | .zeroIndentation => "found an indentation indicator equal to 0"
  | .blockHeader => "did not find expected comment or line break"
  | .blockTab => "found a tab character where an indentation space is expected"
  | .documentMark => "found unexpected document indicator"
  | .streamEnd => "found unexpected end of stream"
  | .unknownEscape => "found unknown escape character"
  | .hexadecimal => "did not find expected hexdecimal number"
  | .escapedCharacter => "found invalid Unicode character escape code"
  | .plainColon => "found unexpected ':'"
  | .plainTab => "found a tab character that violates indentation"
  | .documentStart => "did not find expected <document start>"
  | .repeatedVersion => "found duplicate %YAML directive"
  | .otherVersion => "found incompatible YAML document"
  | .repeatedHandle => "found duplicate %TAG directive"
  | .unknownHandle => "found undefined tag handle"
  | .nodeContent => "did not find expected node content"
  | .entryMark => "did not find expected '-' indicator"
  | .key => "did not find expected key"
  | .sequenceComma => "did not find expected ',' or ']'"
  | .mappingComma => "did not find expected ',' or '\x7d'"

inductive Activity where
  | nextToken
  | simpleKey
  | directive
  | version
  | directiveHandle
  | handleOfDirective
  | tagDirective
  | uriOfDirective
  | tag
  | uriOfTag
  | anchor
  | alias
  | blockScalar
  | quotedScalar
  | escape
  | plainScalar
  | node
  | blockNode
  | flowNode
  | blockSequence
  | blockMapping
  | flowSequence
  | flowMapping
  deriving DecidableEq, Repr

def Activity.phrase : Activity → String
  | .nextToken => "while scanning for the next token"
  | .simpleKey => "while scanning a simple key"
  | .directive => "while scanning a directive"
  | .version => "while scanning a %YAML directive"
  | .directiveHandle => "while scanning a tag directive"
  | .handleOfDirective => "while parsing a tag directive"
  | .tagDirective => "while scanning a %TAG directive"
  | .uriOfDirective => "while parsing a %TAG directive"
  | .tag => "while scanning a tag"
  | .uriOfTag => "while parsing a tag"
  | .anchor => "while scanning an anchor"
  | .alias => "while scanning an alias"
  | .blockScalar => "while scanning a block scalar"
  | .quotedScalar => "while scanning a quoted scalar"
  | .escape => "while parsing a quoted scalar"
  | .plainScalar => "while scanning a plain scalar"
  | .node => "while parsing a node"
  | .blockNode => "while parsing a block node"
  | .flowNode => "while parsing a flow node"
  | .blockSequence => "while parsing a block collection"
  | .blockMapping => "while parsing a block mapping"
  | .flowSequence => "while parsing a flow sequence"
  | .flowMapping => "while parsing a flow mapping"

inductive Problem where
  /-- A character that no stream may hold, after a number of bytes. -/
  | forbidden (offset : Nat)
  /-- A fault at a place, and what was being read from where. -/
  | found (fault : Fault) (mark : Mark) (during : Option (Activity × Mark))
  /-- An alias without an anchor. -/
  | unknownAnchor (mark : Mark)
  /-- A second document. -/
  | severalDocuments
  deriving DecidableEq, Repr

def Problem.message : Problem → String
  | .forbidden offset =>
    "control characters are not allowed" ++
      (if offset = 0 then "" else " at position " ++ Text.decimal offset)
  | .found fault mark during =>
    fault.message ++ mark.suffix ++ match during with
      | some (activity, start) =>
        ", " ++ activity.phrase ++
          (if start.line = mark.line ∧ start.column = mark.column then "" else start.suffix)
      | none => ""
  | .unknownAnchor mark => "unknown anchor" ++ mark.suffix
  | .severalDocuments => "deserializing from YAML containing more than one document is not supported"

end LineScope.Yaml
