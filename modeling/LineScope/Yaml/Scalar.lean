import LineScope.Json.Reader
import LineScope.Yaml.Cursor

/-!
# YAML scalars

Reading the scalars of each style. A break between lines of a flow scalar becomes a space, unless empty
lines follow it; a block scalar keeps its breaks or folds them, and its last ones are kept as its header
says.
-/
namespace LineScope.Yaml

/-- White space between two parts of a flow scalar: the blanks on one line, or the first break and the
breaks after it. -/
inductive Gap where
  | blanks (cs : List Char)
  | breaks (first trailing : List Char)

/-- The gap as it is kept in the scalar. -/
def Gap.fold : Gap → List Char
  | .blanks cs => cs
  | .breaks ['\n'] [] => [' ']
  | .breaks ['\n'] trailing => trailing
  | .breaks first trailing => first ++ trailing

/-- Reads the white space that follows part of a flow scalar that starts at a mark. A tab in the
indentation of a plain scalar's line, before the column `indent`, is a problem. -/
def readGap (start : Mark) (indent : Nat) : Nat → Gap → Cursor → Except Problem (Gap × Cursor)
  | 0, gap, c => .ok (gap, c)
  | fuel + 1, gap, c =>
    match c.rest with
    | [] => .ok (gap, c)
    | x :: _ =>
      if isBlank x then
        match gap with
        | .blanks cs => readGap start indent fuel (.blanks (cs ++ [x])) c.skip
        | .breaks _ _ =>
          if x = '\t' ∧ c.mark.column < indent then .error (c.fault .plainTab .plainScalar start)
          else readGap start indent fuel gap c.skip
      else if isBreak x then
        match gap with
        | .blanks _ => readGap start indent fuel (.breaks c.breakText []) c.skipBreak
        | .breaks first trailing =>
          readGap start indent fuel (.breaks first (trailing ++ c.breakText)) c.skipBreak
      else .ok (gap, c)

/-- The characters that end a plain scalar inside a flow collection. -/
def isFlowEnd (x : Char) : Bool :=
  x == ',' || x == '[' || x == ']' || x == '\x7b' || x == '\x7d'

/-- How many characters of a plain scalar stand before the next blank, and whether a colon comes then that
cannot be there. -/
def plainRun (inFlow : Bool) (taken : Nat) : List Char → Nat × Bool
  | [] => (taken, false)
  | x :: rest =>
    let blankNext : Bool := match rest with
      | y :: _ => isBlank y || isBreak y
      | [] => true
    let flowNext : Bool := match rest with
      | y :: _ => isFlowEnd y || y == '?'
      | [] => false
    if isBlank x || isBreak x then (taken, false)
    else if inFlow && x == ':' && flowNext then (taken, true)
    else if x == ':' && blankNext then (taken, false)
    else if inFlow && isFlowEnd x then (taken, false)
    else plainRun inFlow (taken + 1) rest

/-- A plain scalar: its text, the rest of the stream, and whether a line ended after it. -/
def readPlain (start : Mark) (inFlow : Bool) (indent : Nat) :
    Nat → List Char → Gap → Cursor → Except Problem (String × Cursor × Bool)
  | 0, text, _, c => .ok (String.ofList text, c, false)
  | fuel + 1, text, gap, c => do
    let lineEnded : Bool := match gap with
      | .blanks _ => false
      | .breaks _ _ => true
    if c.atDocumentMark || c.looksAt '#' then
      return (String.ofList text, c, lineEnded)
    let (run, wrongColon) := plainRun inFlow 0 c.rest
    if wrongColon then throw ((c.skipMany run).fault .plainColon .plainScalar start)
    if run = 0 then
      return (String.ofList text, c, lineEnded)
    let text := text ++ gap.fold ++ c.rest.take run
    let c := c.skipMany run
    if c.next fun x => isBlank x || isBreak x then
      let (gap, after) ← readGap start indent (c.rest.length + 1) (.blanks []) c
      if !inFlow && decide (after.mark.column < indent) then
        return (String.ofList text, after, match gap with
          | .blanks _ => false
          | .breaks _ _ => true)
      readPlain start inFlow indent fuel text gap after
    else
      return (String.ofList text, c, false)

def hexNumber? (cs : List Char) : Option Nat :=
  cs.foldlM (fun n c => (Json.hexValue? c).map (n * 16 + ·)) 0

inductive Escape where
  /-- A character. -/
  | plain (c : Char)
  /-- A character whose number follows, in a number of hexadecimal digits. -/
  | coded (length : Nat)
  | unknown

/-- What a letter after a backslash means. -/
def Escape.ofLetter : Char → Escape
  | '0' => .plain '\x00'
  | 'a' => .plain '\x07'
  | 'b' => .plain '\x08'
  | 't' => .plain '\t'
  | '\t' => .plain '\t'
  | 'n' => .plain '\n'
  | 'v' => .plain '\x0b'
  | 'f' => .plain '\x0c'
  | 'r' => .plain '\r'
  | 'e' => .plain '\x1b'
  | ' ' => .plain ' '
  | '"' => .plain '"'
  | '/' => .plain '/'
  | '\\' => .plain '\\'
  | 'N' => .plain '\u0085'
  | '_' => .plain '\u00A0'
  | 'L' => .plain '\u2028'
  | 'P' => .plain '\u2029'
  | 'x' => .coded 2
  | 'u' => .coded 4
  | 'U' => .coded 8
  | _ => .unknown

/-- Reads an escape: its character, and the rest of the stream. -/
def readEscape (start : Mark) (c : Cursor) : Except Problem (Char × Cursor) :=
  let escape := match c.rest with
    | _ :: letter :: _ => Escape.ofLetter letter
    | _ => .unknown
  let after := c.skipMany 2
  match escape with
  | .plain x => .ok (x, after)
  | .coded length =>
    let digits := after.rest.take length
    match if digits.length < length then none else hexNumber? digits with
    | none => .error (after.fault .hexadecimal .escape start)
    | some value =>
      if (0xD800 ≤ value ∧ value ≤ 0xDFFF) ∨ 0x10FFFF < value then
        .error (after.fault .escapedCharacter .escape start)
      else .ok (Char.ofNat value, after.skipMany length)
  | .unknown => .error (c.fault .unknownEscape .escape start)

/-- Reads a quoted scalar after its opening quote, which stands at a mark. -/
def readQuoted (start : Mark) (single : Bool) :
    Nat → List Char → Cursor → Except Problem (String × Cursor)
  | 0, _, c => .error (c.fault .streamEnd .quotedScalar start)
  | fuel + 1, text, c =>
    if c.atDocumentMark then .error (c.fault .documentMark .quotedScalar start)
    else
      match c.rest with
      | [] => .error (c.fault .streamEnd .quotedScalar start)
      | x :: rest =>
        if isBlank x || isBreak x then do
          let (gap, c) ← readGap start 0 (c.rest.length + 1) (.blanks []) c
          readQuoted start single fuel (text ++ gap.fold) c
        else if single then
          match x, rest with
          | '\'', '\'' :: _ => readQuoted start single fuel (text ++ ['\'']) (c.skipMany 2)
          | '\'', _ => .ok (String.ofList text, c.skip)
          | x, _ => readQuoted start single fuel (text ++ [x]) c.skip
        else if x = '"' then .ok (String.ofList text, c.skip)
        else if x = '\\' then
          if c.skip.next isBreak then do
            let (gap, c) ← readGap start 0 (c.rest.length + 1) (.breaks [] []) c.skip.skipBreak
            readQuoted start single fuel (text ++ gap.fold) c
          else do
            let (e, c) ← readEscape start c
            readQuoted start single fuel (text ++ [e]) c
        else readQuoted start single fuel (text ++ [x]) c.skip

inductive Chomping where
  | strip
  | clip
  | keep
  deriving DecidableEq, Repr

/-- Reads the header of a block scalar after its indicator, which stands at a mark: the chomping and the
indentation, in either order, up to the end of the line. -/
def readBlockHeader (start : Mark) (c : Cursor) : Except Problem (Chomping × Option Nat × Cursor) := do
  let chompingAt (c : Cursor) : Option Chomping :=
    if c.looksAt '+' then some .keep else if c.looksAt '-' then some .strip else none
  let indentAt (c : Cursor) : Except Problem (Option Nat) :=
    match c.rest with
    | x :: _ =>
      if x = '0' then .error (c.fault .zeroIndentation .blockScalar start)
      else if x.isDigit then .ok (some (x.toNat - 48))
      else .ok none
    | [] => .ok none
  let (chomping, increment, c) ← match chompingAt c with
    | some chomping => do
      let c := c.skip
      match ← indentAt c with
      | some n => pure (chomping, some n, c.skip)
      | none => pure (chomping, none, c)
    | none => do
      match ← indentAt c with
      | some n =>
        let c := c.skip
        match chompingAt c with
        | some chomping => pure (chomping, some n, c.skip)
        | none => pure (Chomping.clip, some n, c)
      | none => pure (Chomping.clip, none, c)
  let c := c.skipLineEnd
  if !c.atBreak then throw (c.fault .blockHeader .blockScalar start)
  return (chomping, increment, if c.rest.isEmpty then c else c.skipBreak)

/-- Steps over the indentation of lines and over empty lines, whose breaks are kept. While the
indentation is not known, the deepest one seen is noted. -/
def readBlockBreaks (start : Mark) (indent : Option Nat) :
    Nat → List Char → Nat → Cursor → Except Problem (List Char × Nat × Cursor)
  | 0, breaks, deepest, c => .ok (breaks, deepest, c)
  | fuel + 1, breaks, deepest, c =>
    let spaces := (c.rest.takeWhile (· == ' ')).length
    let step := match indent with
      | some n => min spaces (n - c.mark.column)
      | none => spaces
    let c := c.skipMany step
    let deepest := max deepest c.mark.column
    let inIndentation : Bool := match indent with
      | some n => decide (c.mark.column < n)
      | none => true
    if inIndentation && c.looksAt '\t' then
      .error (c.fault .blockTab .blockScalar start)
    else if c.next isBreak then
      readBlockBreaks start indent fuel (breaks ++ c.breakText) deepest c.skipBreak
    else .ok (breaks, deepest, c)

/-- A block scalar under way: its text, the break that ended the last line, the empty lines after it,
and whether that line began with a blank. -/
structure BlockText where
  text : List Char
  lineBreak : List Char
  empties : List Char
  blankLine : Bool

/-- The text with a new line about to be added. Folding turns the break between two lines that do not
begin with a blank into a space, or leaves it to the empty lines between them. -/
def BlockText.join (literal : Bool) (b : BlockText) (blank : Bool) : List Char :=
  let folds := !literal && b.lineBreak == ['\n'] && !b.blankLine && !blank
  let joint := if folds then (if b.empties.isEmpty then [' '] else []) else b.lineBreak
  b.text ++ joint ++ b.empties

/-- Reads the lines of a block scalar that stand at its indentation. -/
def readBlockLines (start : Mark) (literal : Bool) (indent : Nat) :
    Nat → BlockText → Cursor → Except Problem (BlockText × Cursor)
  | 0, b, c => .ok (b, c)
  | fuel + 1, b, c =>
    if c.mark.column = indent ∧ !c.rest.isEmpty then do
      let blank := c.next isBlank
      let line := c.rest.takeWhile (!isBreak ·)
      let text := b.join literal blank ++ line
      let c := c.skipMany line.length
      let lineBreak := if c.rest.isEmpty then [] else c.breakText
      let c := if c.rest.isEmpty then c else c.skipBreak
      let (empties, _, c) ← readBlockBreaks start (some indent) (c.rest.length + 1) [] 0 c
      readBlockLines start literal indent fuel ⟨text, lineBreak, empties, blank⟩ c
    else .ok (b, c)

/-- Reads a block scalar after its indicator, which stands at a mark. `parent` is the indentation around it, none at
the top. -/
def readBlock (start : Mark) (literal : Bool) (parent : Option Nat) (c : Cursor) :
    Except Problem (String × Cursor) := do
  let (chomping, increment, c) ← readBlockHeader start c
  let least := match parent with
    | some n => n + 1
    | none => 1
  let given := increment.map fun n => match parent with
    | some p => p + n
    | none => n
  let (empties, deepest, c) ← readBlockBreaks start given (c.rest.length + 1) [] 0 c
  let indent := given.getD (max deepest least)
  let (b, c) ← readBlockLines start literal indent (c.rest.length + 1) ⟨[], [], empties, false⟩ c
  let text := match chomping with
    | .strip => b.text
    | .clip => b.text ++ b.lineBreak
    | .keep => b.text ++ b.lineBreak ++ b.empties
  return (String.ofList text, c)

end LineScope.Yaml
