import ThreeAddress.Text.Characters
import ThreeAddress.Text.Lines

/-!
Reading a written pattern from left to right, and what may be wrong with it. Where the pattern is
spaced, blanks and comments between its parts do not count; a comment goes from a number sign to
the end of its line. A fault is shown under the pattern, by marks below the characters that it
concerns. A pattern of several lines gets line numbers, and a place that spans lines is told in
words.
-/

namespace ThreeAddress.Text.Pattern

/-! ## Faults -/

inductive Cause where
  | classUnclosed
  | rangeReversed
  | rangeEnd
  | escapeInClass
  | escapeCut
  | escapeUnknown
  | backreference
  | hexEmpty
  | hexDigit
  | hexNoCharacter
  | propertyUnreadable
  | wordAnchorCut
  | wordAnchorUnclosed
  | wordAnchorUnknown
  | flagUnknown
  | flagTwice
  | flagsCut
  | negationTwice
  | negationLast
  | lookAround
  | groupUnclosed
  | groupUnopened
  | nameUnclosed
  | nameEmpty
  | nameCharacter
  | nameTwice
  | nothingToRepeat
  | countUnclosed
  | countMissing
  | countTooLarge
  | countReversed
  | tooDeep
  | notUnicode
  | notText
  | propertyUnknown
  | propertyValueUnknown
  deriving DecidableEq, Repr

/-- How many constructs may be inside each other. -/
def depthLimit : Nat := 250

def Cause.message : Cause → String
  | classUnclosed => "unclosed character class"
  | rangeReversed => "invalid character class range, the start must be <= the end"
  | rangeEnd => "invalid range boundary, must be a literal"
  | escapeInClass => "invalid escape sequence found in character class"
  | escapeCut => "incomplete escape sequence, reached end of pattern prematurely"
  | escapeUnknown => "unrecognized escape sequence"
  | backreference => "backreferences are not supported"
  | hexEmpty => "hexadecimal literal empty"
  | hexDigit => "invalid hexadecimal digit"
  | hexNoCharacter => "hexadecimal literal is not a Unicode scalar value"
  | propertyUnreadable => "invalid Unicode character class"
  | wordAnchorCut =>
      "found either the beginning of a special word boundary or a bounded repetition on a \\b " ++
        "with an opening brace, but no closing brace"
  | wordAnchorUnclosed =>
      "special word boundary assertion is either unclosed or contains an invalid character"
  | wordAnchorUnknown =>
      "unrecognized special word boundary assertion, valid choices are: start, end, start-half " ++
        "or end-half"
  | flagUnknown => "unrecognized flag"
  | flagTwice => "duplicate flag"
  | flagsCut => "expected flag but got end of regex"
  | negationTwice => "flag negation operator repeated"
  | negationLast => "dangling flag negation operator"
  | lookAround => "look-around, including look-ahead and look-behind, is not supported"
  | groupUnclosed => "unclosed group"
  | groupUnopened => "unopened group"
  | nameUnclosed => "unclosed capture group name"
  | nameEmpty => "empty capture group name"
  | nameCharacter => "invalid capture group character"
  | nameTwice => "duplicate capture group name"
  | nothingToRepeat => "repetition operator missing expression"
  | countUnclosed => "unclosed counted repetition"
  | countMissing => "repetition quantifier expects a valid decimal"
  | countTooLarge => "decimal literal invalid"
  | countReversed => "invalid repetition count range, the start must be <= the end"
  | tooDeep =>
      "exceed the maximum number of nested parentheses/brackets (" ++ toString depthLimit ++ ")"
  | notUnicode => "Unicode not allowed here"
  | notText => "pattern can match invalid UTF-8"
  | propertyUnknown => "Unicode property not found"
  | propertyValueUnknown => "Unicode property value not found"

/-- A part of a pattern: how many characters are before it and how many before its end. -/
structure Span where
  start : Nat
  finish : Nat
  deriving DecidableEq, Repr

/-- How many bytes a pattern may take when it is made ready for matching. -/
def sizeLimit : Nat := 10485760

inductive Fault where
  | misread (cause : Cause) (span : Span) (other : Option Span)
  | tooLarge
  deriving DecidableEq, Repr

/-- A place in a text by line and column, both from one on. -/
structure Place where
  line : Nat
  column : Nat
  deriving DecidableEq, Repr

def place (text : List Char) (offset : Nat) : Place :=
  let before := text.take offset
  ⟨before.countP isLineFeed + 1, (before.reverse.takeWhile fun c => !isLineFeed c).length + 1⟩

def repeatChar (c : Char) (n : Nat) : String :=
  String.ofList (List.replicate n c)

/-- Marks below a line for spans from left to right; `written` characters are there already. -/
def marks (written : Nat) : List (Place × Place) → String
  | [] => ""
  | (start, finish) :: later =>
      let gap := start.column - 1 - written
      let width := max 1 (finish.column - start.column)
      repeatChar ' ' gap ++ repeatChar '^' width ++ marks (written + gap + width) later

/-- The number of the last line that a fault may be in, which may be empty. -/
def lineCount (text : List Char) : Nat :=
  (lines text).length + if text.getLast? = some '\n' then 1 else 0

def numberWidth (text : List Char) : Nat :=
  if lineCount text ≤ 1 then 0 else (toString (lineCount text)).length

def lineStart (width number : Nat) : String :=
  if width = 0 then repeatChar ' ' 4
  else repeatChar ' ' (width - (toString number).length) ++ toString number ++ ": "

def markStart (width : Nat) : String :=
  repeatChar ' ' (if width = 0 then 4 else width + 2)

def notatedLine (width : Nat) (spans : List (Place × Place)) (number : Nat) (line : List Char) :
    String :=
  let here := spans.filter fun span => span.1.line == number
  lineStart width number ++ String.ofList line ++ "\n" ++
    if here.isEmpty then "" else markStart width ++ marks 0 here ++ "\n"

def notated (text : List Char) (spans : List (Place × Place)) : String :=
  String.join ((lines text).mapIdx fun index line =>
    notatedLine (numberWidth text) spans (index + 1) line)

def acrossLines (span : Place × Place) : String :=
  "on line " ++ toString span.1.line ++ " (column " ++ toString span.1.column ++
    ") through line " ++ toString span.2.line ++ " (column " ++
    toString (span.2.column - 1) ++ ")\n"

def Span.le (first second : Span) : Bool :=
  first.start < second.start || (first.start == second.start && first.finish ≤ second.finish)

def shown (text : List Char) (spans : List Span) : String :=
  let places := (spans.mergeSort Span.le).map fun span =>
    (place text span.start, place text span.finish)
  let (inLine, across) := places.partition fun span => span.1.line == span.2.line
  let body := notated text inLine
  if text.any isLineFeed then
    repeatChar '~' 79 ++ "\n" ++ body ++ repeatChar '~' 79 ++ "\n" ++
      String.join (across.map acrossLines)
  else body

def Fault.message (text : String) : Fault → String
  | misread cause span other =>
      "regex parse error:\n" ++ shown text.toList (span :: other.toList) ++ "error: " ++
        cause.message
  | tooLarge =>
      "Compiled regex exceeds size limit of " ++ toString sizeLimit ++ " bytes."

/-! ## Reading -/

structure Cursor where
  offset : Nat
  rest : List Char
  spaced : Bool := false

abbrev Reader := StateT Cursor (Except Fault)

def withoutBlanks (inComment : Bool) : List Char → List Char
  | [] => []
  | c :: rest =>
      if inComment then withoutBlanks (c != '\n') rest
      else if isBlank c then withoutBlanks false rest
      else if c == '#' then withoutBlanks true rest
      else c :: rest

namespace Cursor

def moveTo (cursor : Cursor) (rest : List Char) : Cursor :=
  { cursor with offset := cursor.offset + (cursor.rest.length - rest.length), rest }

def skipBlanks (cursor : Cursor) : Cursor :=
  if cursor.spaced then cursor.moveTo (withoutBlanks false cursor.rest) else cursor

def advance (cursor : Cursor) : Cursor :=
  match cursor.rest with
  | [] => cursor
  | _ :: rest => { cursor with offset := cursor.offset + 1, rest }

/-- The character after the next one, past blanks if they do not count. A comment is not left
out, only its sign, and if there is nothing but blanks the first of them stays. -/
def second? (cursor : Cursor) : Option Char :=
  let after := cursor.rest.tail
  if cursor.spaced then
    match after.dropWhile isBlank with
    | '#' :: comment => (comment.dropWhile isBlank).head?.or after.head?
    | rest => rest.head?.or after.head?
  else after.head?

end Cursor

namespace Reader

def next? : Reader (Option Char) :=
  return (← get).rest.head?

def offset : Reader Nat :=
  return (← get).offset

def skipBlanks : Reader PUnit :=
  modify Cursor.skipBlanks

def advance : Reader PUnit :=
  modify Cursor.advance

/-- Past the next character and the blanks behind it. -/
def advanceOver : Reader PUnit := do
  advance
  skipBlanks

def spanFrom (start : Nat) : Reader Span :=
  return ⟨start, ← offset⟩

def nextSpan : Reader Span := do
  let start ← offset
  return ⟨start, start + 1⟩

def here : Reader Span := do
  let start ← offset
  return ⟨start, start⟩

def fail {α : Type} (cause : Cause) (span : Span) : Reader α :=
  throw (.misread cause span none)

def failTwice {α : Type} (cause : Cause) (span earlier : Span) : Reader α :=
  throw (.misread cause span (some earlier))

def accept (expected : List Char) : Reader Bool := do
  let cursor ← get
  if expected.isPrefixOf cursor.rest then
    set (cursor.moveTo (cursor.rest.drop expected.length))
    return true
  else return false

def collectFor {α : Type} (step : Reader (Option α)) : Nat → Reader (List α)
  | 0 => return []
  | fuel + 1 => do
      match ← step with
      | some value => return value :: (← collectFor step fuel)
      | none => return []

/-- What `step` reads until it finds no more. Every step takes at least one character. -/
def collect {α : Type} (step : Reader (Option α)) : Reader (List α) := do
  collectFor step ((← get).rest.length + 1)

/-- Characters of a class, with blanks left out if they do not count. -/
def spacedRun (inRun : Char → Bool) : Reader (List Char) :=
  collect do
    match ← next? with
    | some c => if inRun c then advanceOver; return some c else return none
    | none => return none

end Reader

end ThreeAddress.Text.Pattern
