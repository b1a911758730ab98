import ThreeAddress.Numeral
import ThreeAddress.Text.Pattern.Cursor
import ThreeAddress.Text.Pattern.Node

/-!
What stands around a part of a pattern: repetitions behind it and groups that open before it. A
repetition is a sign or a count in braces, and a question mark behind it asks for the shortest
match, which does not change whether there is one. A group opens with nothing, with a name, or with
flags, and flags with no group behind them are for what follows them in the group around them.
-/

namespace ThreeAddress.Text.Pattern

/-! ## Repetitions -/

abbrev Bounds := Nat × Option Nat

def signBounds (c : Char) : Bounds :=
  match c with
  | '?' => (0, some 1)
  | '+' => (1, none)
  | _ => (0, none)

namespace Reader

def lazySign : Reader PUnit := do
  if (← next?) == some '?' then advance

def repetitionSign (c : Char) : Reader Bounds := do
  advance
  lazySign
  return signBounds c

/-- A number with blanks around it. Its fault is for the caller to raise. -/
def decimal : Reader (Except Fault Nat) := do
  modify fun cursor => cursor.moveTo (cursor.rest.dropWhile isBlank)
  let start ← offset
  let digits ← spacedRun Char.isDigit
  let span ← spanFrom start
  let _ ← spacedRun isBlank
  match Numeral.digits? digits with
  | none => return .error (.misread .countMissing span none)
  | some n => return if n < UInt32.size then .ok n else .error (.misread .countTooLarge span none)

/-- The most that a count allows, if it is not the same as the least. -/
def upperBound (opening : Nat) (least : Except Fault Nat) : Reader Bounds := do
  match ← next? with
  | none => fail .countUnclosed (← spanFrom opening)
  | some ',' =>
      advanceOver
      match ← next? with
      | none => fail .countUnclosed (← spanFrom opening)
      | some '\x7d' => return (← least, none)
      | some _ =>
          let least ← least
          return (least, some (← ← decimal))
  | some _ => return (← least, some (← least))

def count : Reader Bounds := do
  let opening ← offset
  advanceOver
  if (← next?).isNone then fail .countUnclosed (← spanFrom opening)
  let bounds ← upperBound opening (← decimal)
  if (← next?) != some '\x7d' then fail .countUnclosed (← spanFrom opening)
  advanceOver
  lazySign
  match bounds with
  | (_, none) => return bounds
  | (least, some most) =>
      if least ≤ most then return bounds else fail .countReversed (← spanFrom opening)

end Reader

/-! ## Groups -/

/-- Names of groups with their places, the latest first. -/
abbrev GroupNames := List (List Char × Span)

inductive Opening where
  | group (captures : Bool) (settings : Settings)
  | flags (settings : Settings)

/-- Signs between the opening parenthesis and the closing one: flags, and where they are
negated. -/
inductive FlagSign where
  | flag (flag : Flag)
  | negation
  deriving DecidableEq, Repr

def flagSign? : Char → Option FlagSign
  | '-' => some .negation
  | 'i' => some (.flag .ignoreCase)
  | 'm' => some (.flag .multiLine)
  | 's' => some (.flag .dotAll)
  | 'U' => some (.flag .shortest)
  | 'u' => some (.flag .unicode)
  | 'R' => some (.flag .returns)
  | 'x' => some (.flag .spaced)
  | _ => none

def settingsOf : Bool → List FlagSign → Settings
  | _, [] => []
  | on, .flag flag :: later => (flag, on) :: settingsOf on later
  | _, .negation :: later => settingsOf false later

def repeatedFault : FlagSign → Cause
  | .flag _ => .flagTwice
  | .negation => .negationTwice

namespace Reader

def flagSign (earlier : List (FlagSign × Span)) (c : Char) : Reader (FlagSign × Span) := do
  let span ← nextSpan
  match flagSign? c with
  | none => fail .flagUnknown span
  | some sign =>
      match earlier.find? fun other => other.1 == sign with
      | some other => failTwice (repeatedFault sign) span other.2
      | none =>
          advance
          if (← next?).isNone then fail .flagsCut (← here)
          return (sign, span)

/-- Flags up to a colon or a closing parenthesis; `earlier` holds those that have been read, the
latest first. -/
def flagSigns : Nat → List (FlagSign × Span) → Reader (List FlagSign)
  | 0, _ => return []
  | fuel + 1, earlier => do
      match ← next? with
      | none => fail .flagsCut (← here)
      | some c =>
          if c == ':' || c == ')' then
            match earlier with
            | (.negation, span) :: _ => fail .negationLast span
            | _ => return (earlier.map (·.1)).reverse
          else flagSigns fuel ((← flagSign earlier c) :: earlier)

def flaggedOpening (question : Span) : Reader Opening := do
  let signs ← flagSigns ((← get).rest.length + 1) []
  let isGroup := (← next?) == some ':'
  advance
  if isGroup then return .group false (settingsOf true signs)
  else if signs.isEmpty then fail .nothingToRepeat question
  else return .flags (settingsOf true signs)

def mayBeInName (first : Bool) (c : Char) : Bool :=
  c == '_' || Property.isAlphabetic c ||
    (!first && (c == '.' || c == '[' || c == ']' || Property.isNumeric c))

def nameCharacter (start : Nat) : Reader (Option Char) := do
  match ← next? with
  | none => return none
  | some '>' => return none
  | some c =>
      if mayBeInName ((← offset) == start) c then
        advance
        return some c
      else fail .nameCharacter (← nextSpan)

/-- A name up to its closing angle bracket, which no other group of the pattern has. -/
def groupName (names : GroupNames) : Reader GroupNames := do
  let start ← offset
  let name ← collect (nameCharacter start)
  let span ← spanFrom start
  if (← next?).isNone then fail .nameUnclosed (← here)
  advance
  if name.isEmpty then fail .nameEmpty span
  match names.find? fun other => other.1 == name with
  | some other => failTwice .nameTwice span other.2
  | none => return (name, span) :: names

def acceptAny (expected : List (List Char)) : Reader Bool :=
  expected.anyM accept

def lookArounds : List (List Char) := [['?', '='], ['?', '!'], ['?', '<', '='], ['?', '<', '!']]

def nameSigns : List (List Char) := [['?', 'P', '<'], ['?', '<']]

def groupOpening (names : GroupNames) : Reader (Opening × GroupNames) := do
  let parenthesis ← nextSpan
  advance
  skipBlanks
  if ← acceptAny lookArounds then fail .lookAround (← spanFrom parenthesis.start)
  let question ← here
  if ← acceptAny nameSigns then return (.group true [], ← groupName names)
  else if ← accept ['?'] then
    if (← next?).isNone then fail .groupUnclosed parenthesis
    return (← flaggedOpening question, names)
  else return (.group true [], names)

end Reader

end ThreeAddress.Text.Pattern
