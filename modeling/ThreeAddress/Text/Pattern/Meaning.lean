import ThreeAddress.Text.LetterCase
import ThreeAddress.Text.Pattern
import ThreeAddress.Text.Pattern.Written
import ThreeAddress.Text.Ranges

/-!
What written patterns mean. Flags change the meaning of what follows them, up to the end of
the group that they are in. A pattern that is not about characters of the standard is about
those of ASCII, and one that would match anything but characters is refused.
-/

namespace ThreeAddress.Text.Pattern

/-! ## Size

How many bytes a pattern takes as a machine that reads one byte a step, from left to right or
the other way. Repetitions with counts are written out as often as they count. Neither machine
may be larger than the limit. -/

def stateSize : Nat := 32

/-- The size of a byte range with the state that it leads to. -/
def rangeSize : Nat := 8

/-- The size of a way on that takes no byte. -/
def branchSize : Nat := 4

/-- Sequences with the same first byte range stand side by side. -/
def addSequence (sequence : ByteSequence) (groups : List (ByteRange × List ByteSequence)) :
    List (ByteRange × List ByteSequence) :=
  match sequence, groups with
  | [], groups => groups
  | first :: rest, [] => [(first, [rest])]
  | first :: rest, (range, rests) :: later =>
      if first = range then (range, rest :: rests) :: later
      else (first, [rest]) :: (range, rests) :: later

def byFirst (sequences : List ByteSequence) : List (ByteRange × List ByteSequence) :=
  sequences.foldr addSequence []

/-- What may be left to read at each state, for encodings of up to `bytes` bytes. -/
def statesLeft : Nat → List ByteSequence → List (List ByteSequence)
  | 0, _ => []
  | bytes + 1, sequences =>
      sequences :: (byFirst sequences).flatMap fun (_, rests) =>
        match rests.filter fun rest => !rest.isEmpty with
        | [] => []
        | rests => statesLeft bytes rests

def forwardSize (sequences : List ByteSequence) : Nat :=
  stateSize + ((statesLeft 4 sequences).eraseDups.map fun left =>
    stateSize + rangeSize * (byFirst left).length).foldr (· + ·) 0

def beginnings (sequence : ByteSequence) : List ByteSequence :=
  (List.range sequence.length).map fun n => sequence.take (n + 1)

/-- Sequences are in order, so those that begin alike stand side by side. -/
def countBeginnings : List ByteSequence → ByteSequence → Nat
  | [], _ => 0
  | sequence :: later, before =>
      ((beginnings sequence).filter fun beginning => !beginning.isPrefixOf before).length +
        countBeginnings later sequence

def backwardSize (sequences : List ByteSequence) : Nat :=
  2 * stateSize + stateSize * countBeginnings sequences [] + branchSize * sequences.length

def classSize (backward : Bool) (ranges : Ranges) : Nat :=
  match ranges with
  | [] => stateSize
  | [(first, last)] =>
      if first = last then stateSize * (ranges.byteSequences.map List.length).foldr (· + ·) 0
      else sizeOfSeveral
  | _ => sizeOfSeveral
where
  sizeOfSeveral : Nat :=
    if ranges.within 0x7f then 2 * stateSize + rangeSize * ranges.length
    else if backward then backwardSize ranges.byteSequences
    else forwardSize ranges.byteSequences

def takesSome : Pattern Atom → Bool
  | empty => false
  | atom (.one characters) => !characters.isEmpty
  | atom (.anchor _) => false
  | both first second => first.takesSome || second.takesSome
  | either left right => left.takesSome && right.takesSome
  | repeated inside least _ => least != 0 && inside.takesSome
  | group inside => inside.takesSome

def loopSize (inside : Nat) (takesSome : Bool) : Nat :=
  if takesSome then stateSize + 2 * branchSize + inside
  else 3 * stateSize + 4 * branchSize + inside

def repeatedSize (inside : Nat) (takesSome : Bool) (least : Nat) : Option Nat → Nat
  | none =>
      if least = 0 then loopSize inside takesSome
      else stateSize + 2 * branchSize + least * inside
  | some most =>
      let optional := stateSize + 2 * branchSize + inside
      if least = most then least * inside
      else if least = 0 ∧ most = 1 then stateSize + optional
      else (if least = 0 then stateSize else least * inside) + stateSize +
        (most - least) * optional

/-- The size of a part; `inChoice` holds for what is one of several alternatives. -/
def partSize (backward inChoice : Bool) : Pattern Atom → Nat
  | empty => stateSize + ifIn
  | atom (.one characters) => classSize backward characters + ifIn
  | atom (.anchor _) => stateSize + ifIn
  | both first second =>
      first.partSize backward false + second.partSize backward false + ifIn
  | either left right =>
      left.partSize backward true + right.partSize backward true +
        if inChoice then 0 else 2 * stateSize
  | repeated inside least most =>
      repeatedSize (inside.partSize backward false) inside.takesSome least most + ifIn
  | group inside =>
      inside.partSize backward false + ifIn + if backward then 0 else 2 * stateSize
where
  ifIn : Nat := if inChoice then branchSize else 0

def forwardBase : Nat := 208

def backwardBase : Nat := 144

def size (pattern : Pattern Atom) : Nat :=
  max (forwardBase + pattern.partSize false false) (backwardBase + pattern.partSize true false)

/-! ## Flags -/

structure Mode where
  ignoreCase : Bool := false
  multiLine : Bool := false
  dotAll : Bool := false
  unicode : Bool := true
  returns : Bool := false
  deriving DecidableEq, Repr

namespace Mode

def change (mode : Mode) (settings : Settings) : Mode where
  ignoreCase := (settings.find? .ignoreCase).getD mode.ignoreCase
  multiLine := (settings.find? .multiLine).getD mode.multiLine
  dotAll := (settings.find? .dotAll).getD mode.dotAll
  unicode := (settings.find? .unicode).getD mode.unicode
  returns := (settings.find? .returns).getD mode.returns

/-- With matches in the other case, if case does not count. -/
def cased (mode : Mode) (ranges : Ranges) : Ranges :=
  if !mode.ignoreCase then ranges
  else if mode.unicode then ranges.ignoringCase
  else ranges.ignoringAsciiCase

end Mode

def refuse {α : Type} (cause : Cause) (span : Span) : Except Fault α :=
  .error (.misread cause span none)

def negate (negated : Bool) (ranges : Ranges) : Ranges :=
  if negated then ranges.complement else ranges.normal

/-- Outside of the standard only characters of ASCII may match. -/
def checked (mode : Mode) (span : Span) (ranges : Ranges) : Except Fault Ranges :=
  if mode.unicode || ranges.within 0x7f then .ok ranges else refuse .notText span

def Shorthand.ranges (mode : Mode) : Shorthand → Ranges
  | .digit => if mode.unicode then decimalDigits else [(0x30, 0x39)]
  | .blank => if mode.unicode then blanks else [(0x9, 0xd), (0x20, 0x20)]
  | .word =>
      if mode.unicode then wordCharsBasic ++ wordCharsBeyond
      else [(0x30, 0x39), (0x41, 0x5a), (0x5f, 0x5f), (0x61, 0x7a)]

def missingCause : Property.Missing → Cause
  | .property => .propertyUnknown
  | .value => .propertyValueUnknown

def propertyRanges (mode : Mode) (span : Span) (question : Property.Question)
    (negated : Bool) : Except Fault Ranges :=
  if !mode.unicode then refuse .notUnicode span
  else
    match question.answer with
    | .ok ranges => .ok (negate negated (mode.cased ranges))
    | .error missing => refuse (missingCause missing) span

/-- A byte above those of ASCII is part of a character at most. -/
def checkByte (mode : Mode) (span : Span) (c : Char) (byte : Bool) : Except Fault PUnit :=
  if !mode.unicode && byte && 0x80 ≤ c.toNat then refuse .notText span else .ok ⟨⟩

def memberCode (mode : Mode) (member : Span × Char × Bool) : Except Fault Nat := do
  let (span, c, byte) := member
  checkByte mode span c byte
  if mode.unicode || c.toNat < 0x80 then return c.toNat else refuse .notUnicode span

def elementRanges (mode : Mode) (span : Span) : Element → Except Fault Ranges
  | .letter c byte => do
      let code ← memberCode mode (span, c, byte)
      return [(code, code)]
  | .shorthand kind negated => checked mode span (negate negated (kind.ranges mode))
  | .property question negated => propertyRanges mode span question negated
  | .dot => return []
  | .boundary _ => return []

def SetOperator.apply (left right : Ranges) : SetOperator → Ranges
  | intersection => left.intersection right
  | difference => left.difference right
  | separate => left.separate right

mutual

def Members.ranges (mode : Mode) : Members → Except Fault Ranges
  | .none _ => return []
  | .element span element => elementRanges mode span element
  | .range _ first last => do
      let first ← memberCode mode first
      let last ← memberCode mode last
      return [(first, last)]
  | .named span characters negated =>
      checked mode span (negate negated (mode.cased characters))
  | .bracketed span negated inside => do
      checked mode span (negate negated (mode.cased (← inside.ranges mode)))
  | .union _ parts => membersRanges mode parts
  | .operation _ operator left right => do
      let left ← left.ranges mode
      let right ← right.ranges mode
      return operator.apply (mode.cased left) (mode.cased right)

def membersRanges (mode : Mode) : List Members → Except Fault Ranges
  | [] => return []
  | part :: later => do
      let first ← part.ranges mode
      return first ++ (← membersRanges mode later)

end

def lineFeeds (returns : Bool) : Ranges :=
  if returns then [(0xa, 0xa), (0xd, 0xd)] else [(0xa, 0xa)]

def dotRanges (mode : Mode) : Ranges :=
  if mode.dotAll then Ranges.everything else (lineFeeds mode.returns).complement

def Boundary.anchor (mode : Mode) : Boundary → Anchor
  | .lineStart => if mode.multiLine then .lineStart mode.returns else .textStart
  | .lineEnd => if mode.multiLine then .lineEnd mode.returns else .textEnd
  | .textStart => .textStart
  | .textEnd => .textEnd
  | .word condition => .word (!mode.unicode) condition

def oneOf (ranges : Ranges) : Pattern Atom :=
  atom (.one ranges)

def elementPattern (mode : Mode) (span : Span) : Element → Except Fault (Pattern Atom)
  | .letter c byte => do
      checkByte mode span c byte
      return oneOf (mode.cased (Ranges.single c))
  | .dot => if mode.unicode then return oneOf (dotRanges mode) else refuse .notText span
  | .boundary kind => return atom (.anchor (kind.anchor mode))
  | .shorthand kind negated => return oneOf (← elementRanges mode span (.shorthand kind negated))
  | .property question negated => return oneOf (← propertyRanges mode span question negated)

/-- A group that only holds its inside together is not kept. -/
def grouped (captures : Bool) (inside : Pattern Atom) : Pattern Atom :=
  if captures then group inside else inside

mutual

/-- The pattern and the mode behind it. -/
def Node.meaning (mode : Mode) : Node → Except Fault (Pattern Atom × Mode)
  | .empty => return (empty, mode)
  | .flags _ settings => return (empty, mode.change settings)
  | .element span element => return (← elementPattern mode span element, mode)
  | .bracketed span negated inside => do
      let ranges ← inside.ranges mode
      return (oneOf (← checked mode span (negate negated (mode.cased ranges))), mode)
  | .repeated _ inside least most => do
      let (inside, mode) ← inside.meaning mode
      return (repeatedOf inside least most, mode)
  | .group _ captures settings inside => do
      let (inside, _) ← inside.meaning (mode.change settings)
      return (grouped captures inside, mode)
  | .sequence _ items => do
      let (items, mode) ← nodesMeaning mode items
      return (sequence items, mode)
  | .alternatives _ branches => do
      let (branches, mode) ← nodesMeaning mode branches
      return (alternatives branches, mode)

def nodesMeaning (mode : Mode) : List Node → Except Fault (List (Pattern Atom) × Mode)
  | [] => return ([], mode)
  | node :: later => do
      let (first, mode) ← node.meaning mode
      let (later, mode) ← nodesMeaning mode later
      return (first :: later, mode)

end

/-- Faults of reading come before those of depth, those of depth before those of meaning. -/
def read (text : String) : Except Fault (Pattern Atom) := do
  let node ← readNode text
  if let some span := node.tooDeep? 0 then refuse .tooDeep span
  let (pattern, _) ← node.meaning {}
  if sizeLimit < pattern.size then throw .tooLarge
  return pattern

end ThreeAddress.Text.Pattern
