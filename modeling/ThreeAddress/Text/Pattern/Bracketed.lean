import ThreeAddress.Text.Pattern.Escape

/-!
Classes in brackets: characters, ranges of them, escapes, named classes and further classes,
with operators between sets of these. All operators bind equally and from the left.
-/

namespace ThreeAddress.Text.Pattern

/-- Members that stand side by side, the latest first, and where they start. -/
structure Side where
  start : Nat
  members : List Members := []

namespace Side

def add (side : Side) (member : Members) : Side :=
  { side with members := member :: side.members }

def spanOf (first : Members) (last : Members) : Span :=
  ⟨first.span.start, last.span.finish⟩

def toMembers (side : Side) : Members :=
  match side.members with
  | [] => .none ⟨side.start, side.start⟩
  | [only] => only
  | last :: earlier => .union (spanOf (earlier.getLast?.getD last) last) (last :: earlier).reverse

end Side

/-- What waits for the end of a class: an outer class with its opening, or the left side of an
operator. -/
inductive Waiting where
  | outer (opening : Span) (negated : Bool) (side : Side)
  | left (operator : SetOperator) (members : Members)

abbrev Class := Side × List Waiting

namespace Class

/-- The members of the innermost class once its last side is complete. -/
def close (last : Members) : List Waiting → Members × List Waiting
  | .left operator left :: waiting =>
      (.operation (Side.spanOf left last) operator left last, waiting)
  | waiting => (last, waiting)

def opening? : List Waiting → Option Span
  | [] => none
  | .outer opening _ _ :: _ => some opening
  | .left _ _ :: waiting => opening? waiting

end Class

def asciiClass? (name : String) : Option Ranges :=
  match name with
  | "alnum" => some [(0x30, 0x39), (0x41, 0x5a), (0x61, 0x7a)]
  | "alpha" => some [(0x41, 0x5a), (0x61, 0x7a)]
  | "ascii" => some [(0, 0x7f)]
  | "blank" => some [(0x9, 0x9), (0x20, 0x20)]
  | "cntrl" => some [(0, 0x1f), (0x7f, 0x7f)]
  | "digit" => some [(0x30, 0x39)]
  | "graph" => some [(0x21, 0x7e)]
  | "lower" => some [(0x61, 0x7a)]
  | "print" => some [(0x20, 0x7e)]
  | "punct" => some [(0x21, 0x2f), (0x3a, 0x40), (0x5b, 0x60), (0x7b, 0x7e)]
  | "space" => some [(0x9, 0xd), (0x20, 0x20)]
  | "upper" => some [(0x41, 0x5a)]
  | "word" => some [(0x30, 0x39), (0x41, 0x5a), (0x5f, 0x5f), (0x61, 0x7a)]
  | "xdigit" => some [(0x30, 0x39), (0x41, 0x46), (0x61, 0x66)]
  | _ => none

/-- A named class between colons and brackets, whether it is negated, and what is behind it. -/
def namedClass? : List Char → Option (Ranges × Bool × List Char)
  | '[' :: ':' :: text =>
      let negated := text.head? == some '^'
      let inside := if negated then text.tail else text
      match inside.dropWhile (· != ':') with
      | ':' :: ']' :: rest =>
          (asciiClass? (String.ofList (inside.takeWhile (· != ':')))).map fun characters =>
            (characters, negated, rest)
      | _ => none
  | _ => none

namespace Reader

def plainCharacter (c : Char) : Reader (Span × Element) := do
  let span ← nextSpan
  advance
  return (span, .letter c false)

def member (c : Char) : Reader (Span × Element) :=
  if c == '\\' then escape else plainCharacter c

def memberOf (span : Span) : Element → Reader Members
  | .dot => fail .escapeInClass span
  | .boundary _ => fail .escapeInClass span
  | element => return .element span element

def rangeEnd (span : Span) : Element → Reader (Span × Char × Bool)
  | .letter c byte => return (span, c, byte)
  | _ => fail .rangeEnd span

def unclosed {α : Type} (waiting : List Waiting) : Reader α := do
  fail .classUnclosed ((Class.opening? waiting).getD (← here))

/-- One member or a range. A hyphen before a closing bracket or before another hyphen does not
make a range. -/
def memberOrRange (waiting : List Waiting) (c : Char) : Reader Members := do
  let (span, first) ← member c
  skipBlanks
  match ← next? with
  | none => unclosed waiting
  | some '-' =>
      match (← get).second? with
      | some ']' => memberOf span first
      | some '-' => memberOf span first
      | _ =>
          advanceOver
          match ← next? with
          | none => unclosed waiting
          | some c =>
              let (lastSpan, last) ← member c
              let first ← rangeEnd span first
              let last ← rangeEnd lastSpan last
              let whole : Span := ⟨span.start, lastSpan.finish⟩
              if first.2.1 ≤ last.2.1 then return .range whole first last
              else fail .rangeReversed whole
  | some _ => memberOf span first

/-- Where the class at `start` goes on; `broken` is what is left unclosed if it does not. -/
def goOn (broken : Reader Span) : Reader Char := do
  advanceOver
  match ← next? with
  | some c => return c
  | none => fail .classUnclosed (← broken)

def hyphen (start : Nat) : Reader (Option Members) := do
  if (← next?) == some '-' then
    let span ← nextSpan
    let _ ← goOn (return ⟨start, start⟩)
    return some (.element span (.letter '-' false))
  else return none

/-- The opening of a class: a caret to negate it, and hyphens or else one closing bracket as
its first members. -/
def openClass (outer : Side) : Reader (Side × Waiting) := do
  let start ← offset
  let negated := (← goOn (spanFrom start)) == '^'
  if negated then let _ ← goOn (spanFrom start)
  let inside ← offset
  let hyphens ← collect (hyphen start)
  let bracket ← nextSpan
  let leading ← if hyphens.isEmpty && (← next?) == some ']' then
      let _ ← goOn (spanFrom start)
      pure [.element bracket (.letter ']' false)]
    else pure hyphens.reverse
  return ({ start := inside, members := leading }, .outer (← spanFrom start) negated outer)

def operator (side : Side) (waiting : List Waiting) (operator : SetOperator) :
    Reader (Class ⊕ Node) := do
  advance
  advance
  let (left, waiting) := Class.close side.toMembers waiting
  return .inl ({ start := ← offset }, .left operator left :: waiting)

def closeClass (side : Side) (waiting : List Waiting) : Reader (Class ⊕ Node) := do
  match Class.close side.toMembers waiting with
  | (inside, .outer opening negated outer :: waiting) =>
      advance
      let span ← spanFrom opening.start
      if waiting.isEmpty then return .inr (.bracketed span negated inside)
      else return .inl (outer.add (.bracketed span negated inside), waiting)
  | (_, waiting) => unclosed waiting

def innerClass (side : Side) (waiting : List Waiting) : Reader (Class ⊕ Node) := do
  let cursor ← get
  match namedClass? cursor.rest with
  | some (characters, negated, rest) =>
      set (cursor.moveTo rest)
      return .inl (side.add (.named (← spanFrom cursor.offset) characters negated), waiting)
  | none =>
      let (inside, opened) ← openClass side
      return .inl (inside, opened :: waiting)

def classStep (side : Side) (waiting : List Waiting) : Reader (Class ⊕ Node) := do
  skipBlanks
  match (← get).rest with
  | [] => unclosed waiting
  | '[' :: _ => innerClass side waiting
  | ']' :: _ => closeClass side waiting
  | '&' :: '&' :: _ => operator side waiting .intersection
  | '-' :: '-' :: _ => operator side waiting .difference
  | '~' :: '~' :: _ => operator side waiting .separate
  | c :: _ => return .inl (side.add (← memberOrRange waiting c), waiting)

/-- Every step takes at least one character. -/
def classFor : Nat → Side → List Waiting → Reader Node
  | 0, _, waiting => unclosed waiting
  | fuel + 1, side, waiting => do
      match ← classStep side waiting with
      | .inl (side, waiting) => classFor fuel side waiting
      | .inr node => return node

def bracketed : Reader Node := do
  let (side, opened) ← openClass { start := ← offset }
  classFor ((← get).rest.length + 1) side [opened]

end Reader

end ThreeAddress.Text.Pattern
