import ThreeAddress.Text.Characters
import ThreeAddress.Text.Ranges

/-!
Patterns of text, and whether a pattern occurs in a text. A set of positions between the
characters of a text is a number with a bit for each of them. A pattern leads from the
positions where it may begin to those where it may end, and it occurs in the text if it leads
anywhere from all of them.
-/

namespace ThreeAddress.Text

/-- Conditions on the two sides of a position, which may have a word on them. -/
inductive WordAnchor where
  | edge
  | noEdge
  | start
  | finish
  | startHalf
  | finishHalf
  deriving DecidableEq, Repr

def WordAnchor.holds (before after : Bool) : WordAnchor → Bool
  | edge => before != after
  | noEdge => before == after
  | start => !before && after
  | finish => before && !after
  | startHalf => !before
  | finishHalf => !after

def isAsciiWordChar (c : Char) : Bool :=
  c.isAlphanum || c == '_'

/-- Conditions on the characters before and after a position. Where `returns` is set, lines end
at carriage returns as well as at line feeds, and at both only once. -/
inductive Anchor where
  | textStart
  | textEnd
  | lineStart (returns : Bool)
  | lineEnd (returns : Bool)
  | word (ascii : Bool) (condition : WordAnchor)
  deriving DecidableEq, Repr

def Anchor.holds (condition : Anchor) (before after : Option Char) : Bool :=
  match condition with
  | textStart => before.isNone
  | textEnd => after.isNone
  | lineStart returns =>
      before.isNone || before == some '\n' ||
        (returns && before == some '\r' && after != some '\n')
  | lineEnd returns =>
      after.isNone || (after == some '\n' && !(returns && before == some '\r')) ||
        (returns && after == some '\r')
  | word ascii condition =>
      let isWord := if ascii then isAsciiWordChar else isWordChar
      condition.holds (before.any isWord) (after.any isWord)

inductive Atom where
  | one (characters : Ranges)
  | anchor (condition : Anchor)
  deriving DecidableEq, Repr

/-- Patterns over atoms of any kind. A group matches what is inside it. -/
inductive Pattern (α : Type) where
  | empty
  | atom (value : α)
  | both (first second : Pattern α)
  | either (left right : Pattern α)
  | repeated (inside : Pattern α) (least : Nat) (most : Option Nat)
  | group (inside : Pattern α)
  deriving DecidableEq, Repr

/-- The positions where an atom is met and how many characters it takes there. -/
structure Move where
  places : Nat
  width : Nat
  deriving DecidableEq, Repr

def Move.from (move : Move) (positions : Nat) : Nat :=
  (positions &&& move.places) <<< move.width

/-- The first position is the lowest bit. -/
def placesOf (met : List Bool) : Nat :=
  met.foldr (fun here later => 2 * later + here.toNat) 0

def Atom.move (text : List Char) : Atom → Move
  | one characters => ⟨placesOf (text.map characters.has), 1⟩
  | anchor condition =>
      let characters := text.map some
      ⟨placesOf (List.zipWith condition.holds (none :: characters) (characters ++ [none])), 0⟩

/-- A step that changes nothing is the last one. -/
def iterate (step : Nat → Nat) : Nat → Nat → Nat
  | 0, positions => positions
  | n + 1, positions =>
      if step positions = positions then positions else iterate step n (step positions)

/-- Adds what at most so many steps lead to. -/
def spread (step : Nat → Nat) : Nat → Nat → Nat
  | 0, positions => positions
  | n + 1, positions =>
      let more := positions ||| step positions
      if more = positions then positions else spread step n more

namespace Pattern

def map {α β : Type} (f : α → β) : Pattern α → Pattern β
  | empty => empty
  | atom value => atom (f value)
  | both first second => both (first.map f) (second.map f)
  | either left right => either (left.map f) (right.map f)
  | repeated inside least most => repeated (inside.map f) least most
  | group inside => group (inside.map f)

/-- In a text with `length` characters no more steps than positions lead to a new one. -/
def ends (length : Nat) : Pattern Move → Nat → Nat
  | empty, positions => positions
  | atom move, positions => move.from positions
  | both first second, positions => second.ends length (first.ends length positions)
  | either left right, positions => left.ends length positions ||| right.ends length positions
  | repeated inside least most, positions =>
      spread (fun positions => inside.ends length positions)
        (match most with
          | some most => most - least
          | none => length + 1)
        (iterate (fun positions => inside.ends length positions) least positions)
  | group inside, positions => inside.ends length positions

/-- Whether nothing but the empty text can match. -/
def takesNothing : Pattern Atom → Bool
  | empty => true
  | atom (.one _) => false
  | atom (.anchor _) => true
  | both first second => first.takesNothing && second.takesNothing
  | either left right => left.takesNothing && right.takesNothing
  | repeated inside _ _ => inside.takesNothing
  | group inside => inside.takesNothing

def isEmpty {α : Type} : Pattern α → Bool
  | empty => true
  | _ => false

/-- Patterns one after another. Empty ones are left out. -/
def sequence {α : Type} (items : List (Pattern α)) : Pattern α :=
  match (items.filter fun item => !item.isEmpty).reverse with
  | [] => empty
  | last :: earlier => earlier.foldl (fun later item => both item later) last

def one? : Pattern Atom → Option Ranges
  | atom (.one characters) => some characters
  | _ => none

/-- At least one pattern is given. Alternatives of one character each are a single class. -/
def alternatives (branches : List (Pattern Atom)) : Pattern Atom :=
  match branches.mapM one?, branches.reverse with
  | some classes, _ => atom (.one (Ranges.normal classes.flatten))
  | none, last :: earlier => earlier.foldl (fun later branch => either branch later) last
  | none, [] => empty

/-- More than once nothing is not more than nothing once. -/
def repeatedOf (inside : Pattern Atom) (least : Nat) (most : Option Nat) : Pattern Atom :=
  let (least, most) := if inside.takesNothing then (min least 1, some (min (most.getD 1) 1))
    else (least, most)
  match least, most with
  | 0, some 0 => empty
  | 1, some 1 => inside
  | least, most => repeated inside least most

def everywhere (length : Nat) : Nat :=
  Nat.pow 2 (length + 1) - 1

def occursIn (pattern : Pattern Atom) (text : String) : Bool :=
  let length := text.toList.length
  (pattern.map (Atom.move text.toList)).ends length (everywhere length) != 0

end Pattern

end ThreeAddress.Text
