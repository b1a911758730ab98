import ThreeAddress.Text.Pattern
import ThreeAddress.Text.Pattern.Cursor
import ThreeAddress.Text.Property

/-!
Patterns as they are written: the parts of a pattern with their places in it.
-/

namespace ThreeAddress.Text.Pattern

/-- Flags change how what is behind them is meant. -/
inductive Flag where
  | ignoreCase
  | multiLine
  | dotAll
  | shortest
  | unicode
  | returns
  | spaced
  deriving DecidableEq, Repr

/-- Flags with whether they are switched on. -/
abbrev Settings := List (Flag × Bool)

def Settings.find? (settings : Settings) (flag : Flag) : Option Bool :=
  (List.find? (fun setting => setting.1 == flag) settings).map (·.2)

inductive Shorthand where
  | digit
  | blank
  | word
  deriving DecidableEq, Repr

inductive Boundary where
  | lineStart
  | lineEnd
  | textStart
  | textEnd
  | word (condition : WordAnchor)
  deriving DecidableEq, Repr

/-- A character may be given as a byte, by two hexadecimal digits. -/
inductive Element where
  | letter (c : Char) (byte : Bool)
  | dot
  | boundary (kind : Boundary)
  | shorthand (kind : Shorthand) (negated : Bool)
  | property (question : Property.Question) (negated : Bool)
  deriving DecidableEq, Repr

inductive SetOperator where
  | intersection
  | difference
  | separate
  deriving DecidableEq, Repr

inductive Members where
  | none (span : Span)
  | element (span : Span) (element : Element)
  | range (span : Span) (first last : Span × Char × Bool)
  | named (span : Span) (characters : Ranges) (negated : Bool)
  | bracketed (span : Span) (negated : Bool) (inside : Members)
  | union (span : Span) (parts : List Members)
  | operation (span : Span) (operator : SetOperator) (left right : Members)
  deriving Repr

def Members.span : Members → Span
  | none span => span
  | element span _ => span
  | range span _ _ => span
  | named span _ _ => span
  | bracketed span _ _ => span
  | union span _ => span
  | operation span _ _ _ => span

inductive Node where
  | empty
  | flags (span : Span) (settings : Settings)
  | element (span : Span) (element : Element)
  | bracketed (span : Span) (negated : Bool) (inside : Members)
  | repeated (span : Span) (inside : Node) (least : Nat) (most : Option Nat)
  | group (span : Span) (captures : Bool) (settings : Settings) (inside : Node)
  | sequence (span : Span) (items : List Node)
  | alternatives (span : Span) (branches : List Node)
  deriving Repr

def Node.start : Node → Nat
  | empty => 0
  | flags span _ => span.start
  | element span _ => span.start
  | bracketed span _ _ => span.start
  | repeated span _ _ _ => span.start
  | group span _ _ _ => span.start
  | sequence span _ => span.start
  | alternatives span _ => span.start

/-- The span itself, if it is inside too many others already, and else what is found inside
it. -/
@[macro_inline] def beyond? (depth : Nat) (span : Span) (inside : Option Span) : Option Span :=
  if depth < depthLimit then inside else some span

mutual

def Members.tooDeep? (depth : Nat) : Members → Option Span
  | .bracketed span _ inside => beyond? depth span (inside.tooDeep? (depth + 1))
  | .union span parts => beyond? depth span (membersTooDeep? (depth + 1) parts)
  | .operation span _ left right =>
      beyond? depth span ((left.tooDeep? (depth + 1)).or (right.tooDeep? (depth + 1)))
  | _ => .none

def membersTooDeep? (depth : Nat) : List Members → Option Span
  | [] => .none
  | part :: later => (part.tooDeep? depth).or (membersTooDeep? depth later)

end

mutual

/-- The first part, from the outside in, that is inside too many others. -/
def Node.tooDeep? (depth : Nat) : Node → Option Span
  | .bracketed span _ inside => beyond? depth span (inside.tooDeep? (depth + 1))
  | .repeated span inside _ _ => beyond? depth span (inside.tooDeep? (depth + 1))
  | .group span _ _ inside => beyond? depth span (inside.tooDeep? (depth + 1))
  | .sequence span items => beyond? depth span (nodesTooDeep? (depth + 1) items)
  | .alternatives span branches => beyond? depth span (nodesTooDeep? (depth + 1) branches)
  | _ => none

def nodesTooDeep? (depth : Nat) : List Node → Option Span
  | [] => none
  | node :: later => (node.tooDeep? depth).or (nodesTooDeep? depth later)

end

end ThreeAddress.Text.Pattern
