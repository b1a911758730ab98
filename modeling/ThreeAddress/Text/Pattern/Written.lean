import ThreeAddress.Text.Pattern.Bracketed
import ThreeAddress.Text.Pattern.Group

/-!
Written patterns as a whole. Characters stand for themselves, but for classes in brackets,
escapes, the dot, anchors, bars between alternatives, groups in parentheses and repetitions.
-/

namespace ThreeAddress.Text.Pattern

/-- Parts that stand one after another, the latest first, and where they start. -/
structure Row where
  start : Nat
  items : List Node := []

namespace Row

def add (row : Row) (node : Node) : Row :=
  { row with items := node :: row.items }

def toNode (row : Row) (finish : Nat) : Node :=
  match row.items with
  | [] => .empty
  | [only] => only
  | items => .sequence ⟨row.start, finish⟩ items.reverse

end Row

/-- What the row that is being read is part of: alternatives, of which the latest comes first,
or a group with the row around it. -/
inductive Around where
  | alternatives (start : Nat) (branches : List Node)
  | group (parenthesis : Span) (captures : Bool) (settings : Settings) (outer : Row)
      (spaced : Bool)

structure Progress where
  row : Row
  around : List Around := []
  names : GroupNames := []

namespace Progress

def add (progress : Progress) (node : Node) : Progress :=
  { progress with row := progress.row.add node }

/-- The row with the alternatives before it, and what they are part of. -/
def complete (progress : Progress) (finish : Nat) : Node × List Around :=
  let last := progress.row.toNode finish
  match progress.around with
  | .alternatives start branches :: around =>
      (.alternatives ⟨start, finish⟩ (last :: branches).reverse, around)
  | around => (last, around)

def bar (progress : Progress) (finish : Nat) : Progress :=
  let last := progress.row.toNode finish
  let around := match progress.around with
    | .alternatives start branches :: around => .alternatives start (last :: branches) :: around
    | around => .alternatives progress.row.start [last] :: around
  { progress with row := { start := finish + 1 }, around }

end Progress

namespace Reader

def openGroup (progress : Progress) : Reader Progress := do
  let parenthesis ← nextSpan
  let spaced := (← get).spaced
  let (opening, names) ← groupOpening progress.names
  match opening with
  | .flags settings =>
      modify fun cursor => { cursor with spaced := (settings.find? .spaced).getD spaced }
      let span ← spanFrom parenthesis.start
      return { progress.add (.flags span settings) with names }
  | .group captures settings =>
      modify fun cursor => { cursor with spaced := (settings.find? .spaced).getD spaced }
      let around := .group parenthesis captures settings progress.row spaced :: progress.around
      return { row := { start := ← offset }, around, names }

def closeGroup (progress : Progress) : Reader Progress := do
  match progress.complete (← offset) with
  | (inside, .group parenthesis captures settings outer spaced :: around) =>
      modify fun cursor => { cursor with spaced }
      advance
      let span ← spanFrom parenthesis.start
      return { progress with row := outer.add (.group span captures settings inside), around }
  | _ => fail .groupUnopened (← nextSpan)

def mayRepeat : Node → Bool
  | .empty => false
  | .flags _ _ => false
  | _ => true

def repetition (progress : Progress) (bounds : Reader Bounds) : Reader Progress := do
  match progress.row.items with
  | [] => fail .nothingToRepeat (← here)
  | item :: items =>
      if !mayRepeat item then fail .nothingToRepeat (← here)
      let (least, most) ← bounds
      let span ← spanFrom item.start
      let items := .repeated span item least most :: items
      return { progress with row := { progress.row with items } }

def element (progress : Progress) (element : Element) : Reader Progress := do
  let span ← nextSpan
  advance
  return progress.add (.element span element)

def itemAt (progress : Progress) (c : Char) : Reader Progress := do
  match c with
  | '(' => openGroup progress
  | ')' => closeGroup progress
  | '|' =>
      let next := progress.bar (← offset)
      advance
      return next
  | '[' => return progress.add (← bracketed)
  | '\x7b' => repetition progress count
  | '\\' =>
      let (span, element) ← escape
      return progress.add (.element span element)
  | '.' => element progress .dot
  | '^' => element progress (.boundary .lineStart)
  | '$' => element progress (.boundary .lineEnd)
  | c =>
      if c == '?' || c == '*' || c == '+' then repetition progress (repetitionSign c)
      else element progress (.letter c false)

/-- Every step takes at least one character. -/
def itemsFor : Nat → Progress → Reader Progress
  | 0, progress => return progress
  | fuel + 1, progress => do
      skipBlanks
      match ← next? with
      | none => return progress
      | some c => itemsFor fuel (← itemAt progress c)

def whole : Reader Node := do
  let progress ← itemsFor ((← get).rest.length + 1) { row := { start := 0 } }
  match progress.complete (← offset) with
  | (node, []) => return node
  | (_, .group parenthesis _ _ _ _ :: _) => fail .groupUnclosed parenthesis
  | (node, _) => return node

end Reader

def readNode (text : String) : Except Fault Node :=
  (Reader.whole.run { offset := 0, rest := text.toList }).map (·.1)

end ThreeAddress.Text.Pattern
