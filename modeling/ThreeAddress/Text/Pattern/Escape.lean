import ThreeAddress.Text.Pattern.Cursor
import ThreeAddress.Text.Pattern.Node

/-!
Escapes: what a backslash and the characters behind it stand for.
-/

namespace ThreeAddress.Text.Pattern

namespace Reader

def character (code : Nat) (span : Span) : Reader Char :=
  if code.isValidChar then return Char.ofNat code else fail .hexNoCharacter span

def hexDigits : Nat → Reader (List Char)
  | 0 => return []
  | n + 1 => do
      match ← next? with
      | none => fail .escapeCut (← here)
      | some c =>
          if Numeral.isHexDigit c then
            advanceOver
            return c :: (← hexDigits n)
          else fail .hexDigit (← nextSpan)

def fixedHex (digits : Nat) : Reader Char := do
  let start ← offset
  let written ← hexDigits digits
  character (Numeral.hexadecimal written) (← spanFrom start)

def bracedHex : Reader Char := do
  let brace ← offset
  advanceOver
  let written ← spacedRun Numeral.isHexDigit
  let finish ← offset
  match ← next? with
  | none => fail .escapeCut (← spanFrom brace)
  | some '\x7d' =>
      advanceOver
      if written.isEmpty then fail .hexEmpty (← spanFrom brace)
      else character (Numeral.hexadecimal written) ⟨brace + 1, finish⟩
  | some _ => fail .hexDigit (← nextSpan)

def hexLength : Char → Nat
  | 'x' => 2
  | 'u' => 4
  | _ => 8

/-- A character by its number, behind the letter `kind`. -/
def hexCharacter (kind : Char) : Reader Element := do
  advanceOver
  if (← next?) == some '\x7b' then return .letter (← bracedHex) false
  else return .letter (← fixedHex (hexLength kind)) (kind == 'x')

/-- The text up to the first `sign` and the text behind it. -/
def splitAt? (sign : List Char) : List Char → Option (List Char × List Char)
  | [] => none
  | c :: rest =>
      if sign.isPrefixOf (c :: rest) then some ([], (c :: rest).drop sign.length)
      else (splitAt? sign rest).map fun parts => (c :: parts.1, parts.2)

/-- A property with a value has one of three signs between them, all with the same meaning. -/
def question (text : List Char) : Property.Question :=
  match ((splitAt? ['!', '='] text).or (splitAt? [':'] text)).or (splitAt? ['='] text) with
  | some (name, value) => .valued name value
  | none => .alone text

def propertyClass (negated : Bool) : Reader Element := do
  advanceOver
  match ← next? with
  | none => fail .escapeCut (← here)
  | some '\x7b' =>
      advanceOver
      let written ← spacedRun (· != '\x7d')
      if (← next?).isNone then fail .escapeCut (← here)
      advance
      return .property (question written) negated
  | some '\\' => fail .propertyUnreadable (← nextSpan)
  | some c =>
      advance
      return .property (.alone [c]) negated

def wordAnchor? (name : String) : Option WordAnchor :=
  match name with
  | "start" => some .start
  | "end" => some .finish
  | "start-half" => some .startHalf
  | "end-half" => some .finishHalf
  | _ => none

def inAnchorName (c : Char) : Bool :=
  c.isAlpha || c == '-'

/-- The name of a word anchor in braces. A brace before anything but a name begins a counted
repetition and stays. -/
def wordAnchor (escape : Nat) : Reader WordAnchor := do
  let before ← get
  if before.rest.head? != some '\x7b' then return .edge
  advanceOver
  match ← next? with
  | none => fail .wordAnchorCut (← spanFrom escape)
  | some c =>
      if !inAnchorName c then
        set before
        return .edge
      let start ← offset
      let name ← spacedRun inAnchorName
      if (← next?) != some '\x7d' then fail .wordAnchorUnclosed (← spanFrom before.offset)
      let span ← spanFrom start
      advance
      match wordAnchor? (String.ofList name) with
      | some condition => return condition
      | none => fail .wordAnchorUnknown span

/-- Signs may be escaped wherever they stand, letters and digits may not. -/
def isEscapableSign (c : Char) : Bool :=
  c.toNat < 0x80 && !c.isAlphanum && c != '<' && c != '>'

def control? : Char → Option Char
  | 'a' => some '\x07'
  | 'f' => some '\x0c'
  | 't' => some '\t'
  | 'n' => some '\n'
  | 'r' => some '\r'
  | 'v' => some '\x0b'
  | _ => none

def shorthand? : Char → Option Element
  | 'd' => some (.shorthand .digit false)
  | 'D' => some (.shorthand .digit true)
  | 's' => some (.shorthand .blank false)
  | 'S' => some (.shorthand .blank true)
  | 'w' => some (.shorthand .word false)
  | 'W' => some (.shorthand .word true)
  | _ => none

def boundary? : Char → Option Boundary
  | 'A' => some .textStart
  | 'z' => some .textEnd
  | 'B' => some (.word .noEdge)
  | '<' => some (.word .start)
  | '>' => some (.word .finish)
  | _ => none

def simpleEscape? (c : Char) : Option Element :=
  if isEscapableSign c then some (.letter c false)
  else
    ((shorthand? c).or ((control? c).map fun c => .letter c false)).or
      ((boundary? c).map .boundary)

def escapeBehind (start : Nat) (c : Char) : Reader Element := do
  if c.isDigit then fail .backreference ⟨start, start + 2⟩
  else if c == 'x' || c == 'u' || c == 'U' then hexCharacter c
  else if c == 'p' || c == 'P' then propertyClass (c == 'P')
  else
    advance
    if c == 'b' then return .boundary (.word (← wordAnchor start))
    else
      match simpleEscape? c with
      | some element => return element
      | none => fail .escapeUnknown ⟨start, start + 2⟩

def escape : Reader (Span × Element) := do
  let start ← offset
  advance
  match ← next? with
  | none => fail .escapeCut (← spanFrom start)
  | some c =>
      let element ← escapeBehind start c
      return (← spanFrom start, element)

end Reader

end ThreeAddress.Text.Pattern
