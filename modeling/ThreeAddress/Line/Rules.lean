import ThreeAddress.Line
import ThreeAddress.Numeral
import ThreeAddress.Text.Characters
import ThreeAddress.Text.Lines

/-!
Reading a line. Blank lines and lines that start with `#` say nothing, and a line that ends
in a colon is a label. Any other line is cut into words and the first rule that fits its
words decides; a line that no rule fits is generic, so reading never fails.
-/

namespace ThreeAddress.Line

/-! ## Words -/

def isAssign (word : String) : Bool :=
  word == "=" || word == ":="

/-- Temporaries are `t` followed by decimal digits of any script. -/
def isTemp (word : String) : Bool :=
  match word.toList with
  | 't' :: digits => !digits.isEmpty && digits.all Text.isDecimalDigit
  | _ => false

def isChar (word : String) : Bool :=
  word.toList.head? == some '\''

def isIntOrChar (word : String) : Bool :=
  isChar word || (Numeral.int32? word.toList).isSome

def isFloat (word : String) : Bool :=
  Numeral.isDecimal word.toList

/-- An integer is also a decimal, so integers are tried first. -/
def valueOf (word : String) : Value :=
  match word.toList with
  | '+' :: '+' :: name => .increment (String.ofList name)
  | _ =>
      if isIntOrChar word then .intOrChar word
      else if isFloat word then .float word
      else if isTemp word then .temp word
      else .variable word

def isNameStart (c : Char) : Bool :=
  c.isAlpha || c == '_'

def isName : List Char → Bool
  | [] => false
  | first :: rest => isNameStart first && rest.all Text.isWordChar

/-- The declarator `name[count]`. The count is written in ASCII digits without a sign. -/
def arrayOf? (word : String) : Option Declaration :=
  let text := word.toList
  let name := text.takeWhile (· != '[')
  match text.dropWhile (· != '[') with
  | [] => none
  | _ :: rest =>
      if isName name && rest.getLast? == some ']' && Numeral.isDigits rest.dropLast then
        (Numeral.uint32? rest.dropLast).map fun count => .array (String.ofList name) count
      else
        none

/-! ## Lines -/

def declaration? : List String → Option Line
  | ["dataArray", declarator] => (arrayOf? declarator).map .declaration
  | ["dataChar", name] => some (.declaration (.char name))
  | ["dataInt", name] => some (.declaration (.int name))
  | ["dataFloat", name] => some (.declaration (.float name))
  | _ => none

/-- A condition may have several words; the last `goto` but one word ends it. -/
def conditional? (words : List String) : Option Line :=
  match words.reverse with
  | target :: "goto" :: word :: before =>
      some (.control (.ifGoto (String.intercalate " " (word :: before).reverse) target))
  | _ => none

def control? : List String → Option Line
  | "if" :: rest => conditional? rest
  | ["goto", target] => some (.control (.goto target))
  | "return" :: _ => some (.control .leave)
  | _ => none

/-- The first comma separates the callee from the number of arguments. A number that cannot
be read is taken for none. -/
def calleeOf (text : List Char) : Call :=
  let callee := String.ofList (Text.trim (text.takeWhile (· != ',')))
  match text.dropWhile (· != ',') with
  | [] => .call callee none
  | _ :: count => .call callee (Numeral.uint32? (Text.trim count))

def call? : List String → Option Line
  | ["param", value] => some (.call (.param value))
  | "call" :: first :: rest =>
      some (.call (calleeOf (String.intercalate " " (first :: rest)).toList))
  | _ => none

def temp? : List String → Option Line
  | [dest, sign, word] =>
      if isTemp dest && isAssign sign then some (.assign dest (valueOf word)) else none
  | [dest, sign, left, symbol, right] =>
      if isTemp dest && isAssign sign then
        (Operator.ofSymbol? symbol).map fun op => .operation dest left op right
      else
        none
  | _ => none

def store? : List String → Option Line
  | [dest, sign, temp] =>
      if isAssign sign && isTemp temp then some (.store dest temp) else none
  | _ => none

def rules : List (List String → Option Line) :=
  [declaration?, control?, call?, temp?, store?]

def ofWords? (words : List String) : Option Line :=
  rules.findSome? fun rule => rule words

def wordsOf (text : List Char) : List String :=
  (Text.words text).map String.ofList

def ofTrimmed? (text : List Char) : Option Line :=
  if text.isEmpty || text.head? == some '#' then none
  else if text.getLast? == some ':' then some (.label (String.ofList text))
  else some ((ofWords? (wordsOf text)).getD (.generic (String.ofList text)))

def ofText? (raw : String) : Option Line :=
  ofTrimmed? (Text.trim raw.toList)

end ThreeAddress.Line
