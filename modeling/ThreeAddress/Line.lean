/-!
The lines of a three address program. A line is kept by what it means; operands stay the
words that were written. Binary operators are written as one symbol each: logical and is `^` and
logical or is `#`.
-/

namespace ThreeAddress

inductive Operator where
  | add | sub | gt | lt | eq | ne | and | or | mul | div
  deriving DecidableEq, Repr

namespace Operator

def all : List Operator :=
  [add, sub, gt, lt, eq, ne, and, or, mul, div]

def symbol : Operator → String
  | add => "+"
  | sub => "-"
  | gt => ">"
  | lt => "<"
  | eq => "=="
  | ne => "!="
  | and => "^"
  | or => "#"
  | mul => "*"
  | div => "/"

def ofSymbol? (word : String) : Option Operator :=
  all.find? fun op => op.symbol == word

theorem ofSymbol?_symbol (op : Operator) : ofSymbol? op.symbol = some op := by
  cases op <;> decide

end Operator

inductive Declaration where
  | array (name : String) (count : UInt32)
  | char (name : String)
  | int (name : String)
  | float (name : String)
  deriving DecidableEq, Repr

inductive Transfer where
  | ifGoto (condition target : String)
  | goto (target : String)
  | leave
  deriving DecidableEq, Repr

inductive Call where
  | param (value : String)
  | call (callee : String) (count : Option UInt32)
  deriving DecidableEq, Repr

inductive Value where
  | increment (name : String)
  | intOrChar (literal : String)
  | float (literal : String)
  | temp (name : String)
  | variable (name : String)
  deriving DecidableEq, Repr

inductive Line where
  | label (text : String)
  | declaration (declared : Declaration)
  | control (flow : Transfer)
  | call (made : Call)
  | operation (dest left : String) (op : Operator) (right : String)
  | assign (dest : String) (value : Value)
  | store (dest temp : String)
  | generic (text : String)
  deriving DecidableEq, Repr

def Declaration.name : Declaration → String
  | array name _ | char name | int name | float name => name

def Line.dest? : Line → Option String
  | operation dest .. | assign dest _ => some dest
  | _ => none

end ThreeAddress
