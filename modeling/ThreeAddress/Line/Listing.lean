import ThreeAddress.Line
import ThreeAddress.Text.Quoted

/-!
Lines as a listing shows them: constructor names with their fields, texts quoted.
-/

namespace ThreeAddress

namespace Listing

def applied (name : String) (fields : List String) : String :=
  name ++ "(" ++ String.intercalate ", " fields ++ ")"

def record (name : String) (fields : List (String × String)) : String :=
  name ++ " \x7b " ++
    String.intercalate ", " (fields.map fun field => field.1 ++ ": " ++ field.2) ++ " \x7d"

def optional (item : Option String) : String :=
  match item with
  | some text => applied "Some" [text]
  | none => "None"

end Listing

open Listing

def Operator.listing : Operator → String
  | add => "Add"
  | sub => "Sub"
  | gt => "Gt"
  | lt => "Lt"
  | eq => "Eq"
  | ne => "Ne"
  | and => "And"
  | or => "Or"
  | mul => "Mul"
  | div => "Div"

def Declaration.listing : Declaration → String
  | array name count =>
      record "Array" [("name", Text.quoted name), ("count", Nat.repr count.toNat)]
  | char name => record "Char" [("name", Text.quoted name)]
  | int name => record "Int" [("name", Text.quoted name)]
  | float name => record "Float" [("name", Text.quoted name)]

def Transfer.listing : Transfer → String
  | ifGoto condition target =>
      record "IfGoto" [("cond", Text.quoted condition), ("target", Text.quoted target)]
  | goto target => record "Goto" [("target", Text.quoted target)]
  | leave => "Return"

def Call.listing : Call → String
  | param value => record "Param" [("value", Text.quoted value)]
  | call callee count =>
      record "Call" [("callee", Text.quoted callee),
        ("arg_count", optional (count.map fun n => Nat.repr n.toNat))]

def Value.listing : Value → String
  | increment name => applied "Increment" [Text.quoted name]
  | intOrChar literal => applied "IntOrChar" [Text.quoted literal]
  | float literal => applied "Float" [Text.quoted literal]
  | temp name => applied "Temp" [Text.quoted name]
  | .variable name => applied "Variable" [Text.quoted name]

def Line.listing : Line → String
  | label text => applied "Label" [Text.quoted text]
  | declaration declared => applied "Declaration" [declared.listing]
  | control flow => applied "ControlFlow" [flow.listing]
  | call made => applied "Call" [made.listing]
  | operation dest left op right =>
      record "BinaryOp" [("dest", Text.quoted dest), ("lhs", Text.quoted left), ("op", op.listing),
        ("rhs", Text.quoted right)]
  | assign dest value =>
      record "SimpleAssign" [("dest", Text.quoted dest), ("value", value.listing)]
  | store dest temp => record "StoreTemp" [("dest", Text.quoted dest), ("temp", Text.quoted temp)]
  | generic text => applied "Generic" [Text.quoted text]

end ThreeAddress
