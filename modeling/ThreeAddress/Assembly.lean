import ThreeAddress.Binary32
import ThreeAddress.Instruction

/-!
Assembly files: a preamble, the data section and the text section, one line for each entry
and item.
-/

namespace ThreeAddress

inductive Storage where
  | word (value : Int32)
  | float (value : Binary32)
  | space (bytes : UInt32)
  deriving DecidableEq, Repr

namespace Storage

def directive : Storage → String
  | word _ => ".word"
  | float _ => ".float"
  | space _ => ".space"

def operand : Storage → String
  | word value => Int.repr value.toInt
  | float value => value.text
  | space bytes => Nat.repr bytes.toNat

def line (name : String) (storage : Storage) : String :=
  name ++ ": " ++ storage.directive ++ " " ++ storage.operand

end Storage

structure Assembly where
  data : List (String × Storage) := []
  text : List Item := []

namespace Assembly

def unlines (lines : List String) : String :=
  String.join (lines.map (· ++ "\n"))

def preamble : List String :=
  [".text", ".globl main"]

def dataLines (assembly : Assembly) : List String :=
  ".data" :: assembly.data.map fun entry => entry.2.line entry.1

def textLines (assembly : Assembly) : List String :=
  assembly.text.map Item.text

def dataSection (assembly : Assembly) : String :=
  unlines assembly.dataLines

def textSection (assembly : Assembly) : String :=
  unlines assembly.textLines

def render (assembly : Assembly) : String :=
  unlines (preamble ++ assembly.dataLines ++ assembly.textLines)

end Assembly

end ThreeAddress
