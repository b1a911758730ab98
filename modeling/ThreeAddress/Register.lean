/-!
The registers of a MIPS32 machine that generated code uses, and the two classes of them that
are handed out: `$t0` to `$t9` and `$f0` to `$f31`. A register can carry any number of eight
bits; the capacity of its class says which ones the machine has. The type of a declared variable
says which class its value goes to.
-/

namespace ThreeAddress

inductive SymbolType where
  | int
  | float
  | char
  | string
  | array
  deriving DecidableEq, Repr

namespace SymbolType

def name : SymbolType → String
  | int => "int"
  | float => "float"
  | char => "char"
  | string => "string"
  | array => "array"

def isFloat : SymbolType → Bool
  | float => true
  | _ => false

/-- Bytes reserved for one value; for an array, for one element. -/
def size : SymbolType → UInt32
  | char => 1
  | _ => 4

end SymbolType

inductive RegisterClass where
  | general
  | float
  deriving DecidableEq, Repr

inductive Register where
  | zero
  | v0
  | a0
  | t (index : UInt8)
  | f (index : UInt8)
  deriving DecidableEq, Repr

namespace RegisterClass

def name : RegisterClass → String
  | general => "general"
  | float => "float"

def capacity : RegisterClass → Nat
  | general => 10
  | float => 32

def register : RegisterClass → UInt8 → Register
  | general => .t
  | float => .f

end RegisterClass

/-- The class that a value of the type is loaded into. -/
def SymbolType.registerClass (type : SymbolType) : RegisterClass :=
  if type.isFloat then .float else .general

namespace Register

def registerClass? : Register → Option RegisterClass
  | t _ => some .general
  | f _ => some .float
  | _ => none

def isFloat : Register → Bool
  | f _ => true
  | _ => false

def name : Register → String
  | zero => "$zero"
  | v0 => "$v0"
  | a0 => "$a0"
  | t index => "$t" ++ Nat.repr index.toNat
  | f index => "$f" ++ Nat.repr index.toNat

theorem registerClass?_register (cls : RegisterClass) (index : UInt8) :
    (cls.register index).registerClass? = some cls := by
  cases cls <;> rfl

theorem isFloat_iff (register : Register) :
    register.isFloat = true ↔ register.registerClass? = some .float := by
  cases register <;> simp [isFloat, registerClass?]

end Register

end ThreeAddress
