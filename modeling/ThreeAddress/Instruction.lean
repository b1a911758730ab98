import ThreeAddress.Register

/-!
MIPS32 instructions, grouped by the shape of their operands. Memory operands are symbols of
the data section. The operand of a load immediate is kept as it was written, so that a
character literal reaches the assembler untouched.
-/

namespace ThreeAddress

inductive ComputeOp where
  | add | addSingle | sub | sgt | slt | seq | sne | and | or
  deriving DecidableEq, Repr

inductive LoOp where
  | mult | div
  deriving DecidableEq, Repr

inductive ImmediateOp where
  | integer | single
  deriving DecidableEq, Repr

/-- Copies from one register to another; the last takes the bits out of a float register. -/
inductive CopyOp where
  | move | single | fromFloat
  deriving DecidableEq, Repr

inductive LoadOp where
  | word | byte | address | single
  deriving DecidableEq, Repr

inductive StoreOp where
  | word | byte | single
  deriving DecidableEq, Repr

inductive Instruction where
  | compute (op : ComputeOp) (dest left right : Register)
  | addImmediate (dest source : Register) (value : Int32)
  | intoLo (op : LoOp) (left right : Register)
  | fromLo (dest : Register)
  | immediate (op : ImmediateOp) (dest : Register) (literal : String)
  | copy (op : CopyOp) (dest source : Register)
  | load (op : LoadOp) (dest : Register) (symbol : String)
  | store (op : StoreOp) (source : Register) (symbol : String)
  | branchZero (tested : Register) (target : String)
  | jump (target : String)
  | syscall
  deriving DecidableEq, Repr

def ComputeOp.mnemonic : ComputeOp → String
  | add => "add"
  | addSingle => "add.s"
  | sub => "sub"
  | sgt => "sgt"
  | slt => "slt"
  | seq => "seq"
  | sne => "sne"
  | and => "and"
  | or => "or"

def LoOp.mnemonic : LoOp → String
  | mult => "mult"
  | div => "div"

def ImmediateOp.mnemonic : ImmediateOp → String
  | integer => "li"
  | single => "li.s"

def CopyOp.mnemonic : CopyOp → String
  | move => "move"
  | single => "mov.s"
  | fromFloat => "mfc1"

def LoadOp.mnemonic : LoadOp → String
  | word => "lw"
  | byte => "lb"
  | address => "la"
  | single => "l.s"

def StoreOp.mnemonic : StoreOp → String
  | word => "sw"
  | byte => "sb"
  | single => "s.s"

/-- Strings and arrays are loaded by address. -/
def SymbolType.loadOp : SymbolType → LoadOp
  | int => .word
  | float => .single
  | char => .byte
  | string | array => .address

def SymbolType.storeOp : SymbolType → StoreOp
  | float => .single
  | char => .byte
  | int | string | array => .word

namespace Instruction

def mnemonic : Instruction → String
  | compute op .. => op.mnemonic
  | addImmediate .. => "addi"
  | intoLo op .. => op.mnemonic
  | fromLo _ => "mflo"
  | immediate op .. => op.mnemonic
  | copy op .. => op.mnemonic
  | load op .. => op.mnemonic
  | store op .. => op.mnemonic
  | branchZero .. => "beqz"
  | jump _ => "j"
  | syscall => "syscall"

def operands : Instruction → List String
  | compute _ dest left right => [dest.name, left.name, right.name]
  | addImmediate dest source value => [dest.name, source.name, Int.repr value.toInt]
  | intoLo _ left right => [left.name, right.name]
  | fromLo dest => [dest.name]
  | immediate _ dest literal => [dest.name, literal]
  | copy _ dest source => [dest.name, source.name]
  | load _ dest symbol => [dest.name, symbol]
  | store _ source symbol => [source.name, symbol]
  | branchZero tested target => [tested.name, target]
  | jump target => [target]
  | syscall => []

def text (instruction : Instruction) : String :=
  match instruction.operands with
  | [] => instruction.mnemonic
  | operands => instruction.mnemonic ++ " " ++ String.intercalate ", " operands

end Instruction

/-- One line of the text section. A raw line is source text that is passed through. -/
inductive Item where
  | code (instruction : Instruction)
  | label (text : String)
  | comment (text : String)
  | raw (text : String)
  deriving DecidableEq, Repr

namespace Item

/-- Labels and comments take no time; a raw line is taken to be an instruction. -/
def isExecuted : Item → Bool
  | code _ | raw _ => true
  | label _ | comment _ => false

def text : Item → String
  | code instruction => instruction.text
  | label text => text
  | comment text => "#" ++ text
  | raw text => text

end Item

/-! ## Services

The number of a service of the simulator goes in `$v0` and its argument, if it has one, in
`$a0`. -/

inductive Service where
  | printInteger
  | exit
  deriving DecidableEq, Repr

namespace Service

def number : Service → Nat
  | printInteger => 1
  | exit => 10

def request (service : Service) : List Instruction :=
  [.immediate .integer .v0 (Nat.repr service.number), .syscall]

/-- A float register is printed as the integer with its bits. -/
def passArgument (source : Register) : Instruction :=
  .copy (if source.isFloat then .fromFloat else .move) .a0 source

def print (source : Register) : List Instruction :=
  passArgument source :: printInteger.request

end Service

end ThreeAddress
