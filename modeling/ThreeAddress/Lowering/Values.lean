import ThreeAddress.Line
import ThreeAddress.Lowering

/-!
Lines that reserve memory, fill it, or give a temporary a value. A value goes into a fresh register,
and the temporary is bound to that.
-/

namespace ThreeAddress

namespace Declaration

def type : Declaration → SymbolType
  | array .. => .array
  | char _ => .char
  | int _ => .int
  | float _ => .float

/-- The bytes of an array stop at the largest number of 32 bits. -/
def storage : Declaration → Storage
  | array _ count =>
      .space (Nat.toUInt32 (min (count.toNat * SymbolType.array.size.toNat) (UInt32.size - 1)))
  | char _ => .space SymbolType.char.size
  | int _ => .word 0
  | float _ => .float .zero

/-- The type that declared numbers set for what follows. -/
def numberType? : Declaration → Option SymbolType
  | int _ => some .int
  | float _ => some .float
  | array .. | char _ => none

end Declaration

namespace Lowering

def declare (s : Lowering) (declared : Declaration) : Lowering :=
  let s := s.comment (declared.type.name ++ " declaration")
  { s with
    data := s.data.insert declared.name declared.storage
    symbols := s.symbols.insert declared.name declared.type
    currentType := declared.numberType? <|> s.currentType }

/-- A temporary held in a register of the class of the variable is stored from there, any
other from the last register of that class. -/
def storeSource? (s : Lowering) (cls : RegisterClass) (temp : String) : Option Register :=
  match (s.registers.holder? temp).filter (·.registerClass? == some cls) with
  | some register => some register
  | none => s.registers.newest? cls

def store (s : Lowering) (dest temp : String) : Lowering :=
  let type := s.typeOf dest
  let s := s.noteType dest
  match s.storeSource? type.registerClass temp with
  | some register => s.code [.store type.storeOp register dest]
  | none => s.raise (.nothingStored dest type temp)

end Lowering

/-- Multiplication and division leave their result in `LO`, from where it is fetched. -/
def Operator.code (op : Operator) (cls : RegisterClass) (dest left right : Register) :
    List Instruction :=
  match op with
  | add => [.compute (if cls = .float then .addSingle else .add) dest left right]
  | sub => [.compute .sub dest left right]
  | gt => [.compute .sgt dest left right]
  | lt => [.compute .slt dest left right]
  | eq => [.compute .seq dest left right]
  | ne => [.compute .sne dest left right]
  | and => [.compute .and dest left right]
  | or => [.compute .or dest left right]
  | mul => [.intoLo .mult left right, .fromLo dest]
  | div => [.intoLo .div left right, .fromLo dest]

namespace Lowering

/-- A sum is a float if an operand is held in a float register, and an integer if both are
held in general ones. Otherwise the last declared number decides. -/
def sumClass (s : Lowering) (left right : String) : RegisterClass :=
  match s.tempClass? left, s.tempClass? right with
  | some .float, _ | _, some .float => .float
  | some .general, some .general => .general
  | _, _ => if s.currentType = some .float then .float else .general

/-- Only sums have a float form. -/
def operationClass (s : Lowering) (op : Operator) (left right : String) : RegisterClass :=
  if op = .add then s.sumClass left right else .general

def noteOperands (s : Lowering) (op : Operator) (cls : RegisterClass) : Lowering :=
  match s.registers.previous? cls with
  | some _ => s
  | none => s.raise (.missingOperand op cls (s.registers.count cls))

/-- The operands are the two most recent registers of the class, whatever the line names. -/
def operation (s : Lowering) (dest left : String) (op : Operator) (right : String) :
    Outcome :=
  let cls := s.operationClass op left right
  let first := (s.registers.previous? cls).getD .zero
  let second := (s.registers.newest? cls).getD .zero
  ((s.comment ("op = " ++ op.symbol)).noteOperands op cls).withRegister cls fun result s =>
    done ((s.code (op.code cls result first second)).hold dest result)

def increment (s : Lowering) (dest name : String) : Outcome :=
  s.withRegister .general fun old s =>
    (s.code [.load .word old name]).withRegister .general fun new s =>
      let s := s.code [.addImmediate new old 1, .store .word new name]
      done ((s.noteOrigin old name).hold dest new)

def literal (s : Lowering) (dest : String) (op : ImmediateOp) (cls : RegisterClass)
    (text : String) : Outcome :=
  s.withRegister cls fun register s =>
    done ((s.code [.immediate op register text]).hold dest register)

def load (s : Lowering) (dest name : String) (next : Register → Lowering → Outcome) :
    Outcome :=
  let type := s.typeOf name
  (s.noteType name).withRegister type.registerClass fun register s =>
    let s := s.code [.load type.loadOp register name]
    next register ((s.noteOrigin register name).hold dest register)

def copy (s : Lowering) (dest : String) (source : Register)
    (next : Register → Lowering → Outcome) : Outcome :=
  s.withRegister (source.registerClass?.getD .general) fun register s =>
    let op := if source.isFloat then .single else .move
    next register ((s.code [.copy op register source]).hold dest register)

/-- A byte is stored from a general register, so a float is moved out first. -/
def storeByte (s : Lowering) (register : Register) (symbol : String) : Outcome :=
  if register.isFloat then
    s.withRegister .general fun bits s =>
      done (s.code [.copy .fromFloat bits register, .store .byte bits symbol])
  else
    done (s.code [.store .byte register symbol])

/-- A temporary without a register is loaded like a variable. Either way the value is then
stored under the name of the temporary. -/
def assignTemp (s : Lowering) (dest source : String) : Outcome :=
  let next := fun register s => storeByte s register source
  match s.registers.holder? source with
  | some register => s.copy dest register next
  | none => s.load dest source next

def assign (s : Lowering) (dest : String) : Value → Outcome
  | .increment name => s.increment dest name
  | .intOrChar text => s.literal dest .integer .general text
  | .float text => s.literal dest .single .float text
  | .temp source => s.assignTemp dest source
  | .variable name => s.load dest name fun _ s => done s

end Lowering

end ThreeAddress
