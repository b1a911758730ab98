import ThreeAddress.Allocation
import ThreeAddress.Assembly
import ThreeAddress.Finding

/-!
The state of a lowering to machine code and its elementary steps. Code is only ever added at
the end. A line that needs registers may fail when a class is used up; what it did before
that stays done, so a step gives its state beside the failure and not in its place.
-/

namespace ThreeAddress

structure Options where
  /-- Mark what each line becomes with a comment. -/
  comments : Bool := true
  /-- Where `return` jumps to; without it, `return` ends the program. -/
  returnLabel : Option String := none

structure Lowering where
  options : Options := {}
  symbols : Table String SymbolType := {}
  registers : Allocation := {}
  /-- Arguments that wait for a call, the most recent first. -/
  pending : List String := []
  /-- The type of the last integer or float that was declared. -/
  currentType : Option SymbolType := none
  data : Table String Storage := {}
  text : List Item := []
  report : Report := {}
  location : Location := .input 0

abbrev Outcome := Lowering × Option Failure

namespace Lowering

def start (options : Options) : Lowering :=
  { options }

def done (s : Lowering) : Outcome :=
  (s, none)

def emit (s : Lowering) (items : List Item) : Lowering :=
  { s with text := s.text ++ items }

def code (s : Lowering) (instructions : List Instruction) : Lowering :=
  s.emit (instructions.map .code)

def comment (s : Lowering) (text : String) : Lowering :=
  if s.options.comments then s.emit [.comment text] else s

def raise (s : Lowering) (finding : Finding) : Lowering :=
  { s with report := s.report.add (finding.diagnostic s.location) }

def hold (s : Lowering) (temp : String) (register : Register) : Lowering :=
  { s with registers := s.registers.hold temp register }

def noteOrigin (s : Lowering) (register : Register) (name : String) : Lowering :=
  { s with registers := s.registers.noteOrigin register name }

def withRegister (s : Lowering) (cls : RegisterClass)
    (next : Register → Lowering → Outcome) : Outcome :=
  match s.registers.take cls with
  | .ok (register, registers) => next register { s with registers }
  | .error cause => (s, some (.exhausted s.location cause.registerClass.name cause.limit))

/-- Variables without a declaration are taken for integers. -/
def typeOf (s : Lowering) (name : String) : SymbolType :=
  (s.symbols.get? name).getD .int

def noteType (s : Lowering) (name : String) : Lowering :=
  match s.symbols.get? name with
  | some _ => s
  | none => s.raise (.undeclared name)

def tempClass? (s : Lowering) (word : String) : Option RegisterClass :=
  (s.registers.holder? word).bind Register.registerClass?

end Lowering

end ThreeAddress
