import ThreeAddress.Instruction
import ThreeAddress.Line.Rules
import ThreeAddress.Lowering

/-!
Branches, jumps, returns and calls. The only function that can be called is `print`, which
takes the most recent pending argument; calls to others are ignored. None of these lines
needs a fresh register.
-/

namespace ThreeAddress.Lowering

/-- A branch that finds no register tests `$t0`. -/
def tested (s : Lowering) : Register :=
  (s.registers.newest? .general).getD (.t 0)

def noteTested (s : Lowering) (condition : String) : Lowering :=
  match s.registers.newest? .general with
  | some _ => s
  | none => s.raise (.nothingTested condition)

def noteOther (s : Lowering) (condition : String) : Lowering :=
  match s.registers.holder? condition with
  | some bound =>
      if bound = s.tested then s else s.raise (.otherTested condition bound s.tested)
  | none => s

/-- The most recent general register is tested, whatever the condition names. -/
def branch (s : Lowering) (condition target : String) : Lowering :=
  (((s.comment "if").noteTested condition).noteOther condition).code
    [.branchZero s.tested target]

def leave (s : Lowering) : Lowering :=
  (s.comment "return").code <|
    match s.options.returnLabel with
    | some label => [.jump label]
    | none => Service.exit.request

def control (s : Lowering) : Transfer → Lowering
  | .ifGoto condition target => s.branch condition target
  | .goto target => (s.comment "goto").code [.jump target]
  | .leave => s.leave

/-- The register with the number of a temporary, if there is one. Only ASCII digits count. -/
def sameNumber? (temp : String) : Option Register :=
  ((Numeral.uint8? (temp.toList.drop 1)).filter
    (·.toNat < RegisterClass.general.capacity)).map .t

def printUnbound (s : Lowering) (temp : String) : Lowering :=
  match sameNumber? temp with
  | some register => (s.raise (.unboundPrinted temp register)).code (Service.print register)
  | none => s.raise (.unboundDropped temp)

/-- A float cannot be loaded into `$a0`; its word is loaded instead. -/
def argumentLoad (type : SymbolType) : LoadOp :=
  if type = .float then SymbolType.int.loadOp else type.loadOp

def printArgument (s : Lowering) (argument : String) : Lowering :=
  match s.registers.holder? argument with
  | some register => s.code (Service.print register)
  | none =>
      if Line.isTemp argument then s.printUnbound argument
      else if Line.isIntOrChar argument then
        s.code (.immediate .integer .a0 argument :: Service.printInteger.request)
      else
        (s.noteType argument).code
          (.load (argumentLoad (s.typeOf argument)) .a0 argument ::
            Service.printInteger.request)

def noteCount (s : Lowering) (count : Option UInt32) : Lowering :=
  match count with
  | some passed => if passed = 1 then s else s.raise (.argumentCount passed)
  | none => s

def print (s : Lowering) : Lowering :=
  match s.pending with
  | [] => s.raise .noArgument
  | argument :: rest =>
      let s : Lowering := { s with pending := rest }
      (s.comment "print").printArgument argument

def isPrint (callee : String) : Bool :=
  callee == "print"

def call (s : Lowering) : Call → Lowering
  | .param value => { s with pending := value :: s.pending }
  | .call callee count => if isPrint callee then (s.noteCount count).print else s

end ThreeAddress.Lowering
