import ThreeAddress.Diagnostic
import ThreeAddress.Line
import ThreeAddress.Program
import ThreeAddress.Register

/-!
What is wrong with a program. A failure ends a lowering: a file that cannot be read or written, or a
class of registers that is used up. A finding leaves the line lowered: a warning says that a
default was taken, an error that the code of the line was dropped, a note that the line may not do
what it says.
-/

namespace ThreeAddress

inductive Failure where
  | file (path : Option String) (cause : String)
  | exhausted (location : Location) (className : String) (limit : Nat)
  deriving DecidableEq, Repr

namespace Failure

def ofClass (location : Location) (cls : RegisterClass) : Failure :=
  exhausted location cls.name cls.capacity

def message : Failure → String
  | file none cause => "IO error: " ++ cause
  | file (some path) cause => "IO error: " ++ path ++ ": " ++ cause
  | exhausted location className limit =>
      "Register exhaustion at " ++ location.text ++ ": all " ++ Nat.repr limit ++ " " ++
        className ++ " registers are in use"

end Failure

inductive Finding where
  /-- A branch with no register to test. -/
  | nothingTested (condition : String)
  /-- A branch that tests another register than the one its condition is held in. -/
  | otherTested (condition : String) (bound tested : Register)
  | argumentCount (passed : UInt32)
  | noArgument
  /-- A temporary that was never assigned, printed from the register of its number. -/
  | unboundPrinted (temp : String) (printed : Register)
  | unboundDropped (temp : String)
  | missingOperand (op : Operator) (cls : RegisterClass) (count : Nat)
  | undeclared (name : String)
  | nothingStored (dest : String) (type : SymbolType) (temp : String)
  deriving DecidableEq, Repr

namespace Finding

def severity : Finding → Severity
  | nothingTested _ | argumentCount _ | unboundPrinted .. | missingOperand .. | undeclared _ =>
      .warning
  | otherTested .. => .note
  | noArgument | unboundDropped _ | nothingStored .. => .error

def quoted (word : String) : String :=
  "'" ++ word ++ "'"

def message : Finding → String
  | nothingTested condition =>
      "branch on " ++ quoted condition ++
        " before any general register was allocated, testing $t0"
  | otherTested condition bound tested =>
      "condition " ++ quoted condition ++ " is held in " ++ bound.name ++ " but " ++
        tested.name ++ " is tested"
  | argumentCount passed =>
      "print takes one argument, call passes " ++ Nat.repr passed.toNat
  | noArgument => "print called with no pending argument, nothing printed"
  | unboundPrinted temp printed =>
      "temporary " ++ quoted temp ++ " has no register binding, printing " ++ printed.name
  | unboundDropped temp => "temporary " ++ quoted temp ++ " has no register, nothing printed"
  | missingOperand op cls count =>
      quoted op.symbol ++ " needs two " ++ cls.name ++ " operand registers but only " ++
        Nat.repr count ++ " allocated, using $zero"
  | undeclared name =>
      "no declared type for variable " ++ quoted name ++ ", assuming int"
  | nothingStored dest type temp =>
      "no " ++ type.registerClass.name ++ " register holds " ++ quoted temp ++ ", store to " ++
        quoted dest ++ " skipped"

def notes : Finding → List String
  | noArgument => ["a `param` line must precede the call"]
  | unboundDropped _ =>
      ["only " ++ Nat.repr RegisterClass.general.capacity ++ " general registers exist"]
  | nothingStored dest type _ =>
      [quoted dest ++ " is " ++ type.name ++ " and no " ++ type.registerClass.name ++
        " register has been allocated yet"]
  | _ => []

def diagnostic (finding : Finding) (location : Location) : Diagnostic :=
  ⟨finding.severity, finding.message, location, finding.notes⟩

end Finding

end ThreeAddress
