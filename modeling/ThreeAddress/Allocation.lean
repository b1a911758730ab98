import ThreeAddress.Register
import ThreeAddress.Table

/-!
The registers that are handed out and what they hold. Each class has a counter that only
grows: the registers of a class are handed out in order and none is ever freed, so once the
counter reaches the capacity of the class every request fails. Beside the counters stand the
register each temporary is held in and the variable each register was loaded from.
-/

namespace ThreeAddress

structure OutOfRegisters where
  registerClass : RegisterClass
  limit : Nat
  deriving DecidableEq, Repr

def OutOfRegisters.message (cause : OutOfRegisters) : String :=
  "No " ++ cause.registerClass.name ++ " registers left (limit " ++
    Nat.repr cause.limit ++ ")"

structure Allocation where
  general : Nat := 0
  float : Nat := 0
  holders : Table String Register := {}
  origins : Table Register String := {}

namespace Allocation

def count (held : Allocation) : RegisterClass → Nat
  | .general => held.general
  | .float => held.float

def advance (held : Allocation) : RegisterClass → Allocation
  | .general => { held with general := held.general + 1 }
  | .float => { held with float := held.float + 1 }

def take (held : Allocation) (cls : RegisterClass) :
    Except OutOfRegisters (Register × Allocation) :=
  if held.count cls < cls.capacity then
    .ok (cls.register (held.count cls).toUInt8, held.advance cls)
  else
    .error ⟨cls, cls.capacity⟩

/-- The register handed out before the last `skipped` ones. -/
def recent? (held : Allocation) (cls : RegisterClass) (skipped : Nat) : Option Register :=
  if skipped < held.count cls then
    some (cls.register (held.count cls - 1 - skipped).toUInt8)
  else
    none

def newest? (held : Allocation) (cls : RegisterClass) : Option Register :=
  held.recent? cls 0

def previous? (held : Allocation) (cls : RegisterClass) : Option Register :=
  held.recent? cls 1

def hold (held : Allocation) (temp : String) (register : Register) : Allocation :=
  { held with holders := held.holders.insert temp register }

def holder? (held : Allocation) (temp : String) : Option Register :=
  held.holders.get? temp

def noteOrigin (held : Allocation) (register : Register) (name : String) : Allocation :=
  { held with origins := held.origins.insert register name }

def origin? (held : Allocation) (register : Register) : Option String :=
  held.origins.get? register

@[simp] theorem count_advance (held : Allocation) (cls other : RegisterClass) :
    (held.advance cls).count other =
      if cls = other then held.count other + 1 else held.count other := by
  cases cls <;> cases other <;> rfl

@[simp] theorem count_hold (held : Allocation) (temp : String) (register : Register)
    (cls : RegisterClass) : (held.hold temp register).count cls = held.count cls := by
  cases cls <;> rfl

@[simp] theorem count_noteOrigin (held : Allocation) (register : Register) (name : String)
    (cls : RegisterClass) : (held.noteOrigin register name).count cls = held.count cls := by
  cases cls <;> rfl

end Allocation

end ThreeAddress
