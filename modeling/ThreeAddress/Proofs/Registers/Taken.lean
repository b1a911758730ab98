import ThreeAddress.Allocation
import ThreeAddress.Instruction

/-!
The registers of instructions, and those that have been handed out: those of a class below its
counter. The register that comes next is not among them, and the counter never passes the capacity
of its class, so the eight bits of a register number are always enough.
-/

namespace ThreeAddress

/-! ## Operands -/

def Register.index : Register → Nat
  | t index | f index => index.toNat
  | zero | v0 | a0 => 0

namespace Instruction

/-- The register that is filled. `LO` is none of the registers. -/
def dest? : Instruction → Option Register
  | compute _ dest .. | addImmediate dest .. | fromLo dest => some dest
  | immediate _ dest _ | copy _ dest _ | load _ dest _ => some dest
  | intoLo .. | store .. | branchZero .. | jump _ | syscall => none

def sources : Instruction → List Register
  | compute _ _ left right | intoLo _ left right => [left, right]
  | addImmediate _ source _ | copy _ _ source | store _ source _ => [source]
  | branchZero tested _ => [tested]
  | fromLo _ | immediate .. | load .. | jump _ | syscall => []

def fillsFloat : Instruction → Bool
  | compute .addSingle .. | immediate .single .. | copy .single .. | load .single .. => true
  | _ => false

def readsFloat : Instruction → Bool
  | compute .addSingle .. | copy .single .. | copy .fromFloat .. | store .single .. => true
  | _ => false

def Fits (instruction : Instruction) : Prop :=
  (∀ register ∈ instruction.dest?, register.isFloat = instruction.fillsFloat) ∧
    ∀ register ∈ instruction.sources, register.isFloat = instruction.readsFloat

instance (instruction : Instruction) : Decidable instruction.Fits :=
  inferInstanceAs (Decidable (_ ∧ _))

end Instruction

def Item.dest? : Item → Option Register
  | code instruction => instruction.dest?
  | label _ | comment _ | raw _ => none

def writes (items : List Item) : List Register :=
  items.filterMap Item.dest?

@[simp] theorem writes_nil : writes [] = [] := rfl

@[simp] theorem writes_append (first second : List Item) :
    writes (first ++ second) = writes first ++ writes second :=
  List.filterMap_append

@[simp] theorem writes_cons (item : Item) (rest : List Item) :
    writes (item :: rest) = item.dest?.toList ++ writes rest := by
  cases found : item.dest? <;> simp [writes, found]

/-! ## Registers that are taken -/

@[simp] theorem index_register (cls : RegisterClass) (number : UInt8) :
    (cls.register number).index = number.toNat := by
  cases cls <;> rfl

@[simp] theorem isFloat_register (cls : RegisterClass) (number : UInt8) :
    (cls.register number).isFloat = decide (cls = .float) := by
  cases cls <;> rfl

theorem register_index (register : Register) (cls : RegisterClass)
    (inClass : register.registerClass? = some cls) :
    cls.register register.index.toUInt8 = register := by
  cases register <;> cases cls <;> simp_all [Register.registerClass?, Register.index,
    RegisterClass.register]

theorem capacity_le (cls : RegisterClass) : cls.capacity ≤ 32 := by
  cases cls <;> decide

namespace Allocation

def upcoming (held : Allocation) (cls : RegisterClass) : Register :=
  cls.register (held.count cls).toUInt8

def Taken (held : Allocation) (register : Register) : Prop :=
  ∃ cls, register.registerClass? = some cls ∧ register.index < held.count cls

@[simp] theorem registerClass?_upcoming (held : Allocation) (cls : RegisterClass) :
    (held.upcoming cls).registerClass? = some cls :=
  Register.registerClass?_register cls _

@[simp] theorem isFloat_upcoming (held : Allocation) (cls : RegisterClass) :
    (held.upcoming cls).isFloat = decide (cls = .float) :=
  isFloat_register cls _

theorem index_upcoming (held : Allocation) (cls : RegisterClass)
    (room : held.count cls < cls.capacity) : (held.upcoming cls).index = held.count cls := by
  have small := capacity_le cls
  simp only [upcoming, index_register, Nat.toUInt8, UInt8.toNat_ofNat']
  omega

theorem recent?_taken (held : Allocation) (cls : RegisterClass) (skipped : Nat)
    (register : Register) (found : held.recent? cls skipped = some register) :
    held.Taken register := by
  simp only [recent?] at found
  split at found
  · rename_i enough
    cases found
    refine ⟨cls, Register.registerClass?_register cls _, ?_⟩
    have noWrap : (held.count cls - 1 - skipped).toUInt8.toNat ≤ held.count cls - 1 - skipped :=
      Nat.mod_le _ _
    simp only [index_register]
    omega
  · cases found

theorem newest?_taken {held : Allocation} {cls : RegisterClass} {register : Register}
    (found : held.newest? cls = some register) : held.Taken register :=
  recent?_taken held cls 0 register found

theorem recent?_class {held : Allocation} {cls : RegisterClass} {skipped : Nat}
    {register : Register} (found : held.recent? cls skipped = some register) :
    register.registerClass? = some cls := by
  simp only [recent?] at found
  split at found
  · cases found
    exact Register.registerClass?_register cls _
  · cases found

@[simp] theorem holder?_advance (held : Allocation) (cls : RegisterClass) (temp : String) :
    (held.advance cls).holder? temp = held.holder? temp := by
  cases cls <;> rfl

theorem newest?_advance (held : Allocation) (cls : RegisterClass) :
    (held.advance cls).newest? cls = some (held.upcoming cls) := by
  simp [newest?, recent?, upcoming]

theorem taken_advance (held : Allocation) (cls : RegisterClass) (register : Register)
    (taken : held.Taken register) : (held.advance cls).Taken register := by
  obtain ⟨other, inClass, below⟩ := taken
  refine ⟨other, inClass, ?_⟩
  rw [count_advance]
  split <;> omega

theorem upcoming_fresh (held : Allocation) (cls : RegisterClass)
    (room : held.count cls < cls.capacity) : ¬ held.Taken (held.upcoming cls) := by
  rintro ⟨other, inClass, below⟩
  rw [registerClass?_upcoming] at inClass
  cases inClass
  rw [index_upcoming held cls room] at below
  exact Nat.lt_irrefl _ below

theorem upcoming_taken (held : Allocation) (cls : RegisterClass) :
    (held.advance cls).Taken (held.upcoming cls) :=
  newest?_taken (newest?_advance held cls)

theorem take_room (held : Allocation) (cls : RegisterClass)
    (room : held.count cls < cls.capacity) :
    held.take cls = .ok (held.upcoming cls, held.advance cls) := by
  simp [take, room, upcoming]

theorem take_full (held : Allocation) (cls : RegisterClass)
    (full : ¬ held.count cls < cls.capacity) : held.take cls = .error ⟨cls, cls.capacity⟩ := by
  simp [take, full]

end Allocation

end ThreeAddress
