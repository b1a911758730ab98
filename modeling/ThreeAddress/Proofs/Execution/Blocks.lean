import Mathlib.Logic.Function.Basic
import ThreeAddress.Instruction
import ThreeAddress.Line.Rules
import ThreeAddress.Lowering.Values
import ThreeAddress.Proofs.Execution.Simulation

/-!
Two machines with words of 32 bits, and the code that a line of an integer program becomes. One
machine carries out lines, the other the items of a text section. What a literal and what an
operator stands for is left open, but it is the same for both. Memory is kept by symbol. Only what
integer programs need is carried out: a line or an item beyond that loses the machine.
-/

namespace ThreeAddress.Execution

abbrev Word := BitVec 32

structure Meaning where
  literal : String → Word
  result : Operator → Word → Word → Word

structure Variables where
  temps : String → Word
  memory : String → Word

namespace Variables

def assign (state : Variables) (temp : String) (value : Word) : Variables :=
  { state with temps := Function.update state.temps temp value }

def store (state : Variables) (name : String) (value : Word) : Variables :=
  { state with memory := Function.update state.memory name value }

def value (meaning : Meaning) (state : Variables) (word : String) : Word :=
  if Line.isTemp word then state.temps word
  else if Line.isIntOrChar word then meaning.literal word
  else state.memory word

end Variables

def valueEffect (meaning : Meaning) (state : Variables) (dest : String) :
    Value → Flow Variables
  | .intOrChar text => .next (state.assign dest (meaning.literal text))
  | .increment name =>
      -- The variable changes too.
      let raised := meaning.result .add (state.memory name) 1
      .next ((state.store name raised).assign dest raised)
  | .variable name => .next (state.assign dest (state.memory name))
  | .float _ | .temp _ => .lost state

def lineEffect (meaning : Meaning) (state : Variables) : Option Line → Flow Variables
  | none | some (.label _) | some (.declaration (.int _)) => .next state
  | some (.control (.goto target)) => .goto target state
  | some (.control (.ifGoto condition target)) =>
      if state.value meaning condition = 0 then .goto target state else .next state
  | some (.control .leave) => .ended state
  | some (.operation dest left op right) =>
      let result := meaning.result op (state.value meaning left) (state.value meaning right)
      .next (state.assign dest result)
  | some (.assign dest value) => valueEffect meaning state dest value
  | some (.store dest temp) => .next (state.store dest (state.temps temp))
  -- The rest has no meaning on words.
  | some (.declaration _) | some (.call _) | some (.generic _) => .lost state

def lineLabel? : Option Line → Option String
  | some (.label text) => some text
  | _ => none

def lineMachine (meaning : Meaning) : Machine (Option Line) Variables where
  label? := lineLabel?
  effect := lineEffect meaning

structure Processor where
  registers : Register → Word
  lo : Word
  memory : String → Word

namespace Processor

def read (state : Processor) : Register → Word
  | .zero => 0
  | register => state.registers register

def fill (state : Processor) (register : Register) (value : Word) : Processor :=
  { state with registers := Function.update state.registers register value }

def leaveInLo (state : Processor) (value : Word) : Processor :=
  { state with lo := value }

def store (state : Processor) (symbol : String) (value : Word) : Processor :=
  { state with memory := Function.update state.memory symbol value }

end Processor

def computeOperator? : ComputeOp → Option Operator
  | .add => some .add
  | .sub => some .sub
  | .sgt => some .gt
  | .slt => some .lt
  | .seq => some .eq
  | .sne => some .ne
  | .and => some .and
  | .or => some .or
  | .addSingle => none

def loOperator : LoOp → Operator
  | .mult => .mul
  | .div => .div

/-- Of the services only the one that ends the program is carried out. -/
def instructionEffect (meaning : Meaning) (state : Processor) : Instruction → Flow Processor
  | .compute op dest left right =>
      match computeOperator? op with
      | some operator =>
          .next (state.fill dest (meaning.result operator (state.read left) (state.read right)))
      | none => .lost state
  | .addImmediate dest source value =>
      .next (state.fill dest (meaning.result .add (state.read source) value.toBitVec))
  | .intoLo op left right =>
      .next (state.leaveInLo
        (meaning.result (loOperator op) (state.read left) (state.read right)))
  | .fromLo dest => .next (state.fill dest state.lo)
  | .immediate .integer dest literal => .next (state.fill dest (meaning.literal literal))
  | .copy .move dest source => .next (state.fill dest (state.read source))
  | .load .word dest symbol => .next (state.fill dest (state.memory symbol))
  | .store .word source symbol => .next (state.store symbol (state.read source))
  | .branchZero tested target =>
      if state.read tested = 0 then .goto target state else .next state
  | .jump target => .goto target state
  | .syscall =>
      if state.read .v0 = meaning.literal (Nat.repr Service.exit.number) then .ended state
      else .lost state
  | .immediate .single .. | .copy .single .. | .copy .fromFloat .. | .load .byte ..
  | .load .address .. | .load .single .. | .store .byte .. | .store .single .. => .lost state

def itemEffect (meaning : Meaning) (state : Processor) : Item → Flow Processor
  | .code instruction => instructionEffect meaning state instruction
  | .label _ | .comment _ => .next state
  | .raw _ => .lost state

def itemLabel? : Item → Option String
  | .label text => some text
  | .code _ | .comment _ | .raw _ => none

def itemMachine (meaning : Meaning) : Machine Item Processor where
  label? := itemLabel?
  effect := itemEffect meaning

/-! ## Blocks

Given the register that each temporary is held in for good, the code of a line does to registers and
memory what the line does to temporaries and memory: it reads the registers that hold the operands,
fills the one that holds the result, and touches no other register that holds a temporary. -/

structure Agrees (held : String → Option Register) (source : Variables) (target : Processor) :
    Prop where
  temps : ∀ temp register, held temp = some register →
    target.read register = source.temps temp
  memory : target.memory = source.memory

structure Regular (held : String → Option Register) : Prop where
  temps (temp : String) (register : Register) (bound : held temp = some register) :
    Line.isTemp temp = true
  general (temp : String) (register : Register) (bound : held temp = some register) :
    register.registerClass? = some .general

structure Owns (held : String → Option Register) (temp : String) (register : Register) :
    Prop where
  holds : held temp = some register
  alone : ∀ other, held other = some register → other = temp

/-- The code of a line. Comments may stand before it, but not before a label. -/
inductive Block (held : String → Option Register) : Option Line → List Item → Prop
  | nothing : Block held none []
  | label (text : String) : Block held (some (.label text)) [.label text]
  | declaration (name : String) : Block held (some (.declaration (.int name))) []
  | goto (target : String) :
      Block held (some (.control (.goto target))) [.code (.jump target)]
  | leave : Block held (some (.control .leave)) (Service.exit.request.map .code)
  | branch {condition : String} {tested : Register} (target : String)
      (holds : held condition = some tested) :
      Block held (some (.control (.ifGoto condition target)))
        [.code (.branchZero tested target)]
  | operation {dest left right : String} {fresh first second : Register} (op : Operator)
      (leftHeld : held left = some first) (rightHeld : held right = some second)
      (owns : Owns held dest fresh) :
      Block held (some (.operation dest left op right))
        ((op.code .general fresh first second).map .code)
  | literal {dest : String} {fresh : Register} (text : String) (owns : Owns held dest fresh) :
      Block held (some (.assign dest (.intOrChar text)))
        [.code (.immediate .integer fresh text)]
  | increment {dest : String} {old new : Register} (name : String)
      (spare : ∀ temp, held temp ≠ some old) (general : old.registerClass? = some .general)
      (owns : Owns held dest new) :
      Block held (some (.assign dest (.increment name)))
        [.code (.load .word old name), .code (.addImmediate new old 1),
          .code (.store .word new name)]
  | load {dest : String} {fresh : Register} (name : String) (owns : Owns held dest fresh) :
      Block held (some (.assign dest (.variable name))) [.code (.load .word fresh name)]
  | store {temp : String} {register : Register} (dest : String)
      (holds : held temp = some register) :
      Block held (some (.store dest temp)) [.code (.store .word register dest)]
  | comment {line : Option Line} {items : List Item} (text : String)
      (unlabelled : lineLabel? line = none) (block : Block held line items) :
      Block held line (.comment text :: items)

section Registers
variable {register other : Register}

theorem read_fill_same (state : Processor) (value : Word)
    (general : register.registerClass? = some .general) :
    (state.fill register value).read register = value := by
  cases register <;> simp_all [Register.registerClass?, Processor.read, Processor.fill]

theorem read_fill_other (state : Processor) (value : Word) (different : other ≠ register) :
    (state.fill register value).read other = state.read other := by
  cases other <;> simp_all [Processor.read, Processor.fill, Function.update_of_ne]

end Registers

section Agreement
variable {held : String → Option Register} {source : Variables} {target : Processor}

namespace Agrees

theorem value (agrees : Agrees held source target) (regular : Regular held) {word : String}
    {register : Register} (bound : held word = some register) (meaning : Meaning) :
    target.read register = source.value meaning word := by
  rw [Variables.value, if_pos (regular.temps word register bound)]
  exact agrees.temps word register bound

theorem fill_spare (agrees : Agrees held source target) {register : Register}
    (spare : ∀ temp, held temp ≠ some register) (value : Word) :
    Agrees held source (target.fill register value) where
  temps temp found bound := by
    have different : found ≠ register := fun same => spare temp (same ▸ bound)
    rw [read_fill_other target value different]
    exact agrees.temps temp found bound
  memory := agrees.memory

theorem fill_owned (agrees : Agrees held source target) {temp : String} {register : Register}
    (owns : Owns held temp register) (general : register.registerClass? = some .general)
    (value : Word) : Agrees held (source.assign temp value) (target.fill register value) where
  temps other found bound := by
    by_cases same : found = register
    · subst found
      cases owns.alone other bound
      rw [read_fill_same target value general]
      simp [Variables.assign]
    · have different : other ≠ temp := by
        rintro rfl
        exact same (Option.some.inj (bound.symm.trans owns.holds))
      rw [read_fill_other target value same]
      simpa [Variables.assign, Function.update_of_ne different] using
        agrees.temps other found bound
  memory := agrees.memory

theorem store (agrees : Agrees held source target) (name : String) (value : Word) :
    Agrees held (source.store name value) (target.store name value) where
  temps temp register bound := by
    have same : (target.store name value).read register = target.read register := by
      cases register <;> rfl
    rw [same]
    exact agrees.temps temp register bound
  memory := by simp [Variables.store, Processor.store, agrees.memory]

theorem leaveInLo (agrees : Agrees held source target) (value : Word) :
    Agrees held source (target.leaveInLo value) where
  temps temp register bound := by
    have same : (target.leaveInLo value).read register = target.read register := by
      cases register <;> rfl
    rw [same]
    exact agrees.temps temp register bound
  memory := agrees.memory

end Agrees

/-- Every operator has code that computes it, by way of `LO` or not. -/
theorem operation_effect (meaning : Meaning) (op : Operator) (target : Processor)
    (fresh first second : Register) :
    ∃ middle, (middle = target ∨ ∃ value, middle = target.leaveInLo value) ∧
      (itemMachine meaning).block target ((op.code .general fresh first second).map .code) =
        .next (middle.fill fresh
          (meaning.result op (target.read first) (target.read second))) := by
  cases op with
  | mul | div => exact ⟨_, .inr ⟨_, rfl⟩, rfl⟩
  | _ => exact ⟨target, .inl rfl, rfl⟩

theorem leave_effect (meaning : Meaning) (target : Processor) :
    (itemMachine meaning).block target (Service.exit.request.map .code) =
      .ended (target.fill .v0 (meaning.literal (Nat.repr Service.exit.number))) := by
  simp [Service.request, Machine.block, itemMachine, itemEffect, instructionEffect,
    Processor.read, Processor.fill]

/-- The variable is loaded into one register and its new value is made in another. -/
theorem increment_effect (meaning : Meaning) (target : Processor) {old new : Register}
    (name : String) (oldGeneral : old.registerClass? = some .general)
    (newGeneral : new.registerClass? = some .general) :
    (itemMachine meaning).block target
        [.code (.load .word old name), .code (.addImmediate new old 1),
          .code (.store .word new name)] =
      .next (((target.fill old (target.memory name)).fill new
        (meaning.result .add (target.memory name) 1)).store name
          (meaning.result .add (target.memory name) 1)) := by
  simp only [Machine.block, itemMachine, itemEffect, instructionEffect,
    read_fill_same _ _ oldGeneral, read_fill_same _ _ newGeneral]
  rfl

theorem operation_labels (op : Operator) (fresh first second : Register) :
    ((op.code .general fresh first second).map Item.code).filterMap itemLabel? = [] := by
  cases op <;> rfl

theorem Block.effect {line : Option Line} {items : List Item} (block : Block held line items)
    (regular : Regular held) (meaning : Meaning) (agrees : Agrees held source target) :
    (lineEffect meaning source line).Agrees (Agrees held)
      ((itemMachine meaning).block target items) := by
  induction block with
  | nothing => exact .next agrees
  | label text => exact .next agrees
  | declaration name => exact .next agrees
  | goto label => exact .goto label agrees
  | leave =>
      -- The number of the service goes into a register that holds no temporary.
      have spare : ∀ temp, held temp ≠ some .v0 := by
        intro temp bound
        cases regular.general temp .v0 bound
      rw [leave_effect]
      exact .ended (agrees.fill_spare spare _)
  | @branch condition tested label holds =>
      have value := agrees.value regular holds meaning
      simp only [lineEffect, Machine.block, itemMachine, itemEffect, instructionEffect, value]
      by_cases zero : source.value meaning condition = 0
      · rw [if_pos zero, if_pos zero]
        exact .goto label agrees
      · rw [if_neg zero, if_neg zero]
        exact .next agrees
  | @operation dest left right fresh first second op leftHeld rightHeld owns =>
      obtain ⟨middle, passed, effect⟩ := operation_effect meaning op target fresh first second
      -- `LO` may have changed on the way, but nothing that the states agree on.
      have still : Agrees held source middle := by
        rcases passed with rfl | ⟨value, rfl⟩
        · exact agrees
        · exact agrees.leaveInLo value
      rw [effect, agrees.value regular leftHeld meaning, agrees.value regular rightHeld meaning]
      exact .next (still.fill_owned owns (regular.general dest fresh owns.holds) _)
  | @literal dest fresh text owns =>
      exact .next (agrees.fill_owned owns (regular.general dest fresh owns.holds) _)
  | @increment dest old new name spare oldGeneral owns =>
      -- The old value passes through a register of its own, which no temporary is held in.
      have newGeneral := regular.general dest new owns.holds
      have loaded := agrees.fill_spare spare (source.memory name)
      have raised := loaded.fill_owned owns newGeneral
        (meaning.result .add (source.memory name) 1)
      have stored := raised.store name (meaning.result .add (source.memory name) 1)
      rw [increment_effect meaning target name oldGeneral newGeneral, agrees.memory]
      exact .next stored
  | @load dest fresh name owns =>
      have general := regular.general dest fresh owns.holds
      have loaded := agrees.fill_owned owns general (target.memory name)
      rw [agrees.memory] at loaded
      simpa [lineEffect, valueEffect, Machine.block, itemMachine, itemEffect, instructionEffect,
        agrees.memory] using .next loaded
  | @store temp register dest holds =>
      have stored := agrees.store dest (target.read register)
      rw [agrees.temps temp register holds] at stored
      simpa [lineEffect, Machine.block, itemMachine, itemEffect, instructionEffect,
        agrees.temps temp register holds] using .next stored
  | comment text unlabelled block ih => exact ih

theorem Block.renders {line : Option Line} {items : List Item} (block : Block held line items)
    (regular : Regular held) (meaning : Meaning) :
    Renders (lineMachine meaning) (itemMachine meaning) (Agrees held) line items where
  labels := by
    induction block with
    | operation op leftHeld rightHeld owns => exact operation_labels op _ _ _
    | comment text unlabelled block ih => exact ih
    | _ => rfl
  alone labelled := by
    cases block with
    | label text => rfl
    | comment text unlabelled block => exact absurd unlabelled labelled
    | _ => exact absurd rfl labelled
  effect _ _ agrees := block.effect regular meaning agrees

end Agreement

end ThreeAddress.Execution
