import Mathlib.Logic.Relation
import ThreeAddress.Lowering.Run
import ThreeAddress.Proofs.Registers.Taken

/-!
What lowering a line can do. A line goes through a chain of small changes: it marks, reports,
binds, adds code that fills no register of a class, or takes a fresh register and at once adds
the code that fills it. A line that fails stops between two changes. An invariant of the state
is proved once for each kind of change and then holds after every line.
-/

namespace ThreeAddress

namespace Lowering

def advance (s : Lowering) (cls : RegisterClass) : Lowering :=
  { s with registers := s.registers.advance cls }

theorem withRegister_room (s : Lowering) (cls : RegisterClass)
    (next : Register → Lowering → Outcome) (room : s.registers.count cls < cls.capacity) :
    s.withRegister cls next = next (s.registers.upcoming cls) (s.advance cls) := by
  simp [withRegister, Allocation.take_room _ _ room, advance]

theorem withRegister_full (s : Lowering) (cls : RegisterClass)
    (next : Register → Lowering → Outcome) (full : ¬ s.registers.count cls < cls.capacity) :
    s.withRegister cls next = (s, some (.ofClass s.location cls)) := by
  simp [withRegister, Allocation.take_full _ _ full, Failure.ofClass]

def Warned (start s : Lowering) : Prop :=
  ∃ diagnostic ∈ s.report.diagnostics.drop start.report.diagnostics.length,
    diagnostic.severity = .warning

/-- Code that fills no register of a class. Only a branch and a printed temporary may read a
register that nothing is known about, and both have warned of it. -/
inductive Idle (start : Lowering) (line : Line) (s : Lowering) : List Instruction → Prop
  | jump (target : String) : Idle start line s [.jump target]
  | exit : Idle start line s Service.exit.request
  | branch {tested : Register} (target : String)
      (newest : s.registers.newest? .general = some tested) :
      Idle start line s [.branchZero tested target]
  | guessedBranch {condition target : String}
      (read : line = .control (.ifGoto condition target)) (warned : Warned start s) :
      Idle start line s [.branchZero (.t 0) target]
  | print {temp : String} {register : Register}
      (held : s.registers.holder? temp = some register) :
      Idle start line s (Service.print register)
  | guessedPrint {callee : String} {count : Option UInt32} (number : UInt8)
      (read : line = .call (.call callee count)) (known : isPrint callee = true)
      (warned : Warned start s) : Idle start line s (Service.print (.t number))
  | printLiteral (text : String) :
      Idle start line s (.immediate .integer .a0 text :: Service.printInteger.request)
  | printLoad {op : LoadOp} (name : String) (word : op ≠ .single) :
      Idle start line s (.load op .a0 name :: Service.printInteger.request)
  | store {type : SymbolType} {temp : String} {register : Register} (dest : String)
      (source : s.storeSource? type.registerClass temp = some register) :
      Idle start line s [.store type.storeOp register dest]
  | storeByte {register : Register} (symbol : String)
      (newest : s.registers.newest? .general = some register) :
      Idle start line s [.store .byte register symbol]

inductive Fill (start : Lowering) (line : Line) (s : Lowering) :
    RegisterClass → (Register → List Instruction) → Prop
  | integer (text : String) :
      Fill start line s .general fun fresh => [.immediate .integer fresh text]
  | single (text : String) :
      Fill start line s .float fun fresh => [.immediate .single fresh text]
  | load (type : SymbolType) (name : String) :
      Fill start line s type.registerClass fun fresh => [.load type.loadOp fresh name]
  | copy {temp : String} {source : Register}
      (held : s.registers.holder? temp = some source) :
      Fill start line s (source.registerClass?.getD .general) fun fresh =>
        [.copy (if source.isFloat then .single else .move) fresh source]
  | operation {dest left right : String} {op : Operator}
      (read : line = .operation dest left op right) (same : s.registers = start.registers) :
      Fill start line s (start.operationClass op left right) fun fresh =>
        op.code (start.operationClass op left right) fresh
          ((start.registers.previous? (start.operationClass op left right)).getD .zero)
          ((start.registers.newest? (start.operationClass op left right)).getD .zero)
  | bump {old : Register} (name : String)
      (newest : s.registers.newest? .general = some old) :
      Fill start line s .general fun fresh =>
        [.addImmediate fresh old 1, .store .word fresh name]
  | moveOut {source : Register} (symbol : String)
      (newest : s.registers.newest? .float = some source) :
      Fill start line s .general fun fresh =>
        [.copy .fromFloat fresh source, .store .byte fresh symbol]

/-- One change on the way of `line` from `start`. -/
inductive Change (start : Lowering) (line : Line) : Lowering → Lowering → Prop
  | comment (s : Lowering) (text : String) : Change start line s (s.comment text)
  | raise (s : Lowering) (finding : Finding) : Change start line s (s.raise finding)
  | label (s : Lowering) (text : String) : Change start line s (s.emit [.label text])
  | raw (s : Lowering) (text : String) : Change start line s (s.emit [.raw text])
  | declare (s : Lowering) (data : Table String Storage) (symbols : Table String SymbolType)
      (currentType : Option SymbolType) :
      Change start line s { s with data, symbols, currentType }
  | pend (s : Lowering) (pending : List String) : Change start line s { s with pending }
  | noteOrigin (s : Lowering) (register : Register) (name : String) :
      Change start line s (s.noteOrigin register name)
  | hold {s : Lowering} {temp : String} {cls : RegisterClass} {register : Register}
      (assigned : line.dest? = some temp)
      (newest : s.registers.newest? cls = some register)
      (fresh : ¬ start.registers.Taken register) : Change start line s (s.hold temp register)
  | code {s : Lowering} {instructions : List Instruction}
      (idle : Idle start line s instructions) : Change start line s (s.code instructions)
  | fill {s : Lowering} {cls : RegisterClass} {instructions : Register → List Instruction}
      (room : s.registers.count cls < cls.capacity) (fills : Fill start line s cls instructions) :
      Change start line s ((s.advance cls).code (instructions (s.registers.upcoming cls)))

def Reaches (start : Lowering) (line : Line) (s : Lowering) : Prop :=
  Relation.ReflTransGen (Change start line) start s

def marks (s : Lowering) (text : String) : List Item :=
  if s.options.comments then [.comment text] else []

section Fields
variable (s : Lowering)

@[simp] theorem comment_text (text : String) :
    (s.comment text).text = s.text ++ s.marks text := by
  unfold comment marks
  split
  · rfl
  · exact (List.append_nil s.text).symm

@[simp] theorem writes_marks (text : String) : writes (s.marks text) = [] := by
  unfold marks
  split <;> rfl

@[simp] theorem comment_registers (text : String) : (s.comment text).registers = s.registers := by
  unfold comment
  split <;> rfl

@[simp] theorem comment_options (text : String) : (s.comment text).options = s.options := by
  unfold comment
  split <;> rfl

@[simp] theorem comment_symbols (text : String) : (s.comment text).symbols = s.symbols := by
  unfold comment
  split <;> rfl

@[simp] theorem comment_data (text : String) : (s.comment text).data = s.data := by
  unfold comment
  split <;> rfl

@[simp] theorem comment_currentType (text : String) :
    (s.comment text).currentType = s.currentType := by
  unfold comment
  split <;> rfl

@[simp] theorem comment_report (text : String) : (s.comment text).report = s.report := by
  unfold comment
  split <;> rfl

@[simp] theorem emit_registers (items : List Item) : (s.emit items).registers = s.registers :=
  rfl

@[simp] theorem emit_text (items : List Item) : (s.emit items).text = s.text ++ items := rfl

@[simp] theorem code_registers (instructions : List Instruction) :
    (s.code instructions).registers = s.registers := rfl

@[simp] theorem code_text (instructions : List Instruction) :
    (s.code instructions).text = s.text ++ instructions.map .code := rfl

@[simp] theorem raise_registers (finding : Finding) :
    (s.raise finding).registers = s.registers := rfl

@[simp] theorem raise_text (finding : Finding) : (s.raise finding).text = s.text := rfl

@[simp] theorem advance_registers (cls : RegisterClass) :
    (s.advance cls).registers = s.registers.advance cls := rfl

@[simp] theorem advance_text (cls : RegisterClass) : (s.advance cls).text = s.text := rfl

@[simp] theorem hold_registers (temp : String) (register : Register) :
    (s.hold temp register).registers = s.registers.hold temp register := rfl

@[simp] theorem hold_text (temp : String) (register : Register) :
    (s.hold temp register).text = s.text := rfl

@[simp] theorem noteOrigin_registers (register : Register) (name : String) :
    (s.noteOrigin register name).registers = s.registers.noteOrigin register name := rfl

@[simp] theorem noteOrigin_text (register : Register) (name : String) :
    (s.noteOrigin register name).text = s.text := rfl

end Fields

end Lowering

/-! ## Acts

The acts that lines are lowered by, and how a list of them is carried out: one after the other,
each from the state that the one before it left. Only a request for a fresh register can fail,
and nothing after a failure is carried out. -/

inductive Act where
  | comment (text : String)
  | report (finding : Option Finding)
  | emit (item : Item)
  | code (instructions : List Instruction)
  | take (cls : RegisterClass)
  | hold (temp : String) (register : Register)
  | noteOrigin (register : Register) (name : String)
  | pend (arguments : List String)
  | declare (declared : Declaration)

def Act.items (comments : Bool) : Act → List Item
  | .comment text => if comments then [.comment text] else []
  | .emit item => [item]
  | .code instructions => instructions.map .code
  | _ => []

namespace Lowering

/-- What an act leaves, a request for a register being granted. -/
def apply (s : Lowering) : Act → Lowering
  | .comment text => s.comment text
  | .report none => s
  | .report (some finding) => s.raise finding
  | .emit item => s.emit [item]
  | .code instructions => s.code instructions
  | .take cls => s.advance cls
  | .hold temp register => s.hold temp register
  | .noteOrigin register name => s.noteOrigin register name
  | .pend arguments => { s with pending := arguments }
  | .declare declared =>
      { s with
        data := s.data.insert declared.name declared.storage
        symbols := s.symbols.insert declared.name declared.type
        currentType := declared.numberType? <|> s.currentType }

def lacks? (s : Lowering) : Act → Option RegisterClass
  | .take cls => if s.registers.count cls < cls.capacity then none else some cls
  | _ => none

def perform (s : Lowering) : List Act → Outcome
  | [] => done s
  | act :: rest =>
      match s.lacks? act with
      | none => perform (s.apply act) rest
      | some cls => (s, some (.ofClass s.location cls))

/-- The acts of a list up to the first request that is refused. -/
def carried (s : Lowering) : List Act → List Act
  | [] => []
  | act :: rest =>
      match s.lacks? act with
      | none => act :: carried (s.apply act) rest
      | some _ => []

section Laws
variable {s : Lowering}

theorem apply_text (s : Lowering) (act : Act) :
    (s.apply act).text = s.text ++ act.items s.options.comments := by
  cases act with
  | comment text => exact comment_text s text
  | report finding => cases finding <;> exact (List.append_nil _).symm
  | emit item | code instructions => rfl
  | _ => exact (List.append_nil _).symm

@[simp] theorem apply_options (s : Lowering) (act : Act) :
    (s.apply act).options = s.options := by
  cases act with
  | comment text => exact comment_options s text
  | report finding => cases finding <;> rfl
  | _ => rfl

@[simp] theorem apply_location (s : Lowering) (act : Act) :
    (s.apply act).location = s.location := by
  cases act with
  | comment text =>
      simp only [apply, comment]
      split <;> rfl
  | report finding => cases finding <;> rfl
  | _ => rfl

@[simp] theorem perform_nil : s.perform [] = done s := rfl

theorem perform_take_room {cls : RegisterClass} (room : s.registers.count cls < cls.capacity)
    (rest : List Act) : s.perform (.take cls :: rest) = (s.advance cls).perform rest := by
  simp [perform, lacks?, room, apply]

theorem perform_take_full {cls : RegisterClass} (full : ¬ s.registers.count cls < cls.capacity)
    (rest : List Act) :
    s.perform (.take cls :: rest) = (s, some (.ofClass s.location cls)) := by
  simp [perform, lacks?, full]

theorem perform_text (s : Lowering) (acts : List Act) :
    (s.perform acts).1.text =
      s.text ++ (s.carried acts).flatMap (Act.items s.options.comments) := by
  induction acts generalizing s with
  | nil => exact (List.append_nil _).symm
  | cons act rest ih =>
      unfold perform carried
      cases s.lacks? act with
      | some cls => exact (List.append_nil _).symm
      | none =>
          simp only
          rw [ih, apply_text, apply_options, List.flatMap_cons, List.append_assoc]

/-- What each act of a list keeps, carrying the list out keeps, to its end or not. -/
theorem perform_keeps (Kept : Lowering → Prop) (acts : List Act)
    (kept : ∀ act ∈ acts, ∀ s, Kept s → Kept (s.apply act)) (s : Lowering) (first : Kept s) :
    Kept (s.perform acts).1 := by
  induction acts generalizing s with
  | nil => exact first
  | cons act rest ih =>
      unfold perform
      cases s.lacks? act with
      | none =>
          have later : ∀ act ∈ rest, ∀ s, Kept s → Kept (s.apply act) :=
            fun act member => kept act (List.mem_cons_of_mem _ member)
          exact ih later (s.apply act) (kept act List.mem_cons_self s first)
      | some cls => exact first

theorem perform_done {acts : List Act} (succeeded : (s.perform acts).2 = none) :
    (s.perform acts).1 = acts.foldl apply s := by
  induction acts generalizing s with
  | nil => rfl
  | cons act rest ih =>
      unfold perform at succeeded ⊢
      cases lacks : s.lacks? act with
      | none =>
          simp only [lacks] at succeeded
          exact ih succeeded
      | some cls =>
          simp only [lacks] at succeeded
          cases succeeded

/-- Steps that need a fresh register are a request for it and the acts that follow. -/
theorem withRegister_performs {cls : RegisterClass} {next : Register → Lowering → Outcome}
    {rest : List Act}
    (follows : next (s.registers.upcoming cls) (s.advance cls) = (s.advance cls).perform rest) :
    s.withRegister cls next = s.perform (.take cls :: rest) := by
  by_cases room : s.registers.count cls < cls.capacity
  · rw [withRegister_room s cls next room, perform_take_room room, follows]
  · rw [withRegister_full s cls next room, perform_take_full room]

end Laws

section Pairs
variable (Related : Lowering → Lowering → Prop) (image : Act → Act)
  (lacks : ∀ s t act, Related s t → t.lacks? (image act) = s.lacks? act)
  (kept : ∀ s t act, Related s t → Related (s.apply act) (t.apply (image act)))

include lacks kept

/-- What each act and its image keep between two states, lists of them keep. Both go equally far
and both or neither find a class used up. -/
theorem perform_related {s t : Lowering} (related : Related s t) (acts : List Act) :
    Related (s.perform acts).1 (t.perform (acts.map image)).1 ∧
      t.carried (acts.map image) = (s.carried acts).map image ∧
      ∃ full, (s.perform acts).2 = Option.map (.ofClass s.location) full ∧
        (t.perform (acts.map image)).2 = Option.map (.ofClass t.location) full := by
  induction acts generalizing s t with
  | nil => exact ⟨related, rfl, none, rfl, rfl⟩
  | cons act rest ih =>
      have later := ih (kept s t act related)
      have place := apply_location s act
      have otherPlace := apply_location t (image act)
      rw [place, otherPlace] at later
      unfold perform carried
      rw [List.map_cons]
      simp only [lacks s t act related]
      cases s.lacks? act with
      | none =>
          obtain ⟨states, same, outcomes⟩ := later
          exact ⟨states, congrArg (image act :: ·) same, outcomes⟩
      | some cls => exact ⟨related, rfl, some cls, rfl, rfl⟩

end Pairs

end Lowering

end ThreeAddress
