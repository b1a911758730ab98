import ThreeAddress.Proofs.Lowering.Changes

/-!
The acts of each line, read off the state that the line is lowered from. Carrying them out is
the same as lowering the line, so a law about lowering follows from what each act does and a
look at the acts of each line.
-/

namespace ThreeAddress

/-- Instructions that decide where the machine goes on, and the one that names the service that
ends the program. -/
def Instruction.isControl : Instruction → Bool
  | .branchZero .. | .jump _ => true
  | .immediate _ .v0 literal => literal == Nat.repr Service.exit.number
  | _ => false

def Act.isIdle : Act → Bool
  | .take _ | .hold .. | .declare _ => false
  | _ => true

def Act.isQuiet : Act → Bool
  | .emit _ | .declare _ => false
  | .code instructions => instructions.all fun instruction => !instruction.isControl
  | _ => true

def Act.isCalm (act : Act) : Bool :=
  act.isIdle && act.isQuiet

def Line.isQuiet : Line → Bool
  | .call _ | .operation .. | .assign .. | .store .. => true
  | .label _ | .declaration _ | .control _ | .generic _ => false

namespace Lowering

section Reports
variable (s : Lowering)

def undeclared? (name : String) : Option Finding :=
  match s.symbols.get? name with
  | some _ => none
  | none => some (.undeclared name)

def untested? (condition : String) : Option Finding :=
  match s.registers.newest? .general with
  | some _ => none
  | none => some (.nothingTested condition)

def misplaced? (condition : String) : Option Finding :=
  match s.registers.holder? condition with
  | some bound => if bound = s.tested then none else some (.otherTested condition bound s.tested)
  | none => none

def miscounted? : Option UInt32 → Option Finding
  | some passed => if passed = 1 then none else some (.argumentCount passed)
  | none => none

def operandless? (op : Operator) (cls : RegisterClass) : Option Finding :=
  match s.registers.previous? cls with
  | some _ => none
  | none => some (.missingOperand op cls (s.registers.count cls))

end Reports

section Scripts
variable (s : Lowering)

def printScript (argument : String) : List Act :=
  match s.registers.holder? argument with
  | some register => [.code (Service.print register)]
  | none =>
      if Line.isTemp argument then
        match sameNumber? argument with
        | some register =>
            [.report (some (.unboundPrinted argument register)), .code (Service.print register)]
        | none => [.report (some (.unboundDropped argument))]
      else if Line.isIntOrChar argument then
        [.code (.immediate .integer .a0 argument :: Service.printInteger.request)]
      else
        [.report (s.undeclared? argument),
          .code (.load (argumentLoad (s.typeOf argument)) .a0 argument ::
            Service.printInteger.request)]

def popScript : List Act :=
  match s.pending with
  | [] => [.report (some .noArgument)]
  | argument :: rest => .pend rest :: .comment "print" :: s.printScript argument

def callScript : Call → List Act
  | .param value => [.pend (value :: s.pending)]
  | .call callee count =>
      if isPrint callee then .report (miscounted? count) :: s.popScript else []

def returnCode : Option String → List Instruction
  | some label => [.jump label]
  | none => Service.exit.request

def controlScript : Transfer → List Act
  | .ifGoto condition target =>
      [.comment "if", .report (s.untested? condition), .report (s.misplaced? condition),
        .code [.branchZero s.tested target]]
  | .goto target => [.comment "goto", .code [.jump target]]
  | .leave => [.comment "return", .code (returnCode s.options.returnLabel)]

def operationScript (dest left : String) (op : Operator) (right : String) : List Act :=
  let cls := s.operationClass op left right
  [.comment ("op = " ++ op.symbol), .report (s.operandless? op cls), .take cls,
    .code (op.code cls (s.registers.upcoming cls) ((s.registers.previous? cls).getD .zero)
      ((s.registers.newest? cls).getD .zero)),
    .hold dest (s.registers.upcoming cls)]

def incrementScript (dest name : String) : List Act :=
  let old := s.registers.upcoming .general
  let new := (s.registers.advance .general).upcoming .general
  [.take .general, .code [.load .word old name], .take .general,
    .code [.addImmediate new old 1, .store .word new name], .noteOrigin old name,
    .hold dest new]

def literalScript (dest : String) (op : ImmediateOp) (cls : RegisterClass) (text : String) :
    List Act :=
  [.take cls, .code [.immediate op (s.registers.upcoming cls) text],
    .hold dest (s.registers.upcoming cls)]

def loadScript (dest name : String) : List Act :=
  let cls := (s.typeOf name).registerClass
  let register := s.registers.upcoming cls
  [.report (s.undeclared? name), .take cls,
    .code [.load (s.typeOf name).loadOp register name], .noteOrigin register name,
    .hold dest register]

def copyScript (dest : String) (source : Register) : List Act :=
  let cls := source.registerClass?.getD .general
  let register := s.registers.upcoming cls
  [.take cls, .code [.copy (if source.isFloat then .single else .move) register source],
    .hold dest register]

/-- The bits of a float go through a general register of their own. -/
def storeByteScript (register bits : Register) (symbol : String) : List Act :=
  if register.isFloat then
    [.take .general, .code [.copy .fromFloat bits register, .store .byte bits symbol]]
  else
    [.code [.store .byte register symbol]]

def storeBackScript (cls : RegisterClass) (symbol : String) : List Act :=
  storeByteScript (s.registers.upcoming cls) ((s.registers.advance cls).upcoming .general) symbol

def assignTempScript (dest source : String) : List Act :=
  match s.registers.holder? source with
  | some register =>
      s.copyScript dest register ++
        s.storeBackScript (register.registerClass?.getD .general) source
  | none =>
      s.loadScript dest source ++ s.storeBackScript (s.typeOf source).registerClass source

def assignScript (dest : String) : Value → List Act
  | .increment name => s.incrementScript dest name
  | .intOrChar text => s.literalScript dest .integer .general text
  | .float text => s.literalScript dest .single .float text
  | .temp source => s.assignTempScript dest source
  | .variable name => s.loadScript dest name

def storeScript (dest temp : String) : List Act :=
  .report (s.undeclared? dest) ::
    match s.storeSource? (s.typeOf dest).registerClass temp with
    | some register => [.code [.store (s.typeOf dest).storeOp register dest]]
    | none => [.report (some (.nothingStored dest (s.typeOf dest) temp))]

def script : Line → List Act
  | .label text => [.emit (.label text)]
  | .declaration declared =>
      [.comment (declared.type.name ++ " declaration"), .declare declared]
  | .control flow => s.controlScript flow
  | .call made => s.callScript made
  | .operation dest left op right => s.operationScript dest left op right
  | .assign dest value => s.assignScript dest value
  | .store dest temp => s.storeScript dest temp
  | .generic text => [.emit (.raw text)]

end Scripts

section Steps
variable (s : Lowering)

theorem noteType_apply (name : String) :
    s.noteType name = s.apply (.report (s.undeclared? name)) := by
  cases found : s.symbols.get? name <;> simp [noteType, undeclared?, apply, found]

theorem noteTested_apply (condition : String) :
    s.noteTested condition = s.apply (.report (s.untested? condition)) := by
  cases found : s.registers.newest? .general <;> simp [noteTested, untested?, apply, found]

theorem noteOther_apply (condition : String) :
    s.noteOther condition = s.apply (.report (s.misplaced? condition)) := by
  cases found : s.registers.holder? condition with
  | none => simp [noteOther, misplaced?, apply, found]
  | some bound =>
      by_cases same : bound = s.tested <;> simp [noteOther, misplaced?, apply, found, same]

theorem noteCount_apply (count : Option UInt32) :
    s.noteCount count = s.apply (.report (miscounted? count)) := by
  cases count with
  | none => rfl
  | some passed => by_cases one : passed = 1 <;> simp [noteCount, miscounted?, apply, one]

theorem noteOperands_apply (op : Operator) (cls : RegisterClass) :
    s.noteOperands op cls = s.apply (.report (s.operandless? op cls)) := by
  cases found : s.registers.previous? cls <;> simp [noteOperands, operandless?, apply, found]

@[simp] theorem apply_report_registers (finding : Option Finding) :
    (s.apply (.report finding)).registers = s.registers := by
  cases finding <;> rfl

theorem branch_performs (condition target : String) :
    s.branch condition target =
      (((s.comment "if").apply (.report (s.untested? condition))).apply
        (.report (s.misplaced? condition))).code [.branchZero s.tested target] := by
  have marked := comment_registers s "if"
  have tested : (s.comment "if").untested? condition = s.untested? condition := by
    unfold untested?
    rw [marked]
  have other : ((s.comment "if").apply (.report (s.untested? condition))).misplaced? condition =
      s.misplaced? condition := by
    unfold misplaced? Lowering.tested
    rw [apply_report_registers, marked]
  unfold branch
  rw [noteTested_apply, tested, noteOther_apply, other]

theorem control_performs (flow : Transfer) :
    done (s.control flow) = s.perform (s.controlScript flow) := by
  cases flow with
  | ifGoto condition target => exact congrArg done (branch_performs s condition target)
  | goto target => rfl
  | leave => rfl

theorem printArgument_performs (argument : String) :
    done (s.printArgument argument) = s.perform (s.printScript argument) := by
  cases held : s.registers.holder? argument with
  | some register =>
      simp only [printArgument, printScript, held]
      rfl
  | none =>
      simp only [printArgument, printScript, held]
      by_cases temp : Line.isTemp argument = true
      · rw [if_pos temp, if_pos temp]
        cases numbered : sameNumber? argument with
        | some register =>
            simp only [printUnbound, numbered]
            rfl
        | none =>
            simp only [printUnbound, numbered]
            rfl
      · rw [if_neg temp, if_neg temp]
        split
        · rfl
        · rw [noteType_apply]
          rfl

/-- What is printed, and how, depends on the bindings and the declared types alone. -/
theorem printScript_same {s t : Lowering} (registers : t.registers = s.registers)
    (symbols : t.symbols = s.symbols) (argument : String) :
    t.printScript argument = s.printScript argument := by
  unfold printScript undeclared? typeOf
  rw [registers, symbols]

theorem print_performs :
    done s.print = s.perform (s.popScript) := by
  unfold print popScript
  cases waiting : s.pending with
  | nil => rfl
  | cons argument rest =>
      simp only
      have same : ((s.apply (.pend rest)).comment "print").printScript argument =
          s.printScript argument :=
        printScript_same (comment_registers _ _) (comment_symbols _ _) argument
      exact (printArgument_performs _ argument).trans (congrArg _ same)

theorem call_performs (made : Call) : done (s.call made) = s.perform (s.callScript made) := by
  cases made with
  | param value => rfl
  | call callee count =>
      by_cases known : isPrint callee = true
      · simp only [call, callScript, known, ↓reduceIte]
        rw [noteCount_apply, print_performs]
        cases counted : miscounted? count <;> rfl
      · simp [call, callScript, known]

theorem storeByte_performs (register : Register) (symbol : String) :
    s.storeByte register symbol =
      s.perform (storeByteScript register (s.registers.upcoming .general) symbol) := by
  unfold storeByte storeByteScript
  split
  · exact withRegister_performs rfl
  · rfl

theorem operation_performs (dest left : String) (op : Operator) (right : String) :
    s.operation dest left op right = s.perform (s.operationScript dest left op right) := by
  have same : (s.comment ("op = " ++ op.symbol)).operandless? op (s.operationClass op left right) =
      s.operandless? op (s.operationClass op left right) := by
    unfold operandless?
    rw [comment_registers]
  unfold operation
  simp only
  rw [noteOperands_apply, same]
  apply withRegister_performs
  rw [apply_report_registers, comment_registers]
  rfl

theorem increment_performs (dest name : String) :
    s.increment dest name = s.perform (s.incrementScript dest name) :=
  withRegister_performs (withRegister_performs rfl)

theorem literal_performs (dest : String) (op : ImmediateOp) (cls : RegisterClass)
    (text : String) :
    s.literal dest op cls text = s.perform (s.literalScript dest op cls text) :=
  withRegister_performs rfl

def loaded (dest name : String) : Lowering :=
  (s.loadScript dest name).foldl apply s

def copied (dest : String) (source : Register) : Lowering :=
  (s.copyScript dest source).foldl apply s

theorem load_performs (dest name : String) {next : Register → Lowering → Outcome}
    {rest : List Act}
    (follows : next (s.registers.upcoming (s.typeOf name).registerClass) (s.loaded dest name) =
      (s.loaded dest name).perform rest) :
    s.load dest name next = s.perform (s.loadScript dest name ++ rest) := by
  unfold load
  simp only
  rw [noteType_apply]
  apply withRegister_performs
  rw [apply_report_registers]
  exact follows

theorem store_performs (dest temp : String) :
    done (s.store dest temp) = s.perform (s.storeScript dest temp) := by
  have same : ∀ cls, (s.apply (.report (s.undeclared? dest))).storeSource? cls temp =
      s.storeSource? cls temp := by
    intro cls
    unfold storeSource?
    rw [apply_report_registers]
  unfold store storeScript
  simp only
  rw [noteType_apply, same]
  cases found : s.storeSource? (s.typeOf dest).registerClass temp <;> rfl

theorem copy_performs (dest : String) (source : Register)
    {next : Register → Lowering → Outcome} {rest : List Act}
    (follows : next (s.registers.upcoming (source.registerClass?.getD .general))
        (s.copied dest source) = (s.copied dest source).perform rest) :
    s.copy dest source next = s.perform (s.copyScript dest source ++ rest) :=
  withRegister_performs follows

theorem copied_upcoming (dest : String) (source : Register) :
    (s.copied dest source).registers.upcoming .general =
      (s.registers.advance (source.registerClass?.getD .general)).upcoming .general := rfl

theorem loaded_upcoming (dest name : String) :
    (s.loaded dest name).registers.upcoming .general =
      (s.registers.advance (s.typeOf name).registerClass).upcoming .general := by
  rw [← apply_report_registers s (s.undeclared? name)]
  rfl

theorem assignTemp_performs (dest source : String) :
    s.assignTemp dest source = s.perform (s.assignTempScript dest source) := by
  unfold assignTemp assignTempScript
  cases held : s.registers.holder? source with
  | some register =>
      apply copy_performs
      rw [storeByte_performs, copied_upcoming]
      rfl
  | none =>
      apply load_performs
      rw [storeByte_performs, loaded_upcoming]
      rfl

theorem assign_performs (dest : String) (value : Value) :
    s.assign dest value = s.perform (s.assignScript dest value) := by
  cases value with
  | increment name => exact increment_performs s dest name
  | intOrChar text => exact literal_performs s dest .integer .general text
  | float text => exact literal_performs s dest .single .float text
  | temp source => exact assignTemp_performs s dest source
  | «variable» name =>
      have performs : s.load dest name (fun _ t => done t) =
          s.perform (s.loadScript dest name ++ []) := load_performs s dest name rfl
      rwa [List.append_nil] at performs

/-- Lowering a line carries out its acts. -/
theorem step_performs (line : Line) : s.step line = s.perform (s.script line) := by
  cases line with
  | label text => rfl
  | declaration declared => rfl
  | control flow => exact control_performs s flow
  | call made => exact call_performs s made
  | operation dest left op right => exact operation_performs s dest left op right
  | assign dest value => exact assign_performs s dest value
  | store dest temp => exact store_performs s dest temp
  | generic text => rfl

end Steps

/-- Places, texts, data and reports decide nothing about the acts of a line. -/
theorem script_elsewhere (s : Lowering) (data : Table String Storage) (text : List Item)
    (report : Report) (location : Location) (line : Line) :
    { s with data, text, report, location }.script line = s.script line := by
  cases line with
  | control flow => cases flow <;> rfl
  | _ => rfl

/-! ## Idle and quiet lines -/

section Quiet
variable (s : Lowering)

theorem all_idle {acts : List Act} (calm : acts.all Act.isCalm = true) :
    acts.all Act.isIdle = true := by
  rw [List.all_eq_true] at calm ⊢
  exact fun act member => (Bool.and_eq_true _ _ ▸ calm act member).1

theorem all_quiet {acts : List Act} (calm : acts.all Act.isCalm = true) :
    acts.all Act.isQuiet = true := by
  rw [List.all_eq_true] at calm ⊢
  exact fun act member => (Bool.and_eq_true _ _ ▸ calm act member).2

theorem operator_quiet (op : Operator) (cls : RegisterClass) (dest left right : Register) :
    (Act.code (op.code cls dest left right)).isQuiet = true := by
  cases op <;> rfl

theorem print_calm (source : Register) : (Act.code (Service.print source)).isCalm = true := rfl

theorem printScript_calm (argument : String) :
    (s.printScript argument).all Act.isCalm = true := by
  unfold printScript
  split
  · rw [List.all_cons, print_calm]
    rfl
  · split
    · split
      · rw [List.all_cons, List.all_cons, print_calm]
        rfl
      · rfl
    · split <;> rfl

theorem callScript_calm (made : Call) : (s.callScript made).all Act.isCalm = true := by
  cases made with
  | param value => rfl
  | call callee count =>
      by_cases known : isPrint callee = true
      · simp only [callScript, known, ↓reduceIte, popScript]
        cases s.pending with
        | nil => rfl
        | cons argument rest => exact printScript_calm s argument
      · simp [callScript, known]

theorem storeScript_calm (dest temp : String) :
    (s.storeScript dest temp).all Act.isCalm = true := by
  unfold storeScript
  split <;> rfl

theorem controlScript_idle (flow : Transfer) : (s.controlScript flow).all Act.isIdle = true := by
  cases flow <;> rfl

theorem storeBackScript_quiet (cls : RegisterClass) (symbol : String) :
    (s.storeBackScript cls symbol).all Act.isQuiet = true := by
  unfold storeBackScript storeByteScript
  split <;> rfl

theorem assignScript_quiet (dest : String) (value : Value) :
    (s.assignScript dest value).all Act.isQuiet = true := by
  cases value with
  | temp source =>
      simp only [assignScript, assignTempScript]
      cases s.registers.holder? source with
      | some register => exact storeBackScript_quiet s _ source
      | none => exact storeBackScript_quiet s _ source
  | _ => rfl

theorem script_quiet {line : Line} (quiet : line.isQuiet = true) :
    ∀ act ∈ s.script line, act.isQuiet = true := by
  apply List.all_eq_true.mp
  cases line with
  | call made => exact all_quiet (callScript_calm s made)
  | operation dest left op right =>
      simp only [script, operationScript, List.all_cons, operator_quiet]
      rfl
  | assign dest value => exact assignScript_quiet s dest value
  | store dest temp => exact all_quiet (storeScript_calm s dest temp)
  | label text | declaration declared | control flow | generic text => cases quiet

end Quiet

end Lowering

end ThreeAddress
