import ThreeAddress.Proofs.Lowering.Steps

/-!
The two register files. An instruction of generated code takes each of its registers from the
file that its mnemonic asks for, with one exception: a float sum that finds fewer than two
float registers reads `$zero`, which is none of them. The files are kept exactly as long as no
such sum is lowered.
-/

namespace ThreeAddress

def KeepsFiles (items : List Item) : Prop :=
  ∀ instruction, Item.code instruction ∈ items → instruction.Fits

theorem keeps_files_append (first second : List Item) :
    KeepsFiles (first ++ second) ↔ KeepsFiles first ∧ KeepsFiles second := by
  constructor
  · intro kept
    exact ⟨fun instruction member => kept instruction (List.mem_append_left _ member),
      fun instruction member => kept instruction (List.mem_append_right _ member)⟩
  · rintro ⟨before, after⟩ instruction member
    rcases List.mem_append.mp member with early | late
    · exact before instruction early
    · exact after instruction late

theorem keeps_files_code (instructions : List Instruction) :
    KeepsFiles (instructions.map .code) ↔ ∀ instruction ∈ instructions, instruction.Fits := by
  simp [KeepsFiles]

theorem general_not_float {register : Register}
    (inClass : register.registerClass? = some .general) : register.isFloat = false := by
  cases register <;> simp_all [Register.registerClass?, Register.isFloat]

theorem class_is_float {register : Register} {type : SymbolType}
    (inClass : register.registerClass? = some type.registerClass) :
    register.isFloat = type.isFloat := by
  cases type <;>
    first
    | exact general_not_float inClass
    | exact (Register.isFloat_iff register).mpr inClass

theorem type_class_float (type : SymbolType) :
    decide (type.registerClass = .float) = type.isFloat := by
  cases type <;> rfl

theorem load_fits (type : SymbolType) {register : Register} (name : String)
    (inFile : register.isFloat = type.isFloat) :
    (Instruction.load type.loadOp register name).Fits := by
  cases type <;>
    simpa [Instruction.Fits, Instruction.dest?, Instruction.sources, Instruction.fillsFloat,
      SymbolType.loadOp, SymbolType.isFloat] using inFile

theorem store_fits (type : SymbolType) {register : Register} (name : String)
    (inFile : register.isFloat = type.isFloat) :
    (Instruction.store type.storeOp register name).Fits := by
  cases type <;>
    simpa [Instruction.Fits, Instruction.dest?, Instruction.sources, Instruction.readsFloat,
      SymbolType.storeOp, SymbolType.isFloat] using inFile

theorem print_fits (source : Register) :
    ∀ instruction ∈ Service.print source, instruction.Fits := by
  have copied : (Service.passArgument source).Fits := by
    cases source <;>
      simp [Service.passArgument, Instruction.Fits, Instruction.dest?, Instruction.sources,
        Instruction.fillsFloat, Instruction.readsFloat, Register.isFloat]
  simp only [Service.print, Service.request, List.mem_cons, List.not_mem_nil, or_false,
    forall_eq_or_imp, forall_eq]
  exact ⟨copied, by decide, by decide⟩

theorem operator_fits (op : Operator) {cls : RegisterClass} {dest left right : Register}
    (onlySums : cls = .float → op = .add) (dest_file : dest.isFloat = decide (cls = .float))
    (left_file : left.isFloat = decide (cls = .float))
    (right_file : right.isFloat = decide (cls = .float)) :
    ∀ instruction ∈ op.code cls dest left right, instruction.Fits := by
  cases cls with
  | float =>
      cases onlySums rfl
      simp_all [Operator.code, Instruction.Fits, Instruction.dest?, Instruction.sources,
        Instruction.fillsFloat, Instruction.readsFloat]
  | general =>
      cases op <;>
        simp_all [Operator.code, Instruction.Fits, Instruction.dest?, Instruction.sources,
          Instruction.fillsFloat, Instruction.readsFloat]

namespace Lowering
variable {start s t : Lowering} {line : Line}

theorem storeSource?_class {cls : RegisterClass} {temp : String} {register : Register}
    (source : s.storeSource? cls temp = some register) :
    register.registerClass? = some cls := by
  unfold storeSource? at source
  split at source
  · rename_i bound found
    cases source
    simpa using (Option.filter_eq_some_iff.mp found).2
  · exact Allocation.recent?_class source

theorem Idle.fits {instructions : List Instruction} (idle : Idle start line s instructions) :
    ∀ instruction ∈ instructions, instruction.Fits := by
  cases idle with
  | jump target => simp [Instruction.Fits, Instruction.dest?, Instruction.sources]
  | exit => decide
  | branch target newest =>
      have inFile := general_not_float (Allocation.recent?_class newest)
      simpa [Instruction.Fits, Instruction.dest?, Instruction.sources, Instruction.readsFloat]
        using inFile
  | guessedBranch read warned =>
      simp [Instruction.Fits, Instruction.dest?, Instruction.sources, Instruction.readsFloat,
        Register.isFloat]
  | print held => exact print_fits _
  | guessedPrint number read known warned => exact print_fits _
  | printLiteral text =>
      simp [Service.request, Instruction.Fits, Instruction.dest?, Instruction.sources,
        Instruction.fillsFloat, Register.isFloat]
  | @printLoad op name word =>
      cases op <;>
        simp_all [Service.request, Instruction.Fits, Instruction.dest?, Instruction.sources,
          Instruction.fillsFloat, Register.isFloat]
  | @store type temp register dest source =>
      -- The stored register is of the class of the variable.
      have inFile := class_is_float (storeSource?_class source)
      simpa using store_fits type dest inFile
  | storeByte symbol newest =>
      have inFile := general_not_float (Allocation.recent?_class newest)
      simpa [Instruction.Fits, Instruction.dest?, Instruction.sources, Instruction.readsFloat]
        using inFile

/-- A sum that is a float finds two float registers. -/
def FindsFloats (s : Lowering) (line : Line) : Prop :=
  ∀ dest left right, line = .operation dest left .add right →
    s.sumClass left right = .float → 2 ≤ s.registers.count .float

theorem operationClass_float {op : Operator} {left right : String}
    (float : s.operationClass op left right = .float) :
    op = .add ∧ s.sumClass left right = .float := by
  unfold operationClass at float
  split at float
  · rename_i sum
    exact ⟨sum, float⟩
  · cases float

/-- An operand of a general operation may be `$zero`, one of a float sum that finds two float
registers is one of those. -/
theorem operand_file {held : Allocation} {cls : RegisterClass} {skipped : Nat}
    (enough : cls = .float → skipped < held.count cls) :
    ((held.recent? cls skipped).getD .zero).isFloat = decide (cls = .float) := by
  cases found : held.recent? cls skipped with
  | some register =>
      have inClass := Allocation.recent?_class found
      cases cls with
      | general => exact general_not_float inClass
      | float => exact (Register.isFloat_iff register).mpr inClass
  | none =>
      cases cls with
      | general => rfl
      | float => simp [Allocation.recent?, enough rfl] at found

theorem Fill.fits {cls : RegisterClass} {instructions : Register → List Instruction}
    (fills : Fill start line s cls instructions) (finds : start.FindsFloats line)
    {fresh : Register} (inFile : fresh.isFloat = decide (cls = .float)) :
    ∀ instruction ∈ instructions fresh, instruction.Fits := by
  cases fills with
  | integer text | single text =>
      simpa [Instruction.Fits, Instruction.dest?, Instruction.sources, Instruction.fillsFloat]
        using inFile
  | load type name =>
      rw [type_class_float] at inFile
      simpa using load_fits type name inFile
  | @copy temp source held =>
      cases source <;>
        simpa [Instruction.Fits, Instruction.dest?, Instruction.sources, Instruction.fillsFloat,
          Instruction.readsFloat, Register.isFloat, Register.registerClass?] using inFile
  | @operation dest left right op read same =>
      -- Only here can an operand be `$zero`, and only a float sum minds.
      have enough : start.operationClass op left right = .float →
          2 ≤ start.registers.count (start.operationClass op left right) := by
        intro float
        obtain ⟨rfl, sum⟩ := operationClass_float float
        rw [float]
        exact finds dest left right read sum
      apply operator_fits op (fun float => (operationClass_float float).1) inFile
      · exact operand_file fun float => enough float
      · exact operand_file fun float => Nat.lt_of_lt_of_le Nat.zero_lt_two (enough float)
  | bump name newest =>
      have oldFile := general_not_float (Allocation.recent?_class newest)
      simp_all [Instruction.Fits, Instruction.dest?, Instruction.sources, Instruction.fillsFloat,
        Instruction.readsFloat]
  | moveOut symbol newest =>
      have sourceFile := (Register.isFloat_iff _).mpr (Allocation.recent?_class newest)
      simp_all [Instruction.Fits, Instruction.dest?, Instruction.sources, Instruction.fillsFloat,
        Instruction.readsFloat]

theorem Change.keeps_files (change : Change start line s t) (finds : start.FindsFloats line)
    (kept : KeepsFiles s.text) : KeepsFiles t.text := by
  cases change with
  | comment text =>
      rw [comment_text, keeps_files_append]
      refine ⟨kept, ?_⟩
      unfold marks
      split <;> simp [KeepsFiles]
  | label text | raw text => exact (keeps_files_append _ _).mpr ⟨kept, by simp [KeepsFiles]⟩
  | code idle =>
      exact (keeps_files_append _ _).mpr ⟨kept, (keeps_files_code _).mpr idle.fits⟩
  | fill room fills =>
      have fitting := fills.fits finds (Allocation.isFloat_upcoming s.registers _)
      exact (keeps_files_append _ _).mpr ⟨kept, (keeps_files_code _).mpr fitting⟩
  | _ => exact kept

theorem feed_keeps_files (entry : Location × String)
    (finds : ∀ line, Line.ofText? entry.2 = some line → s.FindsFloats line)
    (kept : KeepsFiles s.text) : KeepsFiles (s.feed entry).1.text := by
  cases understood : Line.ofText? entry.2 with
  | some line =>
      rw [feed_line s understood]
      have placed : FindsFloats { s with location := entry.1 } line := finds line understood
      exact (step_reaches _ line).keeps (fun t => KeepsFiles t.text)
        (fun _ _ change => change.keeps_files placed) kept
  | none =>
      rw [feed_blank s understood]
      exact kept

theorem after_keeps_files (history : List (Location × String)) (s : Lowering)
    (finds : ∀ past entry rest, history = past ++ entry :: rest →
      ∀ line, Line.ofText? entry.2 = some line → (s.after past).FindsFloats line)
    (kept : KeepsFiles s.text) : KeepsFiles (s.after history).text := by
  induction history generalizing s with
  | nil => exact kept
  | cons entry rest ih =>
      apply ih (s.feed entry).1
      · intro past later remaining same
        exact finds (entry :: past) later remaining (by rw [same]; rfl)
      · exact feed_keeps_files entry (finds [] entry rest rfl) kept

/-- A float sum that finds fewer than two float registers always finds room for its result, and
adds an instruction that reads `$zero` as a float. -/
theorem sum_breaks_files {entry : Location × String} {dest left right : String}
    (understood : Line.ofText? entry.2 = some (.operation dest left .add right))
    (sum : s.sumClass left right = .float) (few : s.registers.count .float < 2) :
    ∃ fresh second,
      Item.code (.compute .addSingle fresh .zero second) ∈ (s.feed entry).1.text := by
  have float : ({ s with location := entry.1 } : Lowering).operationClass .add left right =
      .float := sum
  have room : s.registers.count .float < RegisterClass.float.capacity :=
    Nat.lt_trans few (by decide)
  have none_before : s.registers.previous? .float = none := by
    simp only [Allocation.previous?, Allocation.recent?]
    rw [if_neg (by omega)]
  obtain ⟨t, _, outcome⟩ := operation_room { s with location := entry.1 } dest left .add right
    (by rw [float]; exact room)
  rw [float] at outcome
  rw [feed_line s understood]
  simp only [step]
  refine ⟨s.registers.upcoming .float, (s.registers.newest? .float).getD .zero, ?_⟩
  simp [outcome, done, Operator.code, none_before]

/-- After any lines, failed ones included, every instruction takes its registers from the right
files if and only if every float sum among the lines found two float registers. -/
theorem files_kept_iff (options : Options) (history : List (Location × String)) :
    KeepsFiles ((Lowering.start options).after history).text ↔
      ∀ past entry rest, history = past ++ entry :: rest →
        ∀ line, Line.ofText? entry.2 = some line →
          ((Lowering.start options).after past).FindsFloats line := by
  constructor
  · rintro kept past entry rest rfl line understood dest left right rfl sum
    rcases Nat.lt_or_ge (((Lowering.start options).after past).registers.count .float) 2 with
      few | enough
    · obtain ⟨fresh, second, member⟩ := sum_breaks_files understood sum few
      rw [after_append] at kept
      have grown := after_text (((Lowering.start options).after past).feed entry).1 rest
      have fits := kept _ (grown.subset member)
      have asFloat := fits.2 .zero (by simp [Instruction.sources])
      cases asFloat
    · exact enough
  · intro finds
    exact after_keeps_files history _ finds (by simp [Lowering.start, KeepsFiles])

/-- One float register is not enough to add a float to itself. -/
theorem float_double_reads_zero :
    ¬ KeepsFiles ((Lowering.start {}).after
      [(.input 1, "t0 = 1.5"), (.input 2, "t1 = t0 + t0")]).text := by
  intro kept
  have fits := kept (.compute .addSingle (.f 1) .zero (.f 0)) (by decide +kernel)
  exact absurd fits (by decide)

end Lowering

end ThreeAddress
