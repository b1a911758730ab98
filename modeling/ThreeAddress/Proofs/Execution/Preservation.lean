import ThreeAddress.Proofs.Execution.Blocks
import ThreeAddress.Proofs.Registers.Provenance
import ThreeAddress.Proofs.Registers.SingleAssignment

/-!
Integer programs keep their meaning. The lowering takes operands from the last general registers and
not from the words of a line, so a line means what it says only if its operands are held just there.
Then its code is a block for the registers that hold the temporaries when the whole program has been
lowered, and the machine that carries out the text follows the machine that carries out the lines,
through any number of jumps.
-/

namespace ThreeAddress

open Execution

def Value.isInteger : Value → Bool
  | .intOrChar _ | .increment _ | .variable _ => true
  | .float _ | .temp _ => false

def Line.isInteger : Line → Bool
  | .label _ | .declaration (.int _) | .control _ | .operation .. | .store .. => true
  | .assign _ value => value.isInteger
  | .declaration _ | .call _ | .generic _ => false

def Line.stored? : Line → Option String
  | .store _ temp => some temp
  | _ => none

namespace Lowering

/-- The words that a line reads, each with the register that its code reads for it. -/
def operands (s : Lowering) : Line → List (String × Option Register)
  | .operation _ left _ right =>
      [(left, s.registers.previous? .general), (right, s.registers.newest? .general)]
  | .control (.ifGoto condition _) => [(condition, s.registers.newest? .general)]
  | .store _ temp => [(temp, s.registers.holder? temp)]
  | _ => []

/-- Of each word that an integer line reads, the lowering knows just the register that is read for
it. A word that is in no register agrees with a register that is not there; only a temporary that is
stored has to be in one. -/
structure Aligned (s : Lowering) (line : Line) : Prop where
  integer : line.isInteger = true
  same : ∀ operand ∈ s.operands line, s.registers.holder? operand.1 = operand.2
  stored : ∀ temp ∈ line.stored?, (s.registers.holder? temp).isSome = true

/-- Each word that an integer line reads is held in the register that is read for it. -/
structure Disciplined (s : Lowering) (line : Line) : Prop extends Aligned s line where
  bound : ∀ operand ∈ s.operands line, operand.2.isSome = true

instance (s : Lowering) (line : Line) : Decidable (s.Aligned line) :=
  decidable_of_iff
    (line.isInteger = true ∧
      (∀ operand ∈ s.operands line, s.registers.holder? operand.1 = operand.2) ∧
      ∀ temp ∈ line.stored?, (s.registers.holder? temp).isSome = true)
    ⟨fun ⟨integer, same, stored⟩ => ⟨integer, same, stored⟩,
      fun ⟨integer, same, stored⟩ => ⟨integer, same, stored⟩⟩

instance (s : Lowering) (line : Line) : Decidable (s.Disciplined line) :=
  decidable_of_iff (s.Aligned line ∧ ∀ operand ∈ s.operands line, operand.2.isSome = true)
    ⟨fun ⟨aligned, bound⟩ => ⟨aligned, bound⟩,
      fun disciplined => ⟨disciplined.toAligned, disciplined.bound⟩⟩

structure Plain (s : Lowering) : Prop where
  ends : s.options.returnLabel = none
  ints : ∀ name, s.typeOf name = .int
  floats : s.registers.count .float = 0

/-- `held` is what holds the temporaries in the end, seen from `s`: what is bound stays bound,
and nothing more is bound to the registers that are taken. -/
structure Settled (held : String → Option Register) (s : Lowering) : Prop where
  kept : ∀ temp register, s.registers.holder? temp = some register →
    held temp = some register
  only : ∀ temp register, s.registers.Taken register → held temp = some register →
    s.registers.holder? temp = some register

def Adds (held : String → Option Register) (line : Option Line) (s t : Lowering) : Prop :=
  Plain t ∧ ∃ items, t.text = s.text ++ items ∧ Block held line items

variable {held : String → Option Register} {s t : Lowering} {line : Line}

theorem Noted.options (noted : Noted s t) : t.options = s.options := by
  cases noted <;> rfl

theorem Noted.symbols (noted : Noted s t) : t.symbols = s.symbols := by
  cases noted <;> rfl

theorem Plain.same (plain : Plain s) (options : t.options = s.options)
    (symbols : t.symbols = s.symbols)
    (floats : t.registers.count .float = s.registers.count .float) : Plain t where
  ends := options ▸ plain.ends
  ints name := by
    have before := plain.ints name
    unfold typeOf at before ⊢
    rwa [symbols]
  floats := floats.trans plain.floats

theorem Plain.general (plain : Plain s) (orderly : Orderly s) {temp : String}
    {register : Register} (bound : s.registers.holder? temp = some register) :
    register.registerClass? = some .general := by
  obtain ⟨cls, inClass, below⟩ := orderly.held temp register bound
  cases cls with
  | general => exact inClass
  | float =>
      rw [plain.floats] at below
      exact absurd below (Nat.not_lt_zero _)

theorem Block.marked {line : Option Line} {items : List Item} (block : Block held line items)
    (unlabelled : lineLabel? line = none) (s : Lowering) (text : String) :
    Block held line (s.marks text ++ items) := by
  unfold marks
  split
  · exact .comment text unlabelled block
  · exact block

theorem Disciplined.at (disciplined : s.Disciplined line) (location : Location) :
    { s with location }.Disciplined line :=
  ⟨⟨disciplined.integer, disciplined.same, disciplined.stored⟩, disciplined.bound⟩

/-- A word that the line reads is held for good in the register that is read for it. -/
theorem Disciplined.held_in (disciplined : s.Disciplined line) (settled : Settled held s)
    (word : String) (place : Option Register) (read : (word, place) ∈ s.operands line) :
    ∃ register, place = some register ∧ s.registers.holder? word = some register ∧
      held word = some register := by
  obtain ⟨register, found⟩ := Option.isSome_iff_exists.mp (disciplined.bound _ read)
  have bound : s.registers.holder? word = some register := (disciplined.same _ read).trans found
  exact ⟨register, found, bound, settled.kept word register bound⟩

theorem done_inj (same : done s = done t) : s = t :=
  congrArg Prod.fst same

/-- What does not fail has found a register. -/
theorem withRegister_done {cls : RegisterClass} {next : Register → Lowering → Outcome}
    (outcome : s.withRegister cls next = done t) :
    s.registers.count cls < cls.capacity ∧
      next (s.registers.upcoming cls) (s.advance cls) = done t := by
  by_cases room : s.registers.count cls < cls.capacity
  · rw [withRegister_room s cls next room] at outcome
    exact ⟨room, outcome⟩
  · rw [withRegister_full s cls next room] at outcome
    exact absurd (congrArg Prod.snd outcome) (Option.some_ne_none _)

/-- A temporary that gets a fresh register has it for itself. -/
theorem owns_fresh (orderly : Orderly s) (settled : Settled held t)
    (outcome : s.step line = done t) {dest : String} (assigned : line.dest? = some dest)
    {fresh : Register} (holds : t.registers.holder? dest = some fresh)
    (new : ¬ s.registers.Taken fresh) : Owns held dest fresh where
  holds := settled.kept dest fresh holds
  alone other bound := by
    have reached : Reaches s line t := by
      have reaches := step_reaches s line
      rwa [outcome] at reaches
    have taken : t.registers.Taken fresh :=
      (reached.keeps Orderly (fun _ _ change => change.orderly) orderly).held dest fresh holds
    -- Another temporary would have been bound to the register before it was handed out.
    rcases reached.bound (settled.only other fresh taken bound) with before | ⟨again, _⟩
    · exact absurd (orderly.held other fresh before) new
    · exact Option.some.inj (again.symm.trans assigned)

theorem label_adds (plain : Plain s) (text : String) :
    Adds held (some (.label text)) s (s.emit [.label text]) :=
  ⟨plain.same rfl rfl rfl, _, rfl, .label text⟩

theorem declare_adds (plain : Plain s) (name : String) :
    Adds held (some (.declaration (.int name))) s (s.declare (.int name)) := by
  refine ⟨⟨?_, ?_, ?_⟩, ?_⟩
  · simpa [declare] using plain.ends
  · intro other
    have before := plain.ints other
    unfold typeOf at before ⊢
    simp only [declare, comment_symbols, Table.get?_insert]
    split
    · rfl
    · exact before
  · simpa [declare] using plain.floats
  · exact ⟨_, comment_text s _, by simpa using Block.marked (.declaration name) rfl s _⟩

theorem goto_adds (plain : Plain s) (target : String) :
    Adds held (some (.control (.goto target))) s (s.control (.goto target)) := by
  refine ⟨plain.same ?_ ?_ ?_, s.marks "goto" ++ [.code (.jump target)], ?_, ?_⟩
  · exact comment_options s "goto"
  · exact comment_symbols s "goto"
  · simp [control]
  · simp [control]
  · exact Block.marked (.goto target) rfl s "goto"

theorem leave_adds (plain : Plain s) :
    Adds held (some (.control .leave)) s (s.control .leave) := by
  have ends : s.control .leave = (s.comment "return").code Service.exit.request := by
    simp [control, leave, plain.ends]
  rw [ends]
  refine ⟨plain.same ?_ ?_ ?_, s.marks "return" ++ Service.exit.request.map .code, ?_, ?_⟩
  · exact comment_options s "return"
  · exact comment_symbols s "return"
  · simp
  · simp
  · exact Block.marked .leave rfl s "return"

theorem branch_adds (plain : Plain s) (settled : Settled held s) {condition target : String}
    (disciplined : s.Disciplined (.control (.ifGoto condition target))) :
    Adds held (some (.control (.ifGoto condition target))) s
      (s.control (.ifGoto condition target)) := by
  obtain ⟨register, newest, _, holds⟩ := disciplined.held_in settled condition
    (s.registers.newest? .general) (by simp [operands])
  have tested := noteTested_noted (s.comment "if") condition
  have other := noteOther_noted ((s.comment "if").noteTested condition) condition
  have same : s.tested = register := by simp [Lowering.tested, newest]
  refine ⟨plain.same ?_ ?_ ?_, s.marks "if" ++ [.code (.branchZero register target)], ?_, ?_⟩
  · exact other.options.trans (tested.options.trans (comment_options s "if"))
  · exact other.symbols.trans (tested.symbols.trans (comment_symbols s "if"))
  · simp [control, branch, other.registers, tested.registers]
  · simp [control, branch, other.text, tested.text, same]
  · exact Block.marked (.branch target holds) rfl s "if"

theorem store_adds (plain : Plain s) (orderly : Orderly s) (settled : Settled held s)
    {dest temp : String} (disciplined : s.Disciplined (.store dest temp)) :
    Adds held (some (.store dest temp)) s (s.store dest temp) := by
  obtain ⟨register, bound, _, holds⟩ := disciplined.held_in settled temp
    (s.registers.holder? temp) (by simp [operands])
  have noted := noteType_noted s dest
  have inClass := plain.general orderly bound
  have source : (s.noteType dest).storeSource? .general temp = some register := by
    simp [storeSource?, noted.registers, bound, Option.filter, inClass]
  have stored : s.store dest temp = (s.noteType dest).code [.store .word register dest] := by
    have general : SymbolType.int.registerClass = .general := rfl
    simp only [store, plain.ints dest, general, source]
    rfl
  rw [stored]
  refine ⟨plain.same noted.options noted.symbols ?_, [.code (.store .word register dest)], ?_,
    .store dest holds⟩
  · simp [noted.registers]
  · simp [noted.text]

/-- An operation on registers of the class that holds both operands. -/
theorem operation_general (plain : Plain s) (orderly : Orderly s) (op : Operator)
    {left right : String} {first second : Register}
    (leftBound : s.registers.holder? left = some first)
    (rightBound : s.registers.holder? right = some second) :
    s.operationClass op left right = .general := by
  unfold operationClass
  split
  · simp [sumClass, tempClass?, leftBound, rightBound, plain.general orderly leftBound,
      plain.general orderly rightBound]
  · rfl

theorem operation_adds (plain : Plain s) (orderly : Orderly s) (before : Settled held s)
    (after : Settled held t) {dest left right : String} {op : Operator}
    (disciplined : s.Disciplined (.operation dest left op right))
    (outcome : s.step (.operation dest left op right) = done t) :
    Adds held (some (.operation dest left op right)) s t := by
  obtain ⟨first, previous, leftBound, leftHeld⟩ := disciplined.held_in before left
    (s.registers.previous? .general) (by simp [operands])
  obtain ⟨second, newest, rightBound, rightHeld⟩ := disciplined.held_in before right
    (s.registers.newest? .general) (by simp [operands])
  have general := operation_general plain orderly op leftBound rightBound
  have noted := noteOperands_noted (s.comment ("op = " ++ op.symbol)) op .general
  have taken := outcome
  simp only [step, operation, general, previous, newest, Option.getD_some] at taken
  -- The line succeeds, so there is room for its result.
  obtain ⟨room, result⟩ := withRegister_done taken
  rw [noted.registers, comment_registers] at room result
  obtain rfl := done_inj result
  have owns : Owns held dest (s.registers.upcoming .general) :=
    owns_fresh orderly after outcome rfl (by simp)
      (Allocation.upcoming_fresh s.registers .general room)
  refine ⟨plain.same ?_ ?_ ?_, s.marks ("op = " ++ op.symbol) ++
    (op.code .general (s.registers.upcoming .general) first second).map .code, ?_, ?_⟩
  · exact noted.options.trans (comment_options s _)
  · exact noted.symbols.trans (comment_symbols s _)
  · simp [noted.registers]
  · simp [noted.text]
  · exact Block.marked (.operation op leftHeld rightHeld owns) rfl s _

theorem literal_adds (plain : Plain s) (orderly : Orderly s) (after : Settled held t)
    {dest text : String} (outcome : s.step (.assign dest (.intOrChar text)) = done t) :
    Adds held (some (.assign dest (.intOrChar text))) s t := by
  have taken := outcome
  simp only [step, assign, literal] at taken
  obtain ⟨room, result⟩ := withRegister_done taken
  obtain rfl := done_inj result
  have owns : Owns held dest (s.registers.upcoming .general) :=
    owns_fresh orderly after outcome rfl (by simp)
      (Allocation.upcoming_fresh s.registers .general room)
  exact ⟨plain.same rfl rfl (by simp), _, rfl, .literal text owns⟩

theorem load_adds (plain : Plain s) (orderly : Orderly s) (after : Settled held t)
    {dest name : String} (outcome : s.step (.assign dest (.variable name)) = done t) :
    Adds held (some (.assign dest (.variable name))) s t := by
  have noted := noteType_noted s name
  have general : SymbolType.int.registerClass = .general := rfl
  have word : SymbolType.int.loadOp = .word := rfl
  have taken := outcome
  simp only [step, assign, load, plain.ints name, general, word] at taken
  obtain ⟨room, result⟩ := withRegister_done taken
  rw [noted.registers] at room result
  obtain rfl := done_inj result
  have owns : Owns held dest (s.registers.upcoming .general) :=
    owns_fresh orderly after outcome rfl (by simp)
      (Allocation.upcoming_fresh s.registers .general room)
  refine ⟨plain.same noted.options noted.symbols ?_, _, ?_, .load name owns⟩
  · simp [noted.registers]
  · simp [noted.text]

theorem increment_adds (plain : Plain s) (orderly : Orderly s) (after : Settled held t)
    {dest name : String} (outcome : s.step (.assign dest (.increment name)) = done t) :
    Adds held (some (.assign dest (.increment name))) s t := by
  have taken := outcome
  simp only [step, assign, increment] at taken
  obtain ⟨room, opened⟩ := withRegister_done taken
  obtain ⟨roomAgain, result⟩ := withRegister_done opened
  obtain rfl := done_inj result
  have new : ¬ s.registers.Taken ((s.registers.advance .general).upcoming .general) := by
    intro before
    exact Allocation.upcoming_fresh _ .general roomAgain
      (Allocation.taken_advance _ .general _ before)
  have owns : Owns held dest ((s.registers.advance .general).upcoming .general) :=
    owns_fresh orderly after outcome rfl (by simp) new
  -- The register that the variable is loaded into is taken, but no temporary is bound to it.
  have spare : ∀ temp, held temp ≠ some (s.registers.upcoming .general) := by
    intro temp bound
    have used := Allocation.upcoming_taken s.registers .general
    have loaded := Allocation.taken_noteOrigin _ (s.registers.upcoming .general) _ name
      (Allocation.taken_advance _ .general _ used)
    have taken := Allocation.taken_hold _ dest
      ((s.registers.advance .general).upcoming .general) _ loaded
    have there := after.only temp _ taken bound
    simp only [hold_registers, Allocation.holder?_hold] at there
    split at there
    · have same := Option.some.inj there
      exact Allocation.upcoming_fresh _ .general roomAgain (same ▸ used)
    · exact Allocation.upcoming_fresh s.registers .general room (orderly.held temp _ there)
  refine ⟨plain.same rfl rfl (by simp), _, ?_,
    .increment name spare (Allocation.registerClass?_upcoming _ _) owns⟩
  simp

/-- The code that an integer line adds is a block for what holds the temporaries in the end. -/
theorem step_adds (plain : Plain s) (orderly : Orderly s) (before : Settled held s)
    (after : Settled held t) (disciplined : s.Disciplined line) (outcome : s.step line = done t) :
    Adds held (some line) s t := by
  -- Lines of other kinds have no block, and integer programs have none of them.
  have integer := disciplined.integer
  cases line with
  | label text =>
      obtain rfl := done_inj outcome
      exact label_adds plain text
  | declaration declared =>
      cases declared with
      | int name =>
          obtain rfl := done_inj outcome
          exact declare_adds plain name
      | array name count | char name | float name => cases integer
  | control flow =>
      obtain rfl := done_inj outcome
      cases flow with
      | ifGoto condition target => exact branch_adds plain before disciplined
      | goto target => exact goto_adds plain target
      | leave => exact leave_adds plain
  | operation dest left op right =>
      exact operation_adds plain orderly before after disciplined outcome
  | assign dest value =>
      cases value with
      | increment name => exact increment_adds plain orderly after outcome
      | intOrChar text => exact literal_adds plain orderly after outcome
      | «variable» name => exact load_adds plain orderly after outcome
      | float text | temp source => cases integer
  | store dest temp =>
      obtain rfl := done_inj outcome
      exact store_adds plain orderly before disciplined
  | call made | generic text => cases integer

end Lowering

/-! ## Programs -/

namespace Program

def code (program : Program) : List (Option Line) :=
  program.entries.map fun entry => Line.ofText? entry.2

def before (program : Program) (options : Options) (place : Nat) : Lowering :=
  (Lowering.start options).after (program.entries.take place)

def offset (program : Program) (options : Options) (place : Nat) : Nat :=
  (program.before options place).text.length

theorem offset_zero (program : Program) (options : Options) : program.offset options 0 = 0 := by
  simp [offset, before, Lowering.after, Lowering.start]

/-- The register that a temporary is held in when the whole program has been lowered. -/
def holder? (program : Program) (options : Options) (temp : String) : Option Register :=
  ((Lowering.start options).after program.entries).registers.holder? temp

end Program

namespace Lowering
variable {held : String → Option Register} {s t : Lowering}

theorem settled_of_unbound {entries : List (Location × String)}
    (unbound : ∀ temp ∈ entries.filterMap entryDest?, s.registers.holder? temp = none) :
    Settled (s.after entries).registers.holder? s where
  kept temp register bound := by
    have others : temp ∉ entries.filterMap entryDest? := by
      intro assigned
      rw [unbound temp assigned] at bound
      cases bound
    exact after_holds_on entries s others bound
  only _ _ taken bound := after_bound entries s taken bound

/-- No later line assigns what a line assigns. -/
theorem unbound_later {entry : Location × String} {rest : List (Location × String)}
    (once : ((entry :: rest).filterMap entryDest?).Nodup)
    (unbound : ∀ temp ∈ (entry :: rest).filterMap entryDest?, s.registers.holder? temp = none) :
    ∀ temp ∈ rest.filterMap entryDest?, (s.feed entry).1.registers.holder? temp = none := by
  intro temp later
  cases bound : (s.feed entry).1.registers.holder? temp with
  | none => rfl
  | some register =>
      rcases feed_bound entry bound with before | ⟨assigned, _⟩
      · have within := ((List.sublist_cons_self entry rest).filterMap entryDest?).subset later
        rw [unbound temp within] at before
        cases before
      · rw [List.filterMap_cons_some assigned] at once
        exact absurd later (List.nodup_cons.mp once).1

theorem feed_adds (plain : Plain s) (orderly : Orderly s) {entry : Location × String}
    (before : Settled held s) (after : Settled held (s.feed entry).1)
    (succeeds : (s.feed entry).2 = none)
    (disciplined : ∀ line ∈ Line.ofText? entry.2, s.Disciplined line) :
    Adds held (Line.ofText? entry.2) s (s.feed entry).1 := by
  cases understood : Line.ofText? entry.2 with
  | none =>
      rw [feed_blank s understood]
      exact ⟨plain.same rfl rfl rfl, [], (List.append_nil _).symm, .nothing⟩
  | some line =>
      have outcome : { s with location := entry.1 }.step line = done (s.feed entry).1 := by
        rw [← feed_line s understood]
        exact Prod.ext rfl succeeds
      have placed : Plain { s with location := entry.1 } := plain.same rfl rfl rfl
      have orderlyPlaced : Orderly { s with location := entry.1 } :=
        orderly.unchanged rfl fun _ => rfl
      have settled : Settled held { s with location := entry.1 } := ⟨before.kept, before.only⟩
      have added : Adds held (some line) { s with location := entry.1 } (s.feed entry).1 :=
        step_adds placed orderlyPlaced settled after ((disciplined line understood).at entry.1)
          outcome
      exact added

/-- Lowering adds one block for each line, each where the one before it ends. -/
theorem after_blocks (entries : List (Location × String)) (s : Lowering) (plain : Plain s)
    (orderly : Orderly s) (succeeds : s.Succeeds entries)
    (once : (entries.filterMap entryDest?).Nodup)
    (unbound : ∀ temp ∈ entries.filterMap entryDest?, s.registers.holder? temp = none)
    (disciplined : ∀ (place : Nat) (inside : place < entries.length),
      ∀ line ∈ Line.ofText? entries[place].2, (s.after (entries.take place)).Disciplined line) :
    Plain (s.after entries) ∧ ∃ blocks, (s.after entries).text = s.text ++ blocks.flatten ∧
      List.Forall₂ (Block (s.after entries).registers.holder?)
        (entries.map fun entry => Line.ofText? entry.2) blocks ∧
      ∀ place, (s.after (entries.take place)).text.length =
        s.text.length + Execution.offset blocks place := by
  -- Later lines leave the bindings of earlier ones as they are, so the last bindings say for
  -- every line which registers its block works on.
  induction entries generalizing s with
  | nil =>
      refine ⟨plain, [], (List.append_nil _).symm, .nil, ?_⟩
      intro place
      simp [after, Execution.offset]
  | cons entry rest ih =>
      have unboundRest := unbound_later once unbound
      have before : Settled (s.after (entry :: rest)).registers.holder? s :=
        settled_of_unbound unbound
      have later : Settled (s.after (entry :: rest)).registers.holder? (s.feed entry).1 :=
        settled_of_unbound unboundRest
      obtain ⟨plainNext, items, text, block⟩ := feed_adds plain orderly before later succeeds.1
        (disciplined 0 (Nat.succ_pos _))
      have onceRest := once.sublist ((List.sublist_cons_self entry rest).filterMap entryDest?)
      obtain ⟨plainLast, blocks, texts, rendered, offsets⟩ := ih (s.feed entry).1 plainNext
        (feed_orderly orderly entry) succeeds.2 onceRest unboundRest fun place inside =>
          disciplined (place + 1) (Nat.succ_lt_succ inside)
      refine ⟨plainLast, items :: blocks, ?_, .cons block rendered, ?_⟩
      · rw [List.flatten_cons, ← List.append_assoc, ← text]
        exact texts
      · intro place
        cases place with
        | zero => simp [after, Execution.offset]
        | succ place =>
            have further := offsets place
            rw [text] at further
            simp only [List.take_succ_cons, after, further, Execution.offset, List.flatten_cons,
              List.length_append]
            omega

end Lowering

/-- The text of a lowered integer program is made of one block for each of its lines. -/
theorem lowered_blocks {program : Program} {options : Options} {lowered : Lowered}
    (ends : options.returnLabel = none) (accepted : program.lower options = .ok lowered)
    (once : (program.code.filterMap fun line => line.bind Line.dest?).Nodup)
    (disciplined : ∀ (place : Nat) (inside : place < program.code.length),
      ∀ line ∈ program.code[place], (program.before options place).Disciplined line) :
    Regular (program.holder? options) ∧
    ∃ blocks, lowered.assembly.text = blocks.flatten ∧
      List.Forall₂ (Block (program.holder? options)) program.code blocks ∧
      program.offset options = Execution.offset blocks := by
  obtain ⟨final, outcome, text⟩ := program.lower_ok accepted
  obtain ⟨succeeds, reached⟩ := Lowering.numberedLines_succeeds _ final program _ outcome
  have plain : (Lowering.start options).Plain := ⟨ends, fun _ => rfl, rfl⟩
  have orderly := Lowering.start_orderly options
  have assigned : program.code.filterMap (fun line => line.bind Line.dest?) =
      program.entries.filterMap Lowering.entryDest? := by
    rw [Program.code, List.filterMap_map]
    rfl
  -- All lines succeed, so the program is the history of its entries.
  obtain ⟨plainLast, blocks, texts, rendered, offsets⟩ := Lowering.after_blocks program.entries
    (Lowering.start options) plain orderly succeeds (assigned ▸ once) (fun _ _ => rfl)
    (by simpa [Program.code, Program.before] using disciplined)
  refine ⟨⟨?_, ?_⟩, blocks, ?_, rendered, ?_⟩
  · exact Lowering.history_temps options program.entries
  · exact fun temp register =>
      plainLast.general (Lowering.history_orderly options program.entries)
  · rw [text, ← reached]
    exact texts
  · funext place
    exact (offsets place).trans (Nat.zero_add _)

/-- A lowered integer program does what its lines say. From states that agree, each number of
steps through the lines is matched by some number of steps through the text: both machines are
then at the same line with states that agree, or both have stopped in the same way. And the
text never goes elsewhere: however far it runs, it comes to where the lines come. -/
theorem lowered_runs_match (program : Program) (options : Options) (lowered : Lowered)
    (meaning : Meaning) (source : Status Variables) (target : Status Processor)
    (ends : options.returnLabel = none) (accepted : program.lower options = .ok lowered)
    (once : (program.code.filterMap fun line => line.bind Line.dest?).Nodup)
    (disciplined : ∀ (place : Nat) (inside : place < program.code.length),
      ∀ line ∈ program.code[place], (program.before options place).Disciplined line)
    (start : source.Matches (Agrees (program.holder? options)) (program.offset options) target) :
    (∀ steps, ∃ count,
      ((lineMachine meaning).run program.code steps source).Matches
        (Agrees (program.holder? options)) (program.offset options)
        ((itemMachine meaning).run lowered.assembly.text count target)) ∧
    ∀ count, ∃ steps later, count ≤ later ∧
      ((lineMachine meaning).run program.code steps source).Matches
        (Agrees (program.holder? options)) (program.offset options)
        ((itemMachine meaning).run lowered.assembly.text later target) := by
  obtain ⟨regular, blocks, text, coded, offsets⟩ :=
    lowered_blocks ends accepted once disciplined
  have rendered : List.Forall₂ (Renders (lineMachine meaning) (itemMachine meaning)
      (Agrees (program.holder? options))) program.code blocks :=
    coded.imp fun _ _ block => block.renders regular meaning
  rw [offsets] at start ⊢
  rw [text]
  constructor
  · intro steps
    obtain ⟨count, matched, _⟩ := run_simulated rendered start steps
    exact ⟨count, matched⟩
  · intro count
    exact run_followed rendered start count

def countdown : Program where
  name := "count"
  source := "dataInt n\ndataInt rounds\nt0 = 3\nn = t0\nagain:\nt1 = n\nif t1 goto done\n" ++
    "t2 = 1\nt3 = t1 - t2\nn = t3\nt4 = ++rounds\ngoto again\ndone:\nreturn\n"

def plainMeaning : Meaning where
  literal text := ((Numeral.int32? text.toList).getD 0).toBitVec
  result op left right := if op = .sub then left - right else left + right

theorem countdown_runs_match :
    ∃ lowered count, countdown.lower {} = .ok lowered ∧
      ((lineMachine plainMeaning).run countdown.code 40
          (.running 0 ⟨fun _ => 0, fun _ => 0⟩)).Matches
        (Agrees (countdown.holder? {})) (countdown.offset {})
        ((itemMachine plainMeaning).run lowered.assembly.text count
          (.running 0 ⟨fun _ => 0, 0, fun _ => 0⟩)) := by
  obtain ⟨lowered, accepted⟩ : ∃ lowered, countdown.lower {} = .ok lowered := by
    have succeeds : ((Lowering.start {}).program countdown).2 = none := by decide +kernel
    unfold Program.lower
    split
    · exact ⟨_, rfl⟩
    · simp_all
  have agrees : Agrees (countdown.holder? {}) ⟨fun _ => 0, fun _ => 0⟩
      ⟨fun _ => 0, 0, fun _ => 0⟩ :=
    ⟨fun _ register _ => by cases register <;> rfl, rfl⟩
  have start : Status.Matches (Agrees (countdown.holder? {})) (countdown.offset {})
      (.running 0 ⟨fun _ => 0, fun _ => 0⟩)
      (.running (countdown.offset {} 0) ⟨fun _ => 0, 0, fun _ => 0⟩) := .running 0 agrees
  rw [Program.offset_zero] at start
  obtain ⟨count, matched⟩ := (lowered_runs_match countdown {} lowered plainMeaning _ _ rfl accepted
    (by decide +kernel) (by decide +kernel) start).1 40
  exact ⟨lowered, count, accepted, matched⟩

/-- A sum with a number in it. The number is in no register, and there is no register before the
last one, so the two agree; but the code reads `$zero` instead. -/
def unheldSum : Program where
  name := "sum"
  source := "dataInt x\nt0 = 1\nt1 = 5 + t0\nx = t1\nreturn\n"

theorem unheldSum_code : unheldSum.code =
    [some (.declaration (.int "x")), some (.assign "t0" (.intOrChar "1")),
      some (.operation "t1" "5" .add "t0"), some (.store "x" "t1"),
      some (.control .leave)] := by
  decide +kernel

theorem unheldSum_text {lowered : Lowered} (accepted : unheldSum.lower {} = .ok lowered) :
    lowered.assembly.text =
      [.comment "int declaration", .code (.immediate .integer (.t 0) "1"),
        .comment "op = +", .code (.compute .add (.t 1) .zero (.t 0)),
        .code (.store .word (.t 1) "x"), .comment "return",
        .code (.immediate .integer .v0 "10"), .code .syscall] := by
  rw [Program.lower_final accepted]
  decide +kernel

/-- The lines end with six in the variable, the code with one, though every operand agrees with the
register that is read for it. -/
theorem unheld_operand_lost :
    ∃ lowered, unheldSum.lower {} = .ok lowered ∧
      (unheldSum.code.filterMap fun line => line.bind Line.dest?).Nodup ∧
      (unheldSum.code.filterMap lineLabel?).Nodup ∧
      (∀ (place : Nat) (inside : place < unheldSum.code.length),
        ∀ line ∈ unheldSum.code[place], (unheldSum.before {} place).Aligned line) ∧
      ∃ source target,
        Status.Matches (Agrees (unheldSum.holder? {})) (unheldSum.offset {}) source target ∧
        ∀ count, ¬ ((lineMachine plainMeaning).run unheldSum.code 5 source).Matches
          (Agrees (unheldSum.holder? {})) (unheldSum.offset {})
          ((itemMachine plainMeaning).run lowered.assembly.text count target) := by
  obtain ⟨lowered, accepted⟩ := (unheldSum.lower_succeeds_iff {}).mpr (by decide +kernel)
  have agrees : Agrees (unheldSum.holder? {}) ⟨fun _ => 0, fun _ => 0⟩
      ⟨fun _ => 0, 0, fun _ => 0⟩ :=
    ⟨fun _ register _ => by cases register <;> rfl, rfl⟩
  have start : Status.Matches (Agrees (unheldSum.holder? {})) (unheldSum.offset {})
      (.running 0 ⟨fun _ => 0, fun _ => 0⟩)
      (.running (unheldSum.offset {} 0) ⟨fun _ => 0, 0, fun _ => 0⟩) := .running 0 agrees
  rw [Program.offset_zero] at start
  refine ⟨lowered, accepted, by decide +kernel, by decide +kernel, by decide +kernel, _, _, start,
    fun count matched => ?_⟩
  -- both runs come to their ends, and there the memories differ
  have lines : ∃ last, (lineMachine plainMeaning).run unheldSum.code 5
      (.running 0 ⟨fun _ => 0, fun _ => 0⟩) = .ended last ∧ last.memory "x" = 6 := by
    rw [unheldSum_code]
    exact ⟨_, rfl, by decide +kernel⟩
  have items : ∃ last, (itemMachine plainMeaning).run lowered.assembly.text 8
      (.running 0 ⟨fun _ => 0, 0, fun _ => 0⟩) = .ended last ∧ last.memory "x" = 1 := by
    rw [unheldSum_text accepted]
    exact ⟨_, rfl, by decide +kernel⟩
  obtain ⟨source, ended, six⟩ := lines
  obtain ⟨target, stopped, one⟩ := items
  rw [ended] at matched
  generalize reached : (itemMachine plainMeaning).run lowered.assembly.text count
    (.running 0 ⟨fun _ => 0, 0, fun _ => 0⟩) = status at matched
  cases matched with
  | @ended _ other states =>
      have same : Status.ended other = .ended target := by
        rw [← reached, ← stopped]
        apply Machine.run_stopped_once
        · rw [reached]
          rfl
        · rw [stopped]
          rfl
      cases same
      have memory := congrFun states.memory "x"
      rw [six, one] at memory
      exact absurd memory (by decide)

end ThreeAddress
