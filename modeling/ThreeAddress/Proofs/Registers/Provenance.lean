import ThreeAddress.Proofs.Line.Shapes
import ThreeAddress.Proofs.Lowering.Scripts
import ThreeAddress.Proofs.Registers.SingleAssignment

/-!
What the bindings say of the code. A temporary is bound to a register that the code of its last
assignment has filled, no two to the same one, and a register that is said to come from a variable
was loaded from it. Nothing checks this: a line only ever binds a register that it has just taken,
so it follows from the order in which registers are handed out. A line that fails may leave a load
behind that is not recorded; without failures every load is.
-/

namespace ThreeAddress

def Item.loaded? (register : Register) : Item → Option String
  | .code (.load _ dest symbol) => if dest = register then some symbol else none
  | _ => none

def loadedInto (register : Register) (items : List Item) : List String :=
  items.filterMap (Item.loaded? register)

/-- Where an item that was written for a line leaves the value that the line assigns. What an
increment loads, and the bits of a float on their way to memory, are not that value. -/
def Line.leftIn? (line : Line) : Item → Option Register
  | .code instruction =>
      match line, instruction with
      | .assign _ (.increment _), .load .. => none
      | _, .copy .fromFloat .. => none
      | _, _ => instruction.dest?
  | _ => none

def Line.left (line : Line) (items : List Item) : List Register :=
  items.filterMap line.leftIn?

def Act.held? (temp : String) : Act → Option Register
  | .hold name register => if name = temp then some register else none
  | _ => none

def Act.noted? (register : Register) : Act → Option String
  | .noteOrigin filled name => if filled = register then some name else none
  | _ => none

def Act.isPlain : Act → Bool
  | .take _ | .hold .. | .noteOrigin .. => false
  | _ => true

section Lists
variable {register : Register}

@[simp] theorem loaded_append (first second : List Item) :
    loadedInto register (first ++ second) =
      loadedInto register first ++ loadedInto register second :=
  List.filterMap_append

/-- A register is loaded at most as often as it is filled. -/
theorem loaded_le_writes (items : List Item) :
    (loadedInto register items).length ≤ (writes items).count register := by
  induction items with
  | nil => exact Nat.le_refl 0
  | cons item rest ih =>
      rw [writes_cons, List.count_append, loadedInto, List.filterMap_cons]
      cases loads : item.loaded? register with
      | none => exact Nat.le_add_left_of_le ih
      | some symbol =>
          have fills : item.dest? = some register := by
            unfold Item.loaded? at loads
            split at loads
            · split at loads <;> cases loads
              rename_i same
              exact congrArg some same
            · cases loads
          rw [fills, Option.toList_some, List.count_singleton_self, List.length_cons, Nat.add_comm]
          exact Nat.add_le_add_left ih 1

end Lists

namespace Lowering
variable {s t : Lowering} {register : Register}

/-! ## What acts leave -/

theorem foldl_text (s : Lowering) (acts : List Act) :
    (acts.foldl apply s).text = s.text ++ acts.flatMap (Act.items s.options.comments) := by
  induction acts generalizing s with
  | nil => exact (List.append_nil _).symm
  | cons act rest ih =>
      rw [List.foldl_cons, ih, apply_text, apply_options, List.flatMap_cons, List.append_assoc]

theorem apply_holder (s : Lowering) (act : Act) (temp : String) :
    (s.apply act).registers.holder? temp = (act.held? temp).or (s.registers.holder? temp) := by
  cases act with
  | hold name register =>
      simp only [apply, hold_registers, Allocation.holder?_hold, Act.held?]
      split <;> rfl
  | comment text => simp [apply, Act.held?]
  | report finding => cases finding <;> rfl
  | take cls => exact Allocation.holder?_advance s.registers cls temp
  | _ => rfl

theorem apply_origin (s : Lowering) (act : Act) (register : Register) :
    (s.apply act).registers.origin? register =
      (act.noted? register).or (s.registers.origin? register) := by
  cases act with
  | noteOrigin filled name =>
      simp only [apply, noteOrigin_registers, Allocation.origin?, Allocation.noteOrigin,
        Table.get?_insert, Act.noted?]
      split <;> rfl
  | comment text => simp [apply, Act.noted?]
  | report finding => cases finding <;> rfl
  | take cls => cases cls <;> rfl
  | _ => rfl

/-- The last entry counts where each act may leave one of its own. -/
theorem foldl_last {Value : Type} (read : Lowering → Option Value) (left? : Act → Option Value)
    (each : ∀ s act, read (s.apply act) = (left? act).or (read s)) (s : Lowering)
    (acts : List Act) :
    read (acts.foldl apply s) = (acts.filterMap left?).getLast?.or (read s) := by
  induction acts generalizing s with
  | nil => rfl
  | cons act rest ih =>
      rw [List.foldl_cons, ih, each, List.filterMap_cons]
      cases left? act with
      | none => rfl
      | some value =>
          rw [List.getLast?_cons]
          cases (rest.filterMap left?).getLast? <;> rfl

/-! ## The acts of a line -/

/-- Every origin that is noted is that of a load that was written before. -/
def Backed (written : List Item) : List Act → Prop
  | [] => True
  | act :: rest =>
      (∀ register name, act.noted? register = some name →
        register.registerClass? ≠ none ∧ name ∈ loadedInto register written) ∧
      Backed (written ++ act.items false) rest

structure Settles (line : Line) (dest : String) (acts : List Act) : Prop where
  bound : ∃ register, acts.filterMap (Act.held? dest) = [register] ∧
    ∀ comments, line.left (acts.flatMap (Act.items comments)) = [register]
  noted : ∀ register comments, acts.filterMap (Act.noted? register) =
    loadedInto register (acts.flatMap (Act.items comments))
  backed : Backed [] acts

/-- Acts that note nothing may follow. -/
theorem Backed.append {written : List Item} {first second : List Act}
    (backed : Backed written first)
    (silent : ∀ act ∈ second, ∀ register, act.noted? register = none) :
    Backed written (first ++ second) := by
  induction first generalizing written with
  | cons act rest ih => exact ⟨backed.1, ih backed.2⟩
  | nil =>
      induction second generalizing written with
      | nil => trivial
      | cons act rest ih =>
          refine ⟨?_, ih (fun other member => silent other (List.mem_cons_of_mem _ member)) trivial⟩
          intro register name noted
          rw [silent act List.mem_cons_self] at noted
          cases noted

section Scripts
variable (s : Lowering)

theorem printScript_plain (argument : String) :
    (s.printScript argument).all Act.isPlain = true := by
  unfold printScript
  split
  · rfl
  · split
    · split <;> rfl
    · split <;> rfl

theorem script_plain {line : Line} (passive : line.dest? = none) :
    (s.script line).all Act.isPlain = true := by
  cases line with
  | operation dest left op right | assign dest value => cases passive
  | label text | generic text | declaration declared => rfl
  | control flow => cases flow <;> rfl
  | store dest temp =>
      simp only [script, storeScript]
      split <;> rfl
  | call made =>
      cases made with
      | param value => rfl
      | call callee count =>
          simp only [script, callScript, popScript]
          split
          · split
            · rfl
            · exact printScript_plain s _
          · rfl

theorem operation_settles (dest left : String) (op : Operator) (right : String) :
    Settles (.operation dest left op right) dest (s.operationScript dest left op right) where
  bound := by
    refine ⟨s.registers.upcoming (s.operationClass op left right),
      by simp [operationScript, Act.held?, List.filterMap_cons], ?_⟩
    intro comments
    cases op <;> cases comments <;> rfl
  noted := by
    intro register comments
    cases op <;> cases comments <;> rfl
  backed := by simp [operationScript, Backed, Act.noted?]

theorem literal_settles (line : Line) (dest : String) (op : ImmediateOp) (cls : RegisterClass)
    (text : String) : Settles line dest (s.literalScript dest op cls text) where
  bound := by
    refine ⟨s.registers.upcoming cls, by simp [literalScript, Act.held?, List.filterMap_cons], ?_⟩
    intro comments
    simp [literalScript, Line.left, Line.leftIn?, Act.items, Instruction.dest?]
  noted := by
    intro register comments
    simp [literalScript, loadedInto, Item.loaded?, Act.noted?, Act.items, List.filterMap_cons]
  backed := by simp [literalScript, Backed, Act.noted?]

theorem increment_settles (dest name : String) :
    Settles (.assign dest (.increment name)) dest (s.incrementScript dest name) where
  bound := by
    refine ⟨(s.registers.advance .general).upcoming .general,
      by simp [incrementScript, Act.held?, List.filterMap_cons], ?_⟩
    intro comments
    simp [incrementScript, Line.left, Line.leftIn?, Act.items, Instruction.dest?,
      List.filterMap_cons]
  noted := by
    intro register comments
    simp [incrementScript, loadedInto, Item.loaded?, Act.noted?, Act.items, List.filterMap_cons]
  backed := by
    simp [incrementScript, Backed, Act.noted?, Act.items, loadedInto, Item.loaded?,
      List.filterMap_cons]

theorem load_settles (line : Line) (dest name : String)
    (kept : ∀ op register, line.leftIn? (.code (.load op register name)) = some register) :
    Settles line dest (s.loadScript dest name) where
  bound := by
    refine ⟨s.registers.upcoming (s.typeOf name).registerClass,
      by simp [loadScript, Act.held?, List.filterMap_cons], ?_⟩
    intro comments
    simp [loadScript, Line.left, kept, Act.items]
  noted := by
    intro register comments
    simp [loadScript, loadedInto, Item.loaded?, Act.noted?, Act.items, List.filterMap_cons]
  backed := by
    simp [loadScript, Backed, Act.noted?, Act.items, loadedInto, Item.loaded?,
      List.filterMap_cons]

theorem copy_settles (dest temp : String) (source : Register) :
    Settles (.assign dest (.temp temp)) dest (s.copyScript dest source) where
  bound := by
    refine ⟨s.registers.upcoming (source.registerClass?.getD .general),
      by simp [copyScript, Act.held?, List.filterMap_cons], ?_⟩
    intro comments
    cases found : source.isFloat <;>
      simp [copyScript, Line.left, Line.leftIn?, Act.items, Instruction.dest?, found]
  noted := by
    intro register comments
    simp [copyScript, loadedInto, Item.loaded?, Act.noted?, Act.items, List.filterMap_cons]
  backed := by simp [copyScript, Backed, Act.noted?]

/-- What is stored back binds nothing and loads nothing. -/
theorem Settles.storeBack {dest temp : String} {acts : List Act}
    (settles : Settles (.assign dest (.temp temp)) dest acts) (cls : RegisterClass) :
    Settles (.assign dest (.temp temp)) dest (acts ++ s.storeBackScript cls temp) where
  bound := by
    obtain ⟨register, held, left⟩ := settles.bound
    refine ⟨register, ?_, ?_⟩
    · rw [List.filterMap_append, held]
      cases cls <;> rfl
    · intro comments
      rw [List.flatMap_append, Line.left, List.filterMap_append, ← Line.left, left]
      cases cls <;> rfl
  noted := by
    intro register comments
    rw [List.filterMap_append, List.flatMap_append, loaded_append, settles.noted _ comments]
    cases cls <;> rfl
  backed := by
    refine settles.backed.append ?_
    cases cls <;> simp [storeBackScript, storeByteScript, Act.noted?]

theorem assign_settles (dest : String) (value : Value) :
    Settles (.assign dest value) dest (s.assignScript dest value) := by
  cases value with
  | increment name => exact increment_settles s dest name
  | intOrChar text => exact literal_settles s _ dest .integer .general text
  | float text => exact literal_settles s _ dest .single .float text
  | «variable» name => exact load_settles s _ dest name fun _ _ => rfl
  | temp source =>
      simp only [assignScript, assignTempScript]
      split
      · exact (copy_settles s dest source _).storeBack s _
      · exact (load_settles s _ dest source fun _ _ => rfl).storeBack s _

theorem script_settles {line : Line} {dest : String} (assigns : line.dest? = some dest) :
    Settles line dest (s.script line) := by
  cases line with
  | operation dest left op right =>
      cases assigns
      exact operation_settles s dest left op right
  | assign dest value =>
      cases assigns
      exact assign_settles s dest value
  | _ => cases assigns

end Scripts

/-! ## Lines and histories -/

/-- A line that assigns nothing leaves the registers as they are. -/
theorem step_registers (s : Lowering) {line : Line} (passive : line.dest? = none) :
    (s.step line).1.registers = s.registers := by
  rw [step_performs]
  refine perform_keeps (fun t => t.registers = s.registers) _ ?_ s rfl
  intro act member t same
  have plain := List.all_eq_true.mp (script_plain s passive) act member
  cases act with
  | take cls | hold temp register | noteOrigin register name => cases plain
  | comment text => exact (comment_registers t text).trans same
  | report finding => exact (apply_report_registers t finding).trans same
  | _ => exact same

def Sourced (s : Lowering) : Prop :=
  ∀ register name, s.registers.origin? register = some name →
    register.registerClass? ≠ none ∧ name ∈ loadedInto register s.text

def Recorded (s : Lowering) : Prop :=
  ∀ register, register.registerClass? ≠ none →
    s.registers.origin? register = (loadedInto register s.text).getLast?

theorem loaded_items (register : Register) (act : Act) (one other : Bool) :
    loadedInto register (act.items one) = loadedInto register (act.items other) := by
  cases act with
  | comment text => cases one <;> cases other <;> rfl
  | _ => rfl

theorem Sourced.apply (sourced : Sourced s) {act : Act}
    (backed : ∀ register name, act.noted? register = some name →
      register.registerClass? ≠ none ∧ name ∈ loadedInto register s.text) :
    Sourced (s.apply act) := by
  intro register name found
  rw [apply_origin, Option.or_eq_some_iff] at found
  rw [apply_text, loaded_append]
  rcases found with noted | ⟨_, before⟩
  · exact ⟨(backed register name noted).1, List.mem_append_left _ (backed register name noted).2⟩
  · exact ⟨(sourced register name before).1,
      List.mem_append_left _ (sourced register name before).2⟩

theorem Sourced.perform (sourced : Sourced s) {written : List Item} {acts : List Act}
    (backed : Backed written acts)
    (inText : ∀ register name, name ∈ loadedInto register written →
      name ∈ loadedInto register s.text) : Sourced (s.perform acts).1 := by
  induction acts generalizing s written with
  | nil => exact sourced
  | cons act rest ih =>
      unfold Lowering.perform
      cases s.lacks? act with
      | some cls => exact sourced
      | none =>
          refine ih (sourced.apply fun register name noted => ?_) backed.2 ?_
          · have origin := backed.1 register name noted
            exact ⟨origin.1, inText register name origin.2⟩
          · intro register name member
            rw [loaded_append, List.mem_append, loaded_items register act false] at member
            rw [apply_text, loaded_append, List.mem_append]
            exact member.imp_left (inText register name)

theorem step_sourced (sourced : Sourced s) (line : Line) : Sourced (s.step line).1 := by
  cases assigns : line.dest? with
  | none =>
      obtain ⟨later, grown⟩ : s.text <+: (s.step line).1.text := step_text s line
      intro register name found
      rw [step_registers s assigns] at found
      rw [← grown, loaded_append]
      exact ⟨(sourced register name found).1,
        List.mem_append_left _ (sourced register name found).2⟩
  | some dest =>
      rw [step_performs]
      exact sourced.perform (script_settles s assigns).backed (by simp [loadedInto])

theorem history_sourced (options : Options) (history : List (Location × String)) :
    Sourced ((Lowering.start options).after history) := by
  refine after_keeps Sourced ?_ _ (by rintro _ _ ⟨⟩) history
  intro s entry sourced
  cases understood : Line.ofText? entry.2 with
  | some line =>
      rw [feed_line s understood]
      exact step_sourced (s := { s with location := entry.1 }) sourced line
  | none =>
      rw [feed_blank s understood]
      exact sourced

/-- A register of a class is filled at most once. -/
theorem Orderly.filled_once (orderly : Orderly s) (ofClass : register.registerClass? ≠ none) :
    (writes s.text).count register ≤ 1 := by
  obtain ⟨cls, inClass⟩ := Option.ne_none_iff_exists'.mp ofClass
  have small := Nat.le_trans (orderly.within cls) (capacity_le cls)
  rw [← register_index register cls inClass, ← count_class_writes, orderly.written cls,
    count_first_registers cls _ small]
  split
  · exact Nat.le_refl 1
  · exact Nat.zero_le 1

theorem Orderly.loaded_once (orderly : Orderly s) (ofClass : register.registerClass? ≠ none)
    {name : String} (member : name ∈ loadedInto register s.text) :
    loadedInto register s.text = [name] := by
  have once := Nat.le_trans (loaded_le_writes s.text) (orderly.filled_once ofClass)
  obtain ⟨only, same⟩ := List.length_eq_one_iff.mp
    (Nat.le_antisymm once (List.length_pos_of_mem member))
  rw [same, List.mem_singleton] at member
  rw [same, member]

/-- Where no register is taken, nothing is loaded into one of a class. -/
theorem Orderly.loads_nothing (orderly : Orderly s) (after : Orderly t) {added : List Item}
    (grown : t.text = s.text ++ added) (same : t.registers = s.registers)
    (ofClass : register.registerClass? ≠ none) : loadedInto register added = [] := by
  obtain ⟨cls, inClass⟩ := Option.ne_none_iff_exists'.mp ofClass
  have written := after.written cls
  rw [grown, class_writes_append, orderly.written, same, List.append_right_eq_self] at written
  have unfilled : (writes added).count register = 0 := by
    rw [← register_index register cls inClass, ← count_class_writes, written, List.count_nil]
  exact List.length_eq_zero_iff.mp (Nat.le_zero.mp (unfilled ▸ loaded_le_writes added))

/-- What a line that succeeds adds to the text, says of the registers and leaves in one. -/
theorem step_settled (s : Lowering) {line : Line} {dest : String}
    (assigns : line.dest? = some dest) (succeeded : (s.step line).2 = none) :
    ∃ added left, (s.step line).1.text = s.text ++ added ∧ line.left added = [left] ∧
      (s.step line).1.registers.holder? dest = some left ∧
      ∀ register, (s.step line).1.registers.origin? register =
        (loadedInto register added).getLast?.or (s.registers.origin? register) := by
  obtain ⟨⟨register, held, left⟩, noted, _⟩ := script_settles s assigns
  rw [step_performs] at succeeded ⊢
  rw [perform_done succeeded]
  refine ⟨_, register, foldl_text s _, left _, ?_, ?_⟩
  · rw [foldl_last (fun t => t.registers.holder? dest) (Act.held? dest)
      (fun t act => apply_holder t act dest), held]
    rfl
  · intro other
    rw [foldl_last (fun t => t.registers.origin? other) (Act.noted? other)
      (fun t act => apply_origin t act other), noted]

theorem step_recorded (orderly : Orderly s) (recorded : Recorded s) (line : Line)
    (succeeded : (s.step line).2 = none) : Recorded (s.step line).1 := by
  intro register ofClass
  cases assigns : line.dest? with
  | some dest =>
      obtain ⟨added, _, grown, _, _, origins⟩ := step_settled s assigns succeeded
      rw [origins, grown, loaded_append, List.getLast?_append, recorded register ofClass]
  | none =>
      obtain ⟨added, grown⟩ : s.text <+: (s.step line).1.text := step_text s line
      have after : Orderly (s.step line).1 :=
        (step_reaches s line).keeps Orderly (fun _ _ change => change.orderly) orderly
      have same := step_registers s assigns
      rw [same, ← grown, loaded_append, orderly.loads_nothing after grown.symm same ofClass,
        List.append_nil, recorded register ofClass]

theorem feed_recorded (orderly : Orderly s) (recorded : Recorded s) (entry : Location × String)
    (succeeded : (s.feed entry).2 = none) : Recorded (s.feed entry).1 := by
  cases understood : Line.ofText? entry.2 with
  | some line =>
      rw [feed_line s understood] at succeeded ⊢
      exact step_recorded (s := { s with location := entry.1 })
        (orderly.unchanged rfl fun _ => rfl) recorded line succeeded
  | none =>
      rw [feed_blank s understood]
      exact recorded

theorem after_recorded (history : List (Location × String)) (s : Lowering) (orderly : Orderly s)
    (recorded : Recorded s) (succeeds : s.Succeeds history) : Recorded (s.after history) := by
  induction history generalizing s with
  | nil => exact recorded
  | cons entry rest ih =>
      exact ih _ (feed_orderly orderly entry) (feed_recorded orderly recorded entry succeeds.1)
        succeeds.2

def Apart (s : Lowering) : Prop :=
  ∀ first second register, s.registers.holder? first = some register →
    s.registers.holder? second = some register → first = second

theorem feed_apart (orderly : Orderly s) (apart : Apart s) (entry : Location × String) :
    Apart (s.feed entry).1 := by
  intro first second register one other
  rcases feed_bound entry one with before | ⟨assigned, fresh⟩
  · rcases feed_bound entry other with also | ⟨_, fresh⟩
    · exact apart first second register before also
    · exact absurd (orderly.held first register before) fresh
  · rcases feed_bound entry other with before | ⟨again, _⟩
    · exact absurd (orderly.held second register before) fresh
    · exact Option.some.inj (assigned.symm.trans again)

theorem history_apart (options : Options) (history : List (Location × String)) :
    Apart ((Lowering.start options).after history) := by
  have both := after_keeps (fun t => Orderly t ∧ Apart t)
    (fun s entry before => ⟨feed_orderly before.1 entry, feed_apart before.1 before.2 entry⟩)
    (Lowering.start options) ⟨start_orderly options, by rintro _ _ _ ⟨⟩⟩ history
  exact both.2

theorem entryDest_temp {entry : Location × String} {temp : String}
    (assigned : entryDest? entry = some temp) : Line.isTemp temp = true := by
  obtain ⟨line, read, assigns⟩ := Option.bind_eq_some_iff.mp assigned
  exact (Line.ofText_proper read).assigned temp assigns

theorem history_temps (options : Options) (history : List (Location × String)) (temp : String)
    (register : Register)
    (bound : ((Lowering.start options).after history).registers.holder? temp = some register) :
    Line.isTemp temp = true := by
  refine after_keeps (fun t => ∀ temp register, t.registers.holder? temp = some register →
    Line.isTemp temp = true) ?_ (Lowering.start options) (by rintro _ _ ⟨⟩) history temp register
    bound
  intro s entry before temp register bound
  rcases feed_bound entry bound with earlier | ⟨assigned, _⟩
  · exact before temp register earlier
  · exact entryDest_temp assigned

theorem succeeds_append (s : Lowering) (first second : List (Location × String)) :
    s.Succeeds (first ++ second) ↔ s.Succeeds first ∧ (s.after first).Succeeds second := by
  induction first generalizing s with
  | nil => simp [Succeeds, after]
  | cons entry rest ih => rw [List.cons_append, Succeeds, ih, Succeeds, after, and_assoc]

/-- A temporary stays where its last assignment left its value. -/
theorem last_left (s : Lowering) {past later : List (Location × String)}
    {entry : Location × String} {line : Line} {temp : String}
    (succeeds : s.Succeeds (past ++ entry :: later)) (read : Line.ofText? entry.2 = some line)
    (assigns : line.dest? = some temp) (last : temp ∉ later.filterMap entryDest?) :
    ∃ added register, (s.after (past ++ [entry])).text = (s.after past).text ++ added ∧
      line.left added = [register] ∧
      (s.after (past ++ entry :: later)).registers.holder? temp = some register := by
  obtain ⟨_, succeeded, _⟩ := (succeeds_append s past (entry :: later)).mp succeeds
  rw [feed_line _ read] at succeeded
  obtain ⟨added, register, grown, left, bound, _⟩ := step_settled _ assigns succeeded
  refine ⟨added, register, ?_, left, ?_⟩
  · rw [after_append, after, feed_line _ read]
    exact grown
  · rw [after_append, after, after_other _ later last, feed_line _ read]
    exact bound

/-- The bindings describe the code. After any lines, failed ones included, only temporaries are
bound, each to a register that was handed out, no two to the same one, and a register that is said
to come from a variable is loaded once in the text, from that variable; a line binds no temporary
but the one it assigns. If no line failed, every load into a register of a class is recorded, and
a temporary is bound to the register in which the code of its last assignment left its value. -/
theorem bindings_describe_code (options : Options) (history : List (Location × String)) :
    let start := Lowering.start options
    let s := start.after history
    (∀ temp register, s.registers.holder? temp = some register →
      Line.isTemp temp = true ∧ s.registers.Taken register) ∧
    (∀ first second register, s.registers.holder? first = some register →
      s.registers.holder? second = some register → first = second) ∧
    (∀ register name, s.registers.origin? register = some name →
      loadedInto register s.text = [name]) ∧
    (∀ entry temp, entryDest? entry ≠ some temp →
      (s.feed entry).1.registers.holder? temp = s.registers.holder? temp) ∧
    (start.Succeeds history →
      (∀ register name, register.registerClass? ≠ none → name ∈ loadedInto register s.text →
        s.registers.origin? register = some name) ∧
      (∀ temp, temp ∉ history.filterMap entryDest? → s.registers.holder? temp = none) ∧
      ∀ past entry later line temp, history = past ++ entry :: later →
        Line.ofText? entry.2 = some line → line.dest? = some temp →
        temp ∉ later.filterMap entryDest? →
        ∃ added register, (start.after (past ++ [entry])).text = (start.after past).text ++ added ∧
          line.left added = [register] ∧ s.registers.holder? temp = some register) := by
  intro start s
  have orderly : Orderly s := history_orderly options history
  refine ⟨?_, history_apart options history, ?_, fun entry temp => feed_other s entry, ?_⟩
  · intro temp register bound
    exact ⟨history_temps options history temp register bound, orderly.held temp register bound⟩
  · intro register name found
    obtain ⟨ofClass, member⟩ := history_sourced options history register name found
    exact orderly.loaded_once ofClass member
  · intro succeeds
    refine ⟨?_, fun temp others => after_other start history others, ?_⟩
    · intro register name ofClass member
      have recorded : Recorded s := after_recorded history start (start_orderly options)
        (fun _ _ => rfl) succeeds
      rw [recorded register ofClass, orderly.loaded_once ofClass member]
      rfl
    · rintro past entry later line temp rfl read assigns last
      exact last_left start succeeds read assigns last

/-- A float is copied through a register of its own, and its bits through another. -/
theorem float_copy_bound :
    let history : List (Location × String) :=
      [(.input 1, "dataFloat x"), (.input 2, "t0 = x"), (.input 3, "t1 = t0"),
        (.input 4, "t2 = ++n")]
    let s := (Lowering.start {}).after history
    (Lowering.start {}).Succeeds history ∧ s.registers.origin? (.t 1) = some "n" ∧
      s.registers.origin? (.f 0) = some "x" ∧ s.registers.holder? "t1" = some (.f 1) := by
  intro history s
  have succeeds : (Lowering.start {}).Succeeds history :=
    ⟨by decide +kernel, by decide +kernel, by decide +kernel, by decide +kernel, trivial⟩
  obtain ⟨_, _, _, _, unfailed⟩ := bindings_describe_code {} history
  obtain ⟨recorded, _, left⟩ := unfailed succeeds
  refine ⟨succeeds, recorded _ _ (by decide) (by decide +kernel),
    recorded _ _ (by decide) (by decide +kernel), ?_⟩
  obtain ⟨added, register, grown, only, bound⟩ :=
    left [(.input 1, "dataFloat x"), (.input 2, "t0 = x")] (.input 3, "t1 = t0")
      [(.input 4, "t2 = ++n")] (.assign "t1" (.temp "t0")) "t1" rfl (by decide +kernel) rfl
      (by decide +kernel)
  -- Three instructions are added, and the copy is the one that leaves the value.
  have written : added = [.code (.copy .single (.f 1) (.f 0)),
      .code (.copy .fromFloat (.t 0) (.f 1)), .code (.store .byte (.t 0) "t0")] := by
    apply List.append_cancel_left (grown.symm.trans _)
    decide +kernel
  rw [written] at only
  cases only
  exact bound

end Lowering

end ThreeAddress
