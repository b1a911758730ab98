import ThreeAddress.Proofs.Lowering.Steps

/-!
Generated code fills every register that is handed out exactly once, in the order in which the
registers of its class are handed out, and fills no other register of a class. A fresh register
and the code that fills it are one change, so the counters and the text stay in step also where
a line fails between two registers.
-/

namespace ThreeAddress

def classWrites (cls : RegisterClass) (items : List Item) : List Register :=
  (writes items).filter fun register => register.registerClass? = some cls

def firstRegisters (cls : RegisterClass) (count : Nat) : List Register :=
  (List.range count).map fun number => cls.register number.toUInt8

@[simp] theorem class_writes_append (cls : RegisterClass) (first second : List Item) :
    classWrites cls (first ++ second) = classWrites cls first ++ classWrites cls second := by
  simp [classWrites]

theorem first_registers_succ (cls : RegisterClass) (count : Nat) :
    firstRegisters cls (count + 1) =
      firstRegisters cls count ++ [cls.register count.toUInt8] := by
  simp [firstRegisters, List.range_succ]

theorem mem_first_registers (cls : RegisterClass) (count : Nat) (register : Register)
    (inClass : register.registerClass? = some cls) (below : register.index < count) :
    register ∈ firstRegisters cls count := by
  refine List.mem_map.mpr ⟨register.index, List.mem_range.mpr below, ?_⟩
  exact register_index register cls inClass

namespace Lowering
variable {start s t : Lowering} {line : Line}

theorem Idle.class_writes {instructions : List Instruction}
    (idle : Idle start line s instructions) (cls : RegisterClass) :
    classWrites cls (instructions.map .code) = [] := by
  cases idle <;>
    simp [classWrites, Item.dest?, Instruction.dest?, Service.request, Service.print,
      Service.passArgument, Register.registerClass?]

theorem operator_writes (op : Operator) (cls : RegisterClass) (dest left right : Register) :
    writes ((op.code cls dest left right).map .code) = [dest] := by
  cases op <;> rfl

theorem Fill.writes_fresh {cls : RegisterClass} {instructions : Register → List Instruction}
    (fills : Fill start line s cls instructions) (fresh : Register) :
    writes ((instructions fresh).map .code) = [fresh] := by
  cases fills with
  | operation _ _ => exact operator_writes _ _ _ _ _
  | _ => rfl

structure Orderly (s : Lowering) : Prop where
  within : ∀ cls, s.registers.count cls ≤ cls.capacity
  written : ∀ cls, classWrites cls s.text = firstRegisters cls (s.registers.count cls)
  held : ∀ temp register, s.registers.holder? temp = some register → s.registers.Taken register

theorem start_orderly (options : Options) : Orderly (Lowering.start options) where
  within cls := by cases cls <;> exact Nat.zero_le _
  written cls := by cases cls <;> rfl
  held temp register found := by cases found

/-- A change of neither the registers nor what the text fills. -/
theorem Orderly.unchanged (orderly : Orderly s) (registers : t.registers = s.registers)
    (text : ∀ cls, classWrites cls t.text = classWrites cls s.text) : Orderly t where
  within cls := registers ▸ orderly.within cls
  written cls := by rw [text, registers, orderly.written]
  held := registers ▸ orderly.held

theorem Orderly.fill (orderly : Orderly s) {cls : RegisterClass}
    (room : s.registers.count cls < cls.capacity) {instructions : List Instruction}
    (fills : writes (instructions.map .code) = [s.registers.upcoming cls]) :
    Orderly ((s.advance cls).code instructions) where
  within other := by
    have before := orderly.within other
    rw [code_registers, advance_registers, Allocation.count_advance]
    split
    · subst other
      omega
    · exact before
  written other := by
    -- The counter and the registers that are filled grow by the same one.
    rw [code_text, advance_text, class_writes_append, orderly.written, code_registers,
      advance_registers, Allocation.count_advance]
    by_cases same : cls = other
    · subst other
      simp [classWrites, fills, first_registers_succ, Allocation.upcoming,
        Register.registerClass?_register]
    · simp [classWrites, fills, same]
  held temp register found := by
    apply Allocation.taken_advance
    exact orderly.held temp register (by simpa using found)

theorem Orderly.hold (orderly : Orderly s) (temp : String) {register : Register}
    (taken : s.registers.Taken register) : Orderly (s.hold temp register) where
  within cls := by simpa using orderly.within cls
  written cls := by simpa using orderly.written cls
  held other found bound := by
    apply Allocation.taken_hold
    simp only [hold_registers, Allocation.holder?, Allocation.hold, Table.get?_insert] at bound
    split at bound
    · cases bound
      exact taken
    · exact orderly.held other found bound

theorem Change.orderly (change : Change start line s t) (orderly : Orderly s) : Orderly t := by
  cases change with
  | comment text => exact orderly.unchanged (by simp) (by simp [classWrites])
  | raise finding => exact orderly.unchanged rfl fun _ => rfl
  | label text => exact orderly.unchanged rfl (by simp [classWrites, Item.dest?])
  | raw text => exact orderly.unchanged rfl (by simp [classWrites, Item.dest?])
  | declare data symbols currentType => exact orderly.unchanged rfl fun _ => rfl
  | pend pending => exact orderly.unchanged rfl fun _ => rfl
  | noteOrigin register name =>
      exact ⟨fun cls => by simpa using orderly.within cls,
        fun cls => by simpa using orderly.written cls,
        fun temp other found =>
          Allocation.taken_noteOrigin _ _ _ _ (orderly.held temp other found)⟩
  | hold _ newest _ => exact orderly.hold _ (Allocation.newest?_taken newest)
  | code idle => exact orderly.unchanged rfl fun cls => by simp [idle.class_writes cls]
  | fill room fills => exact orderly.fill room (fills.writes_fresh _)

theorem history_orderly (options : Options) (history : List (Location × String)) :
    Orderly ((Lowering.start options).after history) := by
  apply history_keeps Orderly _ (fun _ _ _ _ change => change.orderly) _ (start_orderly options)
  intro s location orderly
  exact orderly.unchanged rfl fun _ => rfl

theorem feed_orderly (orderly : Orderly s) (entry : Location × String) :
    Orderly (s.feed entry).1 :=
  history_keeps Orderly (fun _ _ orderly => orderly.unchanged rfl fun _ => rfl)
    (fun _ _ _ _ change => change.orderly) s orderly [entry]

/-- A register that was handed out has been filled. -/
theorem Orderly.taken_written (orderly : Orderly s) {register : Register}
    (taken : s.registers.Taken register) : register ∈ writes s.text := by
  obtain ⟨cls, inClass, below⟩ := taken
  have member := mem_first_registers cls _ register inClass below
  rw [← orderly.written cls] at member
  exact (List.mem_filter.mp member).1

theorem count_class_writes (cls : RegisterClass) (items : List Item) (number : UInt8) :
    (classWrites cls items).count (cls.register number) =
      (writes items).count (cls.register number) := by
  apply List.count_filter
  simp [Register.registerClass?_register]

theorem count_first_registers (cls : RegisterClass) (count : Nat) (small : count ≤ 32)
    (number : UInt8) :
    (firstRegisters cls count).count (cls.register number) =
      if number.toNat < count then 1 else 0 := by
  induction count with
  | zero => rfl
  | succ count ih =>
      -- Eight bits are enough for every number below the capacity.
      have noWrap : count.toUInt8.toNat = count := by
        simp only [Nat.toUInt8, UInt8.toNat_ofNat']
        omega
      rw [first_registers_succ, List.count_append, ih (by omega), List.count_singleton]
      by_cases here : number.toNat = count
      · have same : number = count.toUInt8 := UInt8.toNat_inj.mp (by omega)
        simp [same, noWrap]
      · have other : ¬ cls.register count.toUInt8 = cls.register number := by
          intro same
          have := congrArg Register.index same
          simp only [index_register] at this
          omega
        simp only [beq_eq_false_iff_ne.mpr other, Bool.false_eq_true, ↓reduceIte, Nat.add_zero]
        by_cases below : number.toNat < count
        · rw [if_pos below, if_pos (by omega)]
        · rw [if_neg below, if_neg (by omega)]

/-- After any lines, failed ones included, the registers of a class that the text fills are the
first ones of the class in order, as many as its counter says: each of them is filled by one
instruction and no other register of the class by any. -/
theorem writes_in_order (options : Options) (history : List (Location × String))
    (cls : RegisterClass) :
    let s := (Lowering.start options).after history
    classWrites cls s.text = firstRegisters cls (s.registers.count cls) ∧
      s.registers.count cls ≤ cls.capacity ∧
      ∀ number : UInt8, (writes s.text).count (cls.register number) =
        if number.toNat < s.registers.count cls then 1 else 0 := by
  intro s
  have orderly := history_orderly options history
  refine ⟨orderly.written cls, orderly.within cls, ?_⟩
  intro number
  rw [← count_class_writes, orderly.written cls]
  exact count_first_registers cls _ (Nat.le_trans (orderly.within cls) (capacity_le cls)) number

end Lowering

/-! ## Bindings

How long a temporary stays in its register. Only a line that assigns a temporary binds it, and
only to a register that was free before that line. So a temporary that no later line assigns
keeps its register, and no later temporary comes into a register that was already taken. -/

namespace Allocation

@[simp] theorem holder?_hold (held : Allocation) (temp other : String) (register : Register) :
    (held.hold temp register).holder? other =
      if temp = other then some register else held.holder? other :=
  Table.get?_insert held.holders temp other register

@[simp] theorem holder?_noteOrigin (held : Allocation) (register : Register)
    (name temp : String) : (held.noteOrigin register name).holder? temp = held.holder? temp :=
  rfl

end Allocation

namespace Lowering
variable {start s t : Lowering} {line : Line} {temp : String} {register : Register}

theorem Change.bound (change : Change start line s t)
    (bound : t.registers.holder? temp = some register) :
    s.registers.holder? temp = some register ∨
      (line.dest? = some temp ∧ ¬ start.registers.Taken register) := by
  cases change with
  | comment text => exact .inl (by simpa using bound)
  | @hold assignedTemp cls found assigned newest fresh =>
      simp only [hold_registers, Allocation.holder?_hold] at bound
      split at bound
      · rename_i same
        cases bound
        exact .inr ⟨same ▸ assigned, fresh⟩
      · exact .inl bound
  | fill room fills => exact .inl (by simpa using bound)
  | _ => exact .inl bound

theorem Change.holds_on (change : Change start line s t) (other : line.dest? ≠ some temp)
    (bound : s.registers.holder? temp = some register) :
    t.registers.holder? temp = some register := by
  cases change with
  | comment text => simpa using bound
  | @hold assignedTemp cls found assigned newest fresh =>
      have different : assignedTemp ≠ temp := by
        rintro rfl
        exact other assigned
      simpa [different] using bound
  | fill room fills => simpa using bound
  | _ => exact bound

theorem Reaches.bound (reached : Reaches start line s)
    (bound : s.registers.holder? temp = some register) :
    start.registers.holder? temp = some register ∨
      (line.dest? = some temp ∧ ¬ start.registers.Taken register) := by
  have origin := reached.keeps
    (fun t => t.registers.holder? temp = some register →
      start.registers.holder? temp = some register ∨
        (line.dest? = some temp ∧ ¬ start.registers.Taken register))
    (fun _ _ change before after => (change.bound after).elim before .inr) .inl
  exact origin bound

theorem Reaches.holds_on (reached : Reaches start line s) (other : line.dest? ≠ some temp)
    (bound : start.registers.holder? temp = some register) :
    s.registers.holder? temp = some register :=
  reached.keeps (fun t => t.registers.holder? temp = some register)
    (fun _ _ change before => change.holds_on other before) bound

def entryDest? (entry : Location × String) : Option String :=
  (Line.ofText? entry.2).bind Line.dest?

theorem feed_bound (entry : Location × String)
    (bound : (s.feed entry).1.registers.holder? temp = some register) :
    s.registers.holder? temp = some register ∨
      (entryDest? entry = some temp ∧ ¬ s.registers.Taken register) := by
  cases understood : Line.ofText? entry.2 with
  | none =>
      rw [feed_blank s understood] at bound
      exact .inl bound
  | some line =>
      rw [feed_line s understood] at bound
      have origin := (step_reaches { s with location := entry.1 } line).bound bound
      simpa [entryDest?, understood] using origin

theorem feed_holds_on (entry : Location × String) (other : entryDest? entry ≠ some temp)
    (bound : s.registers.holder? temp = some register) :
    (s.feed entry).1.registers.holder? temp = some register := by
  cases understood : Line.ofText? entry.2 with
  | none =>
      rw [feed_blank s understood]
      exact bound
  | some line =>
      rw [feed_line s understood]
      have different : line.dest? ≠ some temp := by simpa [entryDest?, understood] using other
      exact (step_reaches { s with location := entry.1 } line).holds_on different bound

theorem feed_taken (entry : Location × String) (taken : s.registers.Taken register) :
    (s.feed entry).1.registers.Taken register :=
  history_keeps (fun t => t.registers.Taken register) (fun _ _ before => before)
    (fun _ _ _ _ change before => change.taken before) s taken [entry]

/-- What is in a register that was taken before was in it before. -/
theorem after_bound (history : List (Location × String)) (s : Lowering)
    (taken : s.registers.Taken register)
    (bound : (s.after history).registers.holder? temp = some register) :
    s.registers.holder? temp = some register := by
  induction history generalizing s with
  | nil => exact bound
  | cons entry rest ih =>
      rcases feed_bound entry (ih (s.feed entry).1 (feed_taken entry taken) bound) with
        before | ⟨_, fresh⟩
      · exact before
      · exact absurd taken fresh

theorem feed_other (s : Lowering) (entry : Location × String)
    (other : entryDest? entry ≠ some temp) :
    (s.feed entry).1.registers.holder? temp = s.registers.holder? temp := by
  ext register
  constructor
  · intro bound
    rcases feed_bound entry bound with before | ⟨assigned, _⟩
    · exact before
    · exact absurd assigned other
  · exact feed_holds_on entry other

theorem after_other (s : Lowering) (history : List (Location × String))
    (others : temp ∉ history.filterMap entryDest?) :
    (s.after history).registers.holder? temp = s.registers.holder? temp := by
  induction history generalizing s with
  | nil => rfl
  | cons entry rest ih =>
      have here : entryDest? entry ≠ some temp := fun assigned =>
        others (List.mem_filterMap.mpr ⟨entry, List.mem_cons_self, assigned⟩)
      have later : temp ∉ rest.filterMap entryDest? := fun member =>
        others (((List.sublist_cons_self entry rest).filterMap _).subset member)
      rw [after, ih _ later, feed_other s entry here]

theorem after_holds_on (history : List (Location × String)) (s : Lowering)
    (others : temp ∉ history.filterMap entryDest?)
    (bound : s.registers.holder? temp = some register) :
    (s.after history).registers.holder? temp = some register :=
  (after_other s history others).trans bound

end Lowering

end ThreeAddress
