import Mathlib.Data.List.Forall2
import Mathlib.Logic.Function.Iterate

/-!
Machines that carry out a list of things one after the other, with jumps to labels, and what it
takes for one machine to follow another: each thing of the first program is rendered by a block
of the second one that carries the same label and leads to the same place. The blocks may have
any length, so a place of the first program stands for an offset in the second.
-/

namespace ThreeAddress.Execution

inductive Flow (State : Type) where
  | next (state : State)
  | goto (target : String) (state : State)
  | ended (state : State)
  | lost (state : State)

inductive Status (State : Type) where
  | running (place : Nat) (state : State)
  | ended (state : State)
  | lost (state : State)

structure Machine (Thing State : Type) where
  label? : Thing → Option String
  effect : State → Thing → Flow State

def Status.place? {State : Type} : Status State → Option Nat
  | running place _ => some place
  | ended _ | lost _ => none

def Flow.status {State : Type} (find? : String → Option Nat) (following : Nat) :
    Flow State → Status State
  | next state => .running following state
  | goto target state =>
      match find? target with
      | some place => .running place state
      -- There is no such label.
      | none => .lost state
  | ended state => .ended state
  | lost state => .lost state

namespace Machine
variable {Thing State : Type} (machine : Machine Thing State)

/-- A label is named by its text without the colon. The first one of a name counts. -/
def find? (program : List Thing) (target : String) : Option Nat :=
  program.findIdx? fun thing => machine.label? thing == some (target ++ ":")

def step (program : List Thing) : Status State → Status State
  | .running place state =>
      match program[place]? with
      | some thing => (machine.effect state thing).status (machine.find? program) (place + 1)
      -- A program has to end before its text does.
      | none => .lost state
  | .ended state => .ended state
  | .lost state => .lost state

def run (program : List Thing) (count : Nat) (status : Status State) : Status State :=
  (machine.step program)^[count] status

def block (state : State) : List Thing → Flow State
  | [] => .next state
  | thing :: rest =>
      match machine.effect state thing with
      | .next state => block state rest
      | flow => flow

theorem run_succ (program : List Thing) (count : Nat) (status : Status State) :
    machine.run program (count + 1) status = machine.run program count
      (machine.step program status) :=
  Function.iterate_succ_apply _ _ _

theorem run_succ_last (program : List Thing) (count : Nat) (status : Status State) :
    machine.run program (count + 1) status = machine.step program
      (machine.run program count status) :=
  Function.iterate_succ_apply' _ _ _

theorem run_add (program : List Thing) (later earlier : Nat) (status : Status State) :
    machine.run program (later + earlier) status =
      machine.run program later (machine.run program earlier status) :=
  Function.iterate_add_apply _ _ _ _

theorem run_stopped (program : List Thing) (count : Nat) {status : Status State}
    (stopped : status.place? = none) : machine.run program count status = status := by
  induction count with
  | zero => rfl
  | succ count ih =>
      rw [run_succ_last, ih]
      cases status with
      | running place state => cases stopped
      | ended state | lost state => rfl

/-- A machine that has stopped after one number of steps and after another has stopped once. -/
theorem run_stopped_once (program : List Thing) {first second : Nat} {status : Status State}
    (early : (machine.run program first status).place? = none)
    (late : (machine.run program second status).place? = none) :
    machine.run program first status = machine.run program second status := by
  calc machine.run program first status
      = machine.run program second (machine.run program first status) :=
        (machine.run_stopped program second early).symm
    _ = machine.run program (second + first) status := (machine.run_add program ..).symm
    _ = machine.run program (first + second) status := by rw [Nat.add_comm]
    _ = machine.run program first (machine.run program second status) :=
        machine.run_add program ..
    _ = machine.run program second status := machine.run_stopped program first late

theorem find_lt (program : List Thing) (target : String) {place : Nat}
    (found : machine.find? program target = some place) : place < program.length :=
  (List.findIdx?_eq_some_iff_findIdx_eq.mp found).1

/-- A block inside a program leads on from its end, or away from its last thing but one. -/
theorem run_block (program before things after : List Thing) (state : State)
    (inside : program = before ++ things ++ after) :
    ∃ count, (things ≠ [] → 0 < count) ∧
      machine.run program count (.running before.length state) =
        (machine.block state things).status (machine.find? program)
          (before.length + things.length) := by
  induction things generalizing before state with
  | nil => exact ⟨0, fun some => absurd rfl some, rfl⟩
  | cons thing rest ih =>
      have here : program[before.length]? = some thing := by simp [inside]
      have stepped : machine.step program (.running before.length state) =
          (machine.effect state thing).status (machine.find? program) (before.length + 1) := by
        simp [step, here]
      cases led : machine.effect state thing with
      | next reached =>
          -- The rest is a block behind a longer beginning.
          obtain ⟨count, _, ran⟩ := ih (before ++ [thing]) reached (by simp [inside])
          refine ⟨count + 1, fun _ => Nat.succ_pos count, ?_⟩
          have last : before.length + (thing :: rest).length =
              (before ++ [thing]).length + rest.length := by
            simp only [List.length_append, List.length_cons, List.length_nil]
            omega
          have onward : machine.block state (thing :: rest) = machine.block reached rest := by
            simp [block, led]
          rw [run_succ, stepped, led, onward, last, ← ran]
          simp [Flow.status]
      | goto target reached | ended reached | lost reached =>
          refine ⟨1, fun _ => Nat.one_pos, ?_⟩
          rw [run_succ, stepped, led, block, led]
          rfl

end Machine

section Relations
variable {Source Target : Type}

inductive Flow.Agrees (agree : Source → Target → Prop) : Flow Source → Flow Target → Prop
  | next {source : Source} {target : Target} (states : agree source target) :
      Agrees agree (.next source) (.next target)
  | goto {source : Source} {target : Target} (label : String) (states : agree source target) :
      Agrees agree (.goto label source) (.goto label target)
  | ended {source : Source} {target : Target} (states : agree source target) :
      Agrees agree (.ended source) (.ended target)
  | lost {source : Source} {target : Target} (states : agree source target) :
      Agrees agree (.lost source) (.lost target)

inductive Status.Matches (agree : Source → Target → Prop) (offset : Nat → Nat) :
    Status Source → Status Target → Prop
  | running {source : Source} {target : Target} (place : Nat) (states : agree source target) :
      Matches agree offset (.running place source) (.running (offset place) target)
  | ended {source : Source} {target : Target} (states : agree source target) :
      Matches agree offset (.ended source) (.ended target)
  | lost {source : Source} {target : Target} (states : agree source target) :
      Matches agree offset (.lost source) (.lost target)

theorem Status.Matches.stopped {agree : Source → Target → Prop} {offset : Nat → Nat}
    {source : Status Source} {target : Status Target} (matched : Matches agree offset source target)
    (stopped : source.place? = none) : target.place? = none := by
  cases matched with
  | running place states => cases stopped
  | ended states | lost states => rfl

theorem Flow.Agrees.matches {agree : Source → Target → Prop} {offset : Nat → Nat}
    {source : Flow Source} {target : Flow Target} (led : source.Agrees agree target)
    {first second : String → Option Nat}
    (found : ∀ label, second label = (first label).map offset) (following : Nat) :
    (source.status first following).Matches agree offset
      (target.status second (offset following)) := by
  cases led with
  | next states => exact .running following states
  | goto label states =>
      simp only [status, found]
      cases first label with
      | some place => exact .running place states
      | none => exact .lost states
  | ended states => exact .ended states
  | lost states => exact .lost states

theorem Flow.status_place (flow : Flow Source) {find? : String → Option Nat}
    {following place : Nat} (running : place ∈ (flow.status find? following).place?) :
    place = following ∨ ∃ label, find? label = some place := by
  cases flow with
  | next state => exact .inl (Option.some.inj running).symm
  | goto label state =>
      cases found : find? label with
      | some target =>
          simp only [status, found] at running
          cases running
          exact .inr ⟨label, found⟩
      | none => simp [status, found, Status.place?] at running
  | ended state | lost state => cases running

theorem Flow.Agrees.onward {agree : Source → Target → Prop} {source : Flow Source}
    {target : Target} (led : source.Agrees agree (.next target)) {find? : String → Option Nat}
    {following place : Nat} (running : place ∈ (source.status find? following).place?) :
    place = following := by
  cases led
  exact (Option.some.inj running).symm

end Relations

def offset {Thing : Type} (blocks : List (List Thing)) (place : Nat) : Nat :=
  (blocks.take place).flatten.length

theorem offset_succ {Thing : Type} (blocks : List (List Thing)) (place : Nat)
    (inside : place < blocks.length) :
    offset blocks (place + 1) = offset blocks place + blocks[place].length := by
  rw [offset, List.take_add_one, List.getElem?_eq_getElem inside, List.flatten_append]
  simp [offset]

theorem offset_past {Thing : Type} (blocks : List (List Thing)) (place : Nat)
    (past : blocks.length ≤ place) : offset blocks place = blocks.flatten.length := by
  rw [offset, List.take_of_length_le past]

theorem flatten_at {Thing : Type} (blocks : List (List Thing)) (place : Nat)
    (inside : place < blocks.length) :
    blocks.flatten =
      (blocks.take place).flatten ++ blocks[place] ++ (blocks.drop (place + 1)).flatten := by
  conv_lhs => rw [← List.take_append_drop place blocks]
  rw [List.flatten_append, List.drop_eq_getElem_cons inside, List.flatten_cons,
    List.append_assoc]

theorem Machine.run_block_at {Thing State : Type} (machine : Machine Thing State)
    (blocks : List (List Thing)) (place : Nat) (inside : place < blocks.length) (state : State) :
    ∃ count, (blocks[place] ≠ [] → 0 < count) ∧
      machine.run blocks.flatten count (.running (offset blocks place) state) =
        (machine.block state blocks[place]).status (machine.find? blocks.flatten)
          (offset blocks (place + 1)) := by
  rw [offset_succ blocks place inside]
  exact machine.run_block blocks.flatten (blocks.take place).flatten blocks[place]
    (blocks.drop (place + 1)).flatten state (flatten_at blocks place inside)

section Simulation
variable {Thing Item Source Target : Type} {first : Machine Thing Source}
  {second : Machine Item Target} {agree : Source → Target → Prop} {program : List Thing}
  {blocks : List (List Item)}

structure Renders (first : Machine Thing Source) (second : Machine Item Target)
    (agree : Source → Target → Prop) (thing : Thing) (things : List Item) : Prop where
  labels : things.filterMap second.label? = (first.label? thing).toList
  /-- A label stands alone, so a jump to it comes to where its block begins. -/
  alone : first.label? thing ≠ none → things.length = 1
  effect : ∀ source target, agree source target →
    (first.effect source thing).Agrees agree (second.block target things)

theorem Renders.find {thing : Thing} {things : List Item}
    (renders : Renders first second agree thing things) (target : String) :
    (things.findIdx? fun item => second.label? item == some (target ++ ":")) =
      if first.label? thing = some (target ++ ":") then some 0 else none := by
  cases labelled : first.label? thing with
  | some text =>
      obtain ⟨item, rfl⟩ := List.length_eq_one_iff.mp (renders.alone (by simp [labelled]))
      have same : second.label? item = some text := by
        have labels := renders.labels
        cases found : second.label? item <;> simp_all
      simp [List.findIdx?_cons, same]
  | none =>
      have unlabelled : ∀ item ∈ things, second.label? item = none := by
        have labels := renders.labels
        simpa [labelled, List.filterMap_eq_nil_iff] using labels
      simp only [reduceCtorEq, ↓reduceIte, List.findIdx?_eq_none_iff]
      intro item member
      simp [unlabelled item member]

/-- The first label of a name lies where the block of the first such thing begins. -/
theorem find_blocks (rendered : List.Forall₂ (Renders first second agree) program blocks)
    (target : String) :
    second.find? blocks.flatten target = (first.find? program target).map (offset blocks) := by
  induction rendered with
  | nil => rfl
  | @cons thing things program blocks renders rest ih =>
      unfold Machine.find? at ih ⊢
      rw [List.flatten_cons, List.findIdx?_append, renders.find target, ih,
        List.findIdx?_cons]
      by_cases here : first.label? thing = some (target ++ ":")
      · simp [here, offset]
      · simp only [here, ↓reduceIte, Option.none_or, Option.map_map, beq_iff_eq]
        congr 1
        funext place
        simp [offset, Nat.add_comm]

/-- One step of the first machine is none, one or more of the second. It is none only where the
first goes on to the next place. -/
theorem step_simulated (rendered : List.Forall₂ (Renders first second agree) program blocks)
    {source : Status Source} {target : Status Target}
    (matched : source.Matches agree (offset blocks) target) :
    ∃ count, (first.step program source).Matches agree (offset blocks)
        (second.run blocks.flatten count target) ∧
      ∀ later ∈ (first.step program source).place?, ∃ place ∈ source.place?,
        place < program.length ∧ later ≤ program.length ∧ (count = 0 → later = place + 1) := by
  cases matched with
  | ended states => exact ⟨0, .ended states, by simp [Machine.step, Status.place?]⟩
  | lost states => exact ⟨0, .lost states, by simp [Machine.step, Status.place?]⟩
  | @running state reached place states =>
      have sameLength : program.length = blocks.length := rendered.length_eq
      by_cases inside : place < program.length
      · have insideBlocks : place < blocks.length := sameLength ▸ inside
        have renders : Renders first second agree program[place] blocks[place] :=
          rendered.get inside insideBlocks
        obtain ⟨count, moves, ran⟩ := second.run_block_at blocks place insideBlocks reached
        have stepped : first.step program (.running place state) =
            (first.effect state program[place]).status (first.find? program) (place + 1) := by
          simp [Machine.step, List.getElem?_eq_getElem inside]
        rw [stepped]
        refine ⟨count, ?_⟩
        rw [ran]
        have led := renders.effect state reached states
        refine ⟨led.matches (find_blocks rendered) (place + 1), ?_⟩
        intro later running
        refine ⟨place, rfl, inside, ?_, ?_⟩
        · rcases Flow.status_place _ running with onward | ⟨label, found⟩
          · omega
          · exact Nat.le_of_lt (first.find_lt program label found)
        · -- No step at all means an empty block, and an empty block goes on.
          intro still
          have empty : blocks[place] = [] := by
            by_contra some
            exact absurd (moves some) (by omega)
          rw [empty] at led
          exact led.onward running
      · have past : blocks.flatten[offset blocks place]? = none := by
          rw [offset_past blocks place (by omega)]
          simp
        refine ⟨1, ?_, ?_⟩
        · simpa [Machine.step, Machine.run, inside, past] using .lost states
        · simp [Machine.step, inside, Status.place?]

/-- Any number of steps of the first machine is matched by some number of the second. That one
grows too: as many steps as there are things, and one more, cost at least one. -/
theorem run_simulated (rendered : List.Forall₂ (Renders first second agree) program blocks)
    {source : Status Source} {target : Status Target}
    (matched : source.Matches agree (offset blocks) target) (steps : Nat) :
    ∃ count, (first.run program steps source).Matches agree (offset blocks)
        (second.run blocks.flatten count target) ∧
      ∀ place ∈ (first.run program steps source).place?,
        (0 < steps → place ≤ program.length) ∧ steps ≤ count * (program.length + 1) + place := by
  induction steps with
  | zero => exact ⟨0, matched, fun place _ => ⟨fun none => absurd none (by omega), by omega⟩⟩
  | succ steps ih =>
      obtain ⟨earlier, before, bound⟩ := ih
      obtain ⟨count, after, moves⟩ := step_simulated rendered before
      refine ⟨count + earlier, ?_, ?_⟩
      · rw [Machine.run_succ_last, Machine.run_add]
        exact after
      · intro later running
        rw [Machine.run_succ_last] at running
        obtain ⟨place, was, inside, within, still⟩ := moves later running
        have earlierBound := (bound place was).2
        refine ⟨fun _ => within, ?_⟩
        rw [Nat.add_mul]
        -- A step without cost moves the place on; any other pays for a whole round of them.
        by_cases none : count = 0
        · have onward := still none
          omega
        · have paid : program.length + 1 ≤ count * (program.length + 1) :=
            Nat.le_mul_of_pos_left _ (Nat.pos_of_ne_zero none)
          omega

/-- However long the second machine runs, it is on its way to where the first one comes. -/
theorem run_followed (rendered : List.Forall₂ (Renders first second agree) program blocks)
    {source : Status Source} {target : Status Target}
    (matched : source.Matches agree (offset blocks) target) (count : Nat) :
    ∃ steps later, count ≤ later ∧ (first.run program steps source).Matches agree
      (offset blocks) (second.run blocks.flatten later target) := by
  obtain ⟨later, together, bound⟩ :=
    run_simulated rendered matched ((count + 1) * (program.length + 1))
  refine ⟨(count + 1) * (program.length + 1), max count later, Nat.le_max_left _ _, ?_⟩
  cases running : (first.run program ((count + 1) * (program.length + 1)) source).place? with
  | some place =>
      obtain ⟨within, enough⟩ := bound place running
      -- So many steps cannot have been paid for by fewer than `count`.
      have inside := within (Nat.mul_pos (Nat.succ_pos _) (Nat.succ_pos _))
      have behind : count ≤ later := by
        by_contra ahead
        have paid : (later + 1) * (program.length + 1) ≤ count * (program.length + 1) :=
          Nat.mul_le_mul_right _ (by omega)
        rw [Nat.add_mul] at enough paid
        omega
      rw [Nat.max_eq_right behind]
      exact together
  | none =>
      have stopped := together.stopped running
      obtain ⟨more, same⟩ := Nat.exists_eq_add_of_le' (Nat.le_max_right count later)
      rw [same, Machine.run_add, Machine.run_stopped _ _ _ stopped]
      exact together

end Simulation

end ThreeAddress.Execution
