import ThreeAddress.Proofs.Lowering.Scripts
import ThreeAddress.Proofs.Registers.SingleAssignment

/-!
When registers run out. Requests are granted in their order until one finds its class used up, and
only this ends a lowering. Which classes a line asks for depends on the line, on the classes that
temporaries are held in and on the declared types, but not on how many registers are left. So
whether a line or a program is lowered to its end, and where it fails if it is not, follows from the
counters and from requests that are read off the lines.
-/

namespace ThreeAddress

/-! ## Demand -/

structure Request where
  place : Location
  registerClass : RegisterClass
  deriving DecidableEq, Repr

/-- The classes that a copy asks for: a float is stored from a general register of its own. -/
def RegisterClass.copying : RegisterClass → List RegisterClass
  | .float => [.float, .general]
  | .general => [.general]

structure Classes where
  held : String → Option RegisterClass := fun _ => none
  declared : String → Option SymbolType := fun _ => none
  current : Option SymbolType := none

namespace Classes
variable (c : Classes)

def typed (name : String) : RegisterClass :=
  ((c.declared name).getD .int).registerClass

def sum (left right : String) : RegisterClass :=
  match c.held left, c.held right with
  | some .float, _ | _, some .float => .float
  | some .general, some .general => .general
  | _, _ => if c.current = some .float then .float else .general

def result (left : String) (op : Operator) (right : String) : RegisterClass :=
  if op = .add then c.sum left right else .general

def copied (source : String) : RegisterClass :=
  (c.held source).getD (c.typed source)

def askedFor : Value → List RegisterClass
  | .increment _ => [.general, .general]
  | .intOrChar _ => [.general]
  | .float _ => [.float]
  | .variable name => [c.typed name]
  | .temp source => (c.copied source).copying

def asked : Line → List RegisterClass
  | .operation _ left op right => [c.result left op right]
  | .assign _ value => c.askedFor value
  | .label _ | .declaration _ | .control _ | .call _ | .store .. | .generic _ => []

def hold (temp : String) (cls? : Option RegisterClass) : Classes :=
  { c with held := fun other => if temp = other then cls? else c.held other }

def declare (declared : Declaration) : Classes :=
  { c with
    declared := fun name =>
      if declared.name = name then some declared.type else c.declared name
    current := declared.numberType? <|> c.current }

/-- A line leaves what it assigns in the first register that it asked for. -/
def after : Line → Classes
  | .declaration declared => c.declare declared
  | .operation dest left op right => c.hold dest (c.asked (.operation dest left op right)).head?
  | .assign dest value => c.hold dest (c.asked (.assign dest value)).head?
  | .label _ | .control _ | .call _ | .store .. | .generic _ => c

def askedAt (entry : Location × String) : List Request :=
  match Line.ofText? entry.2 with
  | some line => (c.asked line).map (Request.mk entry.1)
  | none => []

def afterEntry (entry : Location × String) : Classes :=
  match Line.ofText? entry.2 with
  | some line => c.after line
  | none => c

def requests (c : Classes) : List (Location × String) → List Request
  | [] => []
  | entry :: rest => c.askedAt entry ++ requests (c.afterEntry entry) rest

end Classes

def Program.requests (program : Program) : List Request :=
  Classes.requests {} program.entries

def Lowering.classes (s : Lowering) : Classes :=
  ⟨s.tempClass?, s.symbols.get?, s.currentType⟩

/-! ## The requests and the bindings of acts -/

def Act.request? (place : Location) : Act → Option Request
  | .take cls => some ⟨place, cls⟩
  | _ => none

def Classes.act (c : Classes) : Act → Classes
  | .hold temp register => c.hold temp register.registerClass?
  | .declare declared => c.declare declared
  | _ => c

theorem idle_requests {acts : List Act} (idle : acts.all Act.isIdle = true) (place : Location) :
    acts.filterMap (Act.request? place) = [] := by
  apply List.filterMap_eq_nil_iff.mpr
  intro act member
  have quiet := List.all_eq_true.mp idle act member
  cases act with
  | take cls => cases quiet
  | _ => rfl

theorem idle_classes {acts : List Act} (idle : acts.all Act.isIdle = true) (c : Classes) :
    acts.foldl Classes.act c = c := by
  induction acts with
  | nil => rfl
  | cons act rest ih =>
      rw [List.all_cons, Bool.and_eq_true] at idle
      rw [List.foldl_cons]
      have same : c.act act = c := by
        cases act with
        | hold temp register | declare declared => cases idle.1
        | _ => rfl
      rw [same, ih idle.2]

namespace Lowering
variable (s : Lowering)

theorem hold_classes (temp : String) (register : Register) :
    (s.hold temp register).classes = s.classes.hold temp register.registerClass? := by
  have held : (s.hold temp register).tempClass? = fun other =>
      if temp = other then register.registerClass? else s.tempClass? other := by
    funext other
    simp only [tempClass?, hold_registers, Allocation.holder?_hold]
    split <;> rfl
  simp only [classes, held]
  rfl

theorem declare_classes (declared : Declaration) :
    (s.apply (.declare declared)).classes = s.classes.declare declared := by
  have types : (s.apply (.declare declared)).symbols.get? = fun name =>
      if declared.name = name then some declared.type else s.symbols.get? name :=
    funext fun name => Table.get?_insert s.symbols declared.name name declared.type
  simp only [classes, types]
  rfl

theorem apply_classes (act : Act) : (s.apply act).classes = s.classes.act act := by
  cases act with
  | hold temp register => exact hold_classes s temp register
  | declare declared => exact declare_classes s declared
  | comment text =>
      simp only [apply, classes, comment_symbols, comment_currentType, Classes.act]
      unfold tempClass?
      rw [comment_registers]
  | report finding => cases finding <;> rfl
  | take cls => cases cls <;> rfl
  | _ => rfl

theorem foldl_classes (acts : List Act) :
    (acts.foldl apply s).classes = acts.foldl Classes.act s.classes := by
  induction acts generalizing s with
  | nil => rfl
  | cons act rest ih => rw [List.foldl_cons, List.foldl_cons, ih, apply_classes]

/-! ## The requests of a line -/

section Scripts
variable {s}

structure Demands (s : Lowering) (acts : List Act) (asked : List RegisterClass)
    (after : Classes) : Prop where
  asks (place : Location) : acts.filterMap (Act.request? place) = asked.map (Request.mk place)
  leaves : acts.foldl Classes.act s.classes = after

theorem Demands.idle {acts : List Act} (idle : acts.all Act.isIdle = true) :
    Demands s acts [] s.classes where
  asks place := idle_requests idle place
  leaves := idle_classes idle s.classes

theorem operation_demands (s : Lowering) (dest left : String) (op : Operator) (right : String) :
    Demands s (s.operationScript dest left op right) [s.classes.result left op right]
      (s.classes.hold dest (some (s.classes.result left op right))) where
  asks _ := rfl
  leaves := congrArg (s.classes.hold dest) (Allocation.registerClass?_upcoming _ _)

theorem load_demands (s : Lowering) (dest name : String) :
    Demands s (s.loadScript dest name) [s.classes.typed name]
      (s.classes.hold dest (some (s.classes.typed name))) where
  asks _ := rfl
  leaves := congrArg (s.classes.hold dest) (Allocation.registerClass?_upcoming _ _)

theorem copy_demands (s : Lowering) (dest : String) (source : Register) :
    Demands s (s.copyScript dest source) [source.registerClass?.getD .general]
      (s.classes.hold dest (some (source.registerClass?.getD .general))) where
  asks _ := rfl
  leaves := congrArg (s.classes.hold dest) (Allocation.registerClass?_upcoming _ _)

/-- What is stored back after a copy asks for a second register where the copy is a float. -/
theorem Demands.storeBack {acts : List Act} {cls : RegisterClass} {after : Classes}
    (demands : Demands s acts [cls] after) (source : String) :
    Demands s (acts ++ s.storeBackScript cls source) cls.copying after where
  asks place := by
    rw [List.filterMap_append, demands.asks]
    cases cls <;> rfl
  leaves := by
    rw [List.foldl_append, demands.leaves]
    cases cls <;> rfl

theorem assignTemp_demands (orderly : Orderly s) (dest source : String) :
    Demands s (s.assignTempScript dest source) (s.classes.askedFor (.temp source))
      (s.classes.hold dest (some (s.classes.copied source))) := by
  cases held : s.registers.holder? source with
  | some register =>
      -- A register that a temporary is held in was taken, so it has a class.
      obtain ⟨cls, inClass, _⟩ := orderly.held source register held
      have copied : s.classes.copied source = register.registerClass?.getD .general := by
        simp [Classes.copied, classes, tempClass?, held, inClass]
      simp only [assignTempScript, held, Classes.askedFor, copied]
      exact (copy_demands s dest register).storeBack source
  | none =>
      have copied : s.classes.copied source = s.classes.typed source := by
        simp [Classes.copied, classes, tempClass?, held]
      simp only [assignTempScript, held, Classes.askedFor, copied]
      exact (load_demands s dest source).storeBack source

theorem assign_demands (orderly : Orderly s) (dest : String) (value : Value) :
    Demands s (s.assignScript dest value) (s.classes.askedFor value)
      (s.classes.hold dest (s.classes.askedFor value).head?) := by
  cases value with
  | increment name => exact ⟨fun _ => rfl, rfl⟩
  | intOrChar text => exact ⟨fun _ => rfl, rfl⟩
  | float text => exact ⟨fun _ => rfl, rfl⟩
  | «variable» name => exact load_demands s dest name
  | temp source =>
      have first : (s.classes.askedFor (.temp source)).head? = some (s.classes.copied source) := by
        simp only [Classes.askedFor]
        cases s.classes.copied source <;> rfl
      rw [first]
      exact assignTemp_demands orderly dest source

/-- A line asks for what its classes say. -/
theorem script_demands (orderly : Orderly s) (line : Line) :
    Demands s (s.script line) (s.classes.asked line) (s.classes.after line) := by
  cases line with
  | label text | generic text => exact .idle rfl
  | declaration declared => exact ⟨fun _ => rfl, rfl⟩
  | control flow => exact .idle (controlScript_idle s flow)
  | call made => exact .idle (all_idle (callScript_calm s made))
  | store dest temp => exact .idle (all_idle (storeScript_calm s dest temp))
  | operation dest left op right => exact operation_demands s dest left op right
  | assign dest value => exact assign_demands orderly dest value

end Scripts

end Lowering

/-! ## Requests that are granted -/

def Request.failure (request : Request) : Failure :=
  .exhausted request.place request.registerClass.name request.registerClass.capacity

def demand (asked : List Request) (cls : RegisterClass) : Nat :=
  (asked.map Request.registerClass).count cls

def granted (taken : RegisterClass → Nat) (request : Request) : RegisterClass → Nat :=
  fun cls => if request.registerClass = cls then taken cls + 1 else taken cls

def firstRefused? (taken : RegisterClass → Nat) : List Request → Option Request
  | [] => none
  | request :: rest =>
      if taken request.registerClass < request.registerClass.capacity then
        firstRefused? (granted taken request) rest
      else
        some request

/-- All before the request fit, and with them its class is used up. -/
def Refused (taken : RegisterClass → Nat) (asked : List Request) (request : Request) : Prop :=
  ∃ before later, asked = before ++ request :: later ∧
    (∀ cls, taken cls + demand before cls ≤ cls.capacity) ∧
    taken request.registerClass + demand before request.registerClass =
      request.registerClass.capacity

section Requests
variable {taken : RegisterClass → Nat}

@[simp] theorem demand_nil (cls : RegisterClass) : demand [] cls = 0 := rfl

theorem granted_demand (taken : RegisterClass → Nat) (request : Request) (rest : List Request)
    (cls : RegisterClass) :
    granted taken request cls + demand rest cls = taken cls + demand (request :: rest) cls := by
  simp only [granted, demand, List.map_cons, List.count_cons, beq_iff_eq]
  split <;> omega

theorem granted_within (within : ∀ cls, taken cls ≤ cls.capacity) {request : Request}
    (room : taken request.registerClass < request.registerClass.capacity) (cls : RegisterClass) :
    granted taken request cls ≤ cls.capacity := by
  have before := within cls
  unfold granted
  split
  · subst cls
    omega
  · exact before

theorem firstRefused_append (taken : RegisterClass → Nat) (first second : List Request) :
    firstRefused? taken (first ++ second) =
      (firstRefused? taken first).or
        (firstRefused? (fun cls => taken cls + demand first cls) second) := by
  induction first generalizing taken with
  | nil => rfl
  | cons request rest ih =>
      simp only [List.cons_append, firstRefused?]
      split
      · rw [ih]
        simp only [granted_demand]
      · rfl

theorem firstRefused_none_iff (within : ∀ cls, taken cls ≤ cls.capacity) (asked : List Request) :
    firstRefused? taken asked = none ↔ ∀ cls, taken cls + demand asked cls ≤ cls.capacity := by
  induction asked generalizing taken with
  | nil => simpa [firstRefused?] using within
  | cons request rest ih =>
      unfold firstRefused?
      split
      · rename_i room
        rw [ih (granted_within within room)]
        simp only [granted_demand]
      · rename_i full
        -- The request itself is already one too many.
        refine iff_of_false (by simp) fun fits => ?_
        have tooMany := fits request.registerClass
        rw [← granted_demand] at tooMany
        simp only [granted, ↓reduceIte] at tooMany
        omega

theorem firstRefused_some_iff (within : ∀ cls, taken cls ≤ cls.capacity) (asked : List Request)
    (request : Request) :
    firstRefused? taken asked = some request ↔ Refused taken asked request := by
  constructor
  · intro found
    induction asked generalizing taken with
    | nil => cases found
    | cons head rest ih =>
        unfold firstRefused? at found
        split at found
        · rename_i room
          obtain ⟨before, later, split, fits, full⟩ := ih (granted_within within room) found
          simp only [granted_demand] at fits full
          exact ⟨head :: before, later, by rw [split, List.cons_append], fits, full⟩
        · rename_i full
          cases found
          -- The class is within its capacity and has no room, so it is exactly full.
          have top := within request.registerClass
          exact ⟨[], rest, rfl, by simpa using within, by rw [demand_nil]; omega⟩
  · rintro ⟨before, later, rfl, fits, full⟩
    rw [firstRefused_append, (firstRefused_none_iff within before).mpr fits, Option.none_or,
      firstRefused?, if_neg (by omega)]

end Requests

/-! ## Acts and lines -/

namespace Lowering
variable {s : Lowering}

theorem apply_granted (s : Lowering) (place : Location) {act : Act} {request : Request}
    (asks : act.request? place = some request) :
    (s.apply act).registers.count = granted s.registers.count request := by
  cases act with
  | take cls =>
      cases asks
      exact funext (Allocation.count_advance s.registers cls)
  | _ => cases asks

theorem apply_count (s : Lowering) (place : Location) {act : Act}
    (asks : act.request? place = none) : (s.apply act).registers.count = s.registers.count := by
  cases act with
  | take cls => cases asks
  | comment text => exact congrArg Allocation.count (comment_registers s text)
  | report finding => exact congrArg Allocation.count (apply_report_registers s finding)
  | hold temp register => exact funext (Allocation.count_hold s.registers temp register)
  | noteOrigin register name => exact funext (Allocation.count_noteOrigin s.registers register name)
  | _ => rfl

/-- A list of acts fails at its first request that is refused. -/
theorem perform_refused (s : Lowering) (acts : List Act) :
    (s.perform acts).2 =
      (firstRefused? s.registers.count (acts.filterMap (Act.request? s.location))).map
        Request.failure := by
  induction acts generalizing s with
  | nil => rfl
  | cons act rest ih =>
      have later := ih (s.apply act)
      rw [apply_location] at later
      cases asks : act.request? s.location with
      | none =>
          -- An act that asks for nothing is never refused.
          have kept : s.lacks? act = none := by cases act <;> first | rfl | cases asks
          rw [apply_count s s.location asks] at later
          simp only [perform, kept, List.filterMap_cons, asks]
          exact later
      | some request =>
          rw [apply_granted s s.location asks] at later
          simp only [List.filterMap_cons, asks, firstRefused?]
          cases act with
          | take cls =>
              cases asks
              by_cases room : s.registers.count cls < cls.capacity
              · rw [perform_take_room room, if_pos room]
                exact later
              · rw [perform_take_full room, if_neg room]
                rfl
          | _ => cases asks

theorem foldl_count (s : Lowering) (acts : List Act) (place : Location) (cls : RegisterClass) :
    (acts.foldl apply s).registers.count cls =
      s.registers.count cls + demand (acts.filterMap (Act.request? place)) cls := by
  induction acts generalizing s with
  | nil => rfl
  | cons act rest ih =>
      rw [List.foldl_cons, ih, List.filterMap_cons]
      cases asks : act.request? place with
      | none => rw [apply_count s place asks]
      | some request => rw [apply_granted s place asks, granted_demand]

/-- An outcome that the requests decide: it is a failure at the first that is refused, and else
the counters have grown by all of them. -/
structure Exact (s : Lowering) (asked : List Request) (after : Classes) (outcome : Outcome) :
    Prop where
  failure : outcome.2 = (firstRefused? s.registers.count asked).map Request.failure
  counts : outcome.2 = none →
    ∀ cls, outcome.1.registers.count cls = s.registers.count cls + demand asked cls
  classes : outcome.2 = none → outcome.1.classes = after

theorem step_exact (orderly : Orderly s) (line : Line) :
    Exact s ((s.classes.asked line).map (Request.mk s.location)) (s.classes.after line)
      (s.step line) := by
  obtain ⟨asks, leaves⟩ := script_demands orderly line
  rw [step_performs, ← asks s.location, ← leaves]
  refine ⟨perform_refused s _, ?_, ?_⟩
  · intro succeeded cls
    rw [perform_done succeeded, foldl_count s _ s.location]
  · intro succeeded
    rw [perform_done succeeded, foldl_classes]

theorem feed_exact (orderly : Orderly s) (entry : Location × String) :
    Exact s (s.classes.askedAt entry) (s.classes.afterEntry entry) (s.feed entry) := by
  unfold Classes.askedAt Classes.afterEntry
  cases understood : Line.ofText? entry.2 with
  | some line =>
      rw [feed_line s understood]
      have moved : Orderly { s with location := entry.1 } := orderly.unchanged rfl fun _ => rfl
      obtain ⟨failure, counts, classes⟩ := step_exact moved line
      exact ⟨failure, counts, classes⟩
  | none =>
      rw [feed_blank s understood]
      exact ⟨rfl, fun _ _ => rfl, fun _ => rfl⟩

end Lowering

/-- The failures of requests from counters within their capacities. -/
theorem refused_decides {taken : RegisterClass → Nat} (within : ∀ cls, taken cls ≤ cls.capacity)
    {asked : List Request} {failed : Option Failure}
    (decided : failed = (firstRefused? taken asked).map Request.failure) :
    (failed = none ↔ ∀ cls, taken cls + demand asked cls ≤ cls.capacity) ∧
      ∀ failure, failed = some failure ↔
        ∃ request, Refused taken asked request ∧ request.failure = failure := by
  subst decided
  constructor
  · rw [Option.map_eq_none_iff, firstRefused_none_iff within]
  · intro failure
    rw [Option.map_eq_some_iff]
    exact exists_congr fun request =>
      and_congr_left fun _ => firstRefused_some_iff within asked request

end ThreeAddress
