import ThreeAddress.Proofs.Lowering.Findings
import ThreeAddress.Proofs.Registers.Sources

/-!
Code that only means something together: a product and the fetch of its result, the number of a
service and its call, the argument of a print and the print. Each group is written by a single act,
so no failure and no other line comes between its parts, and this can be read off the text alone.
-/

namespace ThreeAddress

def Followed (first second : Item → Prop) (items : List Item) : Prop :=
  ∀ before item behind, items = before ++ item :: behind → first item →
    ∃ next rest, behind = next :: rest ∧ second next

def Preceded (first second : Item → Prop) (items : List Item) : Prop :=
  ∀ before item behind, items = before ++ item :: behind → second item →
    ∃ rest last, before = rest ++ [last] ∧ first last

namespace Item

def IsProduct (item : Item) : Prop :=
  ∃ op left right, item = .code (.intoLo op left right)

def IsFetch (item : Item) : Prop :=
  ∃ dest, item = .code (.fromLo dest)

def IsGeneralFetch (item : Item) : Prop :=
  ∃ number, item = .code (.fromLo (.t number))

def IsCall (item : Item) : Prop :=
  item = .code .syscall

def Fills (register : Register) (item : Item) : Prop :=
  item.dest? = some register

def choice (service : Service) : Item :=
  .code (.immediate .integer .v0 (Nat.repr service.number))

def isLone : Item → Bool
  | .code (.intoLo ..) | .code (.fromLo _) | .code .syscall => false
  | .code instruction => instruction.dest? != some .v0 && instruction.dest? != some .a0
  | .label _ | .comment _ | .raw _ => true

end Item

open Item

/-- No group is split, and no part of one stands alone. -/
structure Whole (items : List Item) : Prop where
  fetched : Followed IsProduct IsGeneralFetch items
  multiplied : Preceded IsProduct IsFetch items
  chosen : Preceded (fun item => item = choice .printInteger ∨ item = choice .exit) IsCall items
  called : Followed (Fills .v0) IsCall items
  passed : Preceded (Fills .a0) (· = choice .printInteger) items
  printed : Followed (Fills .a0) (· = choice .printInteger) items

section Neighbours
variable {kind other : Item → Prop}

@[simp] theorem followed_nil : Followed kind other [] := by
  intro before item behind same
  simp at same

@[simp] theorem followed_cons (item : Item) (items : List Item) :
    Followed kind other (item :: items) ↔
      (kind item → ∃ next rest, items = next :: rest ∧ other next) ∧
        Followed kind other items := by
  constructor
  · intro followed
    refine ⟨followed [] item items rfl, ?_⟩
    rintro before found behind rfl
    exact followed (item :: before) found behind rfl
  · rintro ⟨here, later⟩ before found behind same
    cases before with
    | nil =>
        cases same
        exact here
    | cons first before =>
        cases same
        exact later before found behind rfl

theorem Followed.append {first second : List Item} (early : Followed kind other first)
    (late : Followed kind other second) : Followed kind other (first ++ second) := by
  induction first with
  | nil => exact late
  | cons item rest ih =>
      rw [followed_cons] at early
      rw [List.cons_append, followed_cons]
      refine ⟨fun here => ?_, ih early.2⟩
      obtain ⟨next, later, rfl, fits⟩ := early.1 here
      exact ⟨next, later ++ second, rfl, fits⟩

/-- Read backwards, what stands behind stands before. -/
theorem preceded_reverse (items : List Item) :
    Preceded kind other items ↔ Followed other kind items.reverse := by
  constructor
  · intro preceded before item behind same here
    have turned : items = behind.reverse ++ item :: before.reverse := by
      rw [← List.reverse_inj, same]
      simp
    obtain ⟨rest, last, before, fits⟩ := preceded _ item _ turned here
    exact ⟨last, rest.reverse, by simpa using before, fits⟩
  · intro followed before item behind same here
    have turned : items.reverse = behind.reverse ++ item :: before.reverse := by
      rw [same]
      simp
    obtain ⟨next, rest, later, fits⟩ := followed _ item _ turned here
    exact ⟨rest.reverse, next, by simpa using later, fits⟩

theorem Preceded.append {first second : List Item} (early : Preceded kind other first)
    (late : Preceded kind other second) : Preceded kind other (first ++ second) := by
  rw [preceded_reverse] at early late ⊢
  rw [List.reverse_append]
  exact late.append early

theorem followed_of_none {items : List Item} (none : ∀ item ∈ items, ¬ kind item) :
    Followed kind other items := by
  rintro before item behind rfl here
  exact absurd here (none item (by simp))

theorem preceded_of_none {items : List Item} (none : ∀ item ∈ items, ¬ other item) :
    Preceded kind other items := by
  rintro before item behind rfl here
  exact absurd here (none item (by simp))

end Neighbours

namespace Whole
variable {first second : List Item}

theorem append (early : Whole first) (late : Whole second) : Whole (first ++ second) where
  fetched := early.fetched.append late.fetched
  multiplied := early.multiplied.append late.multiplied
  chosen := early.chosen.append late.chosen
  called := early.called.append late.called
  passed := early.passed.append late.passed
  printed := early.printed.append late.printed

theorem lone {items : List Item} (lone : ∀ item ∈ items, item.isLone = true) : Whole items := by
  have product : ∀ item ∈ items, ¬ item.IsProduct := by
    rintro _ member ⟨op, left, right, rfl⟩
    cases lone _ member
  have fetch : ∀ item ∈ items, ¬ item.IsFetch := by
    rintro _ member ⟨dest, rfl⟩
    cases lone _ member
  have call : ∀ item ∈ items, ¬ item.IsCall := by
    rintro _ member rfl
    cases lone _ member
  have fills : ∀ item ∈ items, ∀ register, register = .v0 ∨ register = .a0 →
      ¬ item.Fills register := by
    intro item member register special filled
    have alone := lone item member
    unfold isLone at alone
    split at alone <;> simp_all [Fills, Item.dest?]
  have choice : ∀ item ∈ items, item ≠ choice .printInteger := by
    rintro _ member rfl
    cases lone _ member
  exact ⟨followed_of_none product, preceded_of_none fetch, preceded_of_none call,
    followed_of_none fun item member => fills item member .v0 (.inl rfl),
    preceded_of_none choice, followed_of_none fun item member => fills item member .a0 (.inr rfl)⟩

theorem nothing : Whole [] :=
  lone (by simp)

theorem product (op : LoOp) (number : UInt8) (left right : Register) :
    Whole [.code (.intoLo op left right), .code (.fromLo (.t number))] := by
  constructor <;>
    simp [preceded_reverse, IsProduct, IsFetch, IsGeneralFetch, IsCall, Fills, Item.dest?,
      Instruction.dest?, choice]

theorem exit : Whole (Service.exit.request.map .code) := by
  have other : Nat.repr 10 ≠ Nat.repr 1 := by decide
  constructor <;>
    simp [other, preceded_reverse, IsProduct, IsFetch, IsCall, Fills, Item.dest?, Instruction.dest?,
      choice, Service.request, Service.number]

/-- Whatever fills the argument comes right before the request. -/
theorem print {argument : Instruction} (fills : argument.dest? = some .a0)
    (plain : ∀ dest, argument ≠ .fromLo dest) :
    Whole ((argument :: Service.printInteger.request).map .code) := by
  have product : ¬ (Item.code argument).IsProduct := by
    rintro ⟨op, left, right, same⟩
    cases same
    cases fills
  have call : argument ≠ .syscall := by
    rintro rfl
    cases fills
  have other : Item.code argument ≠ choice .printInteger := by
    intro same
    cases same
    cases fills
  constructor <;>
    simp_all [preceded_reverse, IsProduct, IsFetch, IsCall, Fills, Item.dest?,
      Instruction.dest?, choice, Service.request]

end Whole

/-! ## The groups that lines write -/

def Act.isLone : Act → Bool
  | .emit item => item.isLone
  | .code instructions => instructions.all fun instruction => (Item.code instruction).isLone
  | _ => true

/-- An act writes one group or items of none. Only a line that is printing writes a print. -/
inductive Act.Grouped (printing : Bool) : Act → Prop
  | lone {act : Act} (lone : act.isLone = true) : Grouped printing act
  | product (op : LoOp) (number : UInt8) (left right : Register) :
      Grouped printing (.code [.intoLo op left right, .fromLo (.t number)])
  | exit : Grouped printing (.code Service.exit.request)
  | print {argument : Instruction} (line : printing = true) (fills : argument.dest? = some .a0)
      (plain : ∀ dest, argument ≠ .fromLo dest) :
      Grouped printing (.code (argument :: Service.printInteger.request))

def Line.isPrint : Line → Bool
  | .call (.call callee _) => Lowering.isPrint callee
  | _ => false

section Groups
variable {printing : Bool} {act : Act} {acts : List Act}

theorem Act.lone_items (lone : act.isLone = true) (comments : Bool) :
    ∀ item ∈ act.items comments, item.isLone = true := by
  cases act with
  | comment text => cases comments <;> simp [items, Item.isLone]
  | emit item => simpa [items, isLone] using lone
  | code instructions => simpa [items, isLone] using lone
  | _ => simp [items]

theorem Act.Grouped.whole (grouped : act.Grouped printing) (comments : Bool) :
    Whole (act.items comments) := by
  cases grouped with
  | lone lone => exact .lone (Act.lone_items lone comments)
  | product op number left right => exact .product op number left right
  | exit => exact .exit
  | print line fills plain => exact .print fills plain

theorem grouped_lone (lone : acts.all Act.isLone = true) :
    ∀ act ∈ acts, act.Grouped printing :=
  fun act member => .lone (List.all_eq_true.mp lone act member)

theorem whole_flatMap (grouped : ∀ act ∈ acts, act.Grouped printing) (comments : Bool) :
    Whole (acts.flatMap (Act.items comments)) := by
  induction acts with
  | nil => exact .nothing
  | cons act rest ih =>
      rw [List.flatMap_cons]
      exact ((grouped act List.mem_cons_self).whole comments).append
        (ih fun other member => grouped other (List.mem_cons_of_mem act member))

end Groups

namespace Lowering

section Scripts
variable (s : Lowering) {printing : Bool}

theorem operation_grouped (op : Operator) (held : Allocation) (cls : RegisterClass)
    (general : op ≠ .add → cls = .general) (left right : Register) :
    (Act.code (op.code cls (held.upcoming cls) left right)).Grouped printing := by
  by_cases sum : op = .add
  · subst sum
    apply Act.Grouped.lone
    cases cls <;> rfl
  · cases general sum
    cases op with
    | mul => exact .product .mult _ left right
    | div => exact .product .div _ left right
    | _ => exact .lone rfl

theorem operationScript_grouped (dest left : String) (op : Operator) (right : String) :
    ∀ act ∈ s.operationScript dest left op right, act.Grouped printing := by
  have general : op ≠ .add → s.operationClass op left right = .general := fun other => by
    simp [operationClass, other]
  simp only [operationScript, List.forall_mem_cons]
  exact ⟨.lone rfl, .lone rfl, .lone rfl, operation_grouped op s.registers _ general _ _,
    .lone rfl, by simp⟩

theorem storeBackScript_lone (cls : RegisterClass) (symbol : String) :
    (s.storeBackScript cls symbol).all Act.isLone = true := by
  unfold storeBackScript storeByteScript
  split <;> rfl

theorem loadScript_lone (dest name : String) : (s.loadScript dest name).all Act.isLone = true := by
  cases typed : s.typeOf name <;> simp only [loadScript, typed] <;> rfl

theorem copyScript_lone (dest : String) (source : Register) :
    (s.copyScript dest source).all Act.isLone = true := by
  cases source <;> rfl

theorem assignScript_lone (dest : String) (value : Value) :
    (s.assignScript dest value).all Act.isLone = true := by
  cases value with
  | temp source =>
      simp only [assignScript, assignTempScript]
      split
      · rw [List.all_append, copyScript_lone, storeBackScript_lone]
        rfl
      · rw [List.all_append, loadScript_lone, storeBackScript_lone]
        rfl
  | «variable» name => exact loadScript_lone s dest name
  | _ => rfl

theorem storeScript_lone (dest temp : String) :
    (s.storeScript dest temp).all Act.isLone = true := by
  unfold storeScript
  split <;> rfl

theorem controlScript_grouped (flow : Transfer) :
    ∀ act ∈ s.controlScript flow, act.Grouped printing := by
  cases flow with
  | ifGoto condition target => exact grouped_lone rfl
  | goto target => exact grouped_lone rfl
  | leave =>
      simp only [controlScript, List.forall_mem_cons]
      refine ⟨.lone rfl, ?_, by simp⟩
      cases s.options.returnLabel with
      | some label => exact .lone rfl
      | none => exact .exit

theorem print_grouped (source : Register) : (Act.code (Service.print source)).Grouped true :=
  .print rfl rfl (by simp [Service.passArgument])

theorem printScript_grouped (argument : String) :
    ∀ act ∈ s.printScript argument, act.Grouped true := by
  unfold printScript
  split
  · simpa using print_grouped _
  · split
    · split
      · simpa using ⟨.lone rfl, print_grouped _⟩
      · exact grouped_lone rfl
    · split
      · simpa using .print rfl rfl (by simp)
      · simpa using ⟨.lone rfl, .print rfl rfl (by simp)⟩

theorem callScript_grouped (made : Call) :
    ∀ act ∈ s.callScript made, act.Grouped (Line.call made).isPrint := by
  cases made with
  | param value => exact grouped_lone rfl
  | call callee count =>
      by_cases known : isPrint callee = true
      · simp only [callScript, popScript, Line.isPrint, known, ↓reduceIte]
        split
        · exact grouped_lone rfl
        · simp only [List.forall_mem_cons]
          exact ⟨.lone rfl, .lone rfl, .lone rfl, printScript_grouped s _⟩
      · simp [callScript, known]

/-- No act of a line splits a group. -/
theorem script_grouped (line : Line) : ∀ act ∈ s.script line, act.Grouped line.isPrint := by
  cases line with
  | label text | generic text | declaration declared => exact grouped_lone rfl
  | control flow => exact controlScript_grouped s flow
  | call made => exact callScript_grouped s made
  | operation dest left op right => exact operationScript_grouped s dest left op right
  | assign dest value => exact grouped_lone (assignScript_lone s dest value)
  | store dest temp => exact grouped_lone (storeScript_lone s dest temp)

end Scripts

section Texts
variable (s : Lowering)

theorem doing_grouped (place : Location) (line : Line) :
    ∀ act ∈ s.doing place line, act.Grouped line.isPrint :=
  fun act member => script_grouped s line act ((s.doing_initial place line).subset member)

theorem written_whole (entry : Location × String) : Whole (s.written entry) := by
  cases understood : Line.ofText? entry.2 with
  | none =>
      rw [written_blank understood]
      exact .nothing
  | some line =>
      -- A line that fails stops between two acts, so it leaves no group unfinished either.
      rw [written_line understood]
      exact whole_flatMap (doing_grouped s entry.1 line) _

theorem after_whole {s : Lowering} (whole : Whole s.text) (history : List (Location × String)) :
    Whole (s.after history).text := by
  apply after_keeps (fun t => Whole t.text) _ s whole
  intro t entry before
  rw [feed_text]
  exact before.append (written_whole t entry)

end Texts

end Lowering

/-! ## What a text prints

A call of `print` that takes a waiting argument either asks for the print service once or reports an
error, and no other line asks for it. So the requests in the text are as many as the calls that took
an argument and reported no error. -/

def printRequests (items : List Item) : Nat :=
  items.count (choice .printInteger)

def Diagnostic.isError (diagnostic : Diagnostic) : Bool :=
  diagnostic.severity == .error

@[simp] theorem printRequests_append (first second : List Item) :
    printRequests (first ++ second) = printRequests first + printRequests second :=
  List.count_append

theorem printRequests_lone {items : List Item} (lone : ∀ item ∈ items, item.isLone = true) :
    printRequests items = 0 := by
  refine List.count_eq_zero.mpr fun member => ?_
  cases lone _ member

theorem printRequests_print {argument : Instruction} (fills : argument.dest? = some .a0) :
    printRequests ((argument :: Service.printInteger.request).map .code) = 1 := by
  have other : Item.code argument ≠ choice .printInteger := by
    intro same
    cases same
    cases fills
  rw [printRequests, List.map_cons, List.count_cons_of_ne other]
  rfl

theorem Act.Grouped.silent {act : Act} (grouped : act.Grouped false) (comments : Bool) :
    printRequests (act.items comments) = 0 := by
  cases grouped with
  | lone lone => exact printRequests_lone (Act.lone_items lone comments)
  | product op number left right => rfl
  | exit => rfl
  | print line fills plain => cases line

theorem silent_flatMap {acts : List Act} (grouped : ∀ act ∈ acts, act.Grouped false)
    (comments : Bool) : printRequests (acts.flatMap (Act.items comments)) = 0 := by
  induction acts with
  | nil => rfl
  | cons act rest ih =>
      rw [List.flatMap_cons, printRequests_append,
        (grouped act List.mem_cons_self).silent comments,
        ih fun other member => grouped other (List.mem_cons_of_mem act member)]

namespace Lowering
variable {s : Lowering}

/-- The line is a call of `print` that takes an argument and reports no error. -/
def prints (s : Lowering) (entry : Location × String) : Bool :=
  (Line.ofText? entry.2).any Line.isPrint &&
    decide ((s.feed entry).1.pending.length < s.pending.length) &&
    (s.reported entry).all fun diagnostic => !diagnostic.isError

def printCount (s : Lowering) : List (Location × String) → Nat
  | [] => 0
  | entry :: rest => (if s.prints entry then 1 else 0) + printCount (s.feed entry).1 rest

theorem perform_pending {acts : List Act} (silent : acts.filterMap Act.pended? = [])
    (s : Lowering) : (s.perform acts).1.pending = s.pending := by
  apply perform_keeps (fun t => t.pending = s.pending) acts _ s rfl
  intro act member t same
  rw [apply_pending, List.filterMap_eq_nil_iff.mp silent act member]
  exact same

/-- A print of an argument asks for the service, or reports an error, but not both. -/
theorem printScript_answers (s : Lowering) (argument : String) (comments : Bool) :
    printRequests ((s.printScript argument).flatMap (Act.items comments)) =
      if ((s.printScript argument).filterMap Act.finding?).all
        fun finding => finding.severity != .error then 1 else 0 := by
  unfold printScript
  split
  · exact printRequests_print rfl
  · split
    · split
      · exact printRequests_print rfl
      · rfl
    · split
      · exact printRequests_print rfl
      · unfold undeclared?
        split <;> exact printRequests_print rfl

/-- A count that is wrong is no error. -/
theorem miscounted_harmless (count : Option UInt32) :
    (miscounted? count).toList.all (fun finding => finding.severity != .error) = true := by
  unfold miscounted?
  split
  · split <;> rfl
  · rfl

section Call
variable {entry : Location × String} {callee : String} {count : Option UInt32}

theorem call_doing (understood : Line.ofText? entry.2 = some (.call (.call callee count))) :
    s.doing entry.1 (.call (.call callee count)) = s.callScript (.call callee count) :=
  doing_idle understood (all_idle (callScript_calm s (.call callee count)))

theorem pop_script (known : isPrint callee = true) {argument : String} {rest : List String}
    (waiting : s.pending = argument :: rest) :
    s.callScript (.call callee count) =
      .report (miscounted? count) :: .pend rest :: .comment "print" :: s.printScript argument := by
  simp [callScript, popScript, known, waiting]

theorem pop_pending (understood : Line.ofText? entry.2 = some (.call (.call callee count)))
    (known : isPrint callee = true) {argument : String} {rest : List String}
    (waiting : s.pending = argument :: rest) : (s.feed entry).1.pending = rest := by
  rw [feed_performs understood, script, pop_script known waiting]
  have silent : (Act.comment "print" :: s.printScript argument).filterMap Act.pended? = [] :=
    printScript_pends s argument
  exact perform_pending silent
    ((({ s with location := entry.1 } : Lowering).apply (.report (miscounted? count))).apply
      (.pend rest))

/-- A call that finds nothing reports it and does nothing else. -/
theorem idle_script (known : isPrint callee = true) (waiting : s.pending = []) :
    s.callScript (.call callee count) =
      [.report (miscounted? count), .report (some .noArgument)] := by
  simp [callScript, popScript, known, waiting]

theorem idle_written (understood : Line.ofText? entry.2 = some (.call (.call callee count)))
    (known : isPrint callee = true) (waiting : s.pending = []) : s.written entry = [] := by
  rw [written_line understood, call_doing understood, idle_script known waiting]
  rfl

theorem pop_written (understood : Line.ofText? entry.2 = some (.call (.call callee count)))
    (known : isPrint callee = true) {argument : String} {rest : List String}
    (waiting : s.pending = argument :: rest) :
    s.written entry = Act.items s.options.comments (.comment "print") ++
      (s.printScript argument).flatMap (Act.items s.options.comments) := by
  rw [written_line understood, call_doing understood, pop_script known waiting]
  rfl

/-- A call that finds an argument prints it or reports an error. -/
theorem pop_answers (understood : Line.ofText? entry.2 = some (.call (.call callee count)))
    (known : isPrint callee = true) {argument : String} {rest : List String}
    (waiting : s.pending = argument :: rest) :
    printRequests (s.written entry) =
      if (s.reported entry).all fun diagnostic => !diagnostic.isError then 1 else 0 := by
  have findings : (s.callScript (.call callee count)).filterMap Act.finding? =
      (miscounted? count).toList ++ (s.printScript argument).filterMap Act.finding? := by
    rw [pop_script known waiting]
    cases miscounted? count <;> rfl
  have mark : printRequests (Act.items s.options.comments (.comment "print")) = 0 :=
    printRequests_lone (Act.lone_items rfl _)
  have severe : ((fun diagnostic => !diagnostic.isError) ∘ (Finding.diagnostic · entry.1)) =
      fun finding => finding.severity != .error := rfl
  rw [pop_written understood known waiting, printRequests_append, mark, Nat.zero_add,
    printScript_answers, reported_line understood, call_doing understood, findings, List.all_map,
    severe, List.all_append, miscounted_harmless count, Bool.true_and]

end Call

theorem written_requests (s : Lowering) (entry : Location × String) :
    printRequests (s.written entry) = if s.prints entry then 1 else 0 := by
  cases understood : Line.ofText? entry.2 with
  | none =>
      rw [written_blank understood]
      simp [prints, understood, printRequests]
  | some line =>
      cases known : line.isPrint with
      | false =>
          -- Groups of other lines have no request in them.
          have silent := silent_flatMap (known ▸ doing_grouped s entry.1 line) s.options.comments
          rw [written_line understood, silent]
          simp [prints, understood, known]
      | true =>
          obtain ⟨callee, count, rfl⟩ : ∃ callee count, line = .call (.call callee count) := by
            cases line with
            | call made => cases made <;> simp_all [Line.isPrint]
            | _ => cases known
          cases waiting : s.pending with
          | nil =>
              rw [idle_written understood known waiting]
              simp [prints, waiting, printRequests]
          | cons argument rest =>
              rw [pop_answers understood known waiting]
              simp [prints, understood, known, pop_pending understood known waiting, waiting]

/-- Each line that prints adds one request, and no other line adds one. -/
theorem after_requests (s : Lowering) (history : List (Location × String)) :
    printRequests (s.after history).text = printRequests s.text + s.printCount history := by
  induction history generalizing s with
  | nil => rfl
  | cons entry rest ih =>
      rw [after, ih, feed_text, printRequests_append, written_requests, printCount, Nat.add_assoc]

/-- After any lines, failed ones included, no group of the text is split: a product stands right
before the fetch of its result and a fetch right behind a product; a call stands right behind the
choice of its service, which nothing comes between; and what is printed stands right before the
choice of the print service. So this is chosen as often as a line printed something. -/
theorem groups_stay_whole (options : Options) (history : List (Location × String)) :
    let s := (Lowering.start options).after history
    Whole s.text ∧ printRequests s.text = (Lowering.start options).printCount history := by
  intro s
  refine ⟨after_whole .nothing history, ?_⟩
  have requests := after_requests (Lowering.start options) history
  rwa [show printRequests (Lowering.start options).text = 0 from rfl, Nat.zero_add] at requests

end Lowering

end ThreeAddress
