import Mathlib.Data.List.Basic
import ThreeAddress.Proofs.Registers.SingleAssignment

/-!
What an allocation answers, told from what it was asked before. Whatever the operations and their
order are, each answer follows from the earlier operations on the same subject alone: the requests
for registers of one class, the registers that one temporary was held in, or the variables that one
register was loaded from. A request that fails leaves no trace in later answers.
-/

namespace ThreeAddress.Allocation

inductive Operation where
  | take (cls : RegisterClass)
  | count (cls : RegisterClass)
  | newest (cls : RegisterClass)
  | previous (cls : RegisterClass)
  | hold (temp : String) (register : Register)
  | holder (temp : String)
  | noteOrigin (register : Register) (name : String)
  | origin (register : Register)
  deriving DecidableEq, Repr

inductive Reply where
  | taken (result : Except OutOfRegisters Register)
  | number (count : Nat)
  | register (found : Option Register)
  | name (found : Option String)
  | done

def perform (held : Allocation) : Operation → Reply × Allocation
  | .take cls =>
      match held.take cls with
      | .ok (register, next) => (.taken (.ok register), next)
      | .error cause => (.taken (.error cause), held)
  | .count cls => (.number (held.count cls), held)
  | .newest cls => (.register (held.newest? cls), held)
  | .previous cls => (.register (held.previous? cls), held)
  | .hold temp register => (.done, held.hold temp register)
  | .holder temp => (.register (held.holder? temp), held)
  | .noteOrigin register name => (.done, held.noteOrigin register name)
  | .origin register => (.name (held.origin? register), held)

def after (held : Allocation) : List Operation → Allocation
  | [] => held
  | operation :: rest => (held.perform operation).2.after rest

def replies (held : Allocation) : List Operation → List Reply
  | [] => []
  | operation :: rest => (held.perform operation).1 :: (held.perform operation).2.replies rest

/-! ## Logs of operations -/

def requests (cls : RegisterClass) (history : List Operation) : Nat :=
  history.count (.take cls)

def granted (cls : RegisterClass) (history : List Operation) : List Register :=
  firstRegisters cls (min (requests cls history) cls.capacity)

def Operation.holds? (temp : String) : Operation → Option Register
  | hold other register => if other = temp then some register else none
  | _ => none

def Operation.loads? (register : Register) : Operation → Option String
  | noteOrigin other name => if other = register then some name else none
  | _ => none

def latest {α : Type} (records? : Operation → Option α) (history : List Operation) : Option α :=
  (history.filterMap records?).getLast?

def expected (history : List Operation) : Operation → Reply
  | .take cls =>
      if requests cls history < cls.capacity then
        .taken (.ok (cls.register (requests cls history).toUInt8))
      else
        .taken (.error ⟨cls, cls.capacity⟩)
  | .count cls => .number (min (requests cls history) cls.capacity)
  | .newest cls => .register (granted cls history).getLast?
  | .previous cls => .register (granted cls history).dropLast.getLast?
  | .hold .. | .noteOrigin .. => .done
  | .holder temp => .register (latest (Operation.holds? temp) history)
  | .origin register => .name (latest (Operation.loads? register) history)

theorem requests_concat (cls : RegisterClass) (history : List Operation) (operation : Operation) :
    requests cls (history ++ [operation]) =
      requests cls history + if operation = .take cls then 1 else 0 := by
  simp [requests, List.count_singleton]

theorem latest_concat {α : Type} (records? : Operation → Option α) (history : List Operation)
    (operation : Operation) :
    latest records? (history ++ [operation]) =
      (records? operation).or (latest records? history) := by
  rw [latest, List.filterMap_append, List.getLast?_append]
  cases found : records? operation <;> simp [found, latest]

theorem first_registers_getLast? (cls : RegisterClass) (count : Nat) :
    (firstRegisters cls count).getLast? =
      if 0 < count then some (cls.register (count - 1).toUInt8) else none := by
  cases count with
  | zero => rfl
  | succ count => simp [first_registers_succ]

theorem first_registers_dropLast (cls : RegisterClass) (count : Nat) :
    (firstRegisters cls count).dropLast = firstRegisters cls (count - 1) := by
  cases count with
  | zero => rfl
  | succ count => simp [first_registers_succ]

theorem newest?_eq (held : Allocation) (cls : RegisterClass) :
    held.newest? cls = (firstRegisters cls (held.count cls)).getLast? := by
  rw [first_registers_getLast?, newest?, recent?, Nat.sub_zero]

theorem previous?_eq (held : Allocation) (cls : RegisterClass) :
    held.previous? cls = (firstRegisters cls (held.count cls)).dropLast.getLast? := by
  rw [first_registers_dropLast, first_registers_getLast?, previous?, recent?]
  simp only [Nat.sub_pos_iff_lt]

theorem first_registers_index (cls : RegisterClass) {count : Nat} (small : count ≤ 32) :
    (firstRegisters cls count).map Register.index = List.range count := by
  rw [firstRegisters, List.map_map]
  apply (List.map_congr_left fun number member => ?_).trans (List.map_id _)
  have below := List.mem_range.mp member
  simp only [Function.comp_apply, index_register, Nat.toUInt8, UInt8.toNat_ofNat', id_eq]
  omega

/-! ## What one operation does -/

theorem count_perform (held : Allocation) (operation : Operation) (cls : RegisterClass) :
    (held.perform operation).2.count cls =
      held.count cls +
        if operation = .take cls ∧ held.count cls < cls.capacity then 1 else 0 := by
  cases operation with
  | take other =>
      by_cases room : held.count other < other.capacity
      · simp only [perform, take_room held other room, count_advance]
        by_cases same : other = cls
        · subst same
          simp [room]
        · simp [same]
      · simp only [perform, take_full held other room]
        rw [if_neg, Nat.add_zero]
        rintro ⟨⟨⟩, below⟩
        exact room below
  | _ => simp [perform]

theorem holder?_perform (held : Allocation) (operation : Operation) (temp : String) :
    (held.perform operation).2.holder? temp = (operation.holds? temp).or (held.holder? temp) := by
  cases operation with
  | take cls =>
      by_cases room : held.count cls < cls.capacity
      · simp [perform, take_room held cls room, Operation.holds?]
      · simp [perform, take_full held cls room, Operation.holds?]
  | hold other register =>
      simp only [perform, hold, holder?, Table.get?_insert, Operation.holds?]
      split <;> rfl
  | _ => rfl

theorem origin?_perform (held : Allocation) (operation : Operation) (register : Register) :
    (held.perform operation).2.origin? register =
      (operation.loads? register).or (held.origin? register) := by
  cases operation with
  | take cls =>
      by_cases room : held.count cls < cls.capacity
      · cases cls <;> simp [perform, take_room held _ room, Operation.loads?, advance, origin?]
      · simp [perform, take_full held cls room, Operation.loads?]
  | noteOrigin other name =>
      simp only [perform, noteOrigin, origin?, Table.get?_insert, Operation.loads?]
      split <;> rfl
  | _ => rfl

/-! ## An allocation and its history -/

structure Tracks (history : List Operation) (held : Allocation) : Prop where
  counts : ∀ cls, held.count cls = min (requests cls history) cls.capacity
  holders : ∀ temp, held.holder? temp = latest (Operation.holds? temp) history
  origins : ∀ register, held.origin? register = latest (Operation.loads? register) history

theorem tracks_nothing : Tracks [] {} where
  counts cls := by cases cls <;> rfl
  holders _ := rfl
  origins _ := rfl

variable {history : List Operation} {held other : Allocation}

theorem Tracks.perform (tracks : Tracks history held) (operation : Operation) :
    Tracks (history ++ [operation]) (held.perform operation).2 where
  counts cls := by
    have counted := tracks.counts cls
    rw [count_perform, requests_concat]
    by_cases asked : operation = .take cls
    · -- A request that fails is counted as one, but the counter has reached the capacity.
      simp only [asked, true_and, if_true]
      split <;> omega
    · simp only [asked, false_and, if_false]
      exact counted
  holders temp := by rw [holder?_perform, latest_concat, tracks.holders]
  origins register := by rw [origin?_perform, latest_concat, tracks.origins]

theorem Tracks.reply (tracks : Tracks history held) (operation : Operation) :
    (held.perform operation).1 = expected history operation := by
  cases operation with
  | take cls =>
      have counted := tracks.counts cls
      simp only [Allocation.perform, expected]
      by_cases room : held.count cls < cls.capacity
      · have asked : requests cls history = held.count cls := by omega
        rw [take_room held cls room, asked, if_pos room, upcoming]
      · rw [take_full held cls room, if_neg (by omega)]
  | count cls => exact congrArg Reply.number (tracks.counts cls)
  | newest cls =>
      exact congrArg Reply.register (by rw [newest?_eq, tracks.counts, granted])
  | previous cls =>
      exact congrArg Reply.register (by rw [previous?_eq, tracks.counts, granted])
  | holder temp => exact congrArg Reply.register (tracks.holders temp)
  | origin register => exact congrArg Reply.name (tracks.origins register)
  | hold temp register | noteOrigin register name => rfl

theorem Tracks.after (tracks : Tracks history held) (operations : List Operation) :
    Tracks (history ++ operations) (held.after operations) := by
  induction operations generalizing history held with
  | nil => rwa [List.append_nil]
  | cons operation rest ih =>
      rw [List.append_cons]
      exact ih (tracks.perform operation)

theorem Tracks.replies (tracks : Tracks history held) (operations : List Operation) :
    held.replies operations =
      operations.mapIdx fun place operation =>
        expected (history ++ operations.take place) operation := by
  induction operations generalizing history held with
  | nil => rfl
  | cons operation rest ih =>
      rw [Allocation.replies, List.mapIdx_cons, ih (tracks.perform operation), tracks.reply]
      simp

/-! ## Registers that are handed out -/

def Operation.receives? (cls : RegisterClass) : Operation → Reply → Option Register
  | take other, .taken (.ok register) => if other = cls then some register else none
  | _, _ => none

def received (cls : RegisterClass) (operations : List Operation) (told : List Reply) :
    List Register :=
  (operations.zip told).filterMap fun entry => entry.1.receives? cls entry.2

theorem received_cons (cls : RegisterClass) (operation : Operation) (rest : List Operation)
    (reply : Reply) (told : List Reply) :
    received cls (operation :: rest) (reply :: told) =
      (operation.receives? cls reply).toList ++ received cls rest told := by
  rw [received, List.zip_cons_cons, List.filterMap_cons]
  cases operation.receives? cls reply <;> simp [received]

theorem granted_concat (cls : RegisterClass) (history : List Operation) (operation : Operation) :
    granted cls (history ++ [operation]) =
      granted cls history ++ (operation.receives? cls (expected history operation)).toList := by
  rw [granted, granted, requests_concat]
  by_cases asked : operation = .take cls
  · subst asked
    by_cases room : requests cls history < cls.capacity
    · have more : min (requests cls history + 1) cls.capacity = requests cls history + 1 := by omega
      have here : min (requests cls history) cls.capacity = requests cls history := by omega
      rw [if_pos rfl, more, here, first_registers_succ, expected, if_pos room]
      simp [Operation.receives?]
    · -- A refused request changes nothing: the class was used up before it.
      have full : min (requests cls history + 1) cls.capacity =
          min (requests cls history) cls.capacity := by omega
      rw [if_pos rfl, full, expected, if_neg room]
      simp [Operation.receives?]
  · have nothing : operation.receives? cls (expected history operation) = none := by
      cases operation with
      | take other =>
          have differs : ¬ other = cls := fun same => asked (congrArg _ same)
          simp only [expected]
          split <;> simp [Operation.receives?, differs]
      | _ => rfl
    simp [asked, nothing]

theorem Tracks.received (tracks : Tracks history held) (cls : RegisterClass)
    (operations : List Operation) :
    granted cls history ++ Allocation.received cls operations (held.replies operations) =
      granted cls (history ++ operations) := by
  induction operations generalizing history held with
  | nil => simp [Allocation.received]
  | cons operation rest ih =>
      have onward := ih (tracks.perform operation)
      rw [← List.append_cons, granted_concat, List.append_assoc] at onward
      rw [Allocation.replies, received_cons, tracks.reply, onward]

/-! ## Subjects -/

inductive Subject where
  | registers (cls : RegisterClass)
  | holder (temp : String)
  | origin (register : Register)
  deriving DecidableEq, Repr

def Operation.subject : Operation → Subject
  | take cls | count cls | newest cls | previous cls => .registers cls
  | hold temp _ | holder temp => .holder temp
  | noteOrigin register _ | origin register => .origin register

def about (subject : Subject) (operations : List Operation) : List Operation :=
  operations.filter (·.subject = subject)

def repliesAbout (subject : Subject) (operations : List Operation) (told : List Reply) :
    List Reply :=
  ((operations.zip told).filter (·.1.subject = subject)).map Prod.snd

theorem latest_about {α : Type} {records? : Operation → Option α} {subject : Subject}
    (relevant : ∀ operation, (records? operation).isSome → operation.subject = subject)
    (history : List Operation) :
    latest records? (about subject history) = latest records? history := by
  rw [latest, latest, about, List.filterMap_filter]
  congr 1
  apply List.filterMap_congr
  intro operation _
  cases found : records? operation with
  | none => simp
  | some value => simp [relevant operation (by simp [found])]

/-- Operations on other subjects do not matter for a reply. -/
theorem expected_about (history : List Operation) (operation : Operation) :
    expected (about operation.subject history) operation = expected history operation := by
  have asked (cls : RegisterClass) :
      requests cls (about (.registers cls) history) = requests cls history :=
    List.count_filter (by simp [Operation.subject])
  have kept (temp : String) :
      latest (Operation.holds? temp) (about (.holder temp) history) =
        latest (Operation.holds? temp) history := by
    apply latest_about
    intro operation recorded
    cases operation <;> simp_all [Operation.holds?, Operation.subject]
  have noted (register : Register) :
      latest (Operation.loads? register) (about (.origin register) history) =
        latest (Operation.loads? register) history := by
    apply latest_about
    intro operation recorded
    cases operation <;> simp_all [Operation.loads?, Operation.subject]
  cases operation <;> simp only [Operation.subject, expected, granted, asked, kept, noted]

theorem about_append (subject : Subject) (first second : List Operation) :
    about subject (first ++ second) = about subject first ++ about subject second :=
  List.filter_append first second

theorem about_singleton (subject : Subject) (operation : Operation) :
    about subject [operation] = if operation.subject = subject then [operation] else [] := by
  by_cases here : operation.subject = subject <;> simp [about, here]

theorem repliesAbout_cons (subject : Subject) (operation : Operation) (rest : List Operation)
    (reply : Reply) (told : List Reply) :
    repliesAbout subject (operation :: rest) (reply :: told) =
      (if operation.subject = subject then [reply] else []) ++ repliesAbout subject rest told := by
  by_cases here : operation.subject = subject <;> simp [repliesAbout, here]

theorem Tracks.repliesAbout (tracks : Tracks history held) {subject : Subject}
    (alone : Tracks (about subject history) other) (operations : List Operation) :
    Allocation.repliesAbout subject operations (held.replies operations) =
      other.replies (about subject operations) := by
  induction operations generalizing history held other with
  | nil => rfl
  | cons operation rest ih =>
      have onward := tracks.perform operation
      have grown := about_append subject history [operation]
      have ahead := about_append subject [operation] rest
      rw [about_singleton] at grown ahead
      rw [List.singleton_append] at ahead
      rw [Allocation.replies, repliesAbout_cons, ahead]
      by_cases here : operation.subject = subject
      · -- Both are asked, and what they have on the subject is the same.
        subst here
        have apart : Tracks (about operation.subject (history ++ [operation]))
            (other.perform operation).2 := by
          rw [grown, if_pos rfl]
          exact alone.perform operation
        have reply := expected_about history operation
        rw [← alone.reply, ← tracks.reply] at reply
        simp only [↓reduceIte, List.singleton_append, Allocation.replies]
        rw [reply, ih onward apart]
      · have apart : Tracks (about subject (history ++ [operation])) other := by
          rwa [grown, if_neg here, List.append_nil]
        simp only [here, ↓reduceIte, List.nil_append]
        exact ih onward apart

/-- The numbers of registers fit into eight bits, also where later ones are skipped. -/
theorem Tracks.numbers (tracks : Tracks history held) (cls : RegisterClass) :
    (held.count cls).toUInt8.toNat = held.count cls ∧
      ∀ skipped, (held.count cls - 1 - skipped).toUInt8.toNat = held.count cls - 1 - skipped := by
  have small := capacity_le cls
  have counted := tracks.counts cls
  refine ⟨?_, fun skipped => ?_⟩ <;> simp only [Nat.toUInt8, UInt8.toNat_ofNat'] <;> omega

/-- An allocation answers as its logs say. Take any operations in any order. The reply to each
is the one that the operations ahead of it make expected: a request receives the register whose
number is how many requests for the class there were, until the class runs out, and then fails
without a trace; the last registers are the last ones that were received; for a temporary and for a
register the reply is what was recorded last. Operations on other subjects change none of
this, and no register number is too large for its eight bits. -/
theorem replies_follow_logs (operations : List Operation) :
    let told := replies {} operations
    told = operations.mapIdx
      (fun place operation => expected (operations.take place) operation) ∧
    (∀ cls, received cls operations told = granted cls operations ∧
      (granted cls operations).map Register.index =
        List.range (min (requests cls operations) cls.capacity)) ∧
    (∀ subject, repliesAbout subject operations told = replies {} (about subject operations)) ∧
    ∀ cls,
      let count := (after {} operations).count cls
      count.toUInt8.toNat = count ∧
        ∀ skipped, (count - 1 - skipped).toUInt8.toNat = count - 1 - skipped := by
  intro told
  refine ⟨tracks_nothing.replies operations, fun cls => ⟨?_, ?_⟩,
    fun subject => tracks_nothing.repliesAbout tracks_nothing operations,
    (tracks_nothing.after operations).numbers⟩
  · exact tracks_nothing.received cls operations
  · exact first_registers_index cls (Nat.le_trans (Nat.min_le_right _ _) (capacity_le cls))

example : replies {} [.take .float, .hold "t0" (.f 0), .take .general, .take .general,
    .previous .general, .newest .float, .holder "t0", .count .general] =
      [.taken (.ok (.f 0)), .done, .taken (.ok (.t 0)), .taken (.ok (.t 1)),
        .register (some (.t 0)), .register (some (.f 0)), .register (some (.f 0)), .number 2] := by
  rfl

end ThreeAddress.Allocation
