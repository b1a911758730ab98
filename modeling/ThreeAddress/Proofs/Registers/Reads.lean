import ThreeAddress.Proofs.Registers.SingleAssignment

/-!
Generated code fills a register before it reads it, in the order of the text. Operands, bindings
and the last registers of a class have all been handed out, and what was handed out has been
filled. Two lines guess a register instead: a branch where none was handed out and a printed
temporary without a binding. Both have warned by then.
-/

namespace ThreeAddress

/-- What items read is in `filled`, filled by an item before, or excused. -/
def Supplied (excused : Instruction → Register → Prop) (filled : List Register) :
    List Item → Prop
  | [] => True
  | .code instruction :: rest =>
      (∀ register ∈ instruction.sources, register.registerClass? ≠ none →
        register ∈ filled ∨ excused instruction register) ∧
      Supplied excused (filled ++ instruction.dest?.toList) rest
  | .label _ :: rest | .comment _ :: rest | .raw _ :: rest => Supplied excused filled rest

section Lists
variable {excused other : Instruction → Register → Prop} {filled : List Register}

theorem supplied_append (first second : List Item) :
    Supplied excused filled (first ++ second) ↔
      Supplied excused filled first ∧ Supplied excused (filled ++ writes first) second := by
  induction first generalizing filled with
  | nil => simp [Supplied]
  | cons item rest ih =>
      cases item with
      | code instruction =>
          simp only [List.cons_append, Supplied, ih, writes_cons, Item.dest?, and_assoc,
            List.append_assoc]
      | label text | comment text | raw text =>
          simp only [List.cons_append, Supplied, ih, writes_cons, Item.dest?,
            Option.toList_none, List.nil_append]

theorem Supplied.mono (weaker : ∀ instruction register, excused instruction register →
    other instruction register) {items : List Item} (supplied : Supplied excused filled items) :
    Supplied other filled items := by
  induction items generalizing filled with
  | nil => trivial
  | cons item rest ih =>
      cases item with
      | code instruction =>
          refine ⟨?_, ih supplied.2⟩
          intro register read ofClass
          exact (supplied.1 register read ofClass).imp_right (weaker _ _)
      | label text | comment text | raw text => exact @ih filled supplied

theorem Supplied.at (before later : List Item) {instruction : Instruction} {register : Register}
    (supplied : Supplied excused filled (before ++ .code instruction :: later))
    (read : register ∈ instruction.sources) (ofClass : register.registerClass? ≠ none) :
    register ∈ filled ++ writes before ∨ excused instruction register :=
  ((supplied_append before _).mp supplied).2.1 register read ofClass

end Lists

namespace Lowering
variable {start s t : Lowering} {line : Line}

/-- The reads of `line` that stand for a guess, once it has warned. -/
def Guessed (start : Lowering) (line : Line) (s : Lowering) (instruction : Instruction)
    (register : Register) : Prop :=
  Warned start s ∧
    ((∃ condition target, line = .control (.ifGoto condition target) ∧
        instruction = .branchZero register target) ∨
      ∃ callee count, line = .call (.call callee count) ∧ isPrint callee = true ∧
        instruction = .copy .move .a0 register ∧ register.registerClass? = some .general)

theorem Guessed.change (change : Change start line s t) (instruction : Instruction)
    (register : Register) (guessed : Guessed start line s instruction register) :
    Guessed start line t instruction register :=
  ⟨guessed.1.change change, guessed.2⟩

theorem storeSource?_taken (orderly : Orderly s) {cls : RegisterClass} {temp : String}
    {register : Register} (source : s.storeSource? cls temp = some register) :
    s.registers.Taken register := by
  unfold storeSource? at source
  split at source
  · rename_i bound found
    cases source
    exact orderly.held temp _ (Option.filter_eq_some_iff.mp found).1
  · exact Allocation.newest?_taken source

theorem Idle.supplied (orderly : Orderly s) {instructions : List Instruction}
    (idle : Idle start line s instructions) :
    Supplied (Guessed start line s) (writes s.text) (instructions.map .code) := by
  cases idle with
  | jump target => simp [Supplied, Instruction.sources]
  | exit => simp [Supplied, Service.request, Instruction.sources]
  | branch target newest =>
      have written := orderly.taken_written (Allocation.newest?_taken newest)
      simp [Supplied, Instruction.sources, written]
  | guessedBranch read warned =>
      simp only [List.map_cons, List.map_nil, Supplied, Instruction.sources, List.mem_singleton,
        forall_eq, and_true]
      -- The tested register may never have been filled.
      exact fun _ => .inr ⟨warned, .inl ⟨_, _, read, rfl⟩⟩
  | print held =>
      have written := orderly.taken_written (orderly.held _ _ held)
      simp [Supplied, Service.print, Service.passArgument, Service.request, Instruction.sources,
        written]
  | guessedPrint number read known warned =>
      simp only [Service.print, Service.passArgument, Service.request, List.map_cons,
        List.map_nil, Supplied, Instruction.sources, List.mem_singleton, forall_eq,
        List.not_mem_nil, false_implies, implies_true, and_true]
      exact fun _ => .inr ⟨warned, .inr ⟨_, _, read, known, rfl, rfl⟩⟩
  | printLiteral text => simp [Supplied, Service.request, Instruction.sources]
  | printLoad name word => simp [Supplied, Service.request, Instruction.sources]
  | store dest source =>
      have written := orderly.taken_written (storeSource?_taken orderly source)
      simp [Supplied, Instruction.sources, written]
  | storeByte symbol newest =>
      have written := orderly.taken_written (Allocation.newest?_taken newest)
      simp [Supplied, Instruction.sources, written]

theorem operator_supplied {excused : Instruction → Register → Prop} {filled : List Register}
    (op : Operator) (cls : RegisterClass) (dest left right : Register)
    (leftFilled : left.registerClass? ≠ none → left ∈ filled)
    (rightFilled : right.registerClass? ≠ none → right ∈ filled) :
    Supplied excused filled ((op.code cls dest left right).map .code) := by
  cases op <;>
    simp only [Operator.code, List.map_cons, List.map_nil, Supplied, Instruction.sources,
      List.mem_cons, List.not_mem_nil, or_false, forall_eq_or_imp, forall_eq, false_implies,
      implies_true, and_true] <;>
    exact ⟨fun ofClass => .inl (leftFilled ofClass), fun ofClass => .inl (rightFilled ofClass)⟩

/-- An operand is a register that was handed out, or `$zero`. -/
theorem recent_written (orderly : Orderly s) (cls : RegisterClass) (skipped : Nat)
    (ofClass : ((s.registers.recent? cls skipped).getD .zero).registerClass? ≠ none) :
    (s.registers.recent? cls skipped).getD .zero ∈ writes s.text := by
  cases found : s.registers.recent? cls skipped with
  | none => simp [found, Register.registerClass?] at ofClass
  | some register =>
      exact orderly.taken_written (Allocation.recent?_taken _ cls skipped register found)

theorem Fill.supplied {excused : Instruction → Register → Prop} (orderly : Orderly s)
    {cls : RegisterClass} {instructions : Register → List Instruction}
    (fills : Fill start line s cls instructions) (fresh : Register) :
    Supplied excused (writes s.text) ((instructions fresh).map .code) := by
  cases fills with
  | integer text => simp [Supplied, Instruction.sources]
  | single text => simp [Supplied, Instruction.sources]
  | load type name => simp [Supplied, Instruction.sources]
  | copy held =>
      have written := orderly.taken_written (orderly.held _ _ held)
      simp [Supplied, Instruction.sources, written]
  | operation _ same =>
      rw [← same]
      exact operator_supplied _ _ _ _ _ (recent_written orderly _ 1) (recent_written orderly _ 0)
  | bump name newest =>
      have written := orderly.taken_written (Allocation.newest?_taken newest)
      simp [Supplied, Instruction.sources, Instruction.dest?, written]
  | moveOut symbol newest =>
      have written := orderly.taken_written (Allocation.newest?_taken newest)
      simp [Supplied, Instruction.sources, Instruction.dest?, written]

def Supplies (start : Lowering) (line : Line) (s : Lowering) : Prop :=
  ∃ added, s.text = start.text ++ added ∧
    Supplied (Guessed start line s) (writes start.text) added

theorem Supplies.add (supplies : Supplies start line s) (change : Change start line s t)
    (items : List Item) (text : t.text = s.text ++ items)
    (reads : Supplied (Guessed start line s) (writes s.text) items) :
    Supplies start line t := by
  obtain ⟨added, before, earlier⟩ := supplies
  refine ⟨added ++ items, by rw [text, before, List.append_assoc], ?_⟩
  rw [before, writes_append] at reads
  exact ((supplied_append added items).mpr ⟨earlier, reads⟩).mono (Guessed.change change)

theorem Change.supplies (change : Change start line s t) (orderly : Orderly s)
    (supplies : Supplies start line s) : Supplies start line t := by
  cases change with
  | comment text =>
      refine supplies.add (.comment s text) (s.marks text) (comment_text s text) ?_
      unfold marks
      split <;> trivial
  | raise finding =>
      exact supplies.add (.raise s finding) [] (List.append_nil _).symm trivial
  | label text => exact supplies.add (.label s text) [.label text] rfl trivial
  | raw text => exact supplies.add (.raw s text) [.raw text] rfl trivial
  | declare data symbols currentType =>
      exact supplies.add (.declare s data symbols currentType) [] (List.append_nil _).symm trivial
  | pend pending => exact supplies.add (.pend s pending) [] (List.append_nil _).symm trivial
  | noteOrigin register name =>
      exact supplies.add (.noteOrigin s register name) [] (List.append_nil _).symm trivial
  | hold assigned newest fresh =>
      exact supplies.add (.hold assigned newest fresh) [] (List.append_nil _).symm trivial
  | code idle => exact supplies.add (.code idle) _ (code_text _ _) (idle.supplied orderly)
  | fill room fills =>
      exact supplies.add (.fill room fills) _ (code_text _ _) (fills.supplied orderly _)

theorem step_supplies (s : Lowering) (line : Line) (orderly : Orderly s) :
    Supplies s line (s.step line).1 := by
  have both := (step_reaches s line).keeps
    (fun t => Orderly t ∧ Supplies s line t)
    (fun _ _ change before =>
      ⟨change.orderly before.1, change.supplies before.1 before.2⟩)
    ⟨orderly, [], (List.append_nil _).symm, trivial⟩
  exact both.2

/-- An item of a longer text that lies in its first part is an item of that part. -/
theorem item_in_front {first rest before later : List Item} {item : Item}
    (text : first ++ rest = before ++ item :: later) (inside : before.length < first.length) :
    ∃ between, first = before ++ item :: between := by
  rcases List.append_eq_append_iff.mp text with ⟨middle, longer, _⟩ | ⟨middle, cut, remains⟩
  · have := congrArg List.length longer
    simp only [List.length_append] at this
    omega
  · cases middle with
    | nil =>
        have := congrArg List.length cut
        simp only [List.append_nil] at this
        omega
    | cons head between =>
        cases remains
        exact ⟨between, cut⟩

/-- A line that reads a register of a class in code that it adds has filled it, or has found it
filled, or guesses and has warned. -/
theorem feed_reads (orderly : Orderly s) (entry : Location × String) (before later : List Item)
    {instruction : Instruction} {register : Register}
    (text : (s.feed entry).1.text = before ++ .code instruction :: later)
    (new : s.text.length ≤ before.length) (read : register ∈ instruction.sources)
    (ofClass : register.registerClass? ≠ none) :
    register ∈ writes before ∨
      ∃ line, Line.ofText? entry.2 = some line ∧
        Guessed s line (s.feed entry).1 instruction register := by
  unfold feed Lowering.line at text ⊢
  split at text
  · rename_i line understood
    simp only [understood, Option.some.injEq, exists_eq_left']
    obtain ⟨added, grown, supplied⟩ := step_supplies { s with location := entry.1 } line
      (orderly.unchanged rfl fun _ => rfl)
    -- Both are beginnings of the same text, and the older one is the shorter.
    obtain ⟨front, rfl⟩ : s.text <+: before := by
      apply List.prefix_of_prefix_length_le (List.prefix_append s.text added) _ new
      rw [← grown, text]
      exact List.prefix_append _ _
    rw [grown, List.append_assoc, List.append_cancel_left_eq] at text
    subst text
    rw [writes_append]
    exact supplied.at front later read ofClass
  · have := congrArg List.length text
    simp only [done, List.length_append, List.length_cons] at this
    omega

/-- `reads_follow_writes` from any state in which the text and the counters agree. -/
theorem after_reads (history : List (Location × String)) (s : Lowering) (orderly : Orderly s)
    (before later : List Item) (instruction : Instruction) (register : Register)
    (text : (s.after history).text = before ++ .code instruction :: later)
    (new : s.text.length ≤ before.length) (read : register ∈ instruction.sources)
    (ofClass : register.registerClass? ≠ none) :
    register ∈ writes before ∨
      ∃ past entry rest line, history = past ++ entry :: rest ∧
        Line.ofText? entry.2 = some line ∧ (s.after past).text.length ≤ before.length ∧
        before.length < ((s.after past).feed entry).1.text.length ∧
        Guessed (s.after past) line ((s.after past).feed entry).1 instruction register := by
  induction history generalizing s with
  | nil =>
      have := congrArg List.length text
      simp only [after, List.length_append, List.length_cons] at this
      omega
  | cons entry rest ih =>
      -- The instruction lies in the code of this line or in that of a later one.
      by_cases here : before.length < (s.feed entry).1.text.length
      · obtain ⟨more, grown⟩ := after_text (s.feed entry).1 rest
        obtain ⟨between, front⟩ := item_in_front (grown.trans text) here
        rcases feed_reads orderly entry before between front new read ofClass with
          filled | ⟨line, understood, guessed⟩
        · exact .inl filled
        · exact .inr ⟨[], entry, rest, line, rfl, understood, new, here, guessed⟩
      · rcases ih (s.feed entry).1 (feed_orderly orderly entry) text (by omega) with
          filled | ⟨past, later, remaining, line, same, understood, lower, upper, guessed⟩
        · exact .inl filled
        · exact .inr ⟨entry :: past, later, remaining, line, by rw [same]; rfl, understood,
            lower, upper, guessed⟩

/-- After any lines, failed ones included: a register of a class that an instruction reads is
filled by an item before it, or the instruction is the test of a branch or the copy of an
unbound temporary that is printed, and the line that added it has warned. -/
theorem reads_follow_writes (options : Options) (history : List (Location × String))
    (before later : List Item) (instruction : Instruction) (register : Register)
    (text : ((Lowering.start options).after history).text =
      before ++ .code instruction :: later)
    (read : register ∈ instruction.sources) (ofClass : register.registerClass? ≠ none) :
    (∃ item ∈ before, item.dest? = some register) ∨
      ∃ past entry rest line, history = past ++ entry :: rest ∧
        Line.ofText? entry.2 = some line ∧
        let s := (Lowering.start options).after past
        let t := (s.feed entry).1
        s.text.length ≤ before.length ∧ before.length < t.text.length ∧ Warned s t ∧
        ((∃ condition target, line = .control (.ifGoto condition target) ∧
            instruction = .branchZero register target) ∨
          ∃ callee count, line = .call (.call callee count) ∧ isPrint callee = true ∧
            instruction = .copy .move .a0 register ∧ register.registerClass? = some .general) := by
  rcases after_reads history _ (start_orderly options) before later instruction register text
      (Nat.zero_le _) read ofClass with
    filled | ⟨past, entry, rest, line, same, understood, lower, upper, warned, kind⟩
  · exact .inl (List.mem_filterMap.mp filled)
  · exact .inr ⟨past, entry, rest, line, same, understood, lower, upper, warned, kind⟩

theorem printed_read_follows_or_guesses :
    let history : List (Location × String) :=
      [(.input 1, "t0 = 7"), (.input 2, "param t3"), (.input 3, "call print, 1")]
    let before : List Item := [.code (.immediate .integer (.t 0) "7"), .comment "print"]
    (∃ item ∈ before, item.dest? = some (.t 3)) ∨
      ∃ past entry rest line, history = past ++ entry :: rest ∧
        Line.ofText? entry.2 = some line ∧
        let s := (Lowering.start {}).after past
        let t := (s.feed entry).1
        s.text.length ≤ before.length ∧ before.length < t.text.length ∧ Warned s t ∧
        ((∃ condition target, line = .control (.ifGoto condition target) ∧
            Instruction.copy .move .a0 (.t 3) = .branchZero (.t 3) target) ∨
          ∃ callee count, line = .call (.call callee count) ∧ isPrint callee = true ∧
            Instruction.copy .move .a0 (.t 3) = .copy .move .a0 (.t 3) ∧
            (Register.t 3).registerClass? = some .general) :=
  reads_follow_writes {}
    [(.input 1, "t0 = 7"), (.input 2, "param t3"), (.input 3, "call print, 1")]
    [.code (.immediate .integer (.t 0) "7"), .comment "print"]
    (Service.printInteger.request.map .code) (.copy .move .a0 (.t 3)) (.t 3)
    (by decide +kernel) (by decide) (by decide)

end Lowering

end ThreeAddress
