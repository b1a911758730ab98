import ThreeAddress.Command.Run
import ThreeAddress.Proofs.Lowering.Findings
import ThreeAddress.Proofs.Registers.Refusals

/-!
Where reports stand. A line reports at its own place only, at most two things, and many kinds of
lines never report at all. The lines of a program are numbered upward, so its report is in the order
of its lines, and the line that ends a program is the last that may have reported.
-/

namespace ThreeAddress

def Line.mayReport : Line → Bool
  | .control (.ifGoto ..) | .operation .. | .store .. => true
  | .assign _ (.temp _) | .assign _ (.variable _) => true
  | .call (.call callee _) => Lowering.isPrint callee
  | .label _ | .declaration _ | .generic _ | .control (.goto _) | .control .leave
  | .call (.param _) | .assign _ (.increment _) | .assign _ (.intOrChar _)
  | .assign _ (.float _) => false

namespace Program
variable {program : Program}

def Reads (program : Program) (number : Nat) (line : Line) : Prop :=
  ∃ index raw, number = index + 1 ∧ (Text.lines program.source.toList)[index]? = some raw ∧
    Line.ofText? (String.ofList raw) = some line

theorem number_ascends (start : Nat) (lines : List String) :
    (number start lines).Pairwise fun first second => first.1 < second.1 := by
  induction lines generalizing start with
  | nil => exact .nil
  | cons line rest ih =>
      refine .cons ?_ (ih (start + 1))
      intro later member
      obtain ⟨index, below, -⟩ := mem_number.mp member
      omega

theorem entries_ascend (program : Program) :
    program.entries.Pairwise fun first second => first.1.line < second.1.line :=
  List.pairwise_map.mpr (number_ascends 1 _)

theorem reads_of_mem {entry : Location × String} {line : Line} (member : entry ∈ program.entries)
    (understood : Line.ofText? entry.2 = some line) :
    program.Reads entry.1.line line ∧ entry.1 = program.location entry.1.line := by
  obtain ⟨⟨number, raw⟩, numbered, rfl⟩ := List.mem_map.mp member
  obtain ⟨index, place, found⟩ := mem_number.mp numbered
  rw [List.getElem?_map, Option.map_eq_some_iff] at found
  obtain ⟨text, found, same⟩ := found
  exact ⟨⟨index, text, place, found, same ▸ understood⟩, rfl⟩

/-- What is read of a line is listed. -/
theorem Reads.listed {number : Nat} {line : Line} (reads : program.Reads number line) :
    Command.lineNumber number ++ ": " ++ line.listing ∈ Command.classification program := by
  obtain ⟨index, raw, rfl, found, understood⟩ := reads
  refine List.mem_filterMap.mpr ⟨(index + 1, String.ofList raw), ?_, ?_⟩
  · refine mem_number.mpr ⟨index, rfl, ?_⟩
    rw [List.getElem?_map, found]
    rfl
  · rw [understood]
    rfl

end Program

namespace Lowering
variable {s : Lowering}

/-! ## What one line reports -/

section Line
variable {entry : Location × String}

theorem findings_none {line : Line} (silent : line.mayReport = false) : s.findings line = [] := by
  cases line with
  | label text | declaration declared | generic text => rfl
  | operation dest left op right | store dest temp => cases silent
  | control flow => cases flow <;> first | rfl | cases silent
  | call made =>
      cases made with
      | param value => rfl
      | call callee count =>
          rw [findings]
          exact if_neg (ne_true_of_eq_false silent)
  | assign dest value => cases value <;> first | rfl | cases silent

theorem printFindings_few (argument : String) : (s.printFindings argument).length ≤ 1 := by
  rw [printFindings]
  split
  · exact Nat.zero_le 1
  · split
    · split <;> exact Nat.le_refl 1
    · split
      · exact Nat.zero_le 1
      · exact Option.length_toList_le

theorem popFindings_few : s.popFindings.length ≤ 1 := by
  rw [popFindings]
  split
  · exact Nat.le_refl 1
  · exact printFindings_few _

theorem storeFindings_few (dest temp : String) : (s.storeFindings dest temp).length ≤ 1 := by
  rw [storeFindings]
  split
  · exact Nat.zero_le 1
  · exact Nat.le_refl 1

/-- Where a line finds two things wrong, they lie apart: that no register can be tested and where
the condition is held, the count of a call and its argument, or the variable of a store and the
register that it is stored from. -/
theorem findings_few (line : Line) : (s.findings line).length ≤ 2 := by
  have both : ∀ {one : Option Finding} {others : List Finding}, others.length ≤ 1 →
      (one.toList ++ others).length ≤ 2 := by
    intro one others few
    rw [List.length_append]
    exact Nat.add_le_add Option.length_toList_le few
  have alone : ∀ {one : Option Finding}, one.toList.length ≤ 2 :=
    Nat.le_succ_of_le Option.length_toList_le
  cases line with
  | label text | declaration declared | generic text => exact Nat.zero_le 2
  | operation dest left op right => exact alone
  | store dest temp => exact both (storeFindings_few dest temp)
  | control flow =>
      cases flow with
      | ifGoto condition target => exact both Option.length_toList_le
      | goto target | leave => exact Nat.zero_le 2
  | call made =>
      cases made with
      | param value => exact Nat.zero_le 2
      | call callee count =>
          rw [findings]
          split
          · exact both popFindings_few
          · exact Nat.zero_le 2
  | assign dest value =>
      cases value with
      | increment name | intOrChar text | float text => exact Nat.zero_le 2
      | «variable» name => exact alone
      | temp source =>
          rw [findings]
          split
          · exact Nat.zero_le 2
          · exact alone

/-- At most two diagnostics, all of them at the place of a line that may report. -/
structure Fits (entry : Location × String) (told : List Diagnostic) : Prop where
  placed : ∀ diagnostic ∈ told, diagnostic.location = entry.1
  few : told.length ≤ 2
  said : told ≠ [] → ∃ line, Line.ofText? entry.2 = some line ∧ line.mayReport = true

theorem Fits.none (entry : Location × String) : Fits entry [] where
  placed := nofun
  few := Nat.zero_le 2
  said := nofun

theorem reported_fits (s : Lowering) (entry : Location × String) :
    Fits entry (s.reported entry) := by
  cases understood : Line.ofText? entry.2 with
  | none =>
      rw [reported_blank understood]
      exact .none entry
  | some line =>
      have early := reported_initial (s := s) understood
      constructor
      · intro diagnostic member
        obtain ⟨finding, -, rfl⟩ := List.mem_map.mp (early.subset member)
        rfl
      · have fewer := early.length_le
        rw [List.length_map] at fewer
        exact Nat.le_trans fewer (findings_few line)
      · intro told
        refine ⟨line, understood, ?_⟩
        cases may : line.mayReport with
        | true => rfl
        | false =>
            -- A line of another kind finds nothing.
            rw [findings_none may] at early
            exact absurd (List.prefix_nil.mp early) told

/-- Only lines that assign fail, each at its place. -/
theorem feed_fails {failure : Failure} (failed : (s.feed entry).2 = some failure) :
    ∃ line cls, Line.ofText? entry.2 = some line ∧ line.dest?.isSome = true ∧
      failure = .ofClass entry.1 cls := by
  cases understood : Line.ofText? entry.2 with
  | none =>
      rw [feed_blank s understood] at failed
      cases failed
  | some line =>
      rw [feed_performs understood] at failed
      obtain ⟨-, cls, -, -, -, -, cause⟩ := perform_stops failed
      refine ⟨line, cls, rfl, ?_, cause⟩
      cases assigns : line.dest? with
      | some dest => rfl
      | none =>
          -- A line that assigns nothing takes no register.
          have plain := List.all_eq_true.mp (script_plain s assigns)
          rw [perform_granted fun cls member => nomatch plain _ member] at failed
          cases failed

end Line

/-! ## What a run of lines reports -/

inductive Spread : List (Location × String) → List Diagnostic → Prop
  | nil : Spread [] []
  | cons {entry : Location × String} {here : List Diagnostic} {rest : List (Location × String)}
      {later : List Diagnostic} (fits : Fits entry here) (onward : Spread rest later) :
      Spread (entry :: rest) (here ++ later)

theorem after_spread (s : Lowering) (history : List (Location × String)) :
    ∃ told, (s.after history).report.diagnostics = s.report.diagnostics ++ told ∧
      Spread history told := by
  induction history generalizing s with
  | nil => exact ⟨[], (List.append_nil _).symm, .nil⟩
  | cons entry rest ih =>
      obtain ⟨later, same, onward⟩ := ih (s.feed entry).1
      refine ⟨s.reported entry ++ later, ?_, .cons (reported_fits s entry) onward⟩
      rw [after, same, feed_diagnostics, List.append_assoc]

section Spread
variable {history : List (Location × String)} {told : List Diagnostic}

namespace Spread

theorem placed (spread : Spread history told) :
    ∀ diagnostic ∈ told, ∃ entry line, entry ∈ history ∧ diagnostic.location = entry.1 ∧
      Line.ofText? entry.2 = some line ∧ line.mayReport = true := by
  induction spread with
  | nil => nofun
  | @cons entry here rest later fits _ ih =>
      intro diagnostic member
      rcases List.mem_append.mp member with first | afterwards
      · obtain ⟨line, understood, may⟩ := fits.said (List.ne_nil_of_mem first)
        exact ⟨entry, line, List.mem_cons_self, fits.placed diagnostic first, understood, may⟩
      · obtain ⟨entry, line, among, found⟩ := ih diagnostic afterwards
        exact ⟨entry, line, List.mem_cons_of_mem _ among, found⟩

/-- Below a line that comes before all others stand the diagnostics of these others. -/
theorem bounded (spread : Spread history told) {number : Nat}
    (first : ∀ entry ∈ history, number < entry.1.line) :
    ∀ diagnostic ∈ told, number < diagnostic.location.line := by
  intro diagnostic member
  obtain ⟨entry, -, among, place, -⟩ := spread.placed diagnostic member
  rw [place]
  exact first entry among

theorem ordered (spread : Spread history told)
    (ascends : history.Pairwise fun first second => first.1.line < second.1.line) :
    told.Pairwise fun first second => first.location.line ≤ second.location.line := by
  induction spread with
  | nil => exact .nil
  | @cons entry here rest later fits onward ih =>
      obtain ⟨first, others⟩ := List.pairwise_cons.mp ascends
      refine List.pairwise_append.mpr ⟨?_, ih others, ?_⟩
      · -- What one line reports is all at one place.
        apply List.pairwise_of_forall_mem_list
        intro one member other also
        exact Nat.le_of_eq (by rw [fits.placed one member, fits.placed other also])
      · intro one member other afterwards
        rw [fits.placed one member]
        exact Nat.le_of_lt (onward.bounded first other afterwards)

theorem count_le (spread : Spread history told)
    (ascends : history.Pairwise fun first second => first.1.line < second.1.line) (number : Nat) :
    told.countP (·.location.line = number) ≤ 2 := by
  induction spread with
  | nil => exact Nat.zero_le 2
  | @cons entry here rest later fits onward ih =>
      obtain ⟨first, others⟩ := List.pairwise_cons.mp ascends
      rw [List.countP_append]
      by_cases same : number = entry.1.line
      · subst same
        -- The lines below stand at other numbers.
        have none : later.countP (·.location.line = entry.1.line) = 0 := by
          apply List.countP_eq_zero.mpr
          intro diagnostic member
          have below := onward.bounded first diagnostic member
          simp only [decide_eq_true_eq]
          omega
        rw [none]
        exact Nat.le_trans List.countP_le_length fits.few
      · have none : here.countP (·.location.line = number) = 0 := by
          apply List.countP_eq_zero.mpr
          intro diagnostic member
          rw [fits.placed diagnostic member, decide_eq_true_eq]
          exact fun there => same there.symm
        rw [none, Nat.zero_add]
        exact ih others

end Spread

end Spread

/-- Reports stand where they belong. Whatever comes of a program, its diagnostics are in the order
of its lines, at most two for each line, and each stands at the number of a line that is listed and
is of a kind that may report. A failure stands at a line that assigns, and no diagnostic stands
below it. -/
theorem reports_in_place (options : Options) (program : Program) :
    let outcome := (start options).program program
    let diagnostics := outcome.1.report.diagnostics
    (diagnostics.map (·.location.line)).Pairwise (· ≤ ·) ∧
      (∀ number, diagnostics.countP (·.location.line = number) ≤ 2) ∧
      (∀ diagnostic ∈ diagnostics, ∃ number line, diagnostic.location = program.location number ∧
        program.Reads number line ∧ line.mayReport = true ∧
        Command.lineNumber number ++ ": " ++ line.listing ∈ Command.classification program) ∧
      ∀ failure, outcome.2 = some failure → ∃ number line cls,
        failure = .ofClass (program.location number) cls ∧ program.Reads number line ∧
        line.dest?.isSome = true ∧
        ∀ diagnostic ∈ diagnostics, diagnostic.location.line ≤ number := by
  intro outcome diagnostics
  obtain ⟨history, early, same, stops⟩ := (start options).numberedLines_ends program program.lines
  obtain ⟨told, report, spread⟩ := after_spread (start options) history
  obtain rfl : diagnostics = told := (congrArg (·.report.diagnostics) same).trans report
  have ascends := program.entries_ascend.sublist early.sublist
  refine ⟨List.pairwise_map.mpr (spread.ordered ascends), spread.count_le ascends, ?_, ?_⟩
  · intro diagnostic member
    obtain ⟨entry, line, among, place, understood, may⟩ := spread.placed diagnostic member
    obtain ⟨reads, here⟩ := Program.reads_of_mem (early.subset among) understood
    exact ⟨entry.1.line, line, place.trans here, reads, may, reads.listed⟩
  · intro failure failed
    obtain ⟨before, entry, rfl, stopped⟩ := stops failure failed
    obtain ⟨line, cls, understood, assigns, cause⟩ := feed_fails stopped
    obtain ⟨reads, here⟩ := Program.reads_of_mem (early.subset List.mem_concat_self) understood
    refine ⟨entry.1.line, line, cls, here ▸ cause, reads, assigns, ?_⟩
    intro diagnostic member
    obtain ⟨reporting, -, among, place, -⟩ := spread.placed diagnostic member
    rw [place]
    -- The line that fails is the last that was looked at.
    rcases List.mem_append.mp among with earlier | last
    · have apart := (List.pairwise_append.mp ascends).2.2
      exact Nat.le_of_lt (apart reporting earlier entry (List.mem_singleton_self entry))
    · obtain rfl := List.mem_singleton.mp last
      exact Nat.le_refl _

example : ((start {}).program ⟨"m", "call print, 2\n\nx = t0\n"⟩).1.report.diagnostics.map
    (·.location.line) = [1, 1, 3, 3] := by
  decide +kernel

end Lowering

end ThreeAddress
