import ThreeAddress.Proofs.Lowering.Places

/-!
A source that is put together from two at the end of a line is lowered as the first and then the
second from the state that the first has left. Only the lines of the second stand further down.
If the first fails, the second is not looked at.
-/

namespace ThreeAddress

def Location.later (shift : Nat) (location : Location) : Location :=
  { location with line := location.line + shift }

def Diagnostic.later (shift : Nat) (diagnostic : Diagnostic) : Diagnostic :=
  { diagnostic with location := diagnostic.location.later shift }

def Failure.later (shift : Nat) : Failure → Failure
  | .file path cause => .file path cause
  | .exhausted location className limit => .exhausted (location.later shift) className limit

def Down (shift : Nat) (first second : Location) : Prop :=
  second = first.later shift

section Shifts
variable {shift : Nat}

theorem diagnostics_later {first second : List Diagnostic}
    (moved : List.Forall₂ (Diagnostic.Moved (Down shift)) first second) :
    second = first.map (Diagnostic.later shift) := by
  induction moved with
  | nil => rfl
  | cons here _ ih =>
      obtain ⟨place, same⟩ := here
      rw [same, place, ih]
      rfl

theorem failure_later {first second : Option Failure}
    (moved : Option.Rel (Failure.Moved (Down shift)) first second) :
    second = first.map (Failure.later shift) := by
  cases moved with
  | none => rfl
  | some related =>
      cases related with
      | file path cause => rfl
      | exhausted moves className limit =>
          cases moves
          rfl

end Shifts

namespace Program

theorem number_append (start : Nat) (first second : List String) :
    number start (first ++ second) =
      number start first ++ number (start + first.length) second := by
  induction first generalizing start with
  | nil => rfl
  | cons line rest ih =>
      rw [List.cons_append, number, ih, number, List.cons_append, List.length_cons,
        Nat.add_right_comm, Nat.add_assoc]

theorem length_number (start : Nat) (lines : List String) :
    (number start lines).length = lines.length := by
  induction lines generalizing start with
  | nil => rfl
  | cons line rest ih => rw [number, List.length_cons, List.length_cons, ih]

/-- The same lines, numbered from further down. -/
theorem told_down (program other : Program) (sameName : other.name = program.name)
    (shift start : Nat) (lines : List String) :
    List.Forall₂ (Told (Down shift)) (program.saidFrom (number start lines))
      (other.saidFrom (number (start + shift) lines)) := by
  induction lines generalizing start with
  | nil => exact .nil
  | cons raw rest ih =>
      have later := ih (start + 1)
      rw [Nat.add_right_comm] at later
      rw [number, number]
      cases understood : Line.ofText? raw with
      | none =>
          rw [program.saidFrom_blank _ _ understood, other.saidFrom_blank _ _ understood]
          exact later
      | some line =>
          rw [program.saidFrom_line _ _ understood, other.saidFrom_line _ _ understood]
          refine .cons ⟨?_, rfl⟩ later
          simp [Down, location, Location.later, sameName]

/-- The lines of a source that is put together at the end of a line. -/
theorem lines_append (name : String) {first : String} (second : String)
    (closed : Text.LineStartsAfter first.toList) :
    lines ⟨name, first ++ second⟩ =
      lines ⟨name, first⟩ ++ number (1 + (lines ⟨name, first⟩).length)
        ((Text.lines second.toList).map String.ofList) := by
  simp only [lines]
  rw [String.toList_append, Text.lines_append closed, List.map_append, number_append,
    length_number]

end Program

namespace Lowering

/-- Only the name of a program is asked for once its lines are known. -/
theorem numberedLines_name (s : Lowering) (program other : Program)
    (sameName : other.name = program.name) (lines : List (Nat × String)) :
    s.numberedLines other lines = s.numberedLines program lines := by
  induction lines generalizing s with
  | nil => rfl
  | cons entry rest ih =>
      obtain ⟨number, raw⟩ := entry
      have place : other.location number = program.location number := by
        simp [Program.location, sameName]
      rw [numberedLines_cons, numberedLines_cons, place]
      simp only [ih]

theorem numberedLines_append (s : Lowering) (program : Program)
    (first second : List (Nat × String)) :
    s.numberedLines program (first ++ second) =
      match s.numberedLines program first with
      | (next, none) => next.numberedLines program second
      | (next, some failure) => (next, some failure) := by
  induction first generalizing s with
  | nil => rfl
  | cons entry rest ih =>
      obtain ⟨number, raw⟩ := entry
      rw [List.cons_append, numberedLines_cons, numberedLines_cons]
      generalize s.feed (program.location number, raw) = outcome
      obtain ⟨next, failed⟩ := outcome
      cases failed with
      | none => exact ih next
      | some failure => rfl

/-- Lowering two sources that meet at the end of a line, from any state. If the first fails, the
whole fails with it, in the same state. If not, the whole ends as the second does from where the
first has ended: the states agree in all but places, what was reported by then is the same, and
what the second reports, or fails with, stands further down by the lines of the first. -/
theorem program_append (s : Lowering) (name first second : String)
    (closed : Text.LineStartsAfter first.toList) :
    let opening := s.program ⟨name, first⟩
    let whole := s.program ⟨name, first ++ second⟩
    (∀ failure, opening.2 = some failure → whole = opening) ∧
    (opening.2 = none →
      let ending := opening.1.program ⟨name, second⟩
      let shift := (Program.lines ⟨name, first⟩).length
      whole.2 = ending.2.map (Failure.later shift) ∧
      whole.1 = { ending.1 with report := whole.1.report, location := whole.1.location } ∧
      whole.1.report.errors = ending.1.report.errors ∧
      whole.1.report.warnings = ending.1.report.warnings ∧
      ∃ added, ending.1.report.diagnostics = opening.1.report.diagnostics ++ added ∧
        whole.1.report.diagnostics =
          opening.1.report.diagnostics ++ added.map (Diagnostic.later shift)) := by
  intro opening whole
  -- The lines of the whole are those of the first text and, further down, those of the second.
  have split : whole =
      match opening with
      | (next, none) => next.numberedLines ⟨name, first ++ second⟩
          (Program.number (1 + (Program.lines ⟨name, first⟩).length)
            ((Text.lines second.toList).map String.ofList))
      | (next, some failure) => (next, some failure) := by
    have sameName := numberedLines_name s ⟨name, first⟩ ⟨name, first ++ second⟩ rfl
    simp only [whole, opening, program]
    rw [Program.lines_append name second closed, numberedLines_append, sameName]
  -- From here on only the state between the texts matters.
  clear_value whole opening
  subst split
  obtain ⟨next, failed⟩ := opening
  cases failed with
  | some failure => exact ⟨fun _ _ => rfl, nofun⟩
  | none =>
      refine ⟨nofun, fun _ => ?_⟩
      intro ending shift
      obtain ⟨⟨same, errors, warnings, added, moved, here, there, related⟩, failure⟩ :=
        numberedLines_displaced next ⟨name, second⟩ ⟨name, first ++ second⟩ _ _
          (Program.told_down ⟨name, second⟩ ⟨name, first ++ second⟩ rfl shift 1
            ((Text.lines second.toList).map String.ofList))
      refine ⟨failure_later failure, same, errors, warnings, added, here, ?_⟩
      rw [there, diagnostics_later related]

/-- The second source warns on its first line, which is the third of the whole. -/
theorem split_sum_warns_below :
    Text.LineStartsAfter "t0 = 7\n\n".toList ∧
      let whole := (start {}).program ⟨"sum", "t0 = 7\n\n" ++ "t1 = t0 + t0\n"⟩
      whole.2 = none ∧ whole.1.report.diagnostics.map Diagnostic.location = [⟨"sum", 3⟩] := by
  have closed : Text.LineStartsAfter "t0 = 7\n\n".toList := .inr (by decide)
  obtain ⟨_, goesOn⟩ := program_append (start {}) "sum" "t0 = 7\n\n" "t1 = t0 + t0\n" closed
  obtain ⟨outcome, _, _, _, added, ending, whole⟩ := goesOn (by decide +kernel)
  have quiet : ((start {}).program ⟨"sum", "t0 = 7\n\n"⟩).1.report.diagnostics = [] := by
    decide +kernel
  rw [quiet, List.nil_append] at ending whole
  refine ⟨closed, outcome.trans (by decide +kernel), ?_⟩
  rw [whole, ← ending]
  decide +kernel

end Lowering

end ThreeAddress
