import Mathlib.Data.List.Forall2
import ThreeAddress.Proofs.Lowering.History
import ThreeAddress.Proofs.Lowering.Scripts

/-!
Where lines stand decides nothing but the places in what is reported. Lines that were read are
followed one after the other; blank lines only move the place. Two runs over the same lines at
places that are related end alike, and the places of their diagnostics and failures are related
in the same way.
-/

namespace ThreeAddress

section Moved
variable (Moves : Location → Location → Prop)

def Diagnostic.Moved (first second : Diagnostic) : Prop :=
  Moves first.location second.location ∧ second = { first with location := second.location }

inductive Failure.Moved : Failure → Failure → Prop
  | file (path : Option String) (cause : String) : Moved (.file path cause) (.file path cause)
  | exhausted {first second : Location} (moves : Moves first second) (className : String)
      (limit : Nat) :
      Moved (.exhausted first className limit) (.exhausted second className limit)

def Told (first second : Location × Line) : Prop :=
  Moves first.1 second.1 ∧ second.2 = first.2

end Moved

def Program.saidFrom (program : Program) (lines : List (Nat × String)) :
    List (Location × Line) :=
  lines.filterMap fun line => (Line.ofText? line.2).map (program.location line.1, ·)

def Program.said (program : Program) : List (Location × Line) :=
  program.saidFrom program.lines

theorem Program.saidFrom_blank {raw : String} (program : Program) (number : Nat)
    (rest : List (Nat × String)) (blank : Line.ofText? raw = none) :
    program.saidFrom ((number, raw) :: rest) = program.saidFrom rest := by
  simp [saidFrom, blank]

theorem Program.saidFrom_line {raw : String} {line : Line} (program : Program) (number : Nat)
    (rest : List (Nat × String)) (understood : Line.ofText? raw = some line) :
    program.saidFrom ((number, raw) :: rest) =
      (program.location number, line) :: program.saidFrom rest := by
  simp [saidFrom, understood]

namespace Lowering

def follow (s : Lowering) : List (Location × Line) → Outcome
  | [] => done s
  | (place, line) :: rest =>
      match { s with location := place }.step line with
      | (next, none) => follow next rest
      | (next, some failure) => (next, some failure)

def Elsewhere (s t : Lowering) : Prop :=
  t = { s with location := t.location }

/-- The states differ in the places alone, and these are related; what was reported before both
runs began is the same. -/
structure Displaced (Moves : Location → Location → Prop) (before : List Diagnostic)
    (s t : Lowering) : Prop where
  same : t = { s with report := t.report, location := t.location }
  errors : t.report.errors = s.report.errors
  warnings : t.report.warnings = s.report.warnings
  diagnostics : ∃ first second, s.report.diagnostics = before ++ first ∧
    t.report.diagnostics = before ++ second ∧ List.Forall₂ (Diagnostic.Moved Moves) first second

structure EndDisplaced (Moves : Location → Location → Prop) (before : List Diagnostic)
    (one other : Outcome) : Prop where
  states : Displaced Moves before one.1 other.1
  failure : Option.Rel (Failure.Moved Moves) one.2 other.2

section Displaced
variable {Moves : Location → Location → Prop} {before : List Diagnostic} {s t : Lowering}

namespace Displaced

theorem refl (s : Lowering) : Displaced Moves s.report.diagnostics s s where
  same := rfl
  errors := rfl
  warnings := rfl
  diagnostics := ⟨[], [], (List.append_nil _).symm, (List.append_nil _).symm, .nil⟩

theorem elsewhere (displaced : Displaced Moves before s t) {s' t' : Lowering}
    (left : Elsewhere s s') (right : Elsewhere t t') : Displaced Moves before s' t' := by
  obtain ⟨same, errors, warnings, diagnostics⟩ := displaced
  rw [left, right]
  refine ⟨?_, errors, warnings, diagnostics⟩
  rw [same]

theorem raise (displaced : Displaced Moves before s t) (place : Moves s.location t.location)
    (finding : Finding) : Displaced Moves before (s.raise finding) (t.raise finding) := by
  obtain ⟨same, errors, warnings, first, second, here, there, related⟩ := displaced
  refine ⟨?_, ?_, ?_, first ++ [finding.diagnostic s.location],
    second ++ [finding.diagnostic t.location], ?_, ?_, ?_⟩
  · rw [same]
    rfl
  · exact congrArg (· + _) errors
  · exact congrArg (· + _) warnings
  · rw [← List.append_assoc, ← here]
    rfl
  · rw [← List.append_assoc, ← there]
    rfl
  · exact List.rel_append related (.cons ⟨place, rfl⟩ .nil)

theorem apply (displaced : Displaced Moves before s t) (place : Moves s.location t.location)
    (act : Act) : Displaced Moves before (s.apply act) (t.apply act) := by
  cases act with
  | report finding =>
      cases finding with
      | none => exact displaced
      | some finding => exact displaced.raise place finding
  | comment text =>
      obtain ⟨same, errors, warnings, diagnostics⟩ := displaced
      obtain ⟨report, location, rfl⟩ : ∃ report location, t = { s with report, location } :=
        ⟨_, _, same⟩
      simp only [Lowering.apply, comment]
      split <;> exact ⟨rfl, errors, warnings, diagnostics⟩
  | _ =>
      obtain ⟨same, errors, warnings, diagnostics⟩ := displaced
      obtain ⟨report, location, rfl⟩ : ∃ report location, t = { s with report, location } :=
        ⟨_, _, same⟩
      exact ⟨rfl, errors, warnings, diagnostics⟩

theorem lacks (displaced : Displaced Moves before s t) (act : Act) :
    t.lacks? act = s.lacks? act := by
  rw [displaced.same]
  rfl

theorem script (displaced : Displaced Moves before s t) (line : Line) :
    t.script line = s.script line := by
  rw [displaced.same]
  exact script_elsewhere s s.data s.text t.report t.location line

theorem perform (displaced : Displaced Moves before s t) (place : Moves s.location t.location)
    (acts : List Act) : EndDisplaced Moves before (s.perform acts) (t.perform acts) := by
  -- No act moves the place, so the places stay related.
  have both := perform_related
    (fun s t => Displaced Moves before s t ∧ Moves s.location t.location) id
    (fun _ _ act related => related.1.lacks act)
    (fun s t act related => ⟨related.1.apply related.2 act, by
      rw [id, apply_location, apply_location]
      exact related.2⟩) ⟨displaced, place⟩ acts
  rw [List.map_id] at both
  obtain ⟨⟨states, _⟩, _, full, one, other⟩ := both
  refine ⟨states, ?_⟩
  rw [one, other]
  cases full with
  | none => exact .none
  | some cls => exact .some (.exhausted place cls.name cls.capacity)

theorem step (displaced : Displaced Moves before s t) {first second : Location}
    (place : Moves first second) (line : Line) :
    EndDisplaced Moves before ({ s with location := first }.step line)
      ({ t with location := second }.step line) := by
  have moved : Displaced Moves before { s with location := first } { t with location := second } :=
    displaced.elsewhere rfl rfl
  rw [step_performs, step_performs, moved.script line]
  exact moved.perform place _

/-- Two runs over the same lines at related places. -/
theorem follow {first second : List (Location × Line)}
    (told : List.Forall₂ (Told Moves) first second) (displaced : Displaced Moves before s t) :
    EndDisplaced Moves before (s.follow first) (t.follow second) := by
  induction told generalizing s t with
  | nil => exact ⟨displaced, .none⟩
  | @cons one other _ _ told _ ih =>
      obtain ⟨place, line⟩ := one
      obtain ⟨otherPlace, said⟩ := other
      obtain ⟨moves, same⟩ := told
      obtain rfl : said = line := same
      obtain ⟨states, failure⟩ := displaced.step moves said
      unfold Lowering.follow
      generalize { s with location := place }.step said = here at states failure
      generalize { t with location := otherPlace }.step said = there at states failure
      obtain ⟨next, failed⟩ := here
      obtain ⟨following, alsoFailed⟩ := there
      cases failure with
      | none => exact ih states
      | some related => exact ⟨states, .some related⟩

end Displaced

end Displaced

/-! ## Source lines and the lines read from them -/

/-- A line that says nothing changes at most the place, so it can be left out. -/
theorem numberedLines_follow (program : Program) (lines : List (Nat × String)) {s t : Lowering}
    (elsewhere : Elsewhere s t) :
    (t.follow (program.saidFrom lines)).2 = (s.numberedLines program lines).2 ∧
      Elsewhere (t.follow (program.saidFrom lines)).1 (s.numberedLines program lines).1 := by
  induction lines generalizing s t with
  | nil =>
      refine ⟨rfl, ?_⟩
      change s = { t with location := s.location }
      rw [elsewhere]
  | cons entry rest ih =>
      obtain ⟨number, raw⟩ := entry
      rw [numberedLines_cons]
      cases understood : Line.ofText? raw with
      | none =>
          rw [program.saidFrom_blank number rest understood,
            @feed_blank s (program.location number, raw) understood]
          exact ih (s := { s with location := program.location number }) elsewhere
      | some line =>
          rw [program.saidFrom_line number rest understood,
            @feed_line s (program.location number, raw) line understood]
          -- The place is set before a line is lowered, so the states meet.
          have same : { t with location := program.location number } =
              { s with location := program.location number } := by rw [elsewhere]
          simp only [follow, same]
          generalize { s with location := program.location number }.step line = here
          obtain ⟨next, failed⟩ := here
          cases failed with
          | none => exact ih (s := next) rfl
          | some failure => exact ⟨rfl, rfl⟩

/-- Programs that say the same at related places are lowered alike. -/
theorem numberedLines_displaced {Moves : Location → Location → Prop} (s : Lowering)
    (program other : Program) (lines more : List (Nat × String))
    (told : List.Forall₂ (Told Moves) (program.saidFrom lines) (other.saidFrom more)) :
    EndDisplaced Moves s.report.diagnostics (s.numberedLines program lines)
      (s.numberedLines other more) := by
  have here : Elsewhere s s := rfl
  obtain ⟨failure, states⟩ := numberedLines_follow program lines here
  obtain ⟨otherFailure, otherStates⟩ := numberedLines_follow other more here
  obtain ⟨displaced, related⟩ := (Displaced.refl s).follow told
  exact ⟨displaced.elsewhere states otherStates, failure ▸ otherFailure ▸ related⟩

end Lowering

end ThreeAddress
