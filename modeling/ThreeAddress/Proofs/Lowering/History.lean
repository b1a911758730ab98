import ThreeAddress.Lowering.Run

/-!
Histories: lines that are lowered one after the other from one state, each with the place it is
said to come from. A line that fails does not end a history; the lines after it go on from the
state it left. Lowering a program is a history that ends at the first failure.
-/

namespace ThreeAddress

def Program.entriesFrom (program : Program) (lines : List (Nat × String)) :
    List (Location × String) :=
  lines.map fun line => (program.location line.1, line.2)

theorem Program.entriesFrom_cons (program : Program) (number : Nat) (raw : String)
    (rest : List (Nat × String)) :
    program.entriesFrom ((number, raw) :: rest) =
      (program.location number, raw) :: program.entriesFrom rest := rfl

theorem Program.mem_number {start : Nat} {lines : List String} {numbered : Nat × String} :
    numbered ∈ number start lines ↔
      ∃ index, numbered.1 = index + start ∧ lines[index]? = some numbered.2 := by
  induction lines generalizing start with
  | nil => simp [number]
  | cons line rest ih =>
      obtain ⟨place, raw⟩ := numbered
      rw [number, List.mem_cons, ih]
      constructor
      · rintro (first | ⟨index, later, found⟩)
        · cases first
          exact ⟨0, (Nat.zero_add _).symm, rfl⟩
        · exact ⟨index + 1, by omega, found⟩
      · rintro ⟨_ | index, later, found⟩
        · left
          cases found
          exact Prod.ext (later.trans (Nat.zero_add _)) rfl
        · exact .inr ⟨index, by omega, found⟩

def Program.entries (program : Program) : List (Location × String) :=
  program.entriesFrom program.lines

namespace Lowering

def feed (s : Lowering) (entry : Location × String) : Outcome :=
  line { s with location := entry.1 } entry.2

theorem feed_line (s : Lowering) {entry : Location × String} {line : Line}
    (understood : Line.ofText? entry.2 = some line) :
    s.feed entry = { s with location := entry.1 }.step line := by
  simp [feed, Lowering.line, understood]

theorem feed_blank (s : Lowering) {entry : Location × String}
    (blank : Line.ofText? entry.2 = none) :
    s.feed entry = done { s with location := entry.1 } := by
  simp [feed, Lowering.line, blank]

def after (s : Lowering) : List (Location × String) → Lowering
  | [] => s
  | entry :: rest => after (s.feed entry).1 rest

theorem after_append (s : Lowering) (first second : List (Location × String)) :
    s.after (first ++ second) = (s.after first).after second := by
  induction first generalizing s with
  | nil => rfl
  | cons entry rest ih => exact ih (s.feed entry).1

/-- What one line keeps, a whole history keeps. -/
theorem after_keeps (Kept : Lowering → Prop)
    (kept : ∀ s entry, Kept s → Kept (s.feed entry).1) (s : Lowering) (start : Kept s)
    (history : List (Location × String)) : Kept (s.after history) := by
  induction history generalizing s with
  | nil => exact start
  | cons entry rest ih => exact ih (s.feed entry).1 (kept s entry start)

theorem numberedLines_cons (s : Lowering) (program : Program) (number : Nat) (raw : String)
    (rest : List (Nat × String)) :
    s.numberedLines program ((number, raw) :: rest) =
      match s.feed (program.location number, raw) with
      | (next, none) => next.numberedLines program rest
      | (next, some failure) => (next, some failure) := rfl

/-- A program is lowered as a history of its lines, those after a failure left out. If it fails, it
is the last line of the history that fails. -/
theorem numberedLines_ends (s : Lowering) (program : Program) (lines : List (Nat × String)) :
    ∃ history, history <+: program.entriesFrom lines ∧
      (s.numberedLines program lines).1 = s.after history ∧
      ∀ failure, (s.numberedLines program lines).2 = some failure →
        ∃ before entry, history = before ++ [entry] ∧
          ((s.after before).feed entry).2 = some failure := by
  induction lines generalizing s with
  | nil => exact ⟨[], List.nil_prefix, rfl, nofun⟩
  | cons entry rest ih =>
      obtain ⟨number, raw⟩ := entry
      rw [numberedLines_cons]
      cases fed : s.feed (program.location number, raw) with
      | mk next outcome =>
          cases outcome with
          | none =>
              -- The line is accepted, so the history goes on behind it.
              obtain ⟨history, early, same, stops⟩ := ih next
              refine ⟨_ :: history, (List.prefix_cons_inj _).mpr early, ?_, ?_⟩
              · rw [after, fed]
                exact same
              · intro failure failed
                obtain ⟨before, last, rfl, stopped⟩ := stops failure failed
                refine ⟨(program.location number, raw) :: before, last, rfl, ?_⟩
                rw [after, fed]
                exact stopped
          | some failure =>
              refine ⟨[(program.location number, raw)], ?_, ?_, ?_⟩
              · exact (List.prefix_cons_inj _).mpr List.nil_prefix
              · rw [after, fed]
                rfl
              · intro cause failed
                cases failed
                exact ⟨[], _, rfl, congrArg Prod.snd fed⟩

theorem numberedLines_history (s : Lowering) (program : Program) (lines : List (Nat × String)) :
    ∃ history, history <+: program.entriesFrom lines ∧
      (s.numberedLines program lines).1 = s.after history := by
  obtain ⟨history, early, same, -⟩ := s.numberedLines_ends program lines
  exact ⟨history, early, same⟩

section Pairs
variable (Related : Lowering → Lowering → Prop)
  (kept : ∀ s t entry, Related s t →
    (t.feed entry).2 = (s.feed entry).2 ∧ Related (s.feed entry).1 (t.feed entry).1)

include kept

/-- What each line keeps between two states, a whole history keeps between them. -/
theorem after_related {s t : Lowering} (related : Related s t)
    (history : List (Location × String)) : Related (s.after history) (t.after history) := by
  induction history generalizing s t with
  | nil => exact related
  | cons entry rest ih => exact ih (kept s t entry related).2

theorem numberedLines_related {s t : Lowering} (related : Related s t) (program : Program)
    (lines : List (Nat × String)) :
    (t.numberedLines program lines).2 = (s.numberedLines program lines).2 ∧
      Related (s.numberedLines program lines).1 (t.numberedLines program lines).1 := by
  induction lines generalizing s t with
  | nil => exact ⟨rfl, related⟩
  | cons entry rest ih =>
      obtain ⟨number, raw⟩ := entry
      obtain ⟨same, later⟩ := kept s t (program.location number, raw) related
      rw [numberedLines_cons, numberedLines_cons]
      generalize s.feed (program.location number, raw) = one at same later
      generalize t.feed (program.location number, raw) = other at same later
      obtain ⟨next, outcome⟩ := one
      obtain ⟨following, _⟩ := other
      cases same
      cases outcome with
      | none => exact ih later
      | some failure => exact ⟨rfl, later⟩

end Pairs

def Succeeds (s : Lowering) : List (Location × String) → Prop
  | [] => True
  | entry :: rest => (s.feed entry).2 = none ∧ Succeeds (s.feed entry).1 rest

theorem numberedLines_succeeds (s final : Lowering) (program : Program)
    (lines : List (Nat × String)) (ran : s.numberedLines program lines = (final, none)) :
    s.Succeeds (program.entriesFrom lines) ∧ s.after (program.entriesFrom lines) = final := by
  induction lines generalizing s with
  | nil =>
      simp only [numberedLines, done, Prod.mk.injEq, and_true] at ran
      exact ⟨trivial, ran⟩
  | cons entry rest ih =>
      obtain ⟨number, raw⟩ := entry
      rw [numberedLines_cons] at ran
      rw [Program.entriesFrom_cons, Succeeds, after]
      generalize s.feed (program.location number, raw) = outcome at ran ⊢
      obtain ⟨next, failed⟩ := outcome
      cases failed with
      | none =>
          obtain ⟨succeeds, same⟩ := ih next ran
          exact ⟨⟨rfl, succeeds⟩, same⟩
      | some failure => cases ran

end Lowering

theorem Program.lower_ok {program : Program} {options : Options} {lowered : Lowered}
    (accepted : program.lower options = .ok lowered) :
    ∃ final, (Lowering.start options).numberedLines program program.lines = (final, none) ∧
      lowered.assembly.text = final.text := by
  unfold Program.lower at accepted
  split at accepted
  · rename_i final outcome
    cases accepted
    exact ⟨final, outcome, rfl⟩
  · cases accepted

theorem Program.lower_final {program : Program} {options : Options} {lowered : Lowered}
    (accepted : program.lower options = .ok lowered) :
    lowered.assembly = ((Lowering.start options).program program).1.assembly := by
  unfold Program.lower at accepted
  split at accepted
  · rename_i final ended
    cases accepted
    rw [ended]
  · cases accepted

theorem Program.lower_succeeds_iff (program : Program) (options : Options) :
    (∃ lowered, program.lower options = .ok lowered) ↔
      ((Lowering.start options).program program).2 = none := by
  unfold Program.lower
  cases (Lowering.start options).program program with
  | mk final outcome => cases outcome <;> simp

end ThreeAddress
