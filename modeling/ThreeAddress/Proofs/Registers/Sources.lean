import ThreeAddress.Proofs.Registers.Provenance

/-!
Temporaries that lines take their values from. A line copies a temporary at once and passes one to
a call that may come later. Where each such temporary was assigned by a line above, it is bound
when its line is reached, and still is when the call takes it.
-/

namespace ThreeAddress

def Line.source? : Line → Option String
  | .assign _ (.temp source) => some source
  | .call (.param value) => if isTemp value then some value else none
  | _ => none

/-- What a line copies or passes was assigned before, by a line above it or one of those that
assigned `known`. -/
def SourcesAssigned (known : List String) : List Line → Prop
  | [] => True
  | line :: rest =>
      (∀ temp ∈ line.source?, temp ∈ known) ∧ SourcesAssigned (line.dest?.toList ++ known) rest

def Act.pended? : Act → Option (List String)
  | .pend arguments => some arguments
  | _ => none

namespace Lowering
variable {s : Lowering}

def Bound (s : Lowering) (temp : String) : Prop :=
  (s.registers.holder? temp).isSome = true

theorem apply_pending (s : Lowering) (act : Act) :
    (s.apply act).pending = act.pended?.getD s.pending := by
  cases act with
  | comment text =>
      simp only [Lowering.apply, comment]
      split <;> rfl
  | report finding => cases finding <;> rfl
  | _ => rfl

theorem printScript_pends (s : Lowering) (argument : String) :
    (s.printScript argument).filterMap Act.pended? = [] := by
  unfold printScript
  split
  · rfl
  · split
    · split <;> rfl
    · split <;> rfl

theorem assignScript_pends (s : Lowering) (dest : String) (value : Value) :
    (s.assignScript dest value).filterMap Act.pended? = [] := by
  cases value with
  | temp source =>
      have back : ∀ cls, (s.storeBackScript cls source).filterMap Act.pended? = [] := by
        intro cls
        cases cls <;> rfl
      simp only [assignScript, assignTempScript]
      split
      · rw [List.filterMap_append, back]
        rfl
      · rw [List.filterMap_append, back]
        rfl
  | _ => rfl

/-- Only what a `param` line passes is added to what waits. -/
theorem script_pends (s : Lowering) {line : Line} {arguments : List String}
    (left : arguments ∈ (s.script line).filterMap Act.pended?) :
    ∀ argument ∈ arguments, argument ∈ s.pending ∨ line = .call (.param argument) := by
  cases line with
  | label text | generic text | declaration declared | operation dest first op second => cases left
  | control flow => cases flow <;> cases left
  | assign dest value =>
      rw [script, assignScript_pends] at left
      cases left
  | store dest temp =>
      simp only [script, storeScript] at left
      split at left <;> cases left
  | call made =>
      cases made with
      | param value =>
          obtain rfl := List.mem_singleton.mp left
          intro argument member
          rcases List.mem_cons.mp member with rfl | before
          · exact .inr rfl
          · exact .inl before
      | call callee count =>
          simp only [script, callScript, popScript] at left
          split at left
          · split at left
            · cases left
            · rename_i argument rest waiting
              -- A print takes the argument off and puts none back.
              simp only [List.filterMap_cons, Act.pended?, printScript_pends] at left
              obtain rfl := List.mem_singleton.mp left
              intro other member
              exact .inl (waiting ▸ List.mem_cons_of_mem _ member)
          · cases left

theorem Bound.apply {temp : String} (bound : s.Bound temp) (act : Act) :
    (s.apply act).Bound temp := by
  rw [Bound, apply_holder, Option.isSome_or]
  exact Bool.or_eq_true_iff.mpr (.inr bound)

/-- What is bound stays bound. -/
theorem Bound.step {temp : String} (bound : s.Bound temp) (line : Line) :
    (s.step line).1.Bound temp := by
  rw [step_performs]
  exact perform_keeps (fun t => t.Bound temp) _ (fun act _ _ before => before.apply act) s bound

theorem step_binds {line : Line} {dest : String} (assigns : line.dest? = some dest)
    (succeeded : (s.step line).2 = none) : (s.step line).1.Bound dest := by
  obtain ⟨_, left, _, _, bound, _⟩ := step_settled s assigns succeeded
  rw [Bound, bound]
  rfl

structure Ready (s : Lowering) (known : List String) : Prop where
  known : ∀ temp ∈ known, s.Bound temp
  waiting : ∀ argument ∈ s.pending, Line.isTemp argument = true → s.Bound argument

theorem Ready.step {known : List String} (ready : Ready s known) {line : Line}
    (sources : ∀ temp ∈ line.source?, temp ∈ known) (succeeded : (s.step line).2 = none) :
    Ready (s.step line).1 (line.dest?.toList ++ known) where
  known := by
    intro temp member
    rcases List.mem_append.mp member with assigned | before
    · exact step_binds (Option.mem_toList.mp assigned) succeeded
    · exact (ready.known temp before).step line
  waiting := by
    intro argument member temp
    -- What waits now has waited before, or this line passes it.
    have origin : ∀ argument ∈ (s.step line).1.pending,
        argument ∈ s.pending ∨ line = .call (.param argument) := by
      rw [step_performs]
      refine perform_keeps (fun t => ∀ argument ∈ t.pending,
        argument ∈ s.pending ∨ line = .call (.param argument)) _ ?_ s fun _ before => .inl before
      intro act among t kept
      rw [apply_pending]
      cases pends : act.pended? with
      | none => exact kept
      | some arguments => exact script_pends s (List.mem_filterMap.mpr ⟨act, among, pends⟩)
    rcases origin argument member with before | rfl
    · exact (ready.waiting argument before temp).step line
    · have passed : argument ∈ (Line.call (.param argument)).source? := by
        simp [Line.source?, temp]
      exact (ready.known argument (sources argument passed)).step _

end Lowering

end ThreeAddress
