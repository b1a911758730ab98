import ThreeAddress.Proofs.Command.Delivery

/-!
Exported diagnostics. They are written last and to any path at all: where that path leads to the
input or to the assembly, they take its place, and the command says nothing of it.
-/

namespace ThreeAddress.Command

def KeepsInput (before after : Disk) (job : Job) : Prop :=
  ∀ place content, before.existing? .reading job.input = some place →
    before.node? place = some (.file content) → after.node? place = some (.file content)

/-- Where the command says that the assembly is, there is the assembly of the input. -/
def SaysTrue (before after : Disk) (job : Job) (result : Result) : Prop :=
  ∀ path, "Assembly written to: " ++ path ∈ result.printed →
    ∃ program lowered, before.program? job.input = some program ∧
      program.lower job.options = .ok lowered ∧ after.read path = .ok (assemblyBytes lowered)

def Harmless (disk : Disk) (job : Job) : Prop :=
  let outcome := (run Disk.access (.translate job)).run disk
  KeepsInput disk outcome.2 job ∧ SaysTrue disk outcome.2 job outcome.1

/-- The diagnostics of a job that delivers go where its assembly went, or to the input, which holds
something else. -/
structure Clobbers (disk : Disk) (job : Job) (place : Place) (lowered : Lowered) (target : Place) :
    Prop where
  delivers : Delivers disk job place lowered
  slot : job.diagnostics.bind disk.slot? = some target
  replaces : target = place ∨ ∃ content, disk.existing? .reading job.input = some target ∧
    disk.node? target = some (.file content) ∧ content ≠ exportBytes job lowered

def Spares (disk : Disk) (job : Job) (place : Place) (content : ByteArray) : Prop :=
  ∀ old, disk.existing? .reading job.input = some place →
    disk.node? place = some (.file old) → old = content

section Texts

theorem json_opens (report : Report) (input : String) :
    (report.json input).text.toList.head? = some '\x7b' := by
  simp [Report.json, Json.text, Json.render, Json.renderFields, Json.bracketed]

/-- Diagnostics never look like an assembly. -/
theorem export_differs (job : Job) (lowered : Lowered) :
    exportBytes job lowered ≠ assemblyBytes lowered := by
  intro same
  have opens := json_opens lowered.report job.input
  rw [String.toByteArray_inj.mp same, render_opens] at opens
  cases opens

theorem conclude_printed (job : Job) (messages : List Message) (report : Report) :
    (conclude job messages report).printed = ["Assembly written to: " ++ job.outputPath] := by
  unfold conclude
  split <;> rfl

/-- The path in what is printed is that of the output. -/
theorem said_path {job : Job} {messages : List Message} {report : Report} {path : String}
    (said : "Assembly written to: " ++ path ∈ (conclude job messages report).printed) :
    path = job.outputPath := by
  rw [conclude_printed, List.mem_singleton] at said
  exact (String.append_right_inj _).mp said

theorem says_output (job : Job) (messages : List Message) (report : Report) :
    "Assembly written to: " ++ job.outputPath ∈ (conclude job messages report).printed := by
  rw [conclude_printed]
  exact List.mem_singleton_self _

end Texts

section Jobs
variable {disk : Disk} {job : Job} {place : Place} {lowered : Lowered}

/-- A job delivers at most one assembly. -/
theorem Delivers.unique (delivers : Delivers disk job place lowered) {other : Place}
    {also : Lowered} (again : Delivers disk job other also) : other = place ∧ also = lowered := by
  obtain ⟨program, loads, lowers⟩ := delivers.lowers
  obtain ⟨same, loadsSame, lowersAlso⟩ := again.lowers
  cases loads.symm.trans loadsSame
  cases lowers.symm.trans lowersAlso
  exact ⟨Option.some.inj (again.slot.symm.trans delivers.slot), rfl⟩

theorem says_nothing (after : Disk) {result : Result} (abandoned : result.Abandoned) :
    SaysTrue disk after job result := by
  intro path said
  rw [abandoned.printed] at said
  cases said

theorem keeps_fill_iff (fillable : disk.Fillable place) (content : ByteArray) :
    KeepsInput disk (disk.fill place content) job ↔ Spares disk job place content := by
  constructor
  · intro keeps old input held
    have kept := keeps place old input held
    rw [Disk.node?_fill_self fillable.other] at kept
    cases kept
    rfl
  · intro spares spot old input held
    rw [Disk.node?_fill fillable.other]
    split
    · rename_i here
      subst here
      rw [spares old input held]
    · exact held

theorem Delivers.saysTrue_iff (delivers : Delivers disk job place lowered)
    (messages : List Message) {after : Disk} (slot : after.slot? job.outputPath = some place)
    {content : ByteArray} (held : after.node? place = some (.file content)) :
    SaysTrue disk after job (conclude job messages lowered.report) ↔
      content = assemblyBytes lowered := by
  have reads := Disk.read_slot slot held
  obtain ⟨program, loads, lowers⟩ := delivers.lowers
  constructor
  · intro truthful
    obtain ⟨same, also, loadsSame, lowersAlso, read⟩ := truthful _ (says_output job messages _)
    cases loads.symm.trans loadsSame
    cases lowers.symm.trans lowersAlso
    exact Except.ok.inj (reads.symm.trans read)
  · rintro rfl path said
    rw [said_path said]
    exact ⟨program, lowered, loads, lowers, reads⟩

/-! ## A second write -/

section Exported
variable {target : Place}

theorem keeps_twice_iff (fillable : disk.Fillable place) {first : ByteArray}
    (free : (disk.fill place first).Fillable target) (second : ByteArray)
    (elsewhere : target ≠ place) :
    KeepsInput disk ((disk.fill place first).fill target second) job ↔
      Spares disk job place first ∧ Spares disk job target second := by
  have node := Disk.node?_fill fillable.other first
  have last := Disk.node?_fill free.other second
  constructor
  · -- Each of the two places is written once, so neither write hides what the other did.
    intro keeps
    refine ⟨fun old input held => ?_, fun old input held => ?_⟩
    · have kept := keeps place old input held
      rw [last, if_neg elsewhere, node, if_pos rfl] at kept
      cases kept
      rfl
    · have kept := keeps target old input held
      rw [last, if_pos rfl] at kept
      cases kept
      rfl
  · rintro ⟨spared, spares⟩ spot old input held
    rw [last, node]
    split
    · rename_i here
      subst here
      rw [spares old input held]
    · split
      · rename_i here
        subst here
        rw [spared old input held]
      · exact held

theorem Delivers.saysTrue_export_iff (delivers : Delivers disk job place lowered)
    (messages : List Message) (fillable : disk.Fillable place)
    (free : (disk.fill place (assemblyBytes lowered)).Fillable target) :
    SaysTrue disk
        ((disk.fill place (assemblyBytes lowered)).fill target (exportBytes job lowered)) job
        (conclude job messages lowered.report) ↔ target ≠ place := by
  -- after both writes the output path still leads to its place, so what counts is what is there
  have slot := (Disk.slot?_fill free (exportBytes job lowered) job.outputPath).trans
    ((Disk.slot?_fill fillable (assemblyBytes lowered) job.outputPath).trans delivers.slot)
  have node := Disk.node?_fill free.other (exportBytes job lowered) place
  by_cases here : target = place
  · rw [if_pos here] at node
    rw [delivers.saysTrue_iff messages slot node]
    exact iff_of_false (export_differs job lowered) (not_not_intro here)
  · rw [if_neg here, Disk.node?_fill_self fillable.other] at node
    rw [delivers.saysTrue_iff messages slot node]
    exact iff_of_true rfl here

theorem Delivers.unclobbered_iff (delivers : Delivers disk job place lowered)
    (slot : job.diagnostics.bind disk.slot? = some target) :
    (∀ place lowered target, ¬ Clobbers disk job place lowered target) ↔
      Spares disk job target (exportBytes job lowered) ∧ target ≠ place := by
  constructor
  · intro harmless
    have spares := fun replaces => harmless place lowered target ⟨delivers, slot, replaces⟩
    refine ⟨fun content input held => ?_, fun here => spares (.inl here)⟩
    exact Decidable.byContradiction fun other =>
      spares (.inr ⟨content, input, held, other⟩)
  · rintro ⟨spares, elsewhere⟩ other also spot ⟨again, sameSlot, replaces⟩
    obtain ⟨rfl, rfl⟩ := delivers.unique again
    cases slot.symm.trans sameSlot
    rcases replaces with here | ⟨content, input, held, different⟩
    · exact elsewhere here
    · exact different (spares content input held)

end Exported

section Runs

/-- An assembly that goes to the input leaves it as it was only if it is what the input holds. -/
theorem Delivers.spares_iff (delivers : Delivers disk job place lowered) (tree : disk.IsTree) :
    (∀ place lowered, Overwrites disk job place lowered →
        disk.node? place = some (.file (assemblyBytes lowered))) ↔
      Spares disk job place (assemblyBytes lowered) := by
  constructor
  · intro same old input held
    have there := same place lowered (delivers.overwrites input)
    cases held.symm.trans there
    rfl
  · intro spares other also overwrites
    obtain ⟨rfl, rfl⟩ := delivers.unique (overwrites.delivers tree)
    obtain ⟨program, loads, -⟩ := overwrites.lowers
    obtain ⟨content, held⟩ := program?_held loads overwrites.input
    rw [held, spares content overwrites.input held]

/-- Without an export, what a job does to its input is what its assembly does. -/
theorem Delivers.unexported_harmless_iff (delivers : Delivers disk job place lowered)
    (fillable : disk.Fillable place) (slot : job.diagnostics.bind disk.slot? = none) :
    Harmless disk job ↔ Spares disk job place (assemblyBytes lowered) := by
  have spared : KeepsInput disk (disk.fill place (assemblyBytes lowered)) job ↔
      Spares disk job place (assemblyBytes lowered) := keeps_fill_iff fillable _
  unfold Harmless
  cases wanted : job.diagnostics with
  | none =>
      obtain ⟨messages, ran⟩ := run_exported delivers (by rw [exported?, wanted])
      have output :=
        (Disk.slot?_fill fillable (assemblyBytes lowered) job.outputPath).trans delivers.slot
      have node := Disk.node?_fill_self fillable.other (assemblyBytes lowered)
      rw [ran]
      exact (and_iff_left ((delivers.saysTrue_iff messages output node).mpr rfl)).trans spared
  | some path =>
      rw [wanted] at slot
      -- The path of the export is refused after the write as it was before.
      have again := (Disk.slot?_fill fillable (assemblyBytes lowered) path).trans slot
      obtain ⟨result, ran, abandoned⟩ :=
        abandons_unexported delivers (by rw [exported?_wanted wanted, again]; rfl)
      rw [ran]
      exact (and_iff_left (says_nothing _ abandoned)).trans spared

theorem Delivers.exported_harmless_iff (delivers : Delivers disk job place lowered)
    (tree : disk.IsTree) {target : Place} (slot : job.diagnostics.bind disk.slot? = some target) :
    Harmless disk job ↔ Spares disk job place (assemblyBytes lowered) ∧
      Spares disk job target (exportBytes job lowered) ∧ target ≠ place := by
  have fillable := tree.fillable delivers.slot
  -- the assembly is written first, which leaves all other paths where they led
  obtain ⟨path, wanted, leads⟩ := Option.bind_eq_some_iff.mp slot
  have again := (Disk.slot?_fill fillable (assemblyBytes lowered) path).trans leads
  have free := (tree.fill delivers.slot (assemblyBytes lowered)).fillable again
  obtain ⟨messages, ran⟩ :=
    run_exported delivers (by rw [exported?_wanted wanted, again]; rfl)
  rw [Harmless, ran, delivers.saysTrue_export_iff messages fillable free, ← and_assoc]
  exact and_congr_left fun elsewhere => keeps_twice_iff fillable free _ elsewhere

theorem undelivered_harmless (undelivered : ∀ place lowered, ¬ Delivers disk job place lowered) :
    Harmless disk job := by
  obtain ⟨result, ran, abandoned⟩ := abandons_undelivered undelivered
  rw [Harmless, ran]
  exact ⟨fun _ _ _ held => held, says_nothing _ abandoned⟩

end Runs

end Jobs

/-- A run keeps its input and says the truth about its output unless its assembly goes to the input,
which does not hold just that, or it exports diagnostics to where the assembly goes, or to an input
that does not already hold just them. -/
theorem exports_harmless_iff (disk : Disk) (tree : disk.IsTree) (job : Job) :
    Harmless disk job ↔
      (∀ place lowered, Overwrites disk job place lowered →
        disk.node? place = some (.file (assemblyBytes lowered))) ∧
      ∀ place lowered target, ¬ Clobbers disk job place lowered target := by
  by_cases delivered : ∃ place lowered, Delivers disk job place lowered
  · obtain ⟨place, lowered, delivers⟩ := delivered
    rw [delivers.spares_iff tree]
    cases slot : job.diagnostics.bind disk.slot? with
    | some target =>
        rw [delivers.exported_harmless_iff tree slot, delivers.unclobbered_iff slot]
    | none =>
        rw [delivers.unexported_harmless_iff (tree.fillable delivers.slot) slot]
        refine (and_iff_left ?_).symm
        rintro _ _ _ ⟨-, other, -⟩
        cases slot.symm.trans other
  · have undelivered : ∀ place lowered, ¬ Delivers disk job place lowered :=
      fun place lowered delivers => delivered ⟨place, lowered, delivers⟩
    refine iff_of_true (undelivered_harmless undelivered) ⟨?_, ?_⟩
    · exact fun place lowered overwrites =>
        absurd (overwrites.delivers tree) (undelivered place lowered)
    · exact fun place lowered _ clobbers => undelivered place lowered clobbers.delivers

/-! ## One program on a disk -/

def programDisk : Disk where
  nodes := ⟨[(["prog.3ac"], .file "return\n".toUTF8)]⟩

def exportJob (path : String) : Job where
  input := "prog.3ac"
  diagnostics := some path

theorem programDisk_tree : programDisk.IsTree :=
  .of_entries rfl (by decide +kernel)

theorem exportJob_delivers (path : String) :
    ∃ lowered, Delivers programDisk (exportJob path) ["prog.asm"] lowered := by
  have output : (exportJob path).outputPath = "prog.asm" := by
    simp only [Job.outputPath, exportJob, Option.getD_none]
    decide +kernel
  obtain ⟨lowered, lowers⟩ :=
    ((⟨"prog.3ac", "return\n"⟩ : Program).lower_succeeds_iff {}).mpr (by decide +kernel)
  have apart : programDisk.sameFile "prog.3ac" "prog.asm" = false := by decide +kernel
  have loads : programDisk.program? "prog.3ac" = some ⟨"prog.3ac", "return\n"⟩ := by
    decide +kernel
  have slot : programDisk.slot? "prog.asm" = some ["prog.asm"] := by decide +kernel
  refine ⟨lowered, ?_, ⟨_, loads, lowers⟩, ?_⟩
  · rw [output]
    exact apart
  · rw [output]
    exact slot

/-- Diagnostics that go to a file of their own do no harm. -/
theorem export_beside_harmless :
    programDisk.IsTree ∧ Harmless programDisk (exportJob "prog.json") := by
  refine ⟨programDisk_tree, (exports_harmless_iff programDisk programDisk_tree _).mpr ⟨?_, ?_⟩⟩
  · intro place lowered overwrites
    obtain ⟨other, delivered⟩ := exportJob_delivers "prog.json"
    have here := (delivered.unique (overwrites.delivers programDisk_tree)).1
    have input : programDisk.existing? .reading "prog.3ac" = some ["prog.3ac"] := by
      decide +kernel
    cases input.symm.trans overwrites.input
    exact absurd here (by decide)
  · rintro place lowered target ⟨delivers, slot, replaces⟩
    have leads : programDisk.slot? "prog.json" = some ["prog.json"] := by decide +kernel
    cases leads.symm.trans slot
    obtain ⟨other, delivered⟩ := exportJob_delivers "prog.json"
    rcases replaces with here | ⟨content, -, held, -⟩
    · exact absurd (here.trans (delivered.unique delivers).1) (by decide)
    · have free : (programDisk.node? ["prog.json"]).isNone := by decide +kernel
      rw [held] at free
      cases free

/-- Diagnostics that go to the input or to the output replace what is there. -/
theorem exports_replace :
    programDisk.IsTree ∧ ¬ Harmless programDisk (exportJob "prog.3ac") ∧
      ¬ Harmless programDisk (exportJob "prog.asm") := by
  refine ⟨programDisk_tree, fun harmless => ?_, fun harmless => ?_⟩
  · obtain ⟨lowered, delivers⟩ := exportJob_delivers "prog.3ac"
    have leads : programDisk.slot? "prog.3ac" = some ["prog.3ac"] := by decide +kernel
    have input : programDisk.existing? .reading "prog.3ac" = some ["prog.3ac"] := by
      decide +kernel
    have spares := ((delivers.exported_harmless_iff programDisk_tree leads).mp harmless).2.1
    have opens := json_opens lowered.report (exportJob "prog.3ac").input
    rw [← String.toByteArray_inj.mp (spares _ input rfl)] at opens
    revert opens
    decide
  · obtain ⟨lowered, delivers⟩ := exportJob_delivers "prog.asm"
    have leads : programDisk.slot? "prog.asm" = some ["prog.asm"] := by decide +kernel
    exact ((delivers.exported_harmless_iff programDisk_tree leads).mp harmless).2.2 rfl

end ThreeAddress.Command
