import ThreeAddress.Command.Run
import ThreeAddress.Proofs.Files.Parents
import ThreeAddress.Proofs.Lowering.Steps

/-!
What a command that writes an assembly leaves on the disk. The assembly goes to one place, which is
not that of the input as long as both paths have a name; a command that stops before it has written
leaves all as it is.
-/

namespace ThreeAddress.Command

/-- Everything that has to hold for the assembly to be written: the job is not refused, there is a
program that is lowered to its end, and the output path can be written to. -/
structure Delivers (disk : Disk) (job : Job) (place : Place) (lowered : Lowered) : Prop where
  apart : disk.sameFile job.input job.outputPath = false
  lowers : ∃ program, disk.program? job.input = some program ∧
    program.lower job.options = .ok lowered
  slot : disk.slot? job.outputPath = some place

def assemblyBytes (lowered : Lowered) : ByteArray :=
  lowered.assembly.render.toUTF8

def exportBytes (job : Job) (lowered : Lowered) : ByteArray :=
  (lowered.report.json job.input).text.toUTF8

def exported? (disk : Disk) (job : Job) (lowered : Lowered) : Option Disk :=
  match job.diagnostics with
  | none => some disk
  | some path => (disk.slot? path).map fun target => disk.fill target (exportBytes job lowered)

theorem exported?_wanted {job : Job} {path : String} (wanted : job.diagnostics = some path)
    (disk : Disk) (lowered : Lowered) : exported? disk job lowered =
      (disk.slot? path).map fun target => disk.fill target (exportBytes job lowered) := by
  simp only [exported?, wanted]

structure Result.Abandoned (result : Result) : Prop where
  printed : result.printed = []
  code : result.code = 1

def Abandons (command : StateM Disk Result) (disk after : Disk) : Prop :=
  ∃ result, command.run disk = (result, after) ∧ result.Abandoned

theorem abandons_failed (messages : List Message) (what input cause : String) (disk : Disk) :
    Abandons (pure (.failed messages what input cause [])) disk disk :=
  ⟨_, rfl, rfl, rfl⟩

theorem abandons_bind {α : Type} {operation : StateM Disk α} {next : α → StateM Disk Result}
    {disk middle after : Disk} {result : α} (ran : operation.run disk = (result, middle))
    (later : Abandons (next result) middle after) : Abandons (operation >>= next) disk after := by
  obtain ⟨last, ended, abandoned⟩ := later
  exact ⟨last, (Disk.run_bind ran).trans ended, abandoned⟩

section Runs
variable {disk : Disk} {job : Job}

theorem abandons_refused (same : disk.sameFile job.input job.outputPath = true) :
    Abandons (run Disk.access (.translate job)) disk disk := by
  apply abandons_bind (disk.isSameFile_run job.input job.outputPath)
  rw [same]
  exact abandons_failed _ _ _ _ disk

theorem abandons_unloaded (apart : disk.sameFile job.input job.outputPath = false)
    (unloaded : disk.program? job.input = none) :
    Abandons (run Disk.access (.translate job)) disk disk := by
  obtain ⟨loaded, ran, nothing⟩ := disk.load_run job.input
  rw [unloaded] at nothing
  apply abandons_bind (disk.isSameFile_run job.input job.outputPath)
  rw [apart]
  apply abandons_bind ran
  cases loaded with
  | ok program => cases nothing
  | error failure => exact abandons_failed _ _ _ _ disk

theorem run_loaded {program : Program}
    (apart : disk.sameFile job.input job.outputPath = false)
    (loads : disk.program? job.input = some program) :
    (run Disk.access (.translate job)).run disk =
      (translateTo Disk.access job program).run disk := by
  obtain ⟨loaded, ran, found⟩ := disk.load_run job.input
  rw [loads] at found
  cases loaded with
  | error failure => cases found
  | ok other =>
      cases found
      unfold run runTranslate
      rw [Disk.run_bind (disk.isSameFile_run job.input job.outputPath), apart]
      simp only [Bool.false_eq_true, ↓reduceIte]
      rw [Disk.run_bind ran]

theorem exported_run {program : Program} {lowered : Lowered} {after : Disk}
    (named : program.name = job.input) (exported : exported? disk job lowered = some after) :
    ∃ messages, (exportDiagnostics Disk.access job program lowered.report).run disk =
      (.ok messages, after) := by
  unfold exportDiagnostics
  cases wanted : job.diagnostics with
  | none =>
      rw [exported?, wanted] at exported
      cases exported
      exact ⟨[], rfl⟩
  | some path =>
      rw [exported?_wanted wanted] at exported
      obtain ⟨target, slot, rfl⟩ := Option.map_eq_some_iff.mp exported
      rw [exportBytes, ← named]
      exact ⟨_, Disk.run_bind (disk.writeText_slot slot _)⟩

theorem unexported_run (program : Program) {lowered : Lowered}
    (unexported : exported? disk job lowered = none) :
    ∃ fault, (exportDiagnostics Disk.access job program lowered.report).run disk =
      (.error fault, disk) := by
  unfold exportDiagnostics
  cases wanted : job.diagnostics with
  | none =>
      rw [exported?, wanted] at unexported
      cases unexported
  | some path =>
      rw [exported?_wanted wanted] at unexported
      have slot := Option.map_eq_none_iff.mp unexported
      obtain ⟨fault, refused⟩ :=
        disk.writeText_no_slot slot (lowered.report.json program.name).text
      exact ⟨fault, Disk.run_bind refused⟩

theorem program?_name {path : String} {program : Program}
    (loads : disk.program? path = some program) : program.name = path := by
  unfold Disk.program? at loads
  split at loads
  · obtain ⟨source, -, rfl⟩ := Option.map_eq_some_iff.mp loads
    rfl
  · cases loads

section Delivers
variable {place : Place} {lowered : Lowered} (delivers : Delivers disk job place lowered)
include delivers

theorem run_saves : ∃ program, program.name = job.input ∧
    program.lower job.options = .ok lowered ∧
    (run Disk.access (.translate job)).run disk =
      (translateTo Disk.access job program).run disk ∧
    (Disk.access.save job.outputPath lowered.assembly.render).run disk =
      (.ok (), disk.fill place (assemblyBytes lowered)) := by
  obtain ⟨apart, ⟨program, loads, lowers⟩, slot⟩ := delivers
  exact ⟨program, program?_name loads, lowers, run_loaded apart loads, disk.save_slot slot _⟩

/-- A job whose assembly is written ends with the export of the diagnostics. -/
theorem run_exported {after : Disk}
    (exported : exported? (disk.fill place (assemblyBytes lowered)) job lowered = some after) :
    ∃ messages, (run Disk.access (.translate job)).run disk =
      (conclude job messages lowered.report, after) := by
  obtain ⟨program, named, lowers, ran, saved⟩ := run_saves delivers
  obtain ⟨messages, ended⟩ := exported_run named exported
  rw [ran]
  unfold translateTo
  simp only [lowers]
  exact ⟨_, (Disk.run_bind saved).trans (Disk.run_bind ended)⟩

theorem abandons_unexported
    (unexported : exported? (disk.fill place (assemblyBytes lowered)) job lowered = none) :
    Abandons (run Disk.access (.translate job)) disk
      (disk.fill place (assemblyBytes lowered)) := by
  obtain ⟨program, -, lowers, ran, saved⟩ := run_saves delivers
  obtain ⟨fault, ended⟩ := unexported_run program unexported
  unfold Abandons
  rw [ran]
  unfold translateTo
  simp only [lowers]
  exact abandons_bind saved (abandons_bind ended (abandons_failed _ _ _ _ _))

end Delivers

theorem abandons_undelivered
    (undelivered : ∀ place lowered, ¬ Delivers disk job place lowered) :
    Abandons (run Disk.access (.translate job)) disk disk := by
  cases same : disk.sameFile job.input job.outputPath with
  | true => exact abandons_refused same
  | false =>
      cases loads : disk.program? job.input with
      | none => exact abandons_unloaded same loads
      | some program =>
          unfold Abandons
          rw [run_loaded same loads]
          unfold translateTo
          cases lowers : program.lower job.options with
          | error failure => exact abandons_failed _ _ _ _ disk
          | ok lowered =>
              cases slot : disk.slot? job.outputPath with
              | some place =>
                  exact absurd ⟨same, ⟨program, loads, lowers⟩, slot⟩ (undelivered place lowered)
              | none =>
                  -- All else holds, so it is the write that fails, and it leaves the disk alone.
                  obtain ⟨failure, refused⟩ := disk.save_no_slot slot lowered.assembly.render
                  exact abandons_bind refused (abandons_failed _ _ _ _ disk)

end Runs

/-! ## The output and the input -/

/-- The assembly is written to the place that the input is read from, since one of the two paths
has no name. -/
structure Overwrites (disk : Disk) (job : Job) (place : Place) (lowered : Lowered) : Prop where
  lowers : ∃ program, disk.program? job.input = some program ∧
    program.lower job.options = .ok lowered
  slot : disk.slot? job.outputPath = some place
  input : disk.existing? .reading job.input = some place
  unnamed : disk.canonical? job.input = none ∨ disk.canonical? job.outputPath = none

section Apart
variable {disk : Disk} {job : Job} {place : Place} {lowered : Lowered}

/-- A job that delivers to the place of its input overwrites it. Two paths that both have a name
would have been told to be the same. -/
theorem Delivers.overwrites (delivers : Delivers disk job place lowered)
    (input : disk.existing? .reading job.input = some place) :
    Overwrites disk job place lowered := by
  obtain ⟨apart, lowers, slot⟩ := delivers
  refine ⟨lowers, slot, input, ?_⟩
  cases first : disk.canonical? job.input with
  | none => exact .inl rfl
  | some source =>
      cases second : disk.canonical? job.outputPath with
      | none => exact .inr rfl
      | some target =>
          obtain ⟨found, reading⟩ := Disk.slot_reading slot
          have here := (Disk.canonical?_unique (Disk.existing?_eq_some_iff.mp input) first).1
          have there := (Disk.canonical?_unique reading second).1
          simp [Disk.sameFile, Disk.target?, first, second, here, there] at apart

theorem Overwrites.delivers (tree : disk.IsTree) (overwrites : Overwrites disk job place lowered) :
    Delivers disk job place lowered := by
  obtain ⟨lowers, slot, -, unnamed⟩ := overwrites
  refine ⟨?_, lowers, slot⟩
  cases same : disk.sameFile job.input job.outputPath with
  | false => rfl
  | true =>
      obtain ⟨first, second⟩ := (tree.sameFile_iff slot).mp same
      simp [first, second] at unnamed

/-- A job that writes to its own input overwrites it if the place takes too long to spell. -/
theorem Overwrites.of_long (tree : disk.IsTree)
    (lowers : ∃ program, disk.program? job.input = some program ∧
      program.lower job.options = .ok lowered)
    (slot : disk.slot? job.outputPath = some place)
    (input : disk.existing? .reading job.input = some place)
    (long : Disk.longestPath < Disk.spelledSize place) : Overwrites disk job place lowered where
  lowers := lowers
  slot := slot
  input := input
  unnamed := .inl (Disk.canonical?_of_long tree (Disk.existing?_eq_some_iff.mp input)
    (Disk.slot?_eq_some_iff.mp slot).2 long)

/-- An input that is loaded is a file. -/
theorem program?_held {path : String} {program : Program}
    (loads : disk.program? path = some program)
    (input : disk.existing? .reading path = some place) :
    ∃ content, disk.node? place = some (.file content) := by
  have resolved := Disk.existing?_eq_some_iff.mp input
  unfold Disk.program? Disk.read at loads
  simp only [resolved] at loads
  cases held : disk.node? place with
  | none => simp [held] at loads
  | some node =>
      cases node with
      | file content => exact ⟨content, rfl⟩
      | directory | link => simp [held] at loads

/-- Where all places can be spelled out, the output is never written to the place of the input. -/
theorem Delivers.input_apart (delivers : Delivers disk job place lowered)
    (nameable : disk.Nameable) : disk.existing? .reading job.input ≠ some place := by
  intro input
  obtain ⟨program, loads, -⟩ := delivers.lowers
  obtain ⟨content, held⟩ := program?_held loads input
  have output := Disk.slot_existing delivers.slot held
  rcases (delivers.overwrites input).unnamed with unnamed | unnamed
  · rw [nameable.canonical input] at unnamed
    cases unnamed
  · rw [nameable.canonical output] at unnamed
    cases unnamed

end Apart

structure Delivered (before after : Disk) (job : Job) (place : Place) (lowered : Lowered)
    (code : Nat) : Prop where
  written : after.node? place = some (.file (assemblyBytes lowered))
  readable : after.read job.outputPath = .ok (assemblyBytes lowered)
  others (other : Place) (elsewhere : other ≠ place) : after.node? other = before.node? other
  regular : before.Fillable place
  input (nameable : before.Nameable) : before.existing? .reading job.input ≠ some place
  code : code = if ∃ diagnostic ∈ lowered.report.diagnostics, diagnostic.severity = .error
    then 1 else 0
  tree : after.IsTree

theorem render_opens (assembly : Assembly) : assembly.render.toList.head? = some '.' := by
  simp [Assembly.render, Assembly.unlines, Assembly.preamble, String.join_cons]

theorem conclude_code (job : Job) (messages : List Message) {report : Report}
    (counted : report.Counted) : (conclude job messages report).code =
      if ∃ diagnostic ∈ report.diagnostics, diagnostic.severity = .error then 1 else 0 := by
  unfold conclude
  by_cases errors : report.hasErrors = true
  · rw [if_pos errors, if_pos (counted.hasErrors_iff.mp errors)]
    rfl
  · rw [if_neg errors, if_neg (mt counted.hasErrors_iff.mpr errors)]

/-- Without an export, a job that delivers leaves its assembly at the place of its output and all
else as it was; any other job leaves everything as it was. For an output that can be written to, a
job is refused exactly where both paths name the place of the write. So the input is spared where
everything has a name, and it is overwritten exactly where the write goes to the place that the
input is read from and one of the two paths has none. -/
theorem delivery_exact (disk : Disk) (tree : disk.IsTree) (job : Job)
    (quiet : job.diagnostics = none) :
    let outcome := (run Disk.access (.translate job)).run disk
    (∀ place lowered, Delivers disk job place lowered →
      Delivered disk outcome.2 job place lowered outcome.1.code) ∧
    ((∀ place lowered, ¬ Delivers disk job place lowered) →
      outcome.2 = disk ∧ outcome.1.code = 1) ∧
    (∀ place, disk.slot? job.outputPath = some place →
      (disk.sameFile job.input job.outputPath = true ↔
        disk.canonical? job.input = some place ∧
          disk.canonical? job.outputPath = some place)) ∧
    ∀ place lowered,
      Delivers disk job place lowered ∧ disk.existing? .reading job.input = some place ↔
        Overwrites disk job place lowered := by
  refine ⟨?_, ?_, fun place slot => tree.sameFile_iff slot, fun place lowered => ?_⟩
  · intro place lowered delivers
    have fillable := tree.fillable delivers.slot
    -- With no export to come, the run ends with the write.
    obtain ⟨messages, ran⟩ := run_exported delivers (by rw [exported?, quiet])
    obtain ⟨program, -, lowers⟩ := delivers.lowers
    rw [ran]
    exact {
      written := Disk.node?_fill_self fillable.other _
      readable := Disk.read_fill fillable delivers.slot _
      others := fun other elsewhere =>
        (Disk.node?_fill fillable.other _ other).trans (if_neg (Ne.symm elsewhere))
      regular := fillable
      input := delivers.input_apart
      code := conclude_code job messages (Program.lower_counted lowers)
      tree := tree.fill delivers.slot _ }
  · intro undelivered
    obtain ⟨result, ran, abandoned⟩ := abandons_undelivered undelivered
    rw [ran]
    exact ⟨rfl, abandoned.code⟩
  · exact ⟨fun both => both.1.overwrites both.2,
      fun overwrites => ⟨overwrites.delivers tree, overwrites.input⟩⟩

def nestedDisk (depth : Nat) : Disk where
  nodes := ⟨(List.replicate depth "d" ++ ["prog.asm"], .file "return\n".toUTF8) ::
    ((List.range (depth + 1)).map (List.replicate · "d")).map fun place => (place, .directory)⟩
  home := List.replicate depth "d"

def nestedJob : Job where
  input := "prog.asm"

theorem nestedDisk_directory {depth level : Nat} (within : level ≤ depth) :
    (nestedDisk depth).isDirectory (List.replicate level "d") = true := by
  rw [Disk.isDirectory_iff]
  cases level with
  | zero => rfl
  | succ level =>
      have apart : List.replicate depth "d" ++ ["prog.asm"] ≠ List.replicate (level + 1) "d" := by
        intro same
        have file : "prog.asm" ∈ List.replicate (level + 1) "d" := by simp [← same]
        exact absurd (List.eq_of_mem_replicate file) (by decide)
      have listed : List.replicate (level + 1) "d" ∈
          (List.range (depth + 1)).map (List.replicate · "d") :=
        List.mem_map.mpr ⟨level + 1, List.mem_range.mpr (Nat.lt_succ_of_le within), rfl⟩
      show Table.lookup _ _ = _
      rw [nestedDisk, Table.lookup, if_neg apart, Table.lookup_map_const, if_pos listed]

theorem nestedDisk_file (depth : Nat) : (nestedDisk depth).node?
    (List.replicate depth "d" ++ ["prog.asm"]) = some (.file "return\n".toUTF8) := by
  simp [Disk.node?, nestedDisk, Table.get?, Table.lookup]

theorem nestedDisk_tree (depth : Nat) : (nestedDisk depth).IsTree := by
  refine .of_entries (nestedDisk_directory (Nat.le_refl depth)) fun entry member => ?_
  rcases List.mem_cons.mp member with rfl | member
  · rw [List.dropLast_concat]
    exact nestedDisk_directory (Nat.le_refl depth)
  · obtain ⟨place, listed, rfl⟩ := List.mem_map.mp member
    obtain ⟨level, within, rfl⟩ := List.mem_map.mp listed
    rw [List.dropLast_replicate]
    have below := List.mem_range.mp within
    exact nestedDisk_directory (by omega)

/-- The program is read and written under its name, however deep it is. -/
theorem nestedDisk_resolves (depth : Nat) {errand : Disk.Errand} (whole : errand ≠ .naming) :
    (nestedDisk depth).resolve errand "prog.asm" =
      .ok (List.replicate depth "d" ++ ["prog.asm"], true) := by
  have looked : Disk.Proper (nestedDisk depth) errand (List.replicate depth "d") "prog.asm" [] :=
    { speaks := by decide
      down := by decide
      onward := fun _ => rfl
      short := by decide
      asked := fun naming => absurd naming whole }
  have found := nestedDisk_file depth
  refine Disk.resolve_ok_iff.mpr ⟨⟨by decide, by decide, fun _ => by decide⟩, .existing ?_⟩
  have names : Path.names "prog.asm" = ["prog.asm"] := by decide +kernel
  rw [names]
  exact .down (nestedDisk_directory (Nat.le_refl depth)) looked found nofun (.here _)

theorem nestedDisk_program? (depth : Nat) :
    (nestedDisk depth).program? "prog.asm" = some ⟨"prog.asm", "return\n"⟩ := by
  have text : String.fromUTF8? "return\n".toUTF8 = some "return\n" := by decide +kernel
  have reading : (nestedDisk depth).resolve .reading "prog.asm" = _ :=
    nestedDisk_resolves depth (by decide)
  unfold Disk.program? Disk.read
  simp only [reading, nestedDisk_file, text, Option.map_some]

theorem spelledSize_nested (depth : Nat) :
    Disk.spelledSize (List.replicate depth "d" ++ ["prog.asm"]) = depth * 2 + 9 := by
  have name : "d".utf8ByteSize = 1 := by decide
  induction depth with
  | zero => decide
  | succ depth ih =>
      rw [List.replicate_succ, List.cons_append, Disk.spelledSize, ih, name]
      omega

/-- A program that is deep enough is replaced by its own assembly. -/
theorem nested_input_overwritten {depth : Nat} (deep : Disk.longestPath < depth * 2 + 9) :
    ∃ place content, (nestedDisk depth).existing? .reading nestedJob.input = some place ∧
      (nestedDisk depth).node? place = some (.file content) ∧
      ((run Disk.access (.translate nestedJob)).run (nestedDisk depth)).2.node? place ≠
        some (.file content) := by
  have output : nestedJob.outputPath = "prog.asm" := by decide +kernel
  have tree := nestedDisk_tree depth
  have file : (nestedDisk depth).isDirectory
      (List.replicate depth "d" ++ ["prog.asm"]) = false := by
    simp [Disk.isDirectory, nestedDisk_file]
  have slot : (nestedDisk depth).slot? nestedJob.outputPath =
      some (List.replicate depth "d" ++ ["prog.asm"]) := by
    rw [output]
    exact Disk.slot?_eq_some_iff.mpr ⟨⟨true, nestedDisk_resolves depth (by decide)⟩, file⟩
  obtain ⟨lowered, lowers⟩ :=
    ((⟨"prog.asm", "return\n"⟩ : Program).lower_succeeds_iff nestedJob.options).mpr
      (by decide +kernel)
  have overwrites : Overwrites (nestedDisk depth) nestedJob
      (List.replicate depth "d" ++ ["prog.asm"]) lowered :=
    .of_long tree ⟨_, nestedDisk_program? depth, lowers⟩ slot
      (Disk.existing?_eq_some_iff.mpr (nestedDisk_resolves depth (by decide)))
      (by rwa [spelledSize_nested])
  have delivers := overwrites.delivers tree
  obtain ⟨messages, ran⟩ := run_exported delivers rfl
  refine ⟨_, _, overwrites.input, nestedDisk_file depth, ?_⟩
  rw [ran, Disk.node?_fill_self (tree.fillable delivers.slot).other]
  intro kept
  have same : assemblyBytes lowered = "return\n".toUTF8 := by
    injection kept with kept
    injection kept
  have opens := render_opens lowered.assembly
  rw [String.toByteArray_inj.mp same] at opens
  revert opens
  decide

theorem deep_input_overwritten :
    (nestedDisk 2048).IsTree ∧ nestedJob.diagnostics = none ∧ ∃ place content,
      (nestedDisk 2048).existing? .reading nestedJob.input = some place ∧
      (nestedDisk 2048).node? place = some (.file content) ∧
      ((run Disk.access (.translate nestedJob)).run (nestedDisk 2048)).2.node? place ≠
        some (.file content) :=
  ⟨nestedDisk_tree 2048, rfl, nested_input_overwritten (by decide)⟩

def linkedDisk : Disk where
  nodes := ⟨[(["prog.3ac"], .file "return\n".toUTF8), (["out"], .directory),
    (["latest"], .link "out/prog.asm")]⟩

def linkedJob : Job where
  input := "prog.3ac"
  output := some "latest"

theorem linked_output_delivered :
    linkedDisk.IsTree ∧ linkedJob.diagnostics = none ∧
      ∃ lowered, Delivers linkedDisk linkedJob ["out", "prog.asm"] lowered ∧
        let outcome := (run Disk.access (.translate linkedJob)).run linkedDisk
        Delivered linkedDisk outcome.2 linkedJob ["out", "prog.asm"] lowered outcome.1.code := by
  have tree : linkedDisk.IsTree := .of_entries rfl (by decide +kernel)
  obtain ⟨lowered, lowers⟩ :=
    ((⟨"prog.3ac", "return\n"⟩ : Program).lower_succeeds_iff linkedJob.options).mpr
      (by decide +kernel)
  have delivers : Delivers linkedDisk linkedJob ["out", "prog.asm"] lowered :=
    ⟨by decide +kernel, ⟨_, by decide +kernel, lowers⟩, by decide +kernel⟩
  exact ⟨tree, rfl, lowered, delivers,
    (delivery_exact linkedDisk tree linkedJob rfl).1 _ _ delivers⟩

end ThreeAddress.Command
