import ThreeAddress.Files.Access
import ThreeAddress.Proofs.Files.Writes

/-!
File operations of a command, and the directory of a path. All operations but saving leave a disk
as it is, and saving fills one place or, where it fails, none. What a path leads to is found by
its file name in the directory that its parent leads to, so whether an output is the input is
decided for outputs that are not there yet. Both have to be named for that, and a place that takes
too long to spell has no name.
-/

namespace ThreeAddress

/-! ## Operations -/

namespace Disk

def target? (disk : Disk) (path : String) : Option Place :=
  match disk.canonical? path with
  | some place => some place
  | none =>
      -- What cannot be named is taken to be a new file in its directory.
      match Path.fileName? path, disk.canonical? (Path.parent path) with
      | some name, some directory => some (directory ++ [name])
      | _, _ => none

def sameFile (disk : Disk) (input output : String) : Bool :=
  match disk.canonical? input with
  | none => false
  | some place => disk.target? output == some place

def program? (disk : Disk) (path : String) : Option Program :=
  match disk.read path with
  | .ok content => (String.fromUTF8? content).map fun source => ⟨path, source⟩
  | .error _ => none

/-- An operation whose effect is known comes first. -/
theorem run_bind {α β : Type} {operation : StateM Disk α} {next : α → StateM Disk β}
    {disk after : Disk} {result : α} (ran : operation.run disk = (result, after)) :
    (operation >>= next).run disk = (next result).run after := by
  rw [StateT.run_bind, ran]
  rfl

section Operations
variable (disk : Disk)

theorem canonical_run (path : String) :
    (access.canonical path).run disk = (disk.canonical? path, disk) := rfl

theorem target_run (path : String) :
    (access.target path).run disk = (disk.target? path, disk) := by
  unfold Files.target target?
  rw [run_bind (canonical_run disk path)]
  cases disk.canonical? path with
  | some place => rfl
  | none =>
      simp only
      rw [run_bind (canonical_run disk (Path.parent path))]
      cases Path.fileName? path <;> cases disk.canonical? (Path.parent path) <;> rfl

theorem isSameFile_run (input output : String) :
    (access.isSameFile input output).run disk = (disk.sameFile input output, disk) := by
  unfold Files.isSameFile sameFile
  rw [run_bind (canonical_run disk input)]
  cases disk.canonical? input with
  | none => rfl
  | some place =>
      simp only
      rw [run_bind (target_run disk output)]
      rfl

theorem load_run (path : String) :
    ∃ loaded, (access.load path).run disk = (loaded, disk) ∧
      loaded.toOption = disk.program? path := by
  have text : (access.readText path).run disk =
      ((disk.read path).bind Files.text, disk) := by
    have read : (access.read path).run disk = (disk.read path, disk) := rfl
    unfold Files.readText
    rw [run_bind read]
    cases disk.read path <;> rfl
  unfold Files.load program?
  rw [run_bind text]
  cases disk.read path with
  | error fault => exact ⟨_, rfl, rfl⟩
  | ok content =>
      simp only [Except.bind, Files.text]
      cases String.fromUTF8? content <;> exact ⟨_, rfl, rfl⟩

theorem writeText_slot {path : String} {place : Place} (slot : disk.slot? path = some place)
    (text : String) :
    (access.writeText path text).run disk = (.ok (), disk.fill place text.toUTF8) := by
  simp only [Files.writeText, access, StateT.run_bind, StateT.run_get, pure_bind,
    write_slot slot]
  rfl

theorem writeText_no_slot {path : String} (slot : disk.slot? path = none) (text : String) :
    ∃ fault, (access.writeText path text).run disk = (.error fault, disk) := by
  obtain ⟨fault, refused⟩ := write_no_slot slot text.toUTF8
  refine ⟨fault, ?_⟩
  simp only [Files.writeText, access, StateT.run_bind, StateT.run_get, pure_bind, refused]
  rfl

theorem save_slot {path : String} {place : Place} (slot : disk.slot? path = some place)
    (text : String) :
    (access.save path text).run disk = (.ok (), disk.fill place text.toUTF8) := by
  unfold Files.save
  rw [run_bind (writeText_slot disk slot text)]
  rfl

theorem save_no_slot {path : String} (slot : disk.slot? path = none) (text : String) :
    ∃ failure, (access.save path text).run disk = (.error failure, disk) := by
  obtain ⟨fault, refused⟩ := writeText_no_slot disk slot text
  refine ⟨.file path fault.message, ?_⟩
  unfold Files.save
  rw [run_bind refused]
  rfl

end Operations

end Disk

/-! ## Parents -/

namespace Path

theorem names_append (first second : String) :
    names (first ++ "/" ++ second) = names first ++ names second := by
  have slash : isSlash '/' = true := rfl
  unfold names
  rw [String.toList_append, String.toList_append, List.append_assoc, ← List.map_append]
  exact congrArg _ (Text.pieces_append_cut isSlash first.toList '/' second.toList slash)

theorem names_whole {name : String} (uncut : ∀ c ∈ name.toList, isSlash c = false) :
    names name = [name] := by
  rw [names, Text.pieces_whole isSlash name.toList uncut]
  simp

theorem names_uncut (path : String) :
    ∀ name ∈ names path, ∀ c ∈ name.toList, isSlash c = false := by
  intro name member
  obtain ⟨piece, present, rfl⟩ := List.mem_map.mp member
  simpa using Text.pieces_uncut isSlash path.toList piece present

theorem names_ne_nil (path : String) : names path ≠ [] := by
  simp [names, Text.pieces_ne_nil]

theorem names_join {parts : List String} (filled : parts ≠ [])
    (uncut : ∀ part ∈ parts, ∀ c ∈ part.toList, isSlash c = false) :
    names (join parts) = parts := by
  induction parts with
  | nil => exact absurd rfl filled
  | cons part rest ih =>
      obtain ⟨here, later⟩ := List.forall_mem_cons.mp uncut
      cases rest with
      | nil =>
          rw [join, String.intercalate_singleton]
          exact names_whole here
      | cons next rest =>
          rw [join, String.intercalate_cons_cons, names_append, names_whole here]
          exact congrArg (part :: ·) (ih (List.cons_ne_nil next rest) later)

/-- A path starts at the root if its first name is empty and another follows. -/
theorem isAbsolute_iff (path : String) :
    isAbsolute path = true ↔ ∃ second rest, names path = "" :: second :: rest := by
  unfold isAbsolute names
  cases path.toList with
  | nil => simp
  | cons c rest =>
      by_cases slash : c = '/'
      · subst slash
        rw [Text.pieces_cons_cut isSlash '/' rest rfl]
        cases found : Text.pieces isSlash rest with
        | nil => exact absurd found (Text.pieces_ne_nil isSlash rest)
        | cons piece later => simp
      · have kept : isSlash c = false := beq_eq_false_iff_ne.mpr slash
        cases found : Text.pieces isSlash rest with
        | nil => exact absurd found (Text.pieces_ne_nil isSlash rest)
        | cons piece later =>
            rw [Text.pieces_cons_keep isSlash c rest piece later kept found]
            simp [slash]

/-- What follows the file name says nothing. -/
theorem names_fileName {path name : String} (named : fileName? path = some name) :
    ∃ trailing, names path = (upToFile path).dropLast ++ name :: trailing ∧
      (∀ last ∈ trailing, saysNothing last = true) ∧ saysNothing name = false ∧ name ≠ ".." := by
  unfold fileName? at named
  split at named
  · rename_i file last
    split at named
    · cases named
    · rename_i proper
      cases named
      rw [Bool.or_eq_true, not_or, Bool.not_eq_true, beq_iff_eq] at proper
      obtain ⟨above, closes⟩ := List.getLast?_eq_some_iff.mp last
      rw [closes, List.dropLast_concat]
      cases all : names path with
      | nil => exact absurd all (names_ne_nil path)
      | cons first rest =>
          simp only [upToFile, all] at closes
          -- What is dropped from the end is what follows the file name.
          refine ⟨(rest.reverse.takeWhile saysNothing).reverse, ?_, ?_, proper⟩
          · calc first :: rest
                = first :: (rest.reverse.takeWhile saysNothing ++
                    rest.reverse.dropWhile saysNothing).reverse := by
                  rw [List.takeWhile_append_dropWhile, List.reverse_reverse]
              _ = (above ++ [name]) ++ (rest.reverse.takeWhile saysNothing).reverse := by
                  rw [List.reverse_append, ← closes, List.cons_append]
              _ = above ++ name :: (rest.reverse.takeWhile saysNothing).reverse := by
                  rw [List.append_assoc, List.singleton_append]
          · intro last member
            exact List.all_eq_true.mp List.all_takeWhile last (List.mem_reverse.mp member)
  · cases named

/-- The names of the parent, unless it is the root or where relative paths start. -/
theorem parent_join {path : String} (filled : (upToFile path).dropLast ≠ [])
    (below : (upToFile path).dropLast ≠ [""]) :
    parent path = join (upToFile path).dropLast := by
  unfold parent
  split
  · contradiction
  · contradiction
  · rfl

section Named
variable {path name : String} (named : fileName? path = some name)
include named

/-- A path that is a file name alone is relative. -/
theorem fileName_relative (alone : (upToFile path).dropLast = []) : isAbsolute path = false := by
  obtain ⟨trailing, all, -, speaks, -⟩ := names_fileName named
  cases rooted : isAbsolute path with
  | false => rfl
  | true =>
      obtain ⟨second, rest, first⟩ := (isAbsolute_iff path).mp rooted
      rw [all, alone, List.nil_append, List.cons.injEq] at first
      rw [first.1] at speaks
      cases speaks

/-- A file name below the root is that of an absolute path. -/
theorem fileName_absolute (top : (upToFile path).dropLast = [""]) : isAbsolute path = true := by
  obtain ⟨trailing, all, -, -, -⟩ := names_fileName named
  rw [top] at all
  exact (isAbsolute_iff path).mpr ⟨name, trailing, all⟩

section Below
variable (filled : (upToFile path).dropLast ≠ []) (below : (upToFile path).dropLast ≠ [""])
include filled below

theorem names_parent : names (parent path) = (upToFile path).dropLast := by
  obtain ⟨trailing, all, -, -, -⟩ := names_fileName named
  have uncut := names_uncut path
  rw [all] at uncut
  rw [parent_join filled below]
  exact names_join filled fun part member => uncut part (List.mem_append_left _ member)

theorem isAbsolute_parent : isAbsolute (parent path) = isAbsolute path := by
  obtain ⟨trailing, all, -, -, -⟩ := names_fileName named
  have parts := names_parent named filled below
  rw [Bool.eq_iff_iff, isAbsolute_iff, isAbsolute_iff, parts, all]
  cases above : (upToFile path).dropLast with
  | nil => contradiction
  | cons first rest =>
      cases rest with
      | nil => simpa using fun empty => below (by rw [above, empty])
      | cons second rest => simp

end Below

end Named

end Path

namespace Disk

section Split
variable {disk : Disk} {errand : Errand} {place : Place} {name : String} {rest : List String}
  {stop : Stop}

/-- After names that end at a node, a walk goes on from that node. -/
theorem Walks.onward {start directory : Place} {above more : List String}
    (first : Walks disk errand start above (.existing directory))
    (whole : Walks disk .writing start (above ++ more) stop) :
    Walks disk .writing directory more stop := by
  generalize ended : Stop.existing directory = middle at first
  induction first with
  | here start =>
      cases ended
      exact whole
  | stay _ nothing _ ih => exact ih (whole.of_stay nothing) ended
  | up _ _ ih => exact ih whole.of_up ended
  | down _ proper found solid _ ih =>
      exact ih (whole.of_down proper.speaks proper.down found solid) ended
  | link | free => cases ended

theorem Walks.onward_link {start directory : Place} {target : String}
    {above more left : List String}
    (first : Walks disk errand start above (.link directory target left))
    (whole : Walks disk .writing start (above ++ more) stop) :
    stop = .link directory target (left ++ more) := by
  generalize ended : Stop.link directory target left = middle at first
  induction first with
  | link _ proper found =>
      cases ended
      exact whole.of_link proper.speaks proper.down found
  | stay _ nothing _ ih => exact ih (whole.of_stay nothing) ended
  | up _ _ ih => exact ih whole.of_up ended
  | down _ proper found solid _ ih =>
      exact ih (whole.of_down proper.speaks proper.down found solid) ended
  | here | free => cases ended

/-- After names that lead to a node, a path goes on from that node. -/
theorem Leads.onward {links : Nat} {start directory target : Place} {above more : List String}
    {found : Bool} (first : Leads disk errand links start above directory true)
    (whole : Leads disk .writing links start (above ++ more) target found) :
    ∃ left, Leads disk .writing left directory more target found := by
  generalize ended : true = reached at first
  induction first with
  | existing walk =>
      cases whole with
      | existing whole => exact ⟨0, .existing (walk.onward whole)⟩
      | free whole => exact ⟨0, .free (walk.onward whole)⟩
      | link whole later => exact ⟨_, .link (walk.onward whole) later⟩
  | free => cases ended
  | link walk later ih =>
      -- Both paths come to the same link, and have the same names before them after it.
      cases whole with
      | existing whole | free whole => cases walk.onward_link whole
      | link whole beyond =>
          cases walk.onward_link whole
          rw [← List.append_assoc] at beyond
          exact ih beyond ended

/-- A file name leads to what is there in the directory, if that is no link. -/
theorem Leads.of_fileName {links : Nat} {directory target : Place} {trailing : List String}
    {found : Bool} (leads : Leads disk errand links directory (name :: trailing) target found)
    (speaks : Path.saysNothing name = false) (down : name ≠ "..")
    (nothing : ∀ last ∈ trailing, Path.saysNothing last = true)
    (solid : disk.Solid (directory ++ [name])) : target = directory ++ [name] := by
  obtain ⟨node, held, solid⟩ := solid
  cases leads with
  | existing walk => cases (walk.of_down speaks down held solid).of_nothing nothing; rfl
  | free walk => cases (walk.of_down speaks down held solid).of_nothing nothing
  | link walk => cases (walk.of_down speaks down held solid).of_nothing nothing

/-- Nothing follows the name of what is no directory. -/
theorem Leads.of_file {links : Nat} {directory target : Place} {trailing : List String}
    {found : Bool} (leads : Leads disk errand links directory (name :: trailing) target found)
    (speaks : Path.saysNothing name = false) (down : name ≠ "..")
    (solid : disk.Solid (directory ++ [name]))
    (other : disk.isDirectory (directory ++ [name]) = false) : trailing = [] := by
  obtain ⟨node, held, solid⟩ := solid
  cases leads with
  | existing walk | free walk | link walk =>
      exact ((walk.of_down speaks down held solid).at_file other).1

/-- The parent of a path leads to where the names before its file name lead. -/
theorem leads_parent {path : String} {links : Nat} {home directory : Place}
    (named : Path.fileName? path = some name)
    (leads : Leads disk errand links (start home (Path.parent path))
      (Path.names (Path.parent path)) directory true) :
    Leads disk errand links (start home path) (Path.upToFile path).dropLast directory true := by
  by_cases alone : (Path.upToFile path).dropLast = []
  · have dot : Path.parent path = "." := by simp [Path.parent, alone]
    rw [dot] at leads
    cases leads.of_nothing (by decide)
    rw [alone, start, Path.fileName_relative named alone]
    exact .existing (.here home)
  · by_cases top : (Path.upToFile path).dropLast = [""]
    · have root : Path.parent path = "/" := by simp [Path.parent, top]
      rw [root] at leads
      cases leads.of_nothing (by decide)
      rw [top, start, Path.fileName_absolute named top]
      exact .existing (.stay rfl rfl (.here []))
    · rw [start, Path.isAbsolute_parent named alone top, Path.names_parent named alone top]
        at leads
      exact leads

end Split

/-! ## Names of places -/

section Named
variable {disk : Disk} {place : Place} {name : String} {rest more : List String} {stop : Stop}

/-- Names that go on with a name of their own linger no more than what comes before it. -/
theorem lingers_append (speaks : Path.saysNothing name = false) (down : name ≠ "..")
    (lingering : lingers (rest ++ name :: more) = true) : lingers rest = true := by
  unfold lingers at lingering ⊢
  rw [List.dropWhile_append] at lingering
  cases later : rest.dropWhile Path.saysNothing with
  | nil => simp [later, speaks, down] at lingering
  | cons other below => simpa [later] using lingering

theorem askedSize_append (speaks : Path.saysNothing name = false) (down : name ≠ "..") :
    disk.askedSize place (rest ++ name :: more) ≤ disk.askedSize place rest := by
  unfold askedSize
  split
  · exact Nat.le_refl _
  · cases lingering : lingers (rest ++ name :: more) with
    | false => simp
    | true => simp [lingers_append speaks down lingering]

theorem Proper.append (proper : Proper disk .naming place name rest) {below : String}
    (speaks : Path.saysNothing below = false) (down : below ≠ "..") :
    Proper disk .naming place name (rest ++ below :: more) :=
  { proper with
    onward := nofun
    asked := fun _ => Nat.le_trans (askedSize_append speaks down) (proper.asked rfl) }

/-- What is named by its parent and its file name is named by the whole path. -/
theorem Walks.append {start directory : Place} {above : List String}
    (speaks : Path.saysNothing name = false) (down : name ≠ "..")
    (first : Walks disk .naming start above (.existing directory))
    (later : Walks disk .naming directory (name :: more) stop) :
    Walks disk .naming start (above ++ name :: more) stop := by
  generalize ended : Stop.existing directory = middle at first
  induction first with
  | here start =>
      cases ended
      exact later
  | stay directory nothing _ ih => exact .stay directory nothing (ih ended)
  | up directory _ ih => exact .up directory (ih ended)
  | down directory proper found solid _ ih =>
      exact .down directory (proper.append speaks down) found solid (ih ended)
  | link | free => cases ended

theorem Walks.append_link {start directory : Place} {target : String} {above left : List String}
    (speaks : Path.saysNothing name = false) (down : name ≠ "..")
    (first : Walks disk .naming start above (.link directory target left)) :
    Walks disk .naming start (above ++ name :: more)
      (.link directory target (left ++ name :: more)) := by
  generalize ended : Stop.link directory target left = middle at first
  induction first with
  | link directory proper found =>
      cases ended
      exact .link directory (proper.append speaks down) found
  | stay directory nothing _ ih => exact .stay directory nothing (ih ended)
  | up directory _ ih => exact .up directory (ih ended)
  | down directory proper found solid _ ih =>
      exact .down directory (proper.append speaks down) found solid (ih ended)
  | here | free => cases ended

theorem Leads.append {links : Nat} {start directory : Place} {above : List String}
    (speaks : Path.saysNothing name = false) (down : name ≠ "..")
    (first : Leads disk .naming links start above directory true)
    (later : Walks disk .naming directory (name :: more) (.existing place)) :
    Leads disk .naming links start (above ++ name :: more) place true := by
  generalize ended : true = reached at first
  induction first with
  | existing walk => exact .existing (walk.append speaks down later)
  | free => cases ended
  | link walk _ ih =>
      refine .link (walk.append_link speaks down) ?_
      rw [← List.append_assoc]
      exact ih later ended

/-- A place that is named by a path, and is no directory, is short. -/
theorem Walks.spelled (tree : disk.IsTree) {start : Place} {names : List String}
    (walks : Walks disk .naming start names (.existing place))
    (other : disk.isDirectory place = false)
    (short : disk.isDirectory start = true ∨ spelledSize start ≤ longestPath) :
    spelledSize place ≤ longestPath := by
  -- A directory may be long when the walk only passes it, so the bound is not asked of those.
  generalize ended : Stop.existing place = stop at walks
  induction walks with
  | here start =>
      cases ended
      rw [other] at short
      exact short.resolve_left Bool.false_ne_true
  | stay _ _ _ ih => exact ih short ended
  | up directory _ ih => exact ih (.inl (tree.up directory)) ended
  | @down start name rest _ node directory proper found solid _ ih =>
      have asked := proper.asked rfl
      have here : spelledSize (start ++ [name]) ≤ disk.askedSize (start ++ [name]) rest := by
        unfold askedSize
        split
        · exact Nat.le_refl _
        · exact Nat.le_add_right _ _
      exact ih (.inr (Nat.le_trans here asked)) ended
  | link | free => cases ended

theorem Leads.spelled (tree : disk.IsTree) {links : Nat} {start : Place} {names : List String}
    (leads : Leads disk .naming links start names place true)
    (other : disk.isDirectory place = false) (directory : disk.isDirectory start = true) :
    spelledSize place ≤ longestPath := by
  generalize reached : true = found at leads
  induction leads with
  | existing walk => exact walk.spelled tree other (.inl directory)
  | free => cases reached
  | link walk later ih =>
      have above := tree.walks walk (.of_directory directory)
      exact ih other (start_directory above _) reached

/-- A file has no name if its place takes too long to spell. -/
theorem canonical?_of_long (tree : disk.IsTree) {path : String} {found : Bool}
    (reading : disk.resolve .reading path = .ok (place, found))
    (other : disk.isDirectory place = false) (long : longestPath < spelledSize place) :
    disk.canonical? path = none := by
  cases canonical : disk.canonical? path with
  | none => rfl
  | some named =>
      cases (canonical?_unique reading canonical).1
      have leads := (existing?_iff_leads.mp canonical).2
      have short := leads.spelled tree other (start_directory tree.home path)
      exact absurd short (Nat.not_le.mpr long)

/-- Whatever is on the disk is at a place that can be spelled out, with a slash after it. -/
def Nameable (disk : Disk) : Prop :=
  ∀ place node, disk.node? place = some node → spelledSize place < longestPath

theorem Nameable.asked (nameable : disk.Nameable) {node : Node}
    (found : disk.node? place = some node) (rest : List String) :
    disk.askedSize place rest ≤ longestPath := by
  have short := nameable place node found
  have slashed : disk.askedSize place rest ≤ spelledSize place + 1 := by
    unfold askedSize
    split
    · exact Nat.le_succ _
    · split <;> omega
  exact Nat.le_trans slashed short

theorem Walks.naming (nameable : disk.Nameable) {start : Place} {names : List String}
    (walks : Walks disk .reading start names stop) (ends : ∀ place, stop ≠ .free place) :
    Walks disk .naming start names stop := by
  induction walks with
  | here place => exact .here place
  | stay directory nothing _ ih => exact .stay directory nothing (ih ends)
  | up directory _ ih => exact .up directory (ih ends)
  | @down _ _ rest _ _ directory proper found solid _ ih =>
      exact .down directory
        { proper with onward := nofun, asked := fun _ => nameable.asked found rest } found solid
        (ih ends)
  | @link _ _ rest _ directory proper found =>
      exact .link directory
        { proper with onward := nofun, asked := fun _ => nameable.asked found rest } found
  | free => exact absurd rfl (ends _)

theorem Leads.naming (nameable : disk.Nameable) {links : Nat} {start : Place}
    {names : List String} (leads : Leads disk .reading links start names place true) :
    Leads disk .naming links start names place true := by
  generalize reached : true = found at leads ⊢
  induction leads with
  | existing walk => exact .existing (walk.naming nameable nofun)
  | free => cases reached
  | link walk _ ih => exact .link (walk.naming nameable nofun) (ih reached)

/-- On a disk whose places can all be spelled out, what is read can be named. -/
theorem Nameable.canonical (nameable : disk.Nameable) {path : String}
    (reading : disk.existing? .reading path = some place) :
    disk.canonical? path = some place := by
  obtain ⟨followed, leads⟩ := existing?_iff_leads.mp reading
  exact existing?_iff_leads.mpr ⟨followed.naming, leads.naming nameable⟩

end Named

section SameFile
variable {disk : Disk} {input output name : String} {place directory : Place}

/-- What is in the directory of a path that can be written to, under its file name, is what would
be written; and the path names it if it is short enough. -/
theorem slot_parent (slot : disk.slot? output = some place)
    (named : Path.fileName? output = some name)
    (parent : disk.canonical? (Path.parent output) = some directory)
    (solid : disk.Solid (directory ++ [name])) :
    place = directory ++ [name] ∧
      (spelledSize place ≤ longestPath → disk.canonical? output = some place) := by
  obtain ⟨⟨found, resolved⟩, other⟩ := slot?_eq_some_iff.mp slot
  obtain ⟨followed, whole⟩ := resolve_ok_iff.mp resolved
  obtain ⟨trailing, all, nothing, speaks, down⟩ := Path.names_fileName named
  have above := leads_parent named (existing?_iff_leads.mp parent).2
  rw [all] at whole
  obtain ⟨left, leads⟩ := above.onward whole
  have same := leads.of_fileName speaks down nothing solid
  refine ⟨same, fun short => ?_⟩
  -- The last name is looked up with nothing behind it, so it takes no more than the place itself.
  rw [same] at other short ⊢
  cases leads.of_file speaks down solid other
  obtain ⟨within, looked⟩ := leads.looked speaks down
  obtain ⟨node, held, nolink⟩ := solid
  have asked : disk.askedSize (directory ++ [name]) [] ≤ longestPath := by
    cases node with
    | link target => exact absurd rfl (nolink target)
    | directory | file => simpa [askedSize, held, lingers] using short
  have last : Walks disk .naming directory [name] (.existing (directory ++ [name])) :=
    .down within { looked with onward := nofun, asked := fun _ => asked } held nolink (.here _)
  refine existing?_iff_leads.mpr ⟨followed.naming, ?_⟩
  rw [all]
  exact above.append speaks down last

/-- For an output that can be written to, the comparison with the input is exact for what can be
named: the two are the same where both name the place of the write. -/
theorem IsTree.sameFile_iff (tree : disk.IsTree) (slot : disk.slot? output = some place) :
    disk.sameFile input output = true ↔
      disk.canonical? input = some place ∧ disk.canonical? output = some place := by
  obtain ⟨found, reading⟩ := slot_reading slot
  constructor
  · intro same
    unfold sameFile at same
    cases canonical : disk.canonical? input with
    | none => simp [canonical] at same
    | some other =>
        have target : disk.target? output = some other := by simpa [canonical] using same
        have reached := (existing?_iff_leads.mp canonical).2
        have solid : disk.Solid other :=
          tree.leads reached (.of_directory (start_directory tree.home input))
        unfold target? at target
        split at target
        · rename_i spot named
          cases target
          cases (canonical?_unique reading named).1
          exact ⟨rfl, named⟩
        · split at target
          · -- The output was taken to be in the directory of its parent, where the input is.
            rename_i name directory named parent
            cases target
            obtain ⟨rfl, whole⟩ := slot_parent slot named parent solid
            have file := (slot?_eq_some_iff.mp slot).2
            exact ⟨rfl, whole (reached.spelled tree file (start_directory tree.home input))⟩
          · cases target
  · rintro ⟨first, second⟩
    simp [sameFile, target?, first, second]

end SameFile

end Disk

end ThreeAddress
