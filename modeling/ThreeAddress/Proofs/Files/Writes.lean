import ThreeAddress.Proofs.Files.Walks

/-!
What a write changes. It puts a file at one place, which was free or held a file before, so every
path leads where it led: what was written is read back under the same path, and a second write goes
where it would have gone without the first.
-/

namespace ThreeAddress.Disk

def fill (disk : Disk) (place : Place) (content : ByteArray) : Disk :=
  { disk with nodes := disk.nodes.insert place (.file content) }

def slot? (disk : Disk) (path : String) : Option Place :=
  match disk.resolve .writing path with
  | .ok (place, _) => if disk.isDirectory place then none else some place
  | .error _ => none

def Fillable (disk : Disk) (place : Place) : Prop :=
  ∀ node, disk.node? place = some node → ∃ content, node = .file content

def Stop.filled (place : Place) : Stop → Stop
  | .free vacant => if vacant = place then .existing vacant else .free vacant
  | stop => stop

section Stops
variable {place here : Place} {before : Stop}

theorem Stop.of_existing (same : .existing here = before.filled place) :
    before = .existing here ∨ before = .free here := by
  unfold filled at same
  split at same
  · split at same <;> cases same
    exact .inr rfl
  · exact .inl same.symm

theorem Stop.of_free (same : .free here = before.filled place) : before = .free here := by
  unfold filled at same
  split at same
  · split at same <;> cases same
    rfl
  · exact same.symm

theorem Stop.of_link {target : String} {rest : List String}
    (same : .link here target rest = before.filled place) : before = .link here target rest := by
  unfold filled at same
  split at same
  · split at same <;> cases same
  · exact same.symm

end Stops

section Nodes
variable {disk : Disk} {place : Place}

theorem Fillable.other (fillable : disk.Fillable place) : disk.isDirectory place = false := by
  cases directory : disk.isDirectory place with
  | false => rfl
  | true =>
      obtain ⟨content, same⟩ := fillable _ (isDirectory_iff.mp directory)
      cases same

theorem node?_fill (other : disk.isDirectory place = false) (content : ByteArray)
    (sought : Place) : (disk.fill place content).node? sought =
      if place = sought then some (.file content) else disk.node? sought := by
  have root : place ≠ [] := by
    rintro rfl
    cases other
  unfold node?
  cases sought with
  | nil => simp [root]
  | cons name rest => exact Table.get?_insert disk.nodes place (name :: rest) (.file content)

theorem node?_fill_self (other : disk.isDirectory place = false) (content : ByteArray) :
    (disk.fill place content).node? place = some (.file content) :=
  (node?_fill other content place).trans (if_pos rfl)

theorem isDirectory_fill (other : disk.isDirectory place = false) (content : ByteArray)
    (sought : Place) : (disk.fill place content).isDirectory sought = disk.isDirectory sought := by
  by_cases same : place = sought
  · subst same
    rw [other, isDirectory, node?_fill_self other]
  · rw [isDirectory, node?_fill other, if_neg same, isDirectory]

theorem slot?_eq_some_iff {path : String} :
    disk.slot? path = some place ↔
      (∃ found, disk.resolve .writing path = .ok (place, found)) ∧
        disk.isDirectory place = false := by
  unfold slot?
  cases disk.resolve .writing path with
  | error fault => simp
  | ok reached =>
      obtain ⟨other, found⟩ := reached
      cases directory : disk.isDirectory other <;> simp [directory]
      · rintro rfl
        exact directory
      · rintro rfl
        exact directory

theorem write_slot {path : String} (slot : disk.slot? path = some place) (content : ByteArray) :
    disk.write path content = .ok (disk.fill place content) := by
  obtain ⟨⟨found, resolved⟩, other⟩ := slot?_eq_some_iff.mp slot
  simp only [write, resolved, other, Bool.false_eq_true, ↓reduceIte]
  rfl

theorem write_no_slot {path : String} (slot : disk.slot? path = none) (content : ByteArray) :
    ∃ fault, disk.write path content = .error fault := by
  unfold slot? at slot
  unfold write
  split at slot
  · split at slot
    · rename_i resolved directory
      exact ⟨.isDirectory, by rw [resolved]; exact if_pos directory⟩
    · cases slot
  · rename_i fault failed
    exact ⟨fault, by rw [failed]⟩

end Nodes

/-! ## Walks past a new file -/

section Filled
variable {disk : Disk} {place : Place} {errand : Errand}

/-- A new file is asked about like a free name. -/
theorem askedSize_fill (fillable : disk.Fillable place) (content : ByteArray) (sought : Place)
    (rest : List String) :
    (disk.fill place content).askedSize sought rest = disk.askedSize sought rest := by
  unfold askedSize
  rw [node?_fill fillable.other]
  by_cases here : place = sought
  · subst here
    rw [if_pos rfl]
    cases held : disk.node? place with
    | none => rfl
    | some node =>
        obtain ⟨old, rfl⟩ := fillable node held
        rfl
  · rw [if_neg here]

section Lookups
variable {here : Place} {name : String} {rest : List String} {content : ByteArray}

theorem Proper.filled (fillable : disk.Fillable place) (content : ByteArray)
    (proper : Proper disk errand here name rest) :
    Proper (disk.fill place content) errand here name rest :=
  { proper with
    asked := fun naming => by
      rw [askedSize_fill fillable]
      exact proper.asked naming }

theorem Proper.unfilled (fillable : disk.Fillable place)
    (proper : Proper (disk.fill place content) errand here name rest) :
    Proper disk errand here name rest :=
  { proper with
    asked := fun naming => by
      rw [← askedSize_fill fillable content]
      exact proper.asked naming }

end Lookups

theorem Walks.filled (fillable : disk.Fillable place) (content : ByteArray) {start : Place}
    {names : List String} {stop : Stop} (walks : Walks disk errand start names stop) :
    Walks (disk.fill place content) errand start names (stop.filled place) := by
  have kept (other : Place) : disk.isDirectory other = true →
      (disk.fill place content).isDirectory other = true :=
    (isDirectory_fill fillable.other content other).trans
  have node := node?_fill fillable.other content
  induction walks with
  | here start => exact .here start
  | stay directory nothing later ih => exact .stay (kept _ directory) nothing ih
  | up directory later ih => exact .up (kept _ directory) ih
  | @down start name rest _ _ directory looked found solid later ih =>
      by_cases here : place = start ++ [name]
      · exact .down (kept _ directory) (looked.filled fillable content)
          ((node _).trans (if_pos here)) nofun ih
      · exact .down (kept _ directory) (looked.filled fillable content)
          ((node _).trans ((if_neg here).trans found)) solid ih
  | @link start name rest target directory looked found =>
      -- No link is filled.
      have elsewhere : place ≠ start ++ [name] := by
        rintro rfl
        obtain ⟨old, same⟩ := fillable _ found
        cases same
      exact .link (kept _ directory) (looked.filled fillable content)
        ((node _).trans ((if_neg elsewhere).trans found))
  | @free start name directory looked vacant =>
      by_cases here : place = start ++ [name]
      · rw [Stop.filled, if_pos here.symm]
        exact .down (kept _ directory) (looked.filled fillable content)
          ((node _).trans (if_pos here)) nofun (.here _)
      · rw [Stop.filled, if_neg (Ne.symm here)]
        exact .free (kept _ directory) (looked.filled fillable content)
          ((node _).trans ((if_neg here).trans vacant))

theorem Walks.unfilled (fillable : disk.Fillable place) {content : ByteArray} {start : Place}
    {names : List String} {stop : Stop}
    (walks : Walks (disk.fill place content) errand start names stop) :
    ∃ before, Walks disk errand start names before ∧ stop = before.filled place := by
  have kept (other : Place) : (disk.fill place content).isDirectory other = true →
      disk.isDirectory other = true :=
    (isDirectory_fill fillable.other content other).symm.trans
  have node := node?_fill fillable.other content
  induction walks with
  | here start => exact ⟨_, .here start, rfl⟩
  | stay directory nothing later ih =>
      obtain ⟨before, walks, same⟩ := ih
      exact ⟨before, .stay (kept _ directory) nothing walks, same⟩
  | up directory later ih =>
      obtain ⟨before, walks, same⟩ := ih
      exact ⟨before, .up (kept _ directory) walks, same⟩
  | @down start name rest _ _ directory looked found solid later ih =>
      by_cases here : place = start ++ [name]
      · -- The walk ends at the new file, which was free or a file before.
        have file : (disk.fill place content).isDirectory (start ++ [name]) = false := by
          rw [isDirectory_fill fillable.other, ← here, fillable.other]
        obtain ⟨rfl, rfl⟩ := later.at_file file
        cases held : disk.node? (start ++ [name]) with
        | none =>
            refine ⟨_, .free (kept _ directory) (looked.unfilled fillable) held, ?_⟩
            rw [Stop.filled, if_pos here.symm]
        | some old =>
            obtain ⟨bytes, rfl⟩ := fillable old (here ▸ held)
            exact ⟨_, .down (kept _ directory) (looked.unfilled fillable) held nofun (.here _), rfl⟩
      · obtain ⟨before, walks, same⟩ := ih
        rw [node, if_neg here] at found
        exact ⟨before, .down (kept _ directory) (looked.unfilled fillable) found solid walks, same⟩
  | @link start name rest target directory looked found =>
      rw [node] at found
      split at found
      · cases found
      · exact ⟨_, .link (kept _ directory) (looked.unfilled fillable) found, rfl⟩
  | @free start name directory looked vacant =>
      rw [node] at vacant
      split at vacant
      · cases vacant
      · rename_i elsewhere
        refine ⟨_, .free (kept _ directory) (looked.unfilled fillable) vacant, ?_⟩
        rw [Stop.filled, if_neg (Ne.symm elsewhere)]

theorem Leads.filled (fillable : disk.Fillable place) (content : ByteArray) {links : Nat}
    {start target : Place} {names : List String} {found : Bool}
    (leads : Leads disk errand links start names target found) :
    ∃ found, Leads (disk.fill place content) errand links start names target found := by
  induction leads with
  | existing walk => exact ⟨true, .existing (walk.filled fillable content)⟩
  | @free links start target names walk =>
      have filled := walk.filled fillable content
      rw [Stop.filled] at filled
      split at filled
      · exact ⟨true, .existing filled⟩
      · exact ⟨false, .free filled⟩
  | link walk later ih =>
      obtain ⟨found, leads⟩ := ih
      exact ⟨found, .link (walk.filled fillable content) leads⟩

theorem Leads.unfilled (fillable : disk.Fillable place) {content : ByteArray} {links : Nat}
    {start target : Place} {names : List String} {found : Bool}
    (leads : Leads (disk.fill place content) errand links start names target found) :
    ∃ found, Leads disk errand links start names target found := by
  induction leads with
  | existing walk =>
      obtain ⟨before, walks, same⟩ := walk.unfilled fillable
      rcases Stop.of_existing same with rfl | rfl
      · exact ⟨true, .existing walks⟩
      · exact ⟨false, .free walks⟩
  | free walk =>
      obtain ⟨before, walks, same⟩ := walk.unfilled fillable
      cases Stop.of_free same
      exact ⟨false, .free walks⟩
  | link walk later ih =>
      obtain ⟨before, walks, same⟩ := walk.unfilled fillable
      cases Stop.of_link same
      obtain ⟨found, leads⟩ := ih
      exact ⟨found, .link walks leads⟩

/-- All paths can be written to where they could be before. -/
theorem slot?_fill (fillable : disk.Fillable place) (content : ByteArray) (path : String) :
    (disk.fill place content).slot? path = disk.slot? path := by
  refine Option.ext fun target => ?_
  rw [slot?_eq_some_iff, slot?_eq_some_iff, isDirectory_fill fillable.other]
  refine and_congr_left' ⟨?_, ?_⟩
  · rintro ⟨_, resolved⟩
    obtain ⟨followed, leads⟩ := resolve_ok_iff.mp resolved
    obtain ⟨found, leads⟩ := leads.unfilled fillable
    exact ⟨found, resolve_ok_iff.mpr ⟨followed, leads⟩⟩
  · rintro ⟨_, resolved⟩
    obtain ⟨followed, leads⟩ := resolve_ok_iff.mp resolved
    obtain ⟨found, leads⟩ := leads.filled fillable content
    exact ⟨found, resolve_ok_iff.mpr ⟨followed, leads⟩⟩

/-- A path that can be written to leads a reader to the same place. -/
theorem slot_reading {path : String} (slot : disk.slot? path = some place) :
    ∃ found, disk.resolve .reading path = .ok (place, found) := by
  obtain ⟨⟨found, resolved⟩, -⟩ := slot?_eq_some_iff.mp slot
  exact ⟨found, resolve_reading resolved ((resolve_ok_iff.mp resolved).1.short nofun)⟩

theorem slot_existing {path : String} {node : Node} (slot : disk.slot? path = some place)
    (held : disk.node? place = some node) : disk.existing? .reading path = some place := by
  obtain ⟨found, resolved⟩ := slot_reading slot
  cases found with
  | true => exact existing?_eq_some_iff.mpr resolved
  | false =>
      rw [(resolve_ok_iff.mp resolved).2.vacant] at held
      cases held

theorem read_slot {path : String} {content : ByteArray} (slot : disk.slot? path = some place)
    (held : disk.node? place = some (.file content)) : disk.read path = .ok content := by
  obtain ⟨found, resolved⟩ := slot_reading slot
  simp only [read, resolved, held]

theorem read_fill (fillable : disk.Fillable place) {path : String}
    (slot : disk.slot? path = some place) (content : ByteArray) :
    (disk.fill place content).read path = .ok content :=
  read_slot ((slot?_fill fillable content path).trans slot)
    (node?_fill_self fillable.other content)

end Filled

/-! ## Trees -/

namespace IsTree
variable {disk : Disk} {place : Place} {path : String}

theorem slot_ends (tree : disk.IsTree) (slot : disk.slot? path = some place) :
    disk.Fillable place ∧ disk.isDirectory place.dropLast = true := by
  obtain ⟨⟨found, resolved⟩, other⟩ := slot?_eq_some_iff.mp slot
  have ends := tree.leads (resolve_ok_iff.mp resolved).2
    (.of_directory (start_directory tree.home path))
  cases found with
  | false =>
      -- The place is free, so its directory is there.
      obtain ⟨vacant, above⟩ := ends
      exact ⟨fun node held => absurd (vacant.symm.trans held) nofun, above⟩
  | true =>
      obtain ⟨node, held, solid⟩ := ends
      constructor
      · intro again same
        cases held.symm.trans same
        cases node with
        | directory =>
            rw [isDirectory_iff.mpr held] at other
            cases other
        | file content => exact ⟨content, rfl⟩
        | link target => exact absurd rfl (solid target)
      · rcases List.eq_nil_or_concat place with rfl | ⟨above, name, rfl⟩
        · rfl
        · rw [List.concat_eq_append] at held ⊢
          rw [List.dropLast_concat]
          exact tree.parent above name node held

theorem fillable (tree : disk.IsTree) (slot : disk.slot? path = some place) :
    disk.Fillable place :=
  (tree.slot_ends slot).1

/-- A write keeps a tree a tree. -/
theorem fill (tree : disk.IsTree) (slot : disk.slot? path = some place) (content : ByteArray) :
    (disk.fill place content).IsTree := by
  obtain ⟨fillable, above⟩ := tree.slot_ends slot
  constructor
  · rw [isDirectory_fill fillable.other]
    exact tree.home
  · intro parent name node found
    rw [isDirectory_fill fillable.other]
    rw [node?_fill fillable.other] at found
    split at found
    · rename_i here
      rw [here, List.dropLast_concat] at above
      exact above
    · exact tree.parent parent name node found

end IsTree

end ThreeAddress.Disk
