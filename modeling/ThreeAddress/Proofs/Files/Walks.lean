import ThreeAddress.Files.Disk

/-!
Where paths lead, as derivations. A walk takes one name after the other, and a path follows links
from walk to walk; both functions give a result exactly where there is a derivation of it.
-/

namespace ThreeAddress.Disk

/-- Directories hold what is below them, and relative paths start in a directory. -/
structure IsTree (disk : Disk) : Prop where
  home : disk.isDirectory disk.home = true
  parent (place : Place) (name : String) (node : Node)
    (found : disk.node? (place ++ [name]) = some node) : disk.isDirectory place = true

def Solid (disk : Disk) (place : Place) : Prop :=
  ∃ node, disk.node? place = some node ∧ ∀ target, node ≠ .link target

def Ends (disk : Disk) : Stop → Prop
  | .existing place => disk.Solid place
  | .free place => disk.node? place = none ∧ disk.isDirectory place.dropLast = true
  | .link directory _ _ => disk.isDirectory directory = true

section Nodes
variable {disk : Disk} {place : Place}

theorem isDirectory_iff : disk.isDirectory place = true ↔ disk.node? place = some .directory := by
  unfold isDirectory
  split <;> simp_all

theorem isDirectory_root (disk : Disk) : disk.isDirectory [] = true := rfl

theorem Solid.of_directory (directory : disk.isDirectory place = true) : disk.Solid place :=
  ⟨.directory, isDirectory_iff.mp directory, nofun⟩

/-- A disk is a tree if every entry of it is in a directory. -/
theorem IsTree.of_entries (home : disk.isDirectory disk.home = true)
    (held : ∀ entry ∈ disk.nodes.entries, disk.isDirectory entry.1.dropLast = true) :
    disk.IsTree where
  home := home
  parent place name node found := by
    have named : (place ++ [name]).isEmpty = false := by cases place <;> rfl
    rw [node?, named] at found
    have above := held _ (Table.mem_of_lookup found)
    rwa [List.dropLast_concat] at above

theorem IsTree.up (tree : disk.IsTree) (directory : disk.isDirectory place = true) :
    disk.isDirectory place.dropLast = true := by
  rcases List.eq_nil_or_concat place with rfl | ⟨above, name, rfl⟩
  · rfl
  · rw [List.concat_eq_append] at directory ⊢
    rw [List.dropLast_concat]
    exact tree.parent above name .directory (isDirectory_iff.mp directory)

end Nodes

/-! ## Walks as derivations -/

structure Proper (disk : Disk) (errand : Errand) (place : Place) (name : String)
    (rest : List String) : Prop where
  speaks : Path.saysNothing name = false
  down : name ≠ ".."
  onward : errand = .writing → closing rest = false
  short : name.utf8ByteSize ≤ longestName
  asked : errand = .naming → disk.askedSize (place ++ [name]) rest ≤ longestPath

inductive Walks (disk : Disk) (errand : Errand) : Place → List String → Stop → Prop
  | here (place : Place) : Walks disk errand place [] (.existing place)
  | stay {place : Place} {name : String} {rest : List String} {stop : Stop}
      (directory : disk.isDirectory place = true) (nothing : Path.saysNothing name = true)
      (later : Walks disk errand place rest stop) : Walks disk errand place (name :: rest) stop
  | up {place : Place} {rest : List String} {stop : Stop}
      (directory : disk.isDirectory place = true)
      (later : Walks disk errand place.dropLast rest stop) :
      Walks disk errand place (".." :: rest) stop
  | down {place : Place} {name : String} {rest : List String} {stop : Stop} {node : Node}
      (directory : disk.isDirectory place = true) (proper : Proper disk errand place name rest)
      (found : disk.node? (place ++ [name]) = some node) (solid : ∀ target, node ≠ .link target)
      (later : Walks disk errand (place ++ [name]) rest stop) :
      Walks disk errand place (name :: rest) stop
  | link {place : Place} {name : String} {rest : List String} {target : String}
      (directory : disk.isDirectory place = true) (proper : Proper disk errand place name rest)
      (found : disk.node? (place ++ [name]) = some (.link target)) :
      Walks disk errand place (name :: rest) (.link place target rest)
  | free {place : Place} {name : String}
      (directory : disk.isDirectory place = true) (proper : Proper disk errand place name [])
      (vacant : disk.node? (place ++ [name]) = none) :
      Walks disk errand place [name] (.free (place ++ [name]))

/-- From the start, the names lead to the place, over at most so many links; the last argument says
whether there is anything. -/
inductive Leads (disk : Disk) (errand : Errand) : Nat → Place → List String → Place → Bool → Prop
  | existing {links : Nat} {start place : Place} {names : List String}
      (walk : Walks disk errand start names (.existing place)) :
      Leads disk errand links start names place true
  | free {links : Nat} {start place : Place} {names : List String}
      (walk : Walks disk errand start names (.free place)) :
      Leads disk errand links start names place false
  | link {links : Nat} {first directory place : Place} {names rest : List String}
      {target : String} {found : Bool}
      (walk : Walks disk errand first names (.link directory target rest))
      (later : Leads disk errand links (start directory target) (Path.names target ++ rest)
        place found) :
      Leads disk errand (links + 1) first names place found

structure Followed (errand : Errand) (path : String) : Prop where
  zeroless : path.toList.contains '\x00' = false
  something : path.isEmpty = false
  short : errand ≠ .naming → path.utf8ByteSize ≤ longestPath

section Derivations
variable {disk : Disk} {errand : Errand}

theorem directory_of_walk {place : Place} {name : String} {rest : List String} {stop : Stop}
    (walked : disk.walk errand place (name :: rest) = .ok stop) :
    disk.isDirectory place = true := by
  cases directory : disk.isDirectory place with
  | true => rfl
  | false =>
      rw [walk, directory] at walked
      cases walked

theorem Proper.of_walk {place : Place} {name : String} {rest : List String} {stop : Stop}
    (walked : disk.walk errand place (name :: rest) = .ok stop)
    (speaks : Path.saysNothing name = false) (down : name ≠ "..") :
    Proper disk errand place name rest := by
  have directory := directory_of_walk walked
  have other : (name == "..") = false := beq_eq_false_iff_ne.mpr down
  rw [walk] at walked
  simp only [directory, speaks, other, Bool.not_true, Bool.false_eq_true, ↓reduceIte] at walked
  -- Three things may still be wrong with the name.
  split at walked
  · cases walked
  rename_i onward
  split at walked
  · cases walked
  rename_i short
  split at walked
  · cases walked
  rename_i asked
  exact {
    speaks, down
    onward := by simpa using onward
    short := Nat.le_of_not_lt short
    asked := by simpa using asked }

theorem walk_proper {place : Place} {name : String} {rest : List String}
    (directory : disk.isDirectory place = true) (proper : Proper disk errand place name rest) :
    disk.walk errand place (name :: rest) =
      match disk.node? (place ++ [name]) with
      | some (.link target) => .ok (.link place target rest)
      | some _ => disk.walk errand (place ++ [name]) rest
      | none => if rest.isEmpty then .ok (.free (place ++ [name])) else .error .notFound := by
  obtain ⟨speaks, down, onward, short, asked⟩ := proper
  have other : (name == "..") = false := beq_eq_false_iff_ne.mpr down
  have passed : (errand == .writing && closing rest) = false := by simpa using onward
  have fits : ¬ longestName < name.utf8ByteSize := Nat.not_lt.mpr short
  have spelled : ¬ (errand == .naming &&
      decide (longestPath < disk.askedSize (place ++ [name]) rest)) = true := by simpa using asked
  rw [walk]
  rcases disk.node? (place ++ [name]) with _ | (_ | _ | _) <;>
    simp only [directory, speaks, other, passed, fits, spelled, Bool.not_true, Bool.false_eq_true,
      ↓reduceIte]

theorem walks_of_walk {place : Place} {names : List String} {stop : Stop}
    (walked : disk.walk errand place names = .ok stop) :
    Walks disk errand place names stop := by
  induction names generalizing place with
  | nil =>
      cases walked
      exact .here place
  | cons name rest ih =>
      have directory := directory_of_walk walked
      by_cases nothing : Path.saysNothing name = true
      · have later : disk.walk errand place rest = .ok stop := by
          simpa [walk, directory, nothing] using walked
        exact .stay directory nothing (ih later)
      by_cases above : name = ".."
      · subst above
        have later : disk.walk errand place.dropLast rest = .ok stop := by
          simpa [walk, directory, nothing] using walked
        exact .up directory (ih later)
      have proper := Proper.of_walk walked (by simpa using nothing) above
      rw [walk_proper directory proper] at walked
      cases found : disk.node? (place ++ [name]) with
      | none =>
          rw [found] at walked
          cases rest with
          | nil =>
              cases walked
              exact .free directory proper found
          | cons => cases walked
      | some node =>
          rw [found] at walked
          cases node with
          | link target =>
              cases walked
              exact .link directory proper found
          | directory => exact .down directory proper found nofun (ih walked)
          | file content => exact .down directory proper found nofun (ih walked)

theorem walk_of_walks {place : Place} {names : List String} {stop : Stop}
    (walks : Walks disk errand place names stop) :
    disk.walk errand place names = .ok stop := by
  induction walks with
  | here place => rfl
  | stay directory nothing later ih => simpa [walk, directory, nothing] using ih
  | up directory later ih =>
      have speaks : Path.saysNothing ".." = false := by decide
      simpa [walk, directory, speaks] using ih
  | down directory proper found solid later ih =>
      rw [walk_proper directory proper, found]
      split
      · rename_i target same
        cases same
        exact absurd rfl (solid target)
      · exact ih
      · rename_i none
        cases none
  | link directory proper found => rw [walk_proper directory proper, found]
  | free directory proper vacant =>
      rw [walk_proper directory proper, vacant]
      rfl

theorem walk_ok_iff {place : Place} {names : List String} {stop : Stop} :
    disk.walk errand place names = .ok stop ↔ Walks disk errand place names stop :=
  ⟨walks_of_walk, walk_of_walks⟩

theorem follow_ok_iff {links : Nat} {start place : Place} {names : List String} {found : Bool} :
    disk.follow errand links start names = .ok (place, found) ↔
      Leads disk errand links start names place found := by
  constructor
  · intro followed
    fun_induction disk.follow errand links start names with
    | case1 links start names fault walked => cases followed
    | case2 links start names stop walked =>
        cases followed
        exact .existing (walk_ok_iff.mp walked)
    | case3 links start names stop walked =>
        cases followed
        exact .free (walk_ok_iff.mp walked)
    | case4 start names directory target rest walked => cases followed
    | case5 start names directory target rest walked links ih =>
        exact .link (walk_ok_iff.mp walked) (ih followed)
  · intro leads
    induction leads with
    | existing walk => rw [follow, walk_ok_iff.mpr walk]
    | free walk => rw [follow, walk_ok_iff.mpr walk]
    | link walk later ih =>
        rw [follow, walk_ok_iff.mpr walk]
        exact ih

theorem resolve_ok_iff {path : String} {place : Place} {found : Bool} :
    disk.resolve errand path = .ok (place, found) ↔ Followed errand path ∧
      Leads disk errand mostLinks (start disk.home path) (Path.names path) place found := by
  unfold resolve
  constructor
  · intro resolved
    split at resolved
    · cases resolved
    rename_i zeroless
    split at resolved
    · cases resolved
    rename_i something
    split at resolved
    · cases resolved
    rename_i short
    exact ⟨⟨by simpa using zeroless, by simpa using something, by simpa using short⟩,
      follow_ok_iff.mp resolved⟩
  · rintro ⟨⟨zeroless, something, short⟩, leads⟩
    have fits : ¬ (errand != .naming && decide (longestPath < path.utf8ByteSize)) = true := by
      simpa using short
    simp only [zeroless, something, fits, Bool.false_eq_true, ↓reduceIte]
    exact follow_ok_iff.mpr leads

end Derivations

/-! ## Inversion -/

section Inversion
variable {disk : Disk} {errand : Errand} {place : Place} {name : String} {rest : List String}
  {stop : Stop}

theorem Walks.of_stay (walks : Walks disk errand place (name :: rest) stop)
    (nothing : Path.saysNothing name = true) : Walks disk errand place rest stop := by
  cases walks with
  | stay _ _ later => exact later
  | up => cases nothing
  | down _ proper | link _ proper | free _ proper =>
      rw [proper.speaks] at nothing
      cases nothing

theorem Walks.of_up (walks : Walks disk errand place (".." :: rest) stop) :
    Walks disk errand place.dropLast rest stop := by
  cases walks with
  | up _ later => exact later
  | stay _ nothing => cases nothing
  | down _ proper | link _ proper | free _ proper => exact absurd rfl proper.down

theorem Walks.of_down (walks : Walks disk errand place (name :: rest) stop)
    (speaks : Path.saysNothing name = false) (down : name ≠ "..") {node : Node}
    (found : disk.node? (place ++ [name]) = some node) (solid : ∀ target, node ≠ .link target) :
    Walks disk errand (place ++ [name]) rest stop := by
  cases walks with
  | down _ _ _ _ later => exact later
  | stay _ nothing =>
      rw [speaks] at nothing
      cases nothing
  | up => exact absurd rfl down
  | link _ _ other =>
      cases found.symm.trans other
      exact absurd rfl (solid _)
  | free _ _ vacant =>
      rw [found] at vacant
      cases vacant

theorem Walks.of_link (walks : Walks disk errand place (name :: rest) stop)
    (speaks : Path.saysNothing name = false) (down : name ≠ "..") {target : String}
    (found : disk.node? (place ++ [name]) = some (.link target)) :
    stop = .link place target rest := by
  cases walks with
  | link _ _ other =>
      cases found.symm.trans other
      rfl
  | stay _ nothing =>
      rw [speaks] at nothing
      cases nothing
  | up => exact absurd rfl down
  | down _ _ other solid =>
      cases found.symm.trans other
      exact absurd rfl (solid target)
  | free _ _ vacant =>
      rw [found] at vacant
      cases vacant

theorem Walks.looked (walks : Walks disk errand place (name :: rest) stop)
    (speaks : Path.saysNothing name = false) (down : name ≠ "..") :
    disk.isDirectory place = true ∧ Proper disk errand place name rest := by
  cases walks with
  | down directory proper | link directory proper | free directory proper =>
      exact ⟨directory, proper⟩
  | stay _ nothing =>
      rw [speaks] at nothing
      cases nothing
  | up => exact absurd rfl down

/-- Names that say nothing keep a walk where it is. -/
theorem Walks.of_nothing {names : List String} (walks : Walks disk errand place names stop)
    (nothing : ∀ name ∈ names, Path.saysNothing name = true) : stop = .existing place := by
  induction names with
  | nil =>
      cases walks
      rfl
  | cons name rest ih =>
      obtain ⟨here, later⟩ := List.forall_mem_cons.mp nothing
      exact ih (walks.of_stay here) later

theorem Leads.of_nothing {links : Nat} {target : Place} {names : List String} {found : Bool}
    (leads : Leads disk errand links place names target found)
    (nothing : ∀ name ∈ names, Path.saysNothing name = true) : target = place := by
  cases leads with
  | existing walk => cases walk.of_nothing nothing; rfl
  | free walk | link walk => cases walk.of_nothing nothing

theorem Leads.looked {links : Nat} {target : Place} {found : Bool}
    (leads : Leads disk errand links place (name :: rest) target found)
    (speaks : Path.saysNothing name = false) (down : name ≠ "..") :
    disk.isDirectory place = true ∧ Proper disk errand place name rest := by
  cases leads with
  | existing walk | free walk | link walk => exact walk.looked speaks down

/-- A file leads nowhere else. -/
theorem Walks.at_file {names : List String} (walks : Walks disk errand place names stop)
    (other : disk.isDirectory place = false) : names = [] ∧ stop = .existing place := by
  cases walks with
  | here => exact ⟨rfl, rfl⟩
  | stay directory | up directory | down directory | link directory | free directory =>
      rw [other] at directory
      cases directory

end Inversion

/-! ## From one errand to another -/

section Errands
variable {disk : Disk} {errand : Errand}

/-- Where something can be written or named, something can be read. -/
theorem Walks.reading {place : Place} {names : List String} {stop : Stop}
    (walks : Walks disk errand place names stop) : Walks disk .reading place names stop := by
  have proper {place : Place} {name : String} {rest : List String}
      (proper : Proper disk errand place name rest) : Proper disk .reading place name rest :=
    { proper with onward := nofun, asked := nofun }
  induction walks with
  | here place => exact .here place
  | stay directory nothing later ih => exact .stay directory nothing ih
  | up directory later ih => exact .up directory ih
  | down directory looked found solid later ih =>
      exact .down directory (proper looked) found solid ih
  | link directory looked found => exact .link directory (proper looked) found
  | free directory looked vacant => exact .free directory (proper looked) vacant

theorem Leads.reading {links : Nat} {start place : Place} {names : List String} {found : Bool}
    (leads : Leads disk errand links start names place found) :
    Leads disk .reading links start names place found := by
  induction leads with
  | existing walk => exact .existing walk.reading
  | free walk => exact .free walk.reading
  | link walk later ih => exact .link walk.reading ih

theorem existing?_eq_some_iff {path : String} {place : Place} :
    disk.existing? errand path = some place ↔ disk.resolve errand path = .ok (place, true) := by
  unfold existing?
  split
  · rename_i other resolved
    simp [resolved]
  · rename_i other
    simp only [reduceCtorEq, false_iff]
    exact other place

theorem existing?_iff_leads {path : String} {place : Place} :
    disk.existing? errand path = some place ↔ Followed errand path ∧
      Leads disk errand mostLinks (start disk.home path) (Path.names path) place true :=
  existing?_eq_some_iff.trans resolve_ok_iff

/-- Naming a place takes no more of the path than anything else. -/
theorem Followed.naming {path : String} (followed : Followed errand path) :
    Followed .naming path :=
  { followed with short := fun other => absurd rfl other }

theorem resolve_reading {path : String} {place : Place} {found : Bool}
    (resolved : disk.resolve errand path = .ok (place, found))
    (short : path.utf8ByteSize ≤ longestPath) :
    disk.resolve .reading path = .ok (place, found) := by
  obtain ⟨followed, leads⟩ := resolve_ok_iff.mp resolved
  exact resolve_ok_iff.mpr ⟨{ followed with short := fun _ => short }, leads.reading⟩

/-- A path that is read from a place is named by no other. -/
theorem canonical?_unique {path : String} {place other : Place} {found : Bool}
    (resolved : disk.resolve .reading path = .ok (place, found))
    (canonical : disk.canonical? path = some other) : other = place ∧ found = true := by
  have short := (resolve_ok_iff.mp resolved).1.short nofun
  have named := resolve_reading (existing?_eq_some_iff.mp canonical) short
  cases named.symm.trans resolved
  exact ⟨rfl, rfl⟩

end Errands

/-! ## Where derivations end -/

section Ends
variable {disk : Disk} {errand : Errand}

theorem Walks.vacant {start place : Place} {names : List String}
    (walks : Walks disk errand start names (.free place)) : disk.node? place = none := by
  generalize ended : Stop.free place = stop at walks
  induction walks with
  | here place => cases ended
  | link directory proper found => cases ended
  | free directory proper vacant =>
      cases ended
      exact vacant
  | stay _ _ _ ih | up _ _ ih | down _ _ _ _ _ ih => exact ih ended

theorem Leads.vacant {links : Nat} {start place : Place} {names : List String}
    (leads : Leads disk errand links start names place false) : disk.node? place = none := by
  generalize missing : false = found at leads
  induction leads with
  | existing walk => cases missing
  | free walk => exact walk.vacant
  | link walk later ih => exact ih missing

theorem IsTree.walks (tree : disk.IsTree) {place : Place} {names : List String} {stop : Stop}
    (walks : Walks disk errand place names stop) (solid : disk.Solid place) :
    disk.Ends stop := by
  induction walks with
  | here place => exact solid
  | stay directory nothing later ih => exact ih solid
  | up directory later ih => exact ih (.of_directory (tree.up directory))
  | down directory proper found solidNode later ih => exact ih ⟨_, found, solidNode⟩
  | link directory proper found => exact directory
  | @free place name directory proper vacant =>
      refine ⟨vacant, ?_⟩
      rw [List.dropLast_concat]
      exact directory

theorem start_directory {home : Place} (directory : disk.isDirectory home = true)
    (path : String) : disk.isDirectory (start home path) = true := by
  unfold start
  split
  · exact isDirectory_root disk
  · exact directory

/-- A path ends at a node that is no link, or at a free name in a directory. -/
theorem IsTree.leads (tree : disk.IsTree) {links : Nat} {start place : Place}
    {names : List String} {found : Bool}
    (leads : Leads disk errand links start names place found) (solid : disk.Solid start) :
    disk.Ends (if found then .existing place else .free place) := by
  induction leads with
  | existing walk => exact tree.walks walk solid
  | free walk => exact tree.walks walk solid
  | link walk later ih => exact ih (.of_directory (start_directory (tree.walks walk solid) _))

end Ends

end ThreeAddress.Disk
