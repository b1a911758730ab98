/-!
Tables in the order in which their keys first came. A key that comes again keeps its place
and takes the new value.
-/

namespace ThreeAddress

structure Table (Key Value : Type) where
  entries : List (Key × Value) := []

namespace Table
variable {Key Value : Type}

def keys (table : Table Key Value) : List Key :=
  table.entries.map Prod.fst

def size (table : Table Key Value) : Nat :=
  table.entries.length

variable [DecidableEq Key]

def lookup : List (Key × Value) → Key → Option Value
  | [], _ => none
  | (found, value) :: rest, key => if found = key then some value else lookup rest key

def put : List (Key × Value) → Key → Value → List (Key × Value)
  | [], key, value => [(key, value)]
  | (found, old) :: rest, key, value =>
      if found = key then (key, value) :: rest else (found, old) :: put rest key value

def get? (table : Table Key Value) (key : Key) : Option Value :=
  lookup table.entries key

def insert (table : Table Key Value) (key : Key) (value : Value) : Table Key Value :=
  ⟨put table.entries key value⟩

theorem lookup_put (entries : List (Key × Value)) (key other : Key) (value : Value) :
    lookup (put entries key value) other =
      if key = other then some value else lookup entries other := by
  induction entries with
  | nil => simp [put, lookup]
  | cons entry rest ih =>
      obtain ⟨found, old⟩ := entry
      by_cases here : found = key
      · subst found
        by_cases same : key = other <;> simp [put, lookup, same]
      · simp only [put, here, ↓reduceIte, lookup, ih]
        by_cases same : found = other
        · subst found
          simp [Ne.symm here]
        · simp [same]

@[simp] theorem get?_insert (table : Table Key Value) (key other : Key) (value : Value) :
    (table.insert key value).get? other =
      if key = other then some value else table.get? other :=
  lookup_put table.entries key other value

theorem mem_of_lookup {entries : List (Key × Value)} {key : Key} {value : Value}
    (found : lookup entries key = some value) : (key, value) ∈ entries := by
  induction entries with
  | nil => cases found
  | cons entry rest ih =>
      obtain ⟨other, held⟩ := entry
      unfold lookup at found
      split at found
      · rename_i same
        cases same
        cases found
        exact List.mem_cons_self
      · exact List.mem_cons_of_mem _ (ih found)

theorem lookup_map_const (keys : List Key) (value : Value) (key : Key) :
    lookup (keys.map fun found => (found, value)) key =
      if key ∈ keys then some value else none := by
  induction keys with
  | nil => rfl
  | cons first rest ih =>
      by_cases here : first = key
      · simp [lookup, here]
      · simp [lookup, here, Ne.symm here, ih]

theorem keys_put (entries : List (Key × Value)) (key : Key) (value : Value) :
    (put entries key value).map Prod.fst =
      if key ∈ entries.map Prod.fst then entries.map Prod.fst
      else entries.map Prod.fst ++ [key] := by
  induction entries with
  | nil => simp [put]
  | cons entry rest ih =>
      obtain ⟨found, old⟩ := entry
      by_cases here : found = key
      · simp [put, here]
      · simp only [put, here, ↓reduceIte, List.map_cons, ih, List.mem_cons]
        by_cases later : key ∈ rest.map Prod.fst
        · simp [later]
        · simp [later, Ne.symm here]

theorem keys_insert (table : Table Key Value) (key : Key) (value : Value) :
    (table.insert key value).keys =
      if key ∈ table.keys then table.keys else table.keys ++ [key] :=
  keys_put table.entries key value

theorem mem_put {entries : List (Key × Value)} {key : Key} {value : Value} {entry : Key × Value}
    (member : entry ∈ put entries key value) : entry = (key, value) ∨ entry ∈ entries := by
  induction entries with
  | nil => exact .inl (List.mem_singleton.mp member)
  | cons first rest ih =>
      obtain ⟨found, old⟩ := first
      by_cases here : found = key
      · simp only [put, here, ↓reduceIte, List.mem_cons] at member
        exact member.imp_right (List.mem_cons_of_mem _)
      · simp only [put, here, ↓reduceIte, List.mem_cons] at member
        rcases member with rfl | later
        · exact .inr List.mem_cons_self
        · exact (ih later).imp_right (List.mem_cons_of_mem _)

end Table

end ThreeAddress
