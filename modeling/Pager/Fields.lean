namespace Pager

/-- Fields in rising order of their names, each name once. -/
abbrev Fields (α : Type) := List (String × α)

namespace Fields

variable {α : Type}

def find? : Fields α → String → Option α
  | [], _ => none
  | (k, v) :: rest, name => if k = name then some v else find? rest name

/-- Writes a field at its place, over the one of that name if there is one. -/
def put : Fields α → String → α → Fields α
  | [], name, value => [(name, value)]
  | (k, v) :: rest, name, value =>
    if k = name then (name, value) :: rest
    else if name < k then (name, value) :: (k, v) :: rest
    else (k, v) :: put rest name value

/-- The fields of a list of pairs; of two pairs with one name the later counts. -/
def ofPairs (pairs : List (String × α)) : Fields α :=
  pairs.foldl (fun fields (name, value) => fields.put name value) []

def names (fields : Fields α) : List String :=
  fields.map Prod.fst

theorem find?_put_self (fields : Fields α) (name : String) (value : α) :
    (fields.put name value).find? name = some value := by
  induction fields with
  | nil => simp [put, find?]
  | cons field rest ih =>
    obtain ⟨k, v⟩ := field
    simp only [put]
    split
    · simp [find?]
    · split
      · simp [find?]
      · next differs _ => simp [find?, differs, ih]

theorem find?_put_of_ne (fields : Fields α) {name other : String} (value : α)
    (differs : name ≠ other) : (fields.put name value).find? other = fields.find? other := by
  induction fields with
  | nil => simp [put, find?, differs]
  | cons field rest ih =>
    obtain ⟨k, v⟩ := field
    simp only [put]
    split
    · next same => subst same; simp [find?, differs]
    · split
      · simp [find?, differs]
      · simp only [find?, ih]

/-- Names written in turn, each with its value, over fields that are there. -/
theorem find?_foldl_put (value : String → α) (names : List String) (fields : Fields α) (name : String) :
    (names.foldl (fun fields n => fields.put n (value n)) fields).find? name =
      if name ∈ names then some (value name) else fields.find? name := by
  induction names generalizing fields with
  | nil => simp
  | cons n names ih =>
    rw [List.foldl_cons, ih]
    by_cases later : name ∈ names
    · simp [later]
    · by_cases same : n = name
      · subst same
        simp [later, find?_put_self]
      · simp [later, Ne.symm same, find?_put_of_ne fields (value n) same]

theorem find?_ofPairs_map (value : String → α) (names : List String) (name : String) :
    (ofPairs (names.map fun n => (n, value n))).find? name =
      if name ∈ names then some (value name) else none := by
  rw [ofPairs, List.foldl_map]
  exact find?_foldl_put value names [] name

end Fields

end Pager
