import Pager.Json.Reader
import Pager.Proofs.Fields
import Pager.Proofs.Template.Pruning

namespace Pager.Json

variable {v : Json} {items done vs : List Json} {fields fs : Fields Json} {s rest : List Char}

/-- Each name is in each object of the value once. -/
def NamedOnce (v : Json) : Prop :=
  ∀ route fields, v.At route (.object fields) → (Fields.names fields).Nodup

theorem NamedOnce.list (each : ∀ v ∈ items, v.NamedOnce) : (Json.list items).NamedOnce := by
  rintro route fields (_ | ⟨there, inside⟩)
  exact each _ (List.mem_of_getElem? there) _ fields inside

theorem NamedOnce.object (once : fields.names.Nodup) (each : ∀ field ∈ fields, field.2.NamedOnce) :
    (Json.object fields).NamedOnce := by
  rintro route inner (_ | _ | ⟨member, inside⟩)
  · exact once
  · exact each _ member _ inner inside

/-- A value that is neither a list nor an object has no object inside it. -/
theorem NamedOnce.scalar (noList : ∀ items, v ≠ .list items) (noObject : ∀ fields, v ≠ .object fields) :
    v.NamedOnce := by
  rintro route fields (_ | _ | _)
  · exact absurd rfl (noObject fields)
  · exact absurd rfl (noList _)
  · exact absurd rfl (noObject _)

theorem namedOnce_keyword {word : String} {w : Json} (read : keyword word v s = some (w, rest))
    (once : v.NamedOnce) : w.NamedOnce := by
  rw [keyword] at read
  split at read
  · cases read
    exact once
  · cases read

/-- What holds of the values a reader with so much fuel gives. -/
structure ReadsOnce (fuel : Nat) : Prop where
  value : ∀ {depth s v rest}, readValue fuel depth s = some (v, rest) → v.NamedOnce
  items : ∀ {depth done s vs rest}, (∀ v ∈ done, v.NamedOnce) →
    readItems fuel depth done s = some (vs, rest) → ∀ v ∈ vs, v.NamedOnce
  fields : ∀ {depth done s fs rest}, Fields.Sorted done → (∀ field ∈ done, field.2.NamedOnce) →
    readFields fuel depth done s = some (fs, rest) → (Json.object fs).NamedOnce

theorem ReadsOnce.value_succ {fuel depth : Nat} (reads : ReadsOnce fuel)
    (read : readValue (fuel + 1) depth s = some (v, rest)) : v.NamedOnce := by
  rw [readValue] at read
  split at read
  · exact namedOnce_keyword read (.scalar nofun nofun)
  · exact namedOnce_keyword read (.scalar nofun nofun)
  · exact namedOnce_keyword read (.scalar nofun nofun)
  · obtain ⟨_, _, same⟩ := Option.map_eq_some_iff.mp read
    cases same
    exact .scalar nofun nofun
  · split at read
    · cases read
    · split at read
      · cases read
        exact .list (List.forall_mem_nil _)
      · obtain ⟨_, inner, same⟩ := Option.map_eq_some_iff.mp read
        cases same
        exact .list (reads.items (List.forall_mem_nil _) inner)
  · split at read
    · cases read
    · split at read
      · cases read
        exact .object .nil (List.forall_mem_nil _)
      · obtain ⟨_, inner, same⟩ := Option.map_eq_some_iff.mp read
        cases same
        exact reads.fields .nil (List.forall_mem_nil _) inner
  · obtain ⟨_, _, same⟩ := Option.map_eq_some_iff.mp read
    cases same
    exact .scalar nofun nofun

theorem ReadsOnce.items_succ {fuel depth : Nat} (reads : ReadsOnce fuel)
    (before : ∀ v ∈ done, v.NamedOnce)
    (read : readItems (fuel + 1) depth done s = some (vs, rest)) : ∀ v ∈ vs, v.NamedOnce := by
  rw [readItems] at read
  obtain ⟨⟨v, left⟩, first, later⟩ := Option.bind_eq_some_iff.mp read
  have grown : ∀ w ∈ v :: done, w.NamedOnce := List.forall_mem_cons.mpr ⟨reads.value first, before⟩
  dsimp only at later
  split at later
  · exact reads.items grown later
  · cases later
    exact fun w member => grown w (List.mem_reverse.mp member)
  · cases later

theorem ReadsOnce.fields_succ {fuel depth : Nat} (reads : ReadsOnce fuel)
    (sorted : fields.Sorted) (before : ∀ field ∈ fields, field.2.NamedOnce)
    (read : readFields (fuel + 1) depth fields s = some (fs, rest)) : (Json.object fs).NamedOnce := by
  rw [readFields] at read
  obtain ⟨⟨name, left⟩, named, read⟩ := Option.bind_eq_some_iff.mp read
  dsimp only at read
  split at read
  · obtain ⟨⟨v, left⟩, first, later⟩ := Option.bind_eq_some_iff.mp read
    have ordered := Fields.sorted_put sorted name v
    have grown : ∀ field ∈ fields.put name v, field.2.NamedOnce := by
      intro field member
      rcases Fields.mem_of_mem_put member with rfl | old
      · exact reads.value first
      · exact before field old
    dsimp only at later
    split at later
    · exact reads.fields ordered grown later
    · cases later
      exact .object ordered.nodup_names grown
    · cases later
  · cases read

theorem readsOnce (fuel : Nat) : ReadsOnce fuel := by
  induction fuel with
  | zero => exact ⟨nofun, nofun, nofun⟩
  | succ fuel ih => exact ⟨ih.value_succ, ih.items_succ, ih.fields_succ⟩

/-- Each object of a value that is read has its names once. -/
theorem namedOnce_of_read {text : String} (read : Json.read text = some v) : v.NamedOnce := by
  rw [Json.read, readWithin] at read
  split at read
  · next found =>
    split at read
    · cases read
      exact (readsOnce _).value found
    · cases read
  · cases read

end Pager.Json
