import Mathlib.Data.List.Induction
import Pager.Fields

namespace Pager.Fields

variable {α : Type} {fields : Fields α} {pairs : List (String × α)} {name : String} {value : α}

/-- In rising order of the names, none twice. -/
def Sorted (fields : Fields α) : Prop :=
  fields.Pairwise fun a b => a.1 < b.1

theorem before_of_not {a b : String} (differs : a ≠ b) (after : ¬ b < a) : a < b :=
  Std.lt_of_le_of_ne after differs

theorem mem_of_mem_put {field : String × α} (member : field ∈ fields.put name value) :
    field = (name, value) ∨ field ∈ fields := by
  induction fields with
  | nil => exact .inl (List.mem_singleton.mp member)
  | cons first rest ih =>
    obtain ⟨k, v⟩ := first
    rw [put] at member
    split at member
    · exact (List.mem_cons.mp member).imp_right (List.mem_cons_of_mem _)
    · split at member
      · exact List.mem_cons.mp member
      · rcases List.mem_cons.mp member with rfl | later
        · exact .inr List.mem_cons_self
        · exact (ih later).imp_right (List.mem_cons_of_mem _)

theorem sorted_put (sorted : fields.Sorted) (name : String) (value : α) :
    (fields.put name value).Sorted := by
  induction fields with
  | nil => exact List.pairwise_singleton _ _
  | cons first rest ih =>
    obtain ⟨k, v⟩ := first
    obtain ⟨behind, others⟩ := List.pairwise_cons.mp sorted
    rw [put]
    split
    · next same => exact .cons (fun field member => same ▸ behind field member) others
    · next differs =>
      split
      · next before =>
        refine .cons (fun field member => ?_) sorted
        rcases List.mem_cons.mp member with rfl | later
        · exact before
        · exact String.lt_trans before (behind field later)
      · next after =>
        refine .cons (fun field member => ?_) (ih others)
        rcases mem_of_mem_put member with rfl | later
        · exact before_of_not differs after
        · exact behind field later

/-- Writing a field puts it in the place of the one of its name and leaves the others. -/
theorem mem_put_iff (sorted : fields.Sorted) {field : String × α} :
    field ∈ fields.put name value ↔ field = (name, value) ∨ field ∈ fields ∧ field.1 ≠ name := by
  induction fields with
  | nil => simp [put]
  | cons first rest ih =>
    obtain ⟨k, v⟩ := first
    obtain ⟨behind, others⟩ := List.pairwise_cons.mp sorted
    have apart : field ∈ rest → field.1 ≠ k := fun later same =>
      String.lt_irrefl k (same ▸ behind field later)
    rw [put]
    split
    · next same =>
      subst same
      rw [List.mem_cons, List.mem_cons]
      refine or_congr_right ⟨fun later => ⟨.inr later, apart later⟩, ?_⟩
      rintro ⟨member, differs⟩
      exact member.resolve_left fun here => differs (congrArg Prod.fst here)
    · next differs =>
      split
      · next before =>
        rw [List.mem_cons]
        refine or_congr_right ⟨fun member => ⟨member, fun same => ?_⟩, And.left⟩
        rcases List.mem_cons.mp member with rfl | later
        · exact differs same
        · exact String.lt_asymm before (same ▸ behind field later)
      · rw [List.mem_cons, List.mem_cons, ih others]
        constructor
        · rintro (rfl | written | ⟨later, other⟩)
          · exact .inr ⟨.inl rfl, differs⟩
          · exact .inl written
          · exact .inr ⟨.inr later, other⟩
        · rintro (written | ⟨here | later, other⟩)
          · exact .inr (.inl written)
          · exact .inl here
          · exact .inr (.inr ⟨later, other⟩)

theorem perm_put (fresh : ∀ field ∈ fields, field.1 ≠ name) (value : α) :
    (fields.put name value).Perm ((name, value) :: fields) := by
  induction fields with
  | nil => exact .refl _
  | cons first rest ih =>
    obtain ⟨k, v⟩ := first
    obtain ⟨differs, others⟩ := List.forall_mem_cons.mp fresh
    rw [put, if_neg differs]
    split
    · exact .refl _
    · exact ((ih others).cons _).trans (.swap _ _ _)

/-- The value of the first field of a name. -/
def First (fields : Fields α) (name : String) (value : α) : Prop :=
  ∃ front back, fields = front ++ (name, value) :: back ∧ name ∉ names front

theorem find?_eq_some_iff : fields.find? name = some value ↔ fields.First name value := by
  constructor
  · intro found
    induction fields with
    | nil => cases found
    | cons field rest ih =>
      obtain ⟨k, v⟩ := field
      rw [find?] at found
      split at found
      · next same =>
        cases found
        exact ⟨[], rest, by rw [same, List.nil_append], List.not_mem_nil⟩
      · next differs =>
        obtain ⟨front, back, rfl, fresh⟩ := ih found
        refine ⟨(k, v) :: front, back, rfl, ?_⟩
        rw [names, List.map_cons, List.mem_cons, not_or]
        exact ⟨Ne.symm differs, fresh⟩
  · rintro ⟨front, back, rfl, fresh⟩
    induction front with
    | nil => simp [find?]
    | cons field front ih =>
      obtain ⟨k, v⟩ := field
      rw [names, List.map_cons, List.mem_cons, not_or] at fresh
      rw [List.cons_append, find?, if_neg (Ne.symm fresh.1), ih fresh.2]

theorem find?_eq_none_iff : fields.find? name = none ↔ name ∉ names fields := by
  induction fields with
  | nil => exact iff_of_true rfl List.not_mem_nil
  | cons field rest ih =>
    obtain ⟨k, v⟩ := field
    rw [find?, names, List.map_cons, List.mem_cons, not_or]
    split
    · next same => exact iff_of_false (Option.some_ne_none v) fun apart => apart.1 same.symm
    · next differs => rw [ih, names, and_iff_right (Ne.symm differs)]

/-- Where each name is there once, its first field is its only one. -/
theorem first_of_mem (once : fields.names.Nodup) (member : (name, value) ∈ fields) :
    fields.First name value := by
  obtain ⟨front, back, rfl⟩ := List.append_of_mem member
  rw [names, List.map_append, List.map_cons] at once
  exact ⟨front, back, rfl, fun before =>
    (List.nodup_append.mp once).2.2 name before name List.mem_cons_self rfl⟩

theorem ofPairs_concat (pairs : List (String × α)) (name : String) (value : α) :
    ofPairs (pairs ++ [(name, value)]) = (ofPairs pairs).put name value := by
  rw [ofPairs, List.foldl_append]
  rfl

theorem sorted_ofPairs (pairs : List (String × α)) : (ofPairs pairs).Sorted := by
  induction pairs using List.reverseRecOn with
  | nil => exact .nil
  | append_singleton pairs pair ih =>
    rw [ofPairs_concat]
    exact sorted_put ih _ _

/-- A field is there as its pair is the last one of its name. -/
theorem mem_ofPairs_iff {field : String × α} :
    field ∈ ofPairs pairs ↔
      ∃ front back, pairs = front ++ field :: back ∧ ∀ later ∈ back, later.1 ≠ field.1 := by
  induction pairs using List.reverseRecOn with
  | nil => simp [ofPairs]
  | append_singleton pairs pair ih =>
    rw [ofPairs_concat, mem_put_iff (sorted_ofPairs pairs), ih]
    constructor
    · rintro (rfl | ⟨⟨front, back, rfl, last⟩, other⟩)
      · exact ⟨pairs, [], rfl, List.forall_mem_nil _⟩
      · refine ⟨front, back ++ [pair], by simp, fun later member => ?_⟩
        rcases List.mem_append.mp member with inside | final
        · exact last later inside
        · rw [List.mem_singleton.mp final]
          exact Ne.symm other
    · rintro ⟨front, back, same, last⟩
      rcases List.eq_nil_or_concat back with rfl | ⟨back, final, rfl⟩
      · exact .inl (List.singleton_inj.mp (List.append_inj' same rfl).2).symm
      · rw [List.concat_eq_append, ← List.cons_append, ← List.append_assoc] at same
        obtain ⟨rfl, final_same⟩ := List.append_inj' same rfl
        cases List.singleton_inj.mp final_same
        obtain ⟨inside, other⟩ := List.forall_mem_append.mp (List.concat_eq_append ▸ last)
        exact .inr ⟨⟨front, back, rfl, inside⟩, Ne.symm (other pair (List.mem_singleton_self pair))⟩

theorem perm_ofPairs (distinct : (pairs.map Prod.fst).Nodup) : (ofPairs pairs).Perm pairs := by
  induction pairs using List.reverseRecOn with
  | nil => exact .refl _
  | append_singleton pairs pair ih =>
    rw [List.map_append, List.nodup_append] at distinct
    obtain ⟨others, _, apart⟩ := distinct
    have fresh : ∀ field ∈ ofPairs pairs, field.1 ≠ pair.1 := fun field member =>
      apart _ (List.mem_map_of_mem ((ih others).mem_iff.mp member)) _ (List.mem_singleton_self _)
    rw [ofPairs_concat]
    have moved : (pair :: pairs).Perm (pairs ++ [pair]) := (List.perm_append_singleton _ _).symm
    exact (perm_put fresh pair.2).trans (((ih others).cons pair).trans moved)

/-- Fields written over others, each name once in the one list and once in the other. -/
theorem mem_ofPairs_append {front back : List (String × α)} {field : String × α}
    (fronts : (front.map Prod.fst).Nodup) (backs : (back.map Prod.fst).Nodup) :
    field ∈ ofPairs (front ++ back) ↔
      field ∈ back ∨ field ∈ front ∧ ∀ later ∈ back, later.1 ≠ field.1 := by
  induction back using List.reverseRecOn with
  | nil =>
    rw [List.append_nil, (perm_ofPairs fronts).mem_iff]
    simp
  | append_singleton back last ih =>
    rw [List.map_append, List.nodup_append] at backs
    obtain ⟨backs, _, apart⟩ := backs
    have fresh : field ∈ back → field.1 ≠ last.1 := fun member =>
      apart _ (List.mem_map_of_mem member) _ (List.mem_singleton_self _)
    rw [← List.append_assoc, ofPairs_concat, mem_put_iff (sorted_ofPairs _), ih backs, List.mem_append,
      List.mem_singleton, List.forall_mem_append, List.forall_mem_singleton]
    constructor
    · rintro (written | ⟨member | ⟨member, unwritten⟩, other⟩)
      · exact .inl (.inr written)
      · exact .inl (.inl member)
      · exact .inr ⟨member, unwritten, Ne.symm other⟩
    · rintro ((member | written) | ⟨member, unwritten, other⟩)
      · exact .inr ⟨.inl member, fresh member⟩
      · exact .inl written
      · exact .inr ⟨.inr ⟨member, unwritten⟩, Ne.symm other⟩

/-- The fields that are made of pairs by keeping the last pair of each name. -/
structure KeepsLast (pairs : List (String × α)) (fields : Fields α) : Prop where
  sorted : fields.Sorted
  last : ∀ field, field ∈ fields ↔
    ∃ front back, pairs = front ++ field :: back ∧ ∀ later ∈ back, later.1 ≠ field.1
  whole : (pairs.map Prod.fst).Nodup → fields.Perm pairs

theorem Sorted.nodup (sorted : fields.Sorted) : fields.Nodup := by
  refine List.Pairwise.imp ?_ sorted
  rintro a _ before rfl
  exact String.lt_irrefl a.1 before

theorem Sorted.nodup_names (sorted : fields.Sorted) : fields.names.Nodup := by
  rw [names, List.Nodup, List.pairwise_map]
  refine List.Pairwise.imp ?_ sorted
  exact fun before same => String.lt_irrefl _ (same ▸ before)

/-- Sorted fields are known by their members. -/
theorem Sorted.eq {others : Fields α} (sorted : fields.Sorted) (sorted' : others.Sorted)
    (same : ∀ field, field ∈ fields ↔ field ∈ others) : fields = others :=
  List.Perm.eq_of_pairwise (fun _ _ _ _ before after => absurd after (String.lt_asymm before))
    sorted sorted' ((List.perm_ext_iff_of_nodup sorted.nodup sorted'.nodup).mpr same)

theorem keepsLast_ofPairs (pairs : List (String × α)) : KeepsLast pairs (ofPairs pairs) :=
  ⟨sorted_ofPairs pairs, fun _ => mem_ofPairs_iff, perm_ofPairs⟩

theorem keepsLast_iff : KeepsLast pairs fields ↔ ofPairs pairs = fields := by
  constructor
  · intro kept
    exact (sorted_ofPairs pairs).eq kept.sorted fun field => mem_ofPairs_iff.trans (kept.last field).symm
  · rintro rfl
    exact keepsLast_ofPairs pairs

end Pager.Fields
