import Pager.Proofs.Binding

namespace Pager

namespace Parameters

variable {p q : Parameters} {name value : String} {pairs : List (String × String)}

theorem canonical?_isSome_iff :
    (p.canonical? name).isSome = true ↔ ∃ declared ∈ p.declared, Text.sameName declared name = true := by
  simp [canonical?]

/-- Lookups see the declared names only. -/
theorem canonical?_of_declared (same : q.declared = p.declared) (name : String) :
    q.canonical? name = p.canonical? name := by
  rw [canonical?, canonical?, same]

theorem canonical?_congr {other : String} (same : Text.sameName name other = true) :
    p.canonical? name = p.canonical? other := by
  simp only [canonical?, Text.sameName_congr same]

theorem bind_ok_iff :
    p.bind name value = .ok q ↔
      ∃ canonical, p.canonical? name = some canonical ∧
        ⟨p.declared, p.values.put canonical value⟩ = q := by
  rw [bind]
  cases p.canonical? name <;> simp

theorem bind_of_declared (known : ∃ declared ∈ p.declared, Text.sameName declared name = true)
    (value : String) : ∃ q, p.bind name value = .ok q := by
  obtain ⟨canonical, found⟩ := Option.isSome_iff_exists.mp (canonical?_isSome_iff.mpr known)
  exact ⟨_, bind_ok_iff.mpr ⟨canonical, found, rfl⟩⟩

theorem declared_bind (bound : p.bind name value = .ok q) : q.declared = p.declared := by
  obtain ⟨_, _, rfl⟩ := bind_ok_iff.mp bound
  rfl

theorem get?_bind (bound : p.bind name value = .ok q) (other : String) :
    q.get? other = if p.canonical? other = p.canonical? name then some value else p.get? other := by
  have lookup := canonical?_of_declared (declared_bind bound) other
  obtain ⟨canonical, found, rfl⟩ := bind_ok_iff.mp bound
  rw [get?, get?, lookup, found]
  cases p.canonical? other with
  | none => rfl
  | some there =>
    by_cases same : there = canonical
    · subst same
      simp [Fields.find?_put_self]
    · have apart := Fields.find?_put_of_ne p.values value (Ne.symm same)
      simp [same, apart]

theorem isBound_bind (bound : p.bind name value = .ok q) {other : String}
    (already : p.isBound other = true) : q.isBound other = true := by
  rw [isBound] at already ⊢
  rw [get?_bind bound]
  split
  · rfl
  · exact already

theorem bindAll_cons_ok_iff :
    p.bindAll ((name, value) :: pairs) = .ok q ↔
      ∃ next, p.bind name value = .ok next ∧ next.bindAll pairs = .ok q := by
  rw [bindAll]
  cases p.bind name value <;> simp

theorem declared_bindAll (bound : p.bindAll pairs = .ok q) : q.declared = p.declared := by
  induction pairs generalizing p with
  | nil =>
    cases bound
    rfl
  | cons pair rest ih =>
    obtain ⟨next, first, others⟩ := bindAll_cons_ok_iff.mp bound
    rw [ih others, declared_bind first]

theorem bindAll_of_declared
    (known : ∀ pair ∈ pairs, ∃ declared ∈ p.declared, Text.sameName declared pair.1 = true) :
    ∃ q, p.bindAll pairs = .ok q := by
  induction pairs generalizing p with
  | nil => exact ⟨p, rfl⟩
  | cons pair rest ih =>
    obtain ⟨first, others⟩ := List.forall_mem_cons.mp known
    obtain ⟨next, bound⟩ := bind_of_declared first pair.2
    obtain ⟨q, last⟩ := ih (by rwa [declared_bind bound])
    exact ⟨q, bindAll_cons_ok_iff.mpr ⟨next, bound, last⟩⟩

theorem isBound_bindAll (bound : p.bindAll pairs = .ok q)
    (given : p.isBound name = true ∨ ∃ pair ∈ pairs, Text.sameName name pair.1 = true) :
    q.isBound name = true := by
  induction pairs generalizing p with
  | nil =>
    cases bound
    exact given.resolve_right (by simp)
  | cons pair rest ih =>
    obtain ⟨next, first, others⟩ := bindAll_cons_ok_iff.mp bound
    refine ih others ?_
    rcases given with already | ⟨supplied, member, same⟩
    · exact .inl (isBound_bind first already)
    · rcases List.mem_cons.mp member with rfl | later
      · left
        rw [isBound, get?_bind first, if_pos (canonical?_congr same)]
        rfl
      · exact .inr ⟨supplied, later, same⟩

theorem sameName_of_canonical? {canonical : String} (found : p.canonical? name = some canonical) :
    Text.sameName canonical name = true := by
  have same := List.find?_some found
  exact same

theorem bindAll_append_ok_iff {front back : List (String × String)} :
    p.bindAll (front ++ back) = .ok q ↔
      ∃ next, p.bindAll front = .ok next ∧ next.bindAll back = .ok q := by
  induction front generalizing p with
  | nil => simp [bindAll]
  | cons pair front ih =>
    obtain ⟨name, value⟩ := pair
    rw [List.cons_append, bindAll_cons_ok_iff]
    simp only [ih, bindAll_cons_ok_iff]
    constructor
    · rintro ⟨first, bound, next, others, last⟩
      exact ⟨next, ⟨first, bound, others⟩, last⟩
    · rintro ⟨next, ⟨first, bound, others⟩, last⟩
      exact ⟨first, bound, next, others, last⟩

/-- Pairs for other parameters leave a value as it is. -/
theorem get?_bindAll (bound : p.bindAll pairs = .ok q) {other : String}
    (apart : ∀ pair ∈ pairs, p.canonical? other ≠ p.canonical? pair.1) : q.get? other = p.get? other := by
  induction pairs generalizing p with
  | nil =>
    cases bound
    rfl
  | cons pair rest ih =>
    obtain ⟨next, first, others⟩ := bindAll_cons_ok_iff.mp bound
    obtain ⟨here, later⟩ := List.forall_mem_cons.mp apart
    have lookup := canonical?_of_declared (declared_bind first)
    have kept := ih others fun pair member => by
      rw [lookup, lookup]
      exact later pair member
    rw [kept, get?_bind first, if_neg here]

end Parameters

namespace Definition

open Parameters

variable {declarations : List ParameterDefinition} {p q : Parameters}

theorem declared_fillDefaults (filled : fillDefaults declarations p = .ok q) :
    q.declared = p.declared := by
  induction declarations generalizing p with
  | nil =>
    cases filled
    rfl
  | cons declaration rest ih =>
    rw [fillDefaults] at filled
    split at filled
    · exact ih filled
    · split at filled
      · obtain ⟨next, bound, others⟩ := Except.bind_eq_ok.mp filled
        rw [ih others, declared_bind bound]
      · split at filled
        · cases filled
        · exact ih filled

/-- A default is filled in for no other parameter than its own, and only if that has no value. -/
theorem get?_fillDefaults (filled : fillDefaults declarations p = .ok q) {name : String}
    (bound : p.isBound name = true) : q.get? name = p.get? name := by
  induction declarations generalizing p with
  | nil =>
    cases filled
    rfl
  | cons declaration rest ih =>
    rw [fillDefaults] at filled
    split at filled
    · exact ih filled bound
    · next free =>
      split at filled
      · obtain ⟨next, first, others⟩ := Except.bind_eq_ok.mp filled
        have apart : p.canonical? name ≠ p.canonical? declaration.name := fun same => free <| by
          rw [isBound, get?, ← same]
          exact bound
        rw [ih others (isBound_bind first bound), get?_bind first, if_neg apart]
      · split at filled
        · cases filled
        · exact ih filled bound

/-- Defaults are filled in, if no required parameter without one is missing. -/
theorem fillDefaults_ok (declared : ∀ d ∈ declarations, d.name ∈ p.declared)
    (given : ∀ d ∈ declarations, d.required = true → d.default = none → p.isBound d.name = true) :
    ∃ q, fillDefaults declarations p = .ok q := by
  induction declarations generalizing p with
  | nil => exact ⟨p, rfl⟩
  | cons declaration rest ih =>
    obtain ⟨named, names⟩ := List.forall_mem_cons.mp declared
    obtain ⟨first, others⟩ := List.forall_mem_cons.mp given
    rw [fillDefaults]
    split
    · exact ih names others
    · next free =>
      split
      · next value default =>
        obtain ⟨next, bound⟩ := bind_of_declared ⟨_, named, Text.sameName_refl declaration.name⟩ value
        obtain ⟨q, last⟩ := ih (by rwa [declared_bind bound]) fun d member required undefaulted =>
          isBound_bind bound (others d member required undefaulted)
        exact ⟨q, Except.bind_eq_ok.mpr ⟨next, bound, last⟩⟩
      · next undefaulted =>
        split
        · next required => exact absurd (first required undefaulted) free
        · exact ih names others

/-- There is nothing to fill in where everything is bound. -/
theorem fillDefaults_of_bound (bound : ∀ d ∈ declarations, p.isBound d.name = true) :
    fillDefaults declarations p = .ok p := by
  induction declarations with
  | nil => rfl
  | cons declaration rest ih =>
    obtain ⟨first, others⟩ := List.forall_mem_cons.mp bound
    rw [fillDefaults, if_pos first, ih others]

variable {op : OperationDefinition} {supplied : List (String × String)}

theorem declared_bindParameters (bound : bindParameters op supplied = .ok p) :
    p.declared = op.parameterNames := by
  obtain ⟨q, all, filled⟩ := Except.bind_eq_ok.mp bound
  rw [declared_fillDefaults filled, declared_bindAll all]
  rfl

theorem bindParameters_ok
    (known : ∀ pair ∈ supplied, ∃ declared ∈ op.parameterNames, Text.sameName declared pair.1 = true)
    (covered : ∀ d ∈ op.parameters, d.required = true → d.default = none →
      ∃ pair ∈ supplied, Text.sameName d.name pair.1 = true) :
    ∃ p, bindParameters op supplied = .ok p := by
  obtain ⟨q, all⟩ := bindAll_of_declared (p := Parameters.ofNames op.parameterNames) known
  have declared : q.declared = op.parameterNames := declared_bindAll all
  obtain ⟨p, filled⟩ : ∃ p, fillDefaults op.parameters q = .ok p := by
    refine fillDefaults_ok (fun d member => ?_) fun d member required undefaulted => ?_
    · rw [declared]
      exact List.mem_map_of_mem member
    · exact isBound_bindAll all (.inr (covered d member required undefaulted))
  exact ⟨p, Except.bind_eq_ok.mpr ⟨q, all, filled⟩⟩

/-- Of the pairs for one parameter the last one counts, whatever default there is. -/
theorem get?_bindParameters {front back : List (String × String)} {name : String}
    {pair : String × String} (bound : bindParameters op (front ++ pair :: back) = .ok p)
    (same : Text.sameName name pair.1 = true)
    (apart : ∀ later ∈ back, (ofNames op.parameterNames).canonical? name ≠
      (ofNames op.parameterNames).canonical? later.1) : p.get? name = some pair.2 := by
  obtain ⟨all, supplied, filled⟩ := Except.bind_eq_ok.mp bound
  obtain ⟨before, earlier, rest⟩ := bindAll_append_ok_iff.mp supplied
  obtain ⟨here, set, later⟩ := bindAll_cons_ok_iff.mp rest
  have lookup := canonical?_of_declared
    ((declared_bind set).trans (declared_bindAll earlier))
  have value : here.get? name = some pair.2 := by
    rw [get?_bind set, if_pos (canonical?_congr same)]
  have kept : all.get? name = some pair.2 := by
    rw [get?_bindAll later fun other member => by rw [lookup, lookup]; exact apart other member, value]
  rw [get?_fillDefaults filled (by rw [isBound, kept]; rfl), kept]

end Definition

end Pager
