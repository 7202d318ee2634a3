import Mathlib.Data.List.Find
import Pager.Proofs.Definition.Sound
import Pager.Proofs.Fields

namespace Pager

namespace Parameters

variable {p q : Parameters} {name value : String} {pairs : List (String × String)}

/-- Of all pairs for the parameter of a name the last one counts, before any value it had. -/
theorem get?_of_bindAll (bound : p.bindAll pairs = .ok q) (name : String) :
    q.get? name =
      ((pairs.reverse.find? fun pair => p.canonical? name = p.canonical? pair.1).map Prod.snd).or
        (p.get? name) := by
  induction pairs generalizing p with
  | nil =>
    cases bound
    rfl
  | cons pair rest ih =>
    obtain ⟨next, first, others⟩ := bindAll_cons_ok_iff.mp bound
    have lookup := canonical?_of_declared (declared_bind first)
    rw [ih others, get?_bind first, List.reverse_cons, List.find?_append, Option.map_or, Option.or_assoc]
    simp only [lookup, List.find?_singleton]
    by_cases same : p.canonical? name = p.canonical? pair.1
    · simp [same]
    · simp [same]

theorem fault?_bind (p : Parameters) (name value : String) :
    Except.fault? (p.bind name value) =
      if (p.canonical? name).isNone then
        some (.invalidArgument name "not a parameter of this operation")
      else none := by
  rw [bind]
  cases p.canonical? name <;> rfl

/-- The first pair for no parameter ends the binding. -/
theorem fault?_bindAll (p : Parameters) (pairs : List (String × String)) :
    Except.fault? (p.bindAll pairs) =
      (pairs.find? fun pair => (p.canonical? pair.1).isNone).map fun pair =>
        .invalidArgument pair.1 "not a parameter of this operation" := by
  induction pairs generalizing p with
  | nil => rfl
  | cons pair rest ih =>
    have first := fault?_bind p pair.1 pair.2
    rw [bindAll, List.find?_cons]
    cases bound : p.bind pair.1 pair.2 with
    | error fault =>
      rw [bound] at first
      cases unknown : (p.canonical? pair.1).isNone <;> simp_all [Except.fault?]
    | ok next =>
      rw [bound] at first
      have lookup := canonical?_of_declared (declared_bind bound)
      cases unknown : (p.canonical? pair.1).isNone with
      | true => simp [unknown, Except.fault?] at first
      | false => simp only [ih, lookup]

theorem get?_congr {other : String} (same : p.canonical? name = p.canonical? other) :
    p.get? name = p.get? other := by
  rw [get?, get?, same]

/-- Values stand under declared names only. -/
def Kept (p : Parameters) : Prop :=
  ∀ name ∈ Fields.names p.values, name ∈ p.declared

theorem Kept.bind (kept : p.Kept) (bound : p.bind name value = .ok q) : q.Kept := by
  obtain ⟨canonical, found, rfl⟩ := bind_ok_iff.mp bound
  intro written member
  obtain ⟨field, put, rfl⟩ := List.mem_map.mp member
  rcases Fields.mem_of_mem_put put with rfl | before
  · exact List.mem_of_find?_eq_some found
  · exact kept _ (List.mem_map_of_mem before)

theorem Kept.bindAll (kept : p.Kept) (bound : p.bindAll pairs = .ok q) : q.Kept := by
  induction pairs generalizing p with
  | nil =>
    cases bound
    exact kept
  | cons pair rest ih =>
    obtain ⟨next, first, others⟩ := bindAll_cons_ok_iff.mp bound
    exact ih (kept.bind first) others

end Parameters

namespace Definition

open Parameters

variable {declarations : List ParameterDefinition} {p q : Parameters}

/-- Supplied values are enough for an operation: every name is one of its parameters, and every
parameter it requires is there. -/
structure Suffices (op : OperationDefinition) (supplied : List (String × String)) : Prop where
  declared : ∀ pair ∈ supplied, ∃ name ∈ op.parameterNames, Text.sameName name pair.1 = true
  required : ∀ p ∈ op.parameters, p.required = true →
    ∃ pair ∈ supplied, Text.sameName p.name pair.1 = true

/-- What is done for one declaration before the next is looked at. -/
inductive Defaulted (d : ParameterDefinition) (p : Parameters) : Parameters → Prop
  | bound : p.isBound d.name = true → Defaulted d p p
  | filled {value : String} {next : Parameters} :
      p.get? d.name = none → d.default = some value → p.bind d.name value = .ok next →
      Defaulted d p next
  | without : p.get? d.name = none → d.default = none → Defaulted d p p

theorem fillDefaults_cons_ok {d : ParameterDefinition}
    (filled : fillDefaults (d :: declarations) p = .ok q) :
    ∃ next, Defaulted d p next ∧ fillDefaults declarations next = .ok q := by
  rw [fillDefaults] at filled
  split at filled
  · next bound => exact ⟨p, .bound bound, filled⟩
  · next free =>
    have free : p.get? d.name = none := by simpa [isBound] using free
    split at filled
    · next value given =>
      obtain ⟨next, bound, others⟩ := Except.bind_eq_ok.mp filled
      exact ⟨next, .filled free given bound, others⟩
    · next undefaulted =>
      split at filled
      · cases filled
      · exact ⟨p, .without free undefaulted, filled⟩

theorem Defaulted.kept {d : ParameterDefinition} (turn : Defaulted d p q) (kept : p.Kept) : q.Kept := by
  cases turn with
  | bound | without => exact kept
  | filled _ _ bound => exact kept.bind bound

theorem Defaulted.declared {d : ParameterDefinition} (turn : Defaulted d p q) :
    q.declared = p.declared := by
  cases turn with
  | bound | without => rfl
  | filled _ _ bound => exact declared_bind bound

/-- A declaration gives its default to its own parameter, if that has no value. -/
theorem Defaulted.get? {d : ParameterDefinition} (turn : Defaulted d p q) (name : String) :
    q.get? name =
      (p.get? name).or (if p.canonical? name = p.canonical? d.name then d.default else none) := by
  by_cases same : p.canonical? name = p.canonical? d.name
  · rw [if_pos same, get?_congr same]
    cases turn with
    | bound bound =>
      obtain ⟨value, there⟩ := Option.isSome_iff_exists.mp bound
      rw [get?_congr same, there, Option.some_or]
    | filled free given bound => rw [get?_bind bound, if_pos same, free, given, Option.none_or]
    | without free undefaulted => rw [get?_congr same, free, undefaulted, Option.none_or]
  · rw [if_neg same, Option.or_none]
    cases turn with
    | bound | without => rfl
    | filled _ _ bound => rw [get?_bind bound, if_neg same]

theorem kept_fillDefaults (kept : p.Kept) (filled : fillDefaults declarations p = .ok q) : q.Kept := by
  induction declarations generalizing p with
  | nil =>
    cases filled
    exact kept
  | cons d rest ih =>
    obtain ⟨next, turn, others⟩ := fillDefaults_cons_ok filled
    exact ih (turn.kept kept) others

/-- A value that was bound stays, and else the first default for its parameter is filled in. -/
theorem get?_of_fillDefaults (filled : fillDefaults declarations p = .ok q) (name : String) :
    q.get? name =
      (p.get? name).or (declarations.findSome? fun d =>
        if p.canonical? name = p.canonical? d.name then d.default else none) := by
  induction declarations generalizing p with
  | nil =>
    cases filled
    exact Option.or_none.symm
  | cons d rest ih =>
    obtain ⟨next, turn, others⟩ := fillDefaults_cons_ok filled
    have lookup := canonical?_of_declared turn.declared
    rw [ih others, turn.get? name, List.findSome?_cons, Option.or_assoc]
    simp only [lookup]
    cases (if p.canonical? name = p.canonical? d.name then d.default else none) <;> rfl

/-- The first required parameter without a value ends the filling of defaults, if the declared
parameters are different ones. -/
theorem fault?_fillDefaults (known : ∀ d ∈ declarations, d.name ∈ p.declared)
    (distinct : declarations.Pairwise fun a b => p.canonical? b.name ≠ p.canonical? a.name) :
    Except.fault? (fillDefaults declarations p) =
      (declarations.find? fun d => d.required && d.default.isNone && !p.isBound d.name).map fun d =>
        .missingParameter d.name := by
  induction declarations generalizing p with
  | nil => rfl
  | cons d rest ih =>
    obtain ⟨named, names⟩ := List.forall_mem_cons.mp known
    obtain ⟨apart, others⟩ := List.pairwise_cons.mp distinct
    rw [fillDefaults]
    split
    · next bound => rw [ih names others, List.find?_cons_of_neg (by simp [bound])]
    · next free =>
      split
      · next value given =>
        obtain ⟨next, bound⟩ := bind_of_declared ⟨_, named, Text.sameName_refl d.name⟩ value
        have declared := declared_bind bound
        have lookup := canonical?_of_declared declared
        have same : ∀ e ∈ rest, next.isBound e.name = p.isBound e.name := fun e member => by
          rw [isBound, isBound, get?_bind bound, if_neg (apart e member)]
        rw [bound, Except.ok_bind, ih (declared ▸ names) (by simpa only [lookup] using others),
          List.find?_cons_of_neg (by simp [given]),
          List.find?_congr fun e member => by rw [same e member]]
      · next undefaulted =>
        cases required : d.required with
        | true =>
          rw [List.find?_cons_of_pos (by simp [required, undefaulted, free])]
          rfl
        | false =>
          rw [List.find?_cons_of_neg (by simp [required])]
          exact ih names others

/-- The value of the last pair for a parameter. -/
def lastSupplied? (supplied : List (String × String)) (name : String) : Option String :=
  (supplied.reverse.find? fun pair => Text.sameName name pair.1).map Prod.snd

/-- The first pair for no parameter of the operation. -/
def firstUndeclared? (op : OperationDefinition) (supplied : List (String × String)) :
    Option (String × String) :=
  supplied.find? fun pair => !op.parameterNames.any fun declared => Text.sameName declared pair.1

/-- The first parameter, in the order of their declaration, that has to be supplied and is not. -/
def firstMissing? (op : OperationDefinition) (supplied : List (String × String)) :
    Option ParameterDefinition :=
  op.parameters.find? fun d => d.required && !supplied.any fun pair => Text.sameName d.name pair.1

variable {op : OperationDefinition} {supplied : List (String × String)}

theorem lastSupplied?_isSome (supplied : List (String × String)) (name : String) :
    (lastSupplied? supplied name).isSome = supplied.any fun pair => Text.sameName name pair.1 := by
  rw [lastSupplied?, Option.isSome_map, Bool.eq_iff_iff, List.find?_isSome, List.any_eq_true]
  simp only [List.mem_reverse]

theorem get?_of_supplied (sound : op.Sound)
    (all : (ofNames op.parameterNames).bindAll supplied = .ok q) {name : String}
    (member : name ∈ op.parameterNames) : q.get? name = lastSupplied? supplied name := by
  have nothing : (ofNames op.parameterNames).get? name = none := by
    rw [get?]
    cases (ofNames op.parameterNames).canonical? name <;> rfl
  have alike : ∀ other, (ofNames op.parameterNames).canonical? name =
      (ofNames op.parameterNames).canonical? other ↔ Text.sameName name other = true :=
    fun _ => sound.canonical?_eq_iff rfl member
  rw [get?_of_bindAll all name, nothing, Option.or_none, lastSupplied?]
  simp only [alike, Bool.decide_eq_true]

/-- Among parameters of different names each one has its own default. -/
theorem default_of_mem (distinct : Distinct (declarations.map ParameterDefinition.name))
    {d : ParameterDefinition} (member : d ∈ declarations) :
    (declarations.findSome? fun e => if Text.sameName d.name e.name = true then e.default else none) =
      d.default := by
  induction declarations with
  | nil => cases member
  | cons e rest ih =>
    obtain ⟨apart, others⟩ := List.pairwise_cons.mp distinct
    rw [List.findSome?_cons]
    rcases List.mem_cons.mp member with rfl | later
    · have nothing : (rest.findSome? fun e =>
          if Text.sameName d.name e.name = true then e.default else none) = none := by
        refine List.findSome?_eq_none_iff.mpr fun e other => ?_
        rw [apart e.name (List.mem_map_of_mem other), if_neg Bool.false_ne_true]
      rw [if_pos (Text.sameName_refl d.name), nothing]
      cases d.default <;> rfl
    · have differs : Text.sameName d.name e.name = false := by
        rw [Text.sameName_comm]
        exact apart d.name (List.mem_map_of_mem later)
      rw [differs, if_neg Bool.false_ne_true]
      exact ih others later

/-- The value of a parameter of a sound operation, in whatever case it is asked for. -/
theorem get?_of_bindParameters (sound : op.Sound) (bound : bindParameters op supplied = .ok p)
    {d : ParameterDefinition} (member : d ∈ op.parameters) {name : String}
    (same : Text.sameName d.name name = true) :
    p.get? name = (lastSupplied? supplied d.name).or d.default := by
  obtain ⟨q, all, filled⟩ := Except.bind_eq_ok.mp bound
  have named : d.name ∈ op.parameterNames := List.mem_map_of_mem member
  have declared : q.declared = op.parameterNames := declared_bindAll all
  have asked := canonical?_congr (p := p) same
  rw [← get?_congr asked, get?_of_fillDefaults filled, get?_of_supplied sound all named]
  simp only [sound.canonical?_eq_iff declared named]
  rw [default_of_mem sound.distinct member]

theorem kept_bindParameters (bound : bindParameters op supplied = .ok p) : p.Kept := by
  obtain ⟨q, all, filled⟩ := Except.bind_eq_ok.mp bound
  have empty : (ofNames op.parameterNames).Kept := nofun
  exact kept_fillDefaults (empty.bindAll all) filled

/-- What is told of the pairs that cannot be bound to a sound operation. -/
theorem fault?_bindParameters (sound : op.Sound) (supplied : List (String × String)) :
    Except.fault? (bindParameters op supplied) =
      ((firstUndeclared? op supplied).map fun pair =>
        Fault.invalidArgument pair.1 "not a parameter of this operation").or
      ((firstMissing? op supplied).map fun d => Fault.missingParameter d.name) := by
  have unknown : ∀ name, ((ofNames op.parameterNames).canonical? name).isNone =
      !op.parameterNames.any fun declared => Text.sameName declared name := fun name => by
    rw [← Option.not_isSome, Bool.not_inj_iff, Bool.eq_iff_iff, canonical?_isSome_iff,
      List.any_eq_true]
    rfl
  have first := fault?_bindAll (ofNames op.parameterNames) supplied
  simp only [unknown] at first
  rw [bindParameters, Except.fault?_bind, first, ← firstUndeclared?]
  cases all : (ofNames op.parameterNames).bindAll supplied with
  | error fault =>
    rw [all] at first
    rw [firstUndeclared?, ← first]
    rfl
  | ok q =>
    have declared : q.declared = op.parameterNames := declared_bindAll all
    have known : ∀ d ∈ op.parameters, d.name ∈ q.declared := fun d member =>
      declared ▸ List.mem_map_of_mem member
    have distinct : op.parameters.Pairwise fun a b => q.canonical? b.name ≠ q.canonical? a.name := by
      refine (List.pairwise_map.mp sound.distinct).imp_of_mem fun {a b} here _ apart same => ?_
      have alike := (sound.canonical?_eq_iff declared (List.mem_map_of_mem here)).mp same.symm
      rw [alike] at apart
      cases apart
    have fewer : ∀ d ∈ op.parameters,
        (d.required && d.default.isNone && !q.isBound d.name) =
          (d.required && !supplied.any fun pair => Text.sameName d.name pair.1) := fun d member => by
      rw [isBound, get?_of_supplied sound all (List.mem_map_of_mem member), lastSupplied?_isSome]
      cases required : d.required with
      | false => rfl
      | true => simp [(sound.parameters d member).optional_of_default required]
    have declared : firstUndeclared? op supplied = none := by
      rw [all] at first
      exact Option.map_eq_none_iff.mp first.symm
    rw [declared, firstMissing?, ← List.find?_congr fewer, ← fault?_fillDefaults known distinct]
    rfl

theorem suffices_iff : Suffices op supplied ↔
    firstUndeclared? op supplied = none ∧ firstMissing? op supplied = none := by
  rw [firstUndeclared?, firstMissing?, List.find?_eq_none, List.find?_eq_none]
  simp only [Bool.not_eq_true', Bool.not_eq_false, Bool.and_eq_true, not_and, List.any_eq_true]
  exact ⟨fun enough => ⟨enough.declared, enough.required⟩, fun found => ⟨found.1, found.2⟩⟩

/-- How pairs are bound to the parameters of an operation without a defect. It succeeds exactly if every
pair is for a declared parameter and every required parameter has a pair, names compared without regard to
case. Each parameter then has the value of the last pair for it, be it empty, or else its default, or else
none, and nothing else is bound. If it fails, the first pair for no parameter is told, and only if there is
none the first required parameter without a pair. -/
theorem bindParameters_exact (valid : operationDefect? op = none)
    (supplied : List (String × String)) :
    ((∃ p, bindParameters op supplied = .ok p) ↔ Suffices op supplied) ∧
    (∀ p, bindParameters op supplied = .ok p →
      (∀ d ∈ op.parameters, ∀ name, Text.sameName d.name name = true →
        p.get? name = (lastSupplied? supplied d.name).or d.default) ∧
      (∀ name, p.isBound name = true →
        ∃ declared ∈ op.parameterNames, Text.sameName declared name = true) ∧
      ∀ name ∈ Fields.names p.values, name ∈ op.parameterNames) ∧
    ∀ fault, bindParameters op supplied = .error fault ↔
      (∃ pair, firstUndeclared? op supplied = some pair ∧
        fault = .invalidArgument pair.1 "not a parameter of this operation") ∨
      firstUndeclared? op supplied = none ∧
        ∃ d, firstMissing? op supplied = some d ∧ fault = .missingParameter d.name := by
  have sound := sound_of_operationDefect valid
  have told := fault?_bindParameters sound supplied
  refine ⟨?_, fun p bound => ⟨fun d member name same => ?_, fun name given => ?_, ?_⟩, fun fault => ?_⟩
  · rw [← Except.fault?_eq_none, told, Option.or_eq_none_iff, Option.map_eq_none_iff,
      Option.map_eq_none_iff, suffices_iff]
  · exact get?_of_bindParameters sound bound member same
  · have known : (p.canonical? name).isSome = true := by
      rw [isBound, get?] at given
      exact Option.isSome_of_isSome_bind given
    rw [← declared_bindParameters bound]
    exact canonical?_isSome_iff.mp known
  · rw [← declared_bindParameters bound]
    exact kept_bindParameters bound
  · rw [← Except.fault?_eq_some, told]
    cases firstUndeclared? op supplied with
    | some pair =>
      rw [Option.map_some, Option.some_or, Option.some.injEq]
      constructor
      · rintro rfl
        exact .inl ⟨pair, rfl, rfl⟩
      · rintro (⟨_, ⟨⟩, rfl⟩ | ⟨⟨⟩, _⟩)
        rfl
    | none =>
      rw [Option.map_none, Option.none_or, Option.map_eq_some_iff]
      constructor
      · rintro ⟨d, missing, rfl⟩
        exact .inr ⟨rfl, d, missing, rfl⟩
      · rintro (⟨_, ⟨⟩, _⟩ | ⟨_, d, missing, rfl⟩)
        exact ⟨d, missing, rfl⟩

end Definition

namespace SortedFolder

/-- An operation with a required parameter, one with a default and one that may be left out. -/
def operation : OperationDefinition where
  name := "list"
  description := none
  method := .get
  path := "/p"
  parameters := [⟨"Folder", true, none, none⟩, ⟨"Order", false, some "asc", none⟩,
    ⟨"Limit", false, none, none⟩]
  params := []
  headers := []
  body := none
  cursor := ⟨"c", .query, none⟩
  pageSize := none
  itemsPath := none

/-- The second folder counts, and the empty order stands for the default one; an unknown name is told
before the missing folder. -/
theorem folder_bound : ∃ p,
    Definition.bindParameters operation [("folder", "a"), ("ORDER", ""), ("FOLDER", "b")] = .ok p ∧
    p.get? "Folder" = some "b" ∧ p.get? "order" = some "" ∧ p.get? "Limit" = none ∧
    Definition.bindParameters operation [("order", "desc"), ("size", "1")] =
      .error (.invalidArgument "size" "not a parameter of this operation") ∧
    Definition.bindParameters operation [("order", "desc")] = .error (.missingParameter "Folder") := by
  have valid : Definition.operationDefect? operation = none := by decide
  have bindings := Definition.bindParameters_exact valid
  obtain ⟨p, bound⟩ := (bindings [("folder", "a"), ("ORDER", ""), ("FOLDER", "b")]).1.mpr
    (Definition.suffices_iff.mpr (by decide))
  have values := ((bindings _).2.1 p bound).1
  refine ⟨p, bound, ?_, ?_, ?_, ?_, ?_⟩
  · rw [values ⟨"Folder", true, none, none⟩ (by decide) "Folder" (by decide)]
    decide
  · rw [values ⟨"Order", false, some "asc", none⟩ (by decide) "order" (by decide)]
    decide
  · rw [values ⟨"Limit", false, none, none⟩ (by decide) "Limit" (by decide)]
    decide
  · exact ((bindings _).2.2 _).mpr (.inl ⟨("size", "1"), by decide, rfl⟩)
  · exact ((bindings _).2.2 _).mpr
      (.inr ⟨by decide, ⟨"Folder", true, none, none⟩, by decide, rfl⟩)

end SortedFolder

end Pager
