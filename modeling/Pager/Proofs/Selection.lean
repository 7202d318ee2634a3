import Pager.Bucket.Basic
import Pager.Proofs.Binding
import Pager.Proofs.Text
import Pager.Selection

namespace Pager

/-- What a caller gives an invocation: the values of declared parameters, or what to ask of a
bucket. -/
inductive Given
  | parameters (p : Parameters)
  | filter (f : Bucket.Filter)

namespace Given

def invocation : Given → Invocation
  | parameters p => p.invocation
  | filter f => f.invocation

/-- The value given for a parameter, however its letters are written. -/
def value? : Given → String → Option Json
  | parameters p, name => (p.get? name).map .text
  | filter f, name =>
    if Text.sameName "Bucket" name then some (.text f.bucket)
    else if Text.sameName "Prefix" name then f.keyPrefix.map .text
    else if Text.sameName "Delimiter" name then f.delimiter.map .text
    else if Text.sameName "MaxKeys" name then f.maxKeys.map fun n => .number (.whole n)
    else none

end Given

theorem Json.ofOption_eq (value : Option String) :
    Json.ofOption value = (value.map Json.text).getD .null := by
  cases value <;> rfl

theorem Parameters.parameter?_of_declared {p : Parameters} {name : String}
    (known : p.invocation.hasParameter name = true) :
    p.invocation.parameter? name = some (((p.get? name).map .text).getD .null) := by
  obtain ⟨canonical, found⟩ := Option.isSome_iff_exists.mp known
  simp only [Parameters.invocation, Parameters.get?, found, Option.map_some, Option.bind_some,
    Json.ofOption_eq]

/-- The names of a listing's parameters differ, so that each is asked for its own value. -/
theorem Bucket.Filter.parameter?_of_own {f : Bucket.Filter} {name : String}
    (known : f.invocation.hasParameter name = true) :
    f.invocation.parameter? name = some (((Given.filter f).value? name).getD .null) := by
  simp only [invocation, parameterNames, List.any_cons, List.any_nil, Bool.or_false, Bool.or_eq_true]
    at known
  simp only [invocation, parameterNames, List.find?_cons, Given.value?]
  by_cases bucket : Text.sameName "Bucket" name = true
  · simp [bucket, value]
  by_cases keys : Text.sameName "Prefix" name = true
  · simp [bucket, keys, value, Json.ofOption_eq]
  by_cases delimiter : Text.sameName "Delimiter" name = true
  · simp [bucket, keys, delimiter, value, Json.ofOption_eq]
  have count : Text.sameName "MaxKeys" name = true := by simpa [bucket, keys, delimiter] using known
  cases limit : f.maxKeys <;> simp [bucket, keys, delimiter, count, limit, value]

theorem Given.parameter?_eq {given : Given} {name : String}
    (known : given.invocation.hasParameter name = true) :
    given.invocation.parameter? name = some ((given.value? name).getD .null) := by
  cases given with
  | parameters p => exact p.parameter?_of_declared known
  | filter f => exact f.parameter?_of_own known

/-- A selection, if its parameter is one of the invocation. -/
def Selection.within (selection : Selection) (invocation : Invocation) : Except Fault Selection :=
  match selection with
  | .parameter name =>
    if invocation.hasParameter name then .ok selection
    else .error (.invalidArgument "select" s!"'{name}' is not a parameter of this operation")
  | _ => .ok selection

theorem Selection.within_ok_iff {wanted selection : Selection} {invocation : Invocation} :
    wanted.within invocation = .ok selection ↔
      wanted = selection ∧
        ∀ name, selection = .parameter name → invocation.hasParameter name = true := by
  cases wanted with
  | parameter name =>
    by_cases known : invocation.hasParameter name = true
    · simp only [within, known, if_true, Except.ok.injEq]
      constructor
      · rintro rfl
        exact ⟨rfl, fun _ same => Selection.parameter.inj same ▸ known⟩
      · exact And.left
    · simp only [within, known]
      constructor
      · nofun
      · rintro ⟨rfl, within⟩
        exact absurd (within name rfl) known
  | records | wholePage | atPath path =>
    simp only [within, Except.ok.injEq]
    constructor
    · rintro rfl
      exact ⟨rfl, nofun⟩
    · exact And.left

/-- The name behind a caret is read without the blanks around it. -/
theorem Selection.ofText_caret (name : String) :
    Selection.ofText ("^" ++ name) =
      if Text.trim name = "" then
        .error (.invalidArgument "select" "'^' must be followed by a parameter name")
      else .ok (.parameter (Text.trim name)) := by
  have caret : "^" ++ name = String.ofList ('^' :: name.toList) := String.toList_inj.mp (by simp)
  have trimmed : Text.trim ("^" ++ name) = String.ofList ('^' :: Text.trimRight name.toList) := by
    rw [caret, Text.trim_cons_of_not_blank _ (by decide)]
  have filled : Text.trim ("^" ++ name) ≠ "" := by
    rw [trimmed, ne_eq, String.ofList_eq_empty_iff]
    nofun
  have single : Text.trim ("^" ++ name) ≠ "*" := by
    rw [trimmed, ne_eq, ← String.toList_inj]
    simp
  rw [Selection.ofText]
  simp only [if_neg filled, if_neg single]
  simp only [trimmed, String.toList_ofList, Text.trim_trimRight]

/-- The selection the options ask for, whether or not the invocation has its parameter. -/
def OutputOptions.wanted (options : OutputOptions) (invocation : Invocation) : Except Fault Selection :=
  match options.select, options.passThru with
  | some _, true =>
    .error (.invalidArgument "pass_thru"
      "cannot be combined with select; use select '^<Parameter>' instead")
  | some expression, false => Selection.ofText expression
  | none, true =>
    match invocation.primary? with
    | some name => .ok (.parameter name)
    | none => .error (.invalidArgument "pass_thru" "operation has no parameter to pass through")
  | none, false => .ok .records

@[simp] theorem OutputOptions.wanted_select (expression : String) (invocation : Invocation) :
    wanted ⟨some expression, false⟩ invocation = Selection.ofText expression := rfl

theorem OutputOptions.wanted_passThru {invocation : Invocation} {name : String}
    (primary : invocation.primary? = some name) :
    wanted ⟨none, true⟩ invocation = .ok (.parameter name) := by
  rw [wanted, primary]

theorem OutputOptions.resolve_eq (options : OutputOptions) (invocation : Invocation) :
    options.resolve invocation =
      options.wanted invocation >>= fun wanted => wanted.within invocation := by
  obtain ⟨select, passThru⟩ := options
  cases select <;> cases passThru
  · rfl
  · cases primary : invocation.primary? <;> simp only [resolve, wanted, primary] <;> rfl
  · rfl
  · rfl

/-- The options stand for what they ask for, if its parameter is one of the invocation. -/
theorem OutputOptions.resolve_ok_iff {options : OutputOptions} {invocation : Invocation}
    {selection : Selection} :
    options.resolve invocation = .ok selection ↔
      options.wanted invocation = .ok selection ∧
        ∀ name, selection = .parameter name → invocation.hasParameter name = true := by
  rw [resolve_eq, Except.bind_eq_ok]
  simp only [Selection.within_ok_iff]
  constructor
  · rintro ⟨_, wanted, rfl, known⟩
    exact ⟨wanted, known⟩
  · rintro ⟨wanted, known⟩
    exact ⟨_, wanted, rfl, known⟩

theorem OutputOptions.resolve_parameter_iff {options : OutputOptions} {invocation : Invocation}
    {name : String} :
    options.resolve invocation = .ok (.parameter name) ↔
      options.wanted invocation = .ok (.parameter name) ∧ invocation.hasParameter name = true := by
  rw [resolve_ok_iff]
  constructor
  · rintro ⟨wanted, known⟩
    exact ⟨wanted, known name rfl⟩
  · rintro ⟨wanted, known⟩
    exact ⟨wanted, fun _ same => Selection.parameter.inj same ▸ known⟩

end Pager
