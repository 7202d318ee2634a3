import Pager.Proofs.Endpoint.Arguments
import Pager.Proofs.Selection
import Pager.Proofs.Walk.Offering

namespace Pager.Parameters

variable {p q : Parameters} {declared : List String} {name value spelling : String}
variable {calls : List (String × String)} {call : String × String}

/-- A call that binds a value to a name: the parameters after it, and what is told of a failure. -/
def attempt (p : Parameters) (call : String × String) : Parameters × Option Fault :=
  match p.bind call.1 call.2 with
  | .ok q => (q, none)
  | .error fault => (p, some fault)

/-- The parameters of these names after a history of calls, and what was told of each call. -/
def history (declared : List String) (calls : List (String × String)) :
    Parameters × List (Option Fault) :=
  replies attempt (ofNames declared) calls

/-- The first of the declared names that a name is the same as. -/
def FirstMatch (declared : List String) (name spelling : String) : Prop :=
  Text.sameName spelling name = true ∧ ∃ front back, declared = front ++ spelling :: back ∧
    ∀ other ∈ front, Text.sameName other name = false

/-- Names for one parameter. -/
def Alike (declared : List String) (name other : String) : Prop :=
  ∃ spelling, FirstMatch declared name spelling ∧ FirstMatch declared other spelling

/-- The value of the last call for the parameter of a name. -/
def LastBound (declared : List String) (calls : List (String × String)) (name value : String) : Prop :=
  ∃ front call back, calls = front ++ call :: back ∧ Alike declared name call.1 ∧ call.2 = value ∧
    ∀ later ∈ back, ¬ Alike declared name later.1

theorem canonical?_eq_some_iff :
    p.canonical? name = some spelling ↔ FirstMatch p.declared name spelling := by
  rw [canonical?, List.find?_eq_some_iff_append, FirstMatch]
  simp only [Bool.not_eq_true']

theorem alike_iff :
    Alike p.declared name value ↔
      (p.canonical? value).isSome = true ∧ p.canonical? name = p.canonical? value := by
  simp only [Alike, ← canonical?_eq_some_iff]
  constructor
  · rintro ⟨spelling, found, found'⟩
    exact ⟨found' ▸ rfl, found.trans found'.symm⟩
  · rintro ⟨known, same⟩
    obtain ⟨spelling, found⟩ := Option.isSome_iff_exists.mp known
    exact ⟨spelling, same.trans found, found⟩

/-- What is told of a call: that it names no parameter, if it does not. -/
def refusal? (declared : List String) (call : String × String) : Option Fault :=
  if declared.any fun other => Text.sameName other call.1 then none
  else some (.invalidArgument call.1 "not a parameter of this operation")

theorem refusal?_eq_none_iff :
    refusal? declared call = none ↔ ∃ other ∈ declared, Text.sameName other call.1 = true := by
  rw [refusal?, ← List.any_eq_true]
  split
  · next known => exact iff_of_true rfl known
  · next unknown => exact iff_of_false (Option.some_ne_none _) unknown

theorem told_attempt (p : Parameters) (call : String × String) :
    (p.attempt call).2 = refusal? p.declared call := by
  cases told : refusal? p.declared call with
  | none =>
    obtain ⟨q, bound⟩ := bind_of_declared (refusal?_eq_none_iff.mp told) call.2
    rw [attempt, bound]
  | some fault =>
    have unknown : p.canonical? call.1 = none := by
      rw [← Option.not_isSome_iff_eq_none, canonical?_isSome_iff, ← refusal?_eq_none_iff, told]
      exact Option.some_ne_none fault
    rw [refusal?] at told
    split at told
    · cases told
    · rw [attempt, bind, unknown, ← told]

/-- A call for no parameter changes nothing. -/
theorem attempt_refused (told : refusal? p.declared call ≠ none) : (p.attempt call).1 = p := by
  have failed := told_attempt p call
  rw [attempt] at failed ⊢
  cases bound : p.bind call.1 call.2 with
  | ok q =>
    rw [bound] at failed
    exact absurd failed.symm told
  | error fault => rfl

theorem declared_attempt (p : Parameters) (call : String × String) :
    (p.attempt call).1.declared = p.declared := by
  rw [attempt]
  cases bound : p.bind call.1 call.2 with
  | ok q => exact declared_bind bound
  | error fault => rfl

/-- A history comes to what its calls for declared names come to, one behind the other. -/
theorem bindAll_known (p : Parameters) (calls : List (String × String)) :
    p.bindAll (calls.filter fun call => (p.canonical? call.1).isSome) =
      .ok (replies attempt p calls).1 := by
  induction calls generalizing p with
  | nil => rfl
  | cons call rest ih =>
    have lookup := canonical?_of_declared (declared_attempt p call)
    have later := ih (p.attempt call).1
    simp only [lookup] at later
    rw [replies_cons, List.filter_cons]
    cases found : p.canonical? call.1 with
    | none =>
      have same : (p.attempt call).1 = p := by rw [attempt, bind, found]
      rw [same] at later ⊢
      rw [Option.isSome_none, if_neg Bool.false_ne_true, later]
    | some spelling =>
      have bound : p.bind call.1 call.2 = .ok ⟨p.declared, p.values.put spelling call.2⟩ :=
        bind_ok_iff.mpr ⟨spelling, found, rfl⟩
      have next : (p.attempt call).1 = ⟨p.declared, p.values.put spelling call.2⟩ := by
        rw [attempt, bound]
      rw [next] at later ⊢
      rw [Option.isSome_some, if_pos rfl]
      exact bindAll_cons_ok_iff.mpr ⟨_, bound, later⟩

theorem history_append (declared : List String) (earlier later : List (String × String)) :
    (history declared (earlier ++ later)).1 =
      (replies attempt (history declared earlier).1 later).1 := by
  rw [history, replies_append]
  rfl

theorem declared_history (declared : List String) (calls : List (String × String)) :
    (history declared calls).1.declared = declared :=
  declared_bindAll (bindAll_known (ofNames declared) calls)

theorem kept_history (declared : List String) (calls : List (String × String)) :
    (history declared calls).1.Kept := by
  have empty : (ofNames declared).Kept := nofun
  exact empty.bindAll (bindAll_known (ofNames declared) calls)

/-- What is told of a call hangs on the declared names only. -/
theorem told_replies (p : Parameters) (calls : List (String × String)) :
    (replies attempt p calls).2 = calls.map (refusal? p.declared) := by
  induction calls generalizing p with
  | nil => rfl
  | cons call rest ih => rw [replies_cons, List.map_cons, told_attempt, ih, declared_attempt]

/-- A call that is refused is as good as none. -/
theorem history_refused (told : refusal? declared call ≠ none)
    (earlier later : List (String × String)) :
    (history declared (earlier ++ call :: later)).1 = (history declared (earlier ++ later)).1 := by
  rw [history_append, history_append, replies_cons, attempt_refused]
  rwa [declared_history]

/-- Searching from the end finds the last one. -/
theorem find?_reverse_eq_some_iff {α : Type} {xs : List α} {x : α} {wanted : α → Bool} :
    xs.reverse.find? wanted = some x ↔
      wanted x = true ∧
        ∃ front back, xs = front ++ x :: back ∧ ∀ later ∈ back, wanted later = false := by
  rw [List.find?_eq_some_iff_append]
  simp only [Bool.not_eq_true']
  refine and_congr_right fun _ => ⟨?_, ?_⟩
  · rintro ⟨behind, before, same, unwanted⟩
    refine ⟨before.reverse, behind.reverse, ?_,
      fun later member => unwanted later (List.mem_reverse.mp member)⟩
    rw [← List.reverse_reverse xs, same]
    simp
  · rintro ⟨front, back, rfl, unwanted⟩
    exact ⟨back.reverse, front.reverse, by simp,
      fun later member => unwanted later (List.mem_reverse.mp member)⟩

/-- The value of a name is that of the last call for its parameter. -/
theorem get?_history (declared : List String) (calls : List (String × String)) (name value : String) :
    (history declared calls).1.get? name = some value ↔ LastBound declared calls name value := by
  have nothing : (ofNames declared).get? name = none := by
    rw [get?]
    cases (ofNames declared).canonical? name <;> rfl
  have alike (other : String) : ((ofNames declared).canonical? other).isSome = true ∧
      (ofNames declared).canonical? name = (ofNames declared).canonical? other ↔
        Alike declared name other :=
    (alike_iff (p := ofNames declared)).symm
  rw [history, get?_of_bindAll (bindAll_known (ofNames declared) calls) name, nothing, Option.or_none,
    ← List.filter_reverse, List.find?_filter, Option.map_eq_some_iff]
  simp only [find?_reverse_eq_some_iff, ← Bool.not_eq_true, decide_eq_true_eq, alike]
  constructor
  · rintro ⟨call, ⟨same, front, back, split, last⟩, rfl⟩
    exact ⟨front, call, back, split, same, rfl, last⟩
  · rintro ⟨front, call, back, split, same, rfl, last⟩
    exact ⟨call, ⟨same, front, back, split, last⟩, rfl⟩

theorem parameter?_eq_none_iff :
    p.invocation.parameter? name = none ↔ p.invocation.hasParameter name = false := by
  rw [invocation, Option.map_eq_none_iff, Option.isSome_eq_false_iff, Option.isNone_iff_eq_none]

theorem parameter?_eq_null_iff :
    p.invocation.parameter? name = some .null ↔
      p.invocation.hasParameter name = true ∧ p.get? name = none := by
  constructor
  · intro null
    have known : p.invocation.hasParameter name = true := by
      refine Bool.not_eq_false _ |>.mp fun unknown => ?_
      rw [parameter?_eq_none_iff.mpr unknown] at null
      cases null
    rw [parameter?_of_declared known] at null
    refine ⟨known, ?_⟩
    cases held : p.get? name with
    | none => rfl
    | some value =>
      rw [held] at null
      cases null
  · rintro ⟨known, free⟩
    rw [parameter?_of_declared known, free]
    rfl

theorem parameter?_eq_text_iff :
    p.invocation.parameter? name = some (.text value) ↔ p.get? name = some value := by
  cases found : p.canonical? name with
  | none => simp [invocation, get?, found]
  | some spelling =>
    have known : p.invocation.hasParameter name = true := by simp [invocation, found]
    rw [parameter?_of_declared known]
    cases p.get? name <;> simp

/-- The fields of the whole view, if the declared names differ. -/
theorem mem_toJson_iff (distinct : Distinct p.declared) :
    ∃ fields : Fields Json, p.toJson = .object fields ∧ fields.Sorted ∧
      ∀ field, field ∈ fields ↔ ∃ name ∈ p.declared, field = (name, .text ((p.get? name).getD "")) := by
  have nodup : p.declared.Nodup := by
    refine distinct.imp ?_
    rintro a _ differs rfl
    rw [Text.sameName_refl] at differs
    cases differs
  have named : ((p.declared.map fun name => (name, Json.text ((p.values.find? name).getD ""))).map
      Prod.fst).Nodup := by
    rw [List.map_map]
    exact (List.map_id p.declared).symm ▸ nodup
  refine ⟨_, rfl, Fields.sorted_ofPairs _, fun field => ?_⟩
  rw [(Fields.perm_ofPairs named).mem_iff, List.mem_map]
  refine exists_congr fun name => and_congr_right fun member => ?_
  have own : p.canonical? name = some name :=
    Text.find?_sameName id (by rwa [List.map_id]) member (Text.sameName_refl name)
  rw [get?, own, Option.bind_some, eq_comm]

/-- The views of parameters over any history. A call succeeds exactly if it names a declared
parameter; else it is told that it does not, and leaves the parameters as if it had not been made. A
name has the value of the last call for its parameter, the first declared one it is the same as. A
name without a parameter has no view; the view of a parameter is null exactly if it has no value,
and else the text of its value. Values are kept under declared names only. If these differ, the
whole view has a field for each of them and no other, with its value or the empty text. -/
theorem history_views (declared : List String) (calls : List (String × String)) :
    let p := (history declared calls).1
    ((history declared calls).2 = calls.map (refusal? declared) ∧
      ∀ call, refusal? declared call ≠ none → ∀ later,
        (history declared (calls ++ call :: later)).1 = (history declared (calls ++ later)).1) ∧
    (∀ name value, p.get? name = some value ↔ LastBound declared calls name value) ∧
    (∀ name,
      (p.invocation.hasParameter name = true ↔ ∃ other ∈ declared, Text.sameName other name = true) ∧
      (p.invocation.parameter? name = none ↔ p.invocation.hasParameter name = false) ∧
      (p.invocation.parameter? name = some .null ↔
        p.invocation.hasParameter name = true ∧ p.get? name = none) ∧
      ∀ value, p.invocation.parameter? name = some (.text value) ↔ p.get? name = some value) ∧
    (∀ name ∈ Fields.names p.values, name ∈ declared) ∧
    (Distinct declared → ∃ fields : Fields Json, p.toJson = .object fields ∧ fields.Sorted ∧
      ∀ field, field ∈ fields ↔ ∃ name ∈ declared, field = (name, .text ((p.get? name).getD ""))) := by
  intro p
  have names : p.declared = declared := declared_history declared calls
  refine ⟨⟨told_replies (ofNames declared) calls, fun call told => history_refused told calls⟩,
    get?_history declared calls, fun name => ⟨?_, ?_, ?_, fun value => ?_⟩, ?_, fun distinct => ?_⟩
  · rw [← names]
    exact canonical?_isSome_iff
  · exact parameter?_eq_none_iff
  · exact parameter?_eq_null_iff
  · exact parameter?_eq_text_iff
  · rw [← names]
    exact kept_history declared calls
  · rw [← names] at distinct ⊢
    exact mem_toJson_iff distinct

end Pager.Parameters

namespace Pager.SortedFolder

open Parameters

def names : List String := ["Folder", "Order", "Limit"]

/-- Calls in several spellings, one of them for a name that is not declared. -/
def calls : List (String × String) := [("folder", "a"), ("size", "1"), ("FOLDER", "b"), ("order", "")]

/-- The second folder counts in every view, the empty order is a value, and the limit has none. -/
theorem folder_views : Distinct names ∧
    (history names calls).2 =
      [none, some (.invalidArgument "size" "not a parameter of this operation"), none, none] ∧
    (history names calls).1.get? "foldeR" = some "b" ∧
    (history names calls).1.invocation.parameter? "Order" = some (.text "") ∧
    (history names calls).1.invocation.parameter? "limit" = some .null ∧
    (history names calls).1.invocation.parameter? "size" = none ∧
    ∃ fields : Fields Json, (history names calls).1.toJson = .object fields ∧
      ("Folder", .text "b") ∈ fields ∧ ("Limit", .text "") ∈ fields := by
  have distinct : Distinct names := by
    unfold Distinct
    decide
  obtain ⟨⟨told, _⟩, values, views, _, whole⟩ := history_views names calls
  obtain ⟨fields, same, _, each⟩ := whole distinct
  have last (name : String) :
      Alike names name "FOLDER" ↔ (ofNames names).canonical? name = some "Folder" :=
    (alike_iff (p := ofNames names)).trans (and_iff_right (by decide))
  have folder (name : String) (asked : (ofNames names).canonical? name = some "Folder") :
      (history names calls).1.get? name = some "b" := by
    refine (values name "b").mpr ⟨[("folder", "a"), ("size", "1")], ("FOLDER", "b"),
      [("order", "")], rfl, (last name).mpr asked, rfl, ?_⟩
    intro later member other
    rw [List.mem_singleton.mp member] at other
    have order := ((alike_iff (p := ofNames names)).mp other).2
    rw [asked] at order
    exact absurd order (by decide)
  have limit : (history names calls).1.get? "limit" = none := by decide
  refine ⟨distinct, told, folder "foldeR" (by decide), ?_, ?_, ?_, fields, same, ?_, ?_⟩
  · exact ((views "Order").2.2.2 "").mpr (by decide)
  · exact (views "limit").2.2.1.mpr ⟨(views "limit").1.mpr (by decide), limit⟩
  · exact (views "size").2.1.mpr (by decide)
  · exact (each _).mpr ⟨"Folder", by decide, by rw [folder "Folder" (by decide)]; rfl⟩
  · exact (each _).mpr ⟨"Limit", by decide, by decide⟩

end Pager.SortedFolder
