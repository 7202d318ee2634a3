import Pager.Parameters
import Pager.Template.Render

namespace Pager

namespace Template

/-- A parameter's variable. -/
def parameterName (path : String) : String :=
  "params." ++ path

/-- The name of an environment variable, behind its root. -/
def environmentName? (name : String) : Option String :=
  (Text.afterPrefix "env.".toList name.toList).map String.ofList

theorem toList_parameterName (path : String) :
    (parameterName path).toList = "params".toList ++ '.' :: path.toList := by
  rw [parameterName, String.toList_append]
  rfl

theorem Context.get_parameterName (ctx : Context) {path : String} (given : path ≠ "") :
    ctx.get (parameterName path) =
      fieldAt ctx.params ((Text.pieces '.' path.toList).map String.ofList) := by
  have filled : path.toList.isEmpty = false := by simpa using given
  rw [Context.get, toList_parameterName, Text.cutAt_append (by decide)]
  simp [filled]

/-- A context with the same parameters and another environment has the same values, but for the
variables that name the environment. -/
theorem Context.get_congr {params : Json} {env env' : Environment} {name : String}
    (agree : ∀ setting ∈ environmentName? name, env setting = env' setting) :
    Context.get ⟨params, some env⟩ name = Context.get ⟨params, some env'⟩ name := by
  unfold Context.get
  cases cut : Text.cutAt '.' name.toList with
  | none =>
    simp only [Option.getD_none, List.isEmpty_nil, Bool.not_true, Bool.and_false, Bool.false_eq_true,
      if_false]
  | some parts =>
    obtain ⟨root, rest⟩ := parts
    by_cases outer : root = "env".toList
    · subst outer
      have behind : Text.afterPrefix "env.".toList name.toList = some rest := by
        rw [Text.afterPrefix_eq_some_iff, Text.cutAt_eq_some cut]
        rfl
      have same := agree (String.ofList rest) (by rw [environmentName?, behind]; rfl)
      simp only [Option.getD_some, Option.bind_some, same]
    · simp only [Option.getD_some, outer, decide_false, Bool.false_and, Bool.false_eq_true, if_false]

end Template

namespace Parameters

open Template

theorem fieldAt_toJson (p : Parameters) (name : String) (rest : List String) :
    fieldAt p.toJson (name :: rest) =
      if name ∈ p.declared then fieldAt (.text ((p.values.find? name).getD "")) rest else none := by
  have found := Fields.find?_ofPairs_map (fun name => Json.text ((p.values.find? name).getD ""))
    p.declared name
  rw [toJson, Json.ofPairs, fieldAt, found]
  split <;> rfl

/-- The value of a parameter's variable. -/
theorem get_parameterName (p : Parameters) (env : Option Environment) {path : String}
    (given : path ≠ "") :
    Context.get ⟨p.toJson, env⟩ (parameterName path) =
      if path ∈ p.declared ∧ '.' ∉ path.toList then
        some (.text ((p.values.find? path).getD ""))
      else none := by
  rw [Context.get_parameterName _ given]
  by_cases dots : '.' ∈ path.toList
  · rw [if_neg fun both => both.2 dots]
    cases parts : Text.pieces '.' path.toList with
    | nil => exact absurd parts (Text.pieces_ne_nil '.' _)
    | cons first more =>
      cases more with
      | nil =>
        have whole := Text.join_pieces '.' path.toList
        rw [parts, Text.join] at whole
        have free := Text.mem_of_mem_pieces (parts ▸ List.mem_singleton_self first) (whole ▸ dots)
        exact absurd rfl free.1
      | cons next more =>
        -- the values are texts, which have no fields
        rw [List.map_cons, List.map_cons, fieldAt_toJson]
        split <;> rfl
  · rw [Text.pieces_of_not_mem dots, List.map_singleton, String.ofList_toList, fieldAt_toJson]
    simp [dots, fieldAt]

end Parameters

end Pager
