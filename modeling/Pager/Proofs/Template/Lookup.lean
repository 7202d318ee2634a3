import Pager.Proofs.Definition.Reference
import Pager.Proofs.Json.Path

namespace Pager.Template

variable {v : Json} {path part : String} {parts : List String}

theorem dot_or_nameChar {name : List Char} (is : isName name = true) {c : Char} (member : c ∈ name) :
    c = '.' ∨ isNameChar c = true := by
  by_cases dot : c = '.'
  · exact .inl dot
  · obtain ⟨part, piece, inside⟩ := Text.exists_mem_pieces member dot
    exact .inr (isNameChar_of_mem (isName_iff.mp is part piece) inside)

/-- No name is the sign of the root or begins with it. -/
theorem plain_of_isName (is : isName path.toList = true) : Json.Plain path := by
  have sign : '$' ∉ path.toList := fun member =>
    (dot_or_nameChar is member).elim (by decide) (by decide)
  refine ⟨?_, ?_, ?_⟩
  · rintro rfl
    exact isName_ne_nil is rfl
  · rintro rfl
    exact sign (by decide)
  · rintro ⟨rest, same⟩
    exact sign (same ▸ List.mem_cons_self)

theorem isIdentifier_of_mem_splitOn (is : isName path.toList = true)
    (member : part ∈ Text.splitOn '.' path) :
    isIdentifier part.toList = true := by
  obtain ⟨piece, inside, rfl⟩ := List.mem_map.mp member
  rw [String.toList_ofList]
  exact isName_iff.mp is piece inside

theorem isName_behind (front back : String) :
    isName (front ++ "." ++ back).toList = (isName front.toList && isName back.toList) := by
  rw [isName, Json.toList_behind, Text.pieces_append_cons, List.all_append]
  rfl

theorem code_of_isAlpha {c : Char} (letter : c.isAlpha = true) : 65 ≤ c.toNat := by
  rcases Bool.or_eq_true_iff.mp letter with upper | lower
  · exact (of_decide_eq_true upper).1
  · have bound : 97 ≤ c.toNat := of_decide_eq_true (Bool.and_eq_true_iff.mp lower).1
    omega

theorem not_digit_of_nameStart {c : Char} (start : isNameStart c = true) : c.isDigit = false := by
  rw [isNameStart, Bool.or_eq_true, beq_iff_eq] at start
  refine Bool.eq_false_iff.mpr fun digit => ?_
  have bound : c.toNat ≤ 57 := of_decide_eq_true (Bool.and_eq_true_iff.mp digit).2
  rcases start with letter | rfl
  · have code := code_of_isAlpha letter
    omega
  · exact absurd bound (by decide)

/-- No identifier is an index: it begins with neither a sign nor a digit. -/
theorem not_isIndex_of_isIdentifier (is : isIdentifier part.toList = true) (i : Nat) :
    ¬ Json.IsIndex part i := by
  rintro ⟨writes, _⟩
  cases chars : part.toList with
  | nil =>
    rw [chars] at is
    cases is
  | cons c rest =>
    rw [chars] at is writes
    have start := (Bool.and_eq_true _ _ ▸ is).1
    rcases writes.sign_or_digit List.mem_cons_self with rfl | digit
    · exact absurd start (by decide)
    · rw [not_digit_of_nameStart start] at digit
      cases digit

theorem child?_list (is : isIdentifier part.toList = true) (items : List Json) :
    (Json.list items).child? part = none :=
  Json.child?_eq_none_iff.mpr (.noIndex (not_isIndex_of_isIdentifier is))

/-- Where every part is an identifier, lists lead nowhere either way. -/
theorem fieldAt_eq_descend (are : ∀ part ∈ parts, isIdentifier part.toList = true) :
    fieldAt v parts = v.descend parts := by
  induction parts generalizing v with
  | nil => rfl
  | cons part parts ih =>
    obtain ⟨first, others⟩ := List.forall_mem_cons.mp are
    cases v with
    | object fields =>
      rw [fieldAt, Json.descend, Json.child?]
      exact Option.bind_congr fun w _ => ih others
    | list items =>
      rw [Json.descend, child?_list first, Option.bind_none]
      rfl
    | null | bool | number | text => rfl

theorem get_of_isName (ctx : Context) (is : isName path.toList = true) :
    ctx.get (parameterName path) = ctx.params.lookup path := by
  have plain := plain_of_isName is
  rw [Context.get_parameterName ctx plain.given, Json.lookup, plain.steps]
  exact fieldAt_eq_descend fun part => isIdentifier_of_mem_splitOn is

/-- Nothing is found in a list under a name. -/
theorem lookup_list (is : isName path.toList = true) (items : List Json) :
    (Json.list items).lookup path = none := by
  rw [Json.lookup, (plain_of_isName is).steps]
  have are : ∀ part ∈ Text.splitOn '.' path, isIdentifier part.toList = true :=
    fun _ => isIdentifier_of_mem_splitOn is
  have given := Text.splitOn_ne_nil '.' path
  cases parts : Text.splitOn '.' path with
  | nil => exact absurd parts given
  | cons first rest =>
    rw [parts] at are
    rw [Json.descend, child?_list (are first List.mem_cons_self), Option.bind_none]

/-- The names of variables behind the root of the parameters are those of identifiers with dots between
them. -/
theorem isName_iff_produced :
    isName path.toList = true ↔ ∃ template, parameterName path ∈ variableNames template := by
  constructor
  · intro is
    obtain ⟨source, scanned⟩ := scan_reference is
    refine ⟨reference path, ?_⟩
    rw [variableNames, scanned]
    simp [Piece.name?]
  · rintro ⟨template, member⟩
    rw [← isName_parameterName]
    exact isName_of_mem member

/-- The value of a parameter's variable is the one at its path in the parameters, whatever they are and
whichever path a template can name behind their root; there is no such value exactly if there is none
under the other name. Where a list is on the way, there is neither. -/
theorem get_eq_lookup (ctx : Context) (path : String) :
    (isName path.toList = true ↔ ∃ template, parameterName path ∈ variableNames template) ∧
    (isName path.toList = true →
      ctx.get (parameterName path) = ctx.params.lookup path ∧
      ∀ front back items, path = front ++ "." ++ back → ctx.params.lookup front = some (.list items) →
        ctx.get (parameterName path) = none ∧ ctx.params.lookup path = none) := by
  refine ⟨isName_iff_produced, fun is => ⟨get_of_isName ctx is, ?_⟩⟩
  rintro front back items rfl found
  have same := get_of_isName ctx is
  rw [isName_behind, Bool.and_eq_true] at is
  have front_plain := plain_of_isName is.1
  have whole : ¬ Json.PathParts front [] := by
    rw [Json.pathParts_iff, front_plain.steps]
    exact Text.splitOn_ne_nil '.' front
  have nothing : ctx.params.lookup (front ++ "." ++ back) = none := by
    rw [Json.lookup_behind _ whole (plain_of_isName is.2), found, Option.bind_some, lookup_list is.2]
  exact ⟨same.trans nothing, nothing⟩

end Pager.Template

namespace Pager.OwnedFilter

open Template

/-- Parameters with an object and a list inside. -/
def context : Context where
  params := .object [("filter", .object [("names", .list [.object [("id", .text "a")]]),
    ("owner", .object [("id", .text "o1")])])]
  environment := none

/-- What is inside the object is found either way, and what is inside the list is not. -/
theorem owner_found :
    isName "filter.owner.id".toList = true ∧
    context.get "params.filter.owner.id" = context.params.lookup "filter.owner.id" ∧
    context.params.lookup "filter.owner.id" = some (.text "o1") ∧
    isName "filter.names.id".toList = true ∧
    context.params.lookup "filter.names" = some (.list [.object [("id", .text "a")]]) ∧
    context.get "params.filter.names.id" = none ∧ context.params.lookup "filter.names.id" = none := by
  have owner : isName "filter.owner.id".toList = true := by decide
  have names : isName "filter.names.id".toList = true := by decide
  have list : context.params.lookup "filter.names" = some (.list [.object [("id", .text "a")]]) := by
    decide
  have same := ((get_eq_lookup context "filter.owner.id").2 owner).1
  have nothing := ((get_eq_lookup context "filter.names.id").2 names).2 "filter.names" "id" _
    (by decide) list
  exact ⟨owner, same, by decide, names, list, nothing⟩

end Pager.OwnedFilter
