import Pager.Page
import Pager.Proofs.Json.Descent

namespace Pager.Json

variable {v w u : Json} {path rest outer inner : String} {parts : List String}

/-- The parts of a path, put together with dots between them. -/
def pathOf (parts : List String) : String :=
  String.ofList (Text.join '.' (parts.map String.toList))

/-- The parts a text has between its dots. -/
structure Cut (path : String) (parts : List String) : Prop where
  given : parts ≠ []
  free : ∀ part ∈ parts, '.' ∉ part.toList
  whole : pathOf parts = path

/-- A path that is not empty, is not the bare sign of the root and has no mark of the root in front. -/
structure Plain (path : String) : Prop where
  given : path ≠ ""
  notRoot : path ≠ "$"
  unmarked : ¬ ['$', '.'] <+: path.toList

/-- The parts of a path. Those of a path with the mark of the root in front are the parts of the text
behind it, and nothing and the bare mark have none. -/
inductive PathParts : String → List String → Prop
  | whole {path : String} : path = "" ∨ path = "$" ∨ path = "$." ∨ path = "$.$" → PathParts path []
  | plain {path : String} {parts : List String} : Plain path → Cut path parts → PathParts path parts
  | marked {path : String} {parts : List String} :
      path ≠ "" → path ≠ "$" → Cut path parts → PathParts ("$." ++ path) parts

/-- What is found where parts lead: the value they reach, and nothing exactly if some part leads nowhere
from the value before it. -/
structure Descends (v : Json) (parts : List String) (found : Option Json) : Prop where
  some_iff : ∀ w, found = some w ↔ Reached v parts w
  none_iff : found = none ↔
    ∃ front part back u, parts = front ++ part :: back ∧ Reached v front u ∧ Blocked u part

theorem toList_pathOf (parts : List String) :
    (pathOf parts).toList = Text.join '.' (parts.map String.toList) := by
  rw [pathOf, String.toList_ofList]

theorem map_ofList_toList (parts : List String) :
    (parts.map String.toList).map String.ofList = parts := by
  simp [List.map_map, Function.comp_def]

theorem cut_iff : Cut path parts ↔ Text.splitOn '.' path = parts := by
  constructor
  · rintro ⟨given, free, rfl⟩
    have filled : parts.map String.toList ≠ [] := by simpa using given
    have apart : ∀ piece ∈ parts.map String.toList, '.' ∉ piece := List.forall_mem_map.mpr free
    rw [Text.splitOn, toList_pathOf, Text.pieces_join filled apart, map_ofList_toList]
  · rintro rfl
    refine ⟨Text.splitOn_ne_nil '.' path, ?_, ?_⟩
    · intro part member dot
      obtain ⟨piece, piece_member, rfl⟩ := List.mem_map.mp member
      rw [String.toList_ofList] at dot
      exact (Text.mem_of_mem_pieces piece_member dot).1 rfl
    · have same : String.toList ∘ String.ofList = id := funext fun _ => String.toList_ofList
      rw [pathOf, Text.splitOn, List.map_map, same, List.map_id, Text.join_pieces,
        String.ofList_toList]

theorem stripRoot_marked (path : String) : stripRoot ("$." ++ path) = path := by
  have chars : ("$." ++ path).toList = '$' :: '.' :: path.toList := by simp
  rw [stripRoot, chars]
  exact String.ofList_toList

theorem stripRoot_unmarked (unmarked : ¬ ['$', '.'] <+: path.toList) : stripRoot path = path := by
  unfold stripRoot
  split
  · next rest chars =>
    exact absurd (chars ▸ List.prefix_append ['$', '.'] rest) unmarked
  · rfl

theorem steps_marked (path : String) :
    steps ("$." ++ path) = if path = "" ∨ path = "$" then [] else Text.splitOn '.' path := by
  rw [steps, stripRoot_marked]
  simp

theorem Plain.steps (plain : Plain path) : steps path = Text.splitOn '.' path := by
  rw [Json.steps, stripRoot_unmarked plain.unmarked]
  simp [plain.given, plain.notRoot]

theorem pathParts_marked (path : String) : PathParts ("$." ++ path) (steps ("$." ++ path)) := by
  rw [steps_marked]
  split
  · next root =>
    rcases root with rfl | rfl
    · exact .whole (by decide)
    · exact .whole (by decide)
  · next filled =>
    rw [not_or] at filled
    exact .marked filled.1 filled.2 (cut_iff.mpr rfl)

theorem pathParts_unmarked (unmarked : ¬ ['$', '.'] <+: path.toList) : PathParts path (steps path) := by
  by_cases whole : path = "" ∨ path = "$"
  · have stepless : steps path = [] := by rcases whole with rfl | rfl <;> decide
    rw [stepless]
    exact .whole (whole.imp_right .inl)
  · rw [not_or] at whole
    have plain : Plain path := ⟨whole.1, whole.2, unmarked⟩
    rw [plain.steps]
    exact .plain plain (cut_iff.mpr rfl)

theorem pathParts_iff : PathParts path parts ↔ steps path = parts := by
  constructor
  · rintro (root | ⟨plain, cut⟩ | ⟨given, notRoot, cut⟩)
    · rcases root with rfl | rfl | rfl | rfl <;> decide
    · rw [plain.steps, cut_iff.mp cut]
    · rw [steps_marked, if_neg (not_or.mpr ⟨given, notRoot⟩), cut_iff.mp cut]
  · rintro rfl
    by_cases marked : ['$', '.'] <+: path.toList
    · obtain ⟨rest, chars⟩ := marked
      obtain rfl : "$." ++ String.ofList rest = path := by
        rw [← String.toList_inj, ← chars]
        simp
      exact pathParts_marked (String.ofList rest)
    · exact pathParts_unmarked marked

theorem toList_behind (outer inner : String) :
    (outer ++ "." ++ inner).toList = outer.toList ++ '.' :: inner.toList := by
  simp

theorem splitOn_behind (outer inner : String) :
    Text.splitOn '.' (outer ++ "." ++ inner) = Text.splitOn '.' outer ++ Text.splitOn '.' inner := by
  rw [Text.splitOn, toList_behind, Text.pieces_append_cons, List.map_append]
  rfl

theorem behind_ne {text : String} (free : '.' ∉ text.toList) (outer inner : String) :
    outer ++ "." ++ inner ≠ text := by
  rintro rfl
  exact free (by simp)

theorem Plain.behind (plain : Plain outer) (inner : String) : Plain (outer ++ "." ++ inner) := by
  refine ⟨behind_ne (by decide) outer inner, behind_ne (by decide) outer inner, ?_⟩
  rw [toList_behind]
  cases chars : outer.toList with
  | nil => exact absurd (String.toList_eq_nil_iff.mp chars) plain.given
  | cons c rest =>
    cases rest with
    | nil =>
      rintro ⟨_, same⟩
      have first : c = '$' := by simpa using (List.cons.inj same).1.symm
      exact plain.notRoot (String.toList_inj.mp (by rw [chars, first]; rfl))
    | cons d rest =>
      rintro ⟨_, same⟩
      obtain ⟨first, later⟩ := List.cons.inj same
      obtain ⟨second, _⟩ := List.cons.inj later
      exact plain.unmarked ⟨rest, by rw [chars, ← first, ← second]; rfl⟩

/-- The steps of a path behind another one come behind its steps. -/
theorem steps_behind (whole : ¬ PathParts outer []) (plain : Plain inner) :
    steps (outer ++ "." ++ inner) = steps outer ++ steps inner := by
  rw [plain.steps]
  have are : PathParts outer (steps outer) := pathParts_iff.mpr rfl
  generalize steps outer = parts at are
  cases are with
  | whole root => exact absurd (.whole root) whole
  | plain outerPlain cut =>
    rw [(outerPlain.behind inner).steps, splitOn_behind, cut_iff.mp cut]
  | @marked path parts _ _ cut =>
    have same : "$." ++ path ++ "." ++ inner = "$." ++ (path ++ "." ++ inner) := by
      simp [String.append_assoc]
    have apart : ¬ (path ++ "." ++ inner = "" ∨ path ++ "." ++ inner = "$") :=
      not_or.mpr ⟨behind_ne (by decide) path inner, behind_ne (by decide) path inner⟩
    rw [same, steps_marked, if_neg apart, splitOn_behind, cut_iff.mp cut]

theorem lookup_behind (v : Json) (whole : ¬ PathParts outer []) (plain : Plain inner) :
    v.lookup (outer ++ "." ++ inner) = (v.lookup outer).bind fun u => u.lookup inner := by
  rw [lookup, steps_behind whole plain, descend_append]
  rfl

theorem descends (v : Json) (parts : List String) : Descends v parts (v.descend parts) :=
  ⟨fun _ => descend_eq_some_iff, descend_eq_none_iff⟩

theorem cut_route {route : List Step} (fits : ∀ step ∈ route, step.Fits)
    (plain : Plain (pathOf (route.map Step.text))) :
    Cut (pathOf (route.map Step.text)) (route.map Step.text) := by
  refine ⟨?_, ?_, rfl⟩
  · intro empty
    rw [empty] at plain
    exact plain.given rfl
  · exact List.forall_mem_map.mpr fun step member => Step.dot_not_mem_text (fits step member)

/-- The value at the end of a path. A plain path that is put together from parts leads where they lead,
each taken from the value the one before it led to, and nowhere exactly if one of them leads nowhere; so
does any text behind the mark of the root, except that nothing and a second mark stand for the whole
value. Any path has such parts, and what is found stands in the value, at the end of a route they write.
Each part of a value whose objects have their names once is found at the path of its route. A plain path
behind another one is looked up in what is found there; so are the cursor of a page, its records and what
is selected of it. -/
theorem lookup_exact (v : Json) :
    (∀ path parts, Plain path → Cut path parts → Descends v parts (v.lookup path)) ∧
    (∀ path, ∃ parts, Cut path parts ∧
      Descends v (if path = "" ∨ path = "$" then [] else parts) (v.lookup ("$." ++ path))) ∧
    (∀ path, ∃ parts, PathParts path parts ∧ Descends v parts (v.lookup path) ∧
      ∀ w, v.lookup path = some w → ∃ route, List.Forall₂ Step.Written route parts ∧ v.At route w) ∧
    (∀ route w, v.NamedOnce → (∀ step ∈ route, step.Fits) → Plain (pathOf (route.map Step.text)) →
      v.At route w → v.lookup (pathOf (route.map Step.text)) = some w) ∧
    ∀ outer inner, ¬ PathParts outer [] → Plain inner →
      v.lookup (outer ++ "." ++ inner) = (v.lookup outer).bind (fun u => u.lookup inner) ∧
      (∀ items?, (ListPage.ofBody v (outer ++ "." ++ inner) items?).nextCursor =
        (v.lookup outer).bind fun u => (ListPage.ofBody u inner items?).nextCursor) ∧
      (∀ cursor, (ListPage.ofBody v cursor (some (outer ++ "." ++ inner))).items =
        ((v.lookup outer).map fun u => (ListPage.ofBody u cursor (some inner)).items).getD []) ∧
      ∀ cursor items?, Viewable.select (ListPage.ofBody v cursor items?) (outer ++ "." ++ inner) =
        (Viewable.select (ListPage.ofBody v cursor items?) outer).bind fun u => u.lookup inner := by
  have plainly : ∀ path parts, Plain path → Cut path parts → Descends v parts (v.lookup path) := by
    intro path parts plain cut
    rw [lookup, plain.steps, cut_iff.mp cut]
    exact descends v parts
  refine ⟨plainly, ?_, ?_, ?_, ?_⟩
  · intro path
    refine ⟨Text.splitOn '.' path, cut_iff.mpr rfl, ?_⟩
    rw [lookup, steps_marked]
    exact descends v _
  · intro path
    refine ⟨steps path, pathParts_iff.mpr rfl, descends v _, fun w found => ?_⟩
    exact (descend_eq_some_iff.mp found).exists_at
  · intro route w once fits plain inside
    exact ((plainly _ _ plain (cut_route fits plain)).some_iff w).mpr (inside.reached once fits)
  · intro outer inner whole plain
    have behind := lookup_behind v whole plain
    refine ⟨behind, fun items? => ?_, fun cursor => ?_, fun cursor items? => behind⟩
    · simp only [ListPage.ofBody, behind, Option.bind_assoc]
    · simp only [ListPage.ofBody, behind]
      cases v.lookup outer <;> rfl

end Pager.Json

namespace Pager.NestedAnswer

open Json

/-- A page that holds its cursor deep down. -/
def body : Json :=
  .object [("data", .object [("0", .text "zero"),
    ("pages", .list [.null, .object [("next", .text "t2")]])])]

/-- Where its cursor is. -/
def route : List Step :=
  [.field "data", .field "pages", .item 1, .field "next"]

theorem namedOnce_body : body.NamedOnce := by
  have text (s : String) : (Json.text s).NamedOnce := .scalar nofun nofun
  have null : Json.null.NamedOnce := .scalar nofun nofun
  have last : (Json.object [("next", .text "t2")]).NamedOnce :=
    .object (by decide) (List.forall_mem_singleton.mpr (text "t2"))
  have pages := NamedOnce.list (List.forall_mem_cons.mpr ⟨null, List.forall_mem_singleton.mpr last⟩)
  have data : (Json.object [("0", .text "zero"),
      ("pages", .list [.null, .object [("next", .text "t2")]])]).NamedOnce :=
    .object (by decide) (List.forall_mem_cons.mpr ⟨text "zero", List.forall_mem_singleton.mpr pages⟩)
  exact .object (by decide) (List.forall_mem_singleton.mpr data)

/-- The cursor is found by its route, also from below; a part that is no index leads nowhere in a list,
and a digit is a name in an object. -/
theorem next_found :
    pathOf (route.map Step.text) = "data.pages.1.next" ∧ body.At route (.text "t2") ∧
    body.lookup "data.pages.1.next" = some (.text "t2") ∧
    Plain "data.pages.last.next" ∧ Cut "data.pages.last.next" ["data", "pages", "last", "next"] ∧
    body.lookup "data.pages.last.next" = none ∧
    ¬ PathParts "$.data" [] ∧ Plain "0" ∧ body.lookup "$.data.0" = some (.text "zero") := by
  obtain ⟨plainly, _, _, complete, behind⟩ := lookup_exact body
  have written : pathOf (route.map Step.text) = "data.pages.1.next" := by decide
  have inside : body.At route (.text "t2") :=
    .field (.head _) (.field (.tail _ (.head _)) (.item rfl (.field (.head _) (.here _))))
  have fits : ∀ step ∈ route, step.Fits := by decide
  have plain : Plain "data.pages.1.next" := ⟨by decide, by decide, by decide⟩
  have plain' : Plain "data.pages.last.next" := ⟨by decide, by decide, by decide⟩
  have cut : Cut "data.pages.last.next" ["data", "pages", "last", "next"] :=
    ⟨by decide, by decide, by decide⟩
  have found := complete route (.text "t2") namedOnce_body fits (written ▸ plain) inside
  have whole : ¬ PathParts "$.data" [] := by
    rw [pathParts_iff]
    decide
  have zero : Plain "0" := ⟨by decide, by decide, by decide⟩
  refine ⟨written, inside, written ▸ found, plain', cut, ?_, whole, zero, ?_⟩
  · have reached : Reached body ["data", "pages"] (.list [.null, .object [("next", .text "t2")]]) :=
      descend_eq_some_iff.mp (by decide)
    have noIndex : ∀ i, ¬ IsIndex "last" i := index?_eq_none_iff.mp (by decide)
    exact (plainly _ _ plain' cut).none_iff.mpr
      ⟨["data", "pages"], "last", ["next"], _, rfl, reached, .noIndex noIndex⟩
  · rw [show "$.data.0" = "$.data" ++ "." ++ "0" by decide, (behind "$.data" "0" whole zero).1]
    decide

end Pager.NestedAnswer
