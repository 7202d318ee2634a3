import Mathlib.Data.List.Forall2
import Pager.Proofs.Walk.Chain

namespace Pager.Walk

variable {Service Request Page Context Value Kept : Type}
variable [CursorRequest Request] [CursorPage Page]

/-- Invocations of one page each, every one from the cursor the one before it told, until one tells
none. -/
def byHand (s : Setting Service Request Page Context Value Kept) (turns : Nat) (request : Request) :
    Nat → Option String → Service → Kept → Option (List (Finished Service Request Value Kept))
  | 0, _, _, _ => none
  | rounds + 1, cursor, service, kept =>
    match execute s turns request (.onePage cursor) service kept with
    | none => none
    | some part =>
      match part.outcome.resumeCursor with
      | none => some [part]
      | some following =>
        (byHand s turns request rounds (some following) part.standing.service
          part.standing.kept).map (part :: ·)

variable {s : Setting Service Request Page Context Value Kept} {pageAt : Option String → Page}

/-- An automatic walk follows the chain from the first page to its end. -/
theorem execute_automatic (mode : s.projection.mode = .eachPage) (request : Request)
    {cursors : List (Option String)} (chain : Chain pageAt none cursors) {service : Service}
    {kept : Kept} (keyed : s.operation.Keyed pageAt service) (accepts : s.sink.Accepts kept) :
    ∃ whole, whole.standing.events = visits (s.valueAt pageAt) request cursors ∧
      whole.outcome.termination = .exhausted ∧
      ∀ turns, cursors.length ≤ turns →
        execute { s with maxPages := none } turns request .automatic service kept = some whole := by
  let auto : Setting Service Request Page Context Value Kept :=
    { s with maxPages := none, callerPages := false }
  let start : Standing Service Request Value Kept := ⟨request, service, kept, ⟨none, 0, 0⟩, []⟩
  have stands : start.progress.cursor = none := rfl
  obtain ⟨last, events, ends⟩ := loop_chain (s := auto) mode rfl rfl chain stands keyed accepts
  refine ⟨⟨last, .exhausted, none⟩, events, rfl, fun turns enough => ?_⟩
  rw [execute_eachPage (s := { s with maxPages := none }) mode]
  exact ends turns enough

/-- An invocation that fetched the page of this cursor and no other. -/
structure OnePage (s : Setting Service Request Page Context Value Kept)
    (pageAt : Option String → Page) (request : Request) (cursor : Option String)
    (part : Finished Service Request Value Kept) : Prop where
  events : part.standing.events = visits (s.valueAt pageAt) request [cursor]
  resumes : part.outcome.resumeCursor = noneIfEmpty (CursorPage.nextCursor (pageAt cursor))
  limited : part.outcome.termination = .userLimited
  counted : part.outcome.pages = 1
  unfaulted : part.outcome.fault = none

theorem execute_onePage (mode : s.projection.mode = .eachPage) (request : Request)
    {cursor : Option String} (filled : noneIfEmpty cursor = cursor) {service : Service} {kept : Kept}
    (keyed : s.operation.Keyed pageAt service) (accepts : s.sink.Accepts kept) :
    ∃ part, OnePage s pageAt request cursor part ∧ s.operation.Keyed pageAt part.standing.service ∧
      s.sink.Accepts part.standing.kept ∧
      ∀ turns, 0 < turns → execute s turns request (.onePage cursor) service kept = some part := by
  let one : Setting Service Request Page Context Value Kept := { s with callerPages := true }
  let start : Standing Service Request Value Kept := ⟨request, service, kept, ⟨cursor, 0, 0⟩, []⟩
  have opened : Progress.start cursor = ⟨cursor, 0, 0⟩ := by simp only [Progress.start, filled]
  have stands : start.progress.cursor = cursor := rfl
  obtain ⟨later, after, keyed, accepts, step⟩ := turn_keyed (s := one) mode stands keyed accepts
  refine ⟨⟨start.passed later after (pageAt cursor) (s.valueAt pageAt cursor), .userLimited, none⟩,
    ⟨?_, rfl, rfl, rfl, rfl⟩, keyed, accepts, ?_⟩
  · have logged := visits_passed stands (s.valueAt pageAt) later after (pageAt cursor) []
    rwa [visits, List.append_nil] at logged
  · intro turns enough
    obtain ⟨turns, rfl⟩ := Nat.exists_eq_add_of_le' enough
    rw [execute_eachPage mode, Control.callerPages_onePage, Control.initialCursor_onePage, opened]
    change loop one (turns + 1) start = _
    simp only [loop, step]
    rfl

theorem byHand_chain (mode : s.projection.mode = .eachPage) (request : Request)
    {cursor : Option String} {cursors : List (Option String)} (chain : Chain pageAt cursor cursors)
    (filled : noneIfEmpty cursor = cursor) {service : Service} {kept : Kept}
    (keyed : s.operation.Keyed pageAt service) (accepts : s.sink.Accepts kept) :
    ∃ parts, (∀ rounds turns, cursors.length ≤ rounds → 0 < turns →
        byHand s turns request rounds cursor service kept = some parts) ∧
      List.Forall₂ (OnePage s pageAt request) cursors parts := by
  induction chain generalizing service kept with
  | @last cursor final =>
    obtain ⟨part, one, _, _, invoked⟩ := execute_onePage mode request filled keyed accepts
    refine ⟨[part], fun rounds turns enough positive => ?_, .cons one .nil⟩
    obtain ⟨rounds, rfl⟩ := Nat.exists_eq_add_of_le' enough
    simp only [List.length_singleton, byHand, invoked turns positive, one.resumes, final]
  | @next cursor following rest named chain ih =>
    obtain ⟨part, one, keyed, accepts, invoked⟩ := execute_onePage mode request filled keyed accepts
    have filled : noneIfEmpty (some following) = some following := by rw [← named, noneIfEmpty_idem]
    obtain ⟨parts, continued, all⟩ := ih filled keyed accepts
    refine ⟨part :: parts, fun rounds turns enough positive => ?_, .cons one all⟩
    obtain ⟨rounds, rfl⟩ := Nat.exists_eq_add_of_le' enough
    simp only [List.length_cons, ← Nat.add_assoc, byHand, invoked turns positive, one.resumes, named]
    rw [continued _ turns (Nat.le_add_left _ _) positive]
    rfl

theorem OnePage.flatMap_events {request : Request} {cursors : List (Option String)}
    {parts : List (Finished Service Request Value Kept)}
    (all : List.Forall₂ (OnePage s pageAt request) cursors parts) :
    (parts.flatMap fun part => part.standing.events) =
      cursors.flatMap fun cursor => visits (s.valueAt pageAt) request [cursor] := by
  induction all with
  | nil => rfl
  | cons one _ ih => rw [List.flatMap_cons, List.flatMap_cons, one.events, ih]

theorem OnePage.all_limited {request : Request} {cursors : List (Option String)}
    {parts : List (Finished Service Request Value Kept)}
    (all : List.Forall₂ (OnePage s pageAt request) cursors parts) :
    ∀ part ∈ parts, (requests part.standing.events).length = 1 ∧ part.outcome.pages = 1 ∧
      part.outcome.termination = .userLimited := by
  induction all with
  | nil => exact nofun
  | cons one _ ih =>
    refine List.forall_mem_cons.mpr ⟨⟨?_, one.counted, one.limited⟩, ih⟩
    rw [one.events, requests_visits]
    rfl

/-- Over a service with a page for each cursor, whose chain from the first page ends, and with a
sink that takes everything, invocations of one page each do what one automatic walk does: the same
fetches in the same order, and the same values to the sink between them. -/
theorem byHand_automatic [LawfulCursorRequest Request] (mode : s.projection.mode = .eachPage)
    (request : Request) {cursors : List (Option String)} (chain : Chain pageAt none cursors)
    {service : Service} {kept : Kept} (keyed : s.operation.Keyed pageAt service)
    (accepts : s.sink.Accepts kept) :
    ∃ whole parts,
      (∀ turns, cursors.length ≤ turns →
        execute { s with maxPages := none } turns request .automatic service kept = some whole) ∧
      (∀ rounds turns, cursors.length ≤ rounds → 0 < turns →
        byHand s turns request rounds none service kept = some parts) ∧
      (parts.flatMap fun part => part.standing.events) = whole.standing.events ∧
      requests whole.standing.events = cursors.map (CursorRequest.setCursor request) ∧
      accepted whole.standing.events = cursors.filterMap (s.valueAt pageAt) ∧
      ∀ part ∈ parts, (requests part.standing.events).length = 1 ∧ part.outcome.pages = 1 ∧
        part.outcome.termination = .userLimited := by
  obtain ⟨whole, events, _, automatic⟩ := execute_automatic mode request chain keyed accepts
  obtain ⟨parts, invoked, all⟩ := byHand_chain mode request chain rfl keyed accepts
  refine ⟨whole, parts, automatic, invoked, ?_, ?_, ?_, OnePage.all_limited all⟩
  · rw [OnePage.flatMap_events all, events, visits_of_lawful]
  · rw [events, requests_of_lawful]
  · rw [events, accepted_visits]

/-- Three pages, in the order none, `t1`, `t2`. -/
def threePages : Option String → ListPage
  | none => ⟨.null, [.text "a", .text "b"], some "t1"⟩
  | some "t1" => ⟨.null, [.text "c"], some "t2"⟩
  | some _ => ⟨.null, [.text "d"], none⟩

/-- A walk over the three pages that collects their records. -/
def overThreePages : Setting Nat ListRequest ListPage Unit (List Json) (List (List Json)) where
  operation := ⟨"three pages", fun calls request => (calls + 1, .ok (threePages request.cursor)), id⟩
  projection := .eachPage fun page _ => some page.items
  context := ()
  sink := .collect
  callerPages := false
  maxPages := none

theorem chain_threePages : Chain threePages none [none, some "t1", some "t2"] :=
  .next rfl (.next rfl (.last rfl))

theorem keyed_threePages (calls : Nat) : overThreePages.operation.Keyed threePages calls :=
  Operation.keyed_of_forall (fun _ _ _ => rfl) calls

/-- The three pages by hand and automatically. -/
theorem byHand_threePages :
    Chain threePages none [none, some "t1", some "t2"] ∧ overThreePages.operation.Keyed threePages 0 ∧
    overThreePages.sink.Accepts [] ∧
    ∃ whole parts,
      (∀ turns, 3 ≤ turns → execute { overThreePages with maxPages := none } turns
        ⟨[], [], none, "after", .query, none⟩ .automatic 0 [] = some whole) ∧
      (∀ rounds turns, 3 ≤ rounds → 0 < turns → byHand overThreePages turns
        ⟨[], [], none, "after", .query, none⟩ rounds none 0 [] = some parts) ∧
      (parts.flatMap fun part => part.standing.events) = whole.standing.events ∧
      requests whole.standing.events =
        [none, some "t1", some "t2"].map (ListRequest.mk [] [] none "after" .query) ∧
      accepted whole.standing.events = [[.text "a", .text "b"], [.text "c"], [.text "d"]] ∧
      ∀ part ∈ parts, (requests part.standing.events).length = 1 ∧ part.outcome.pages = 1 ∧
        part.outcome.termination = .userLimited :=
  have accepts : overThreePages.sink.Accepts [] := Sink.accepts_of_forall (fun _ _ => rfl) _
  ⟨chain_threePages, keyed_threePages 0, accepts,
    byHand_automatic (s := overThreePages) rfl _ chain_threePages (keyed_threePages 0) accepts⟩

end Pager.Walk
