import Pager.Proofs.Walk.Log
import Pager.Proofs.Walk.Turn

namespace Pager

variable {Service Request Page Context Value Kept : Type}

/-- Whatever was asked before, the service answers every cursor with its page. -/
def Operation.Keyed [CursorRequest Request] (operation : Operation Service Request Page)
    (pageAt : Option String → Page) (service : Service) : Prop :=
  ∀ asked : List (Request × Option String),
    (replies operation.fetch service (asked.map fun x => CursorRequest.setCursor x.1 x.2)).2 =
      asked.map fun x => .ok (pageAt x.2)

/-- Whatever was asked before, the service answers every cursor with its page or fails. -/
def Operation.KeyedOrFailing [CursorRequest Request] (operation : Operation Service Request Page)
    (pageAt : Option String → Page) (service : Service) : Prop :=
  ∀ asked : List (Request × Option String), ∀ x ∈ asked.zip
    (replies operation.fetch service (asked.map fun x => CursorRequest.setCursor x.1 x.2)).2,
    x.2 = .ok (pageAt x.1.2) ∨ ∃ fault, x.2 = .error fault

/-- The sink takes whatever it is offered from now on. -/
def Sink.Accepts (sink : Sink Kept Value) (kept : Kept) : Prop :=
  ∀ values : List Value, (replies sink.emit kept values).2 = values.map fun _ => none

/-- The cursors from one on, up to the first whose page names no further one. -/
inductive Chain [CursorPage Page] (pageAt : Option String → Page) :
    Option String → List (Option String) → Prop
  | last {cursor} : noneIfEmpty (CursorPage.nextCursor (pageAt cursor)) = none →
      Chain pageAt cursor [cursor]
  | next {cursor following rest} :
      noneIfEmpty (CursorPage.nextCursor (pageAt cursor)) = some following →
      Chain pageAt (some following) rest → Chain pageAt cursor (cursor :: rest)

section

variable [CursorRequest Request] {operation : Operation Service Request Page}
variable {pageAt : Option String → Page} {service : Service}

theorem Operation.Keyed.fetch (keyed : operation.Keyed pageAt service) (request : Request)
    (cursor : Option String) :
    ∃ later, operation.fetch service (CursorRequest.setCursor request cursor) =
      (later, .ok (pageAt cursor)) ∧ operation.Keyed pageAt later := by
  have answer : (operation.fetch service (CursorRequest.setCursor request cursor)).2 =
      .ok (pageAt cursor) := by
    simpa using keyed [(request, cursor)]
  refine ⟨_, Prod.ext rfl answer, fun asked => ?_⟩
  have all := keyed ((request, cursor) :: asked)
  simp only [List.map_cons, replies_cons, List.cons.injEq] at all
  exact all.2

theorem Operation.keyed_of_forall
    (answered : ∀ service request cursor,
      (operation.fetch service (CursorRequest.setCursor request cursor)).2 = .ok (pageAt cursor))
    (service : Service) : operation.Keyed pageAt service := by
  intro asked
  induction asked generalizing service with
  | nil => rfl
  | cons x rest ih => simp only [List.map_cons, replies_cons, answered, ih]

theorem Operation.KeyedOrFailing.fetch (keyed : operation.KeyedOrFailing pageAt service)
    (request : Request) (cursor : Option String) {later : Service} {page : Page}
    (fetched : operation.fetch service (CursorRequest.setCursor request cursor) = (later, .ok page)) :
    page = pageAt cursor ∧ operation.KeyedOrFailing pageAt later := by
  constructor
  · have answer := keyed [(request, cursor)]
    simp only [List.map_cons, List.map_nil, replies_cons, replies_nil, fetched, List.zip_cons_cons,
      List.zip_nil_right, List.mem_singleton, forall_eq] at answer
    simpa using answer
  · intro asked x member
    apply keyed ((request, cursor) :: asked) x
    simp only [List.map_cons, replies_cons, fetched, List.zip_cons_cons]
    exact List.mem_cons_of_mem _ member

theorem Operation.keyedOrFailing_of_forall
    (answered : ∀ service request cursor,
      (operation.fetch service (CursorRequest.setCursor request cursor)).2 = .ok (pageAt cursor) ∨
      ∃ fault, (operation.fetch service (CursorRequest.setCursor request cursor)).2 = .error fault)
    (service : Service) : operation.KeyedOrFailing pageAt service := by
  intro asked
  induction asked generalizing service with
  | nil => simp
  | cons x rest ih =>
    simp only [List.map_cons, replies_cons, List.zip_cons_cons, List.forall_mem_cons]
    exact ⟨answered service x.1 x.2, ih _⟩

end

theorem Sink.Accepts.takes {s : Setting Service Request Page Context Value Kept} {kept : Kept}
    (accepts : s.sink.Accepts kept) (values : List Value) :
    ∃ later, Walk.Takes s kept values later ∧ s.sink.Accepts later := by
  refine ⟨_, Prod.ext rfl (accepts values), fun more => ?_⟩
  have all := accepts (values ++ more)
  rw [replies_append, accepts values, List.map_append] at all
  exact List.append_cancel_left all

theorem Sink.accepts_of_forall {sink : Sink Kept Value}
    (taken : ∀ kept value, (sink.emit kept value).2 = none) (kept : Kept) : sink.Accepts kept := by
  intro values
  induction values generalizing kept with
  | nil => rfl
  | cons value rest ih => simp only [replies_cons, taken, ih, List.map_cons]

/-- What a projection of each page makes of the page of a cursor. -/
def Setting.valueAt (s : Setting Service Request Page Context Value Kept)
    (pageAt : Option String → Page) (cursor : Option String) : Option Value :=
  s.projection.apply (some (pageAt cursor)) s.context

theorem Setting.shown_pageAt {s : Setting Service Request Page Context Value Kept}
    (mode : s.projection.mode = .eachPage) (pageAt : Option String → Page) (cursor : Option String) :
    s.shown (pageAt cursor) = s.valueAt pageAt cursor := by
  rw [shown_eachPage mode, valueAt]

namespace Walk

variable [CursorRequest Request]

/-- The events of a walk along these cursors, when every value shown at them is taken. -/
def visits (valueAt : Option String → Option Value) :
    Request → List (Option String) → List (Event Request Value)
  | _, [] => []
  | request, cursor :: rest =>
    let asked := CursorRequest.setCursor request cursor
    .fetched asked :: ((valueAt cursor).toList.map .emitted ++ visits valueAt asked rest)

theorem accepted_visits (valueAt : Option String → Option Value) (request : Request)
    (cursors : List (Option String)) :
    accepted (visits valueAt request cursors) = cursors.filterMap valueAt := by
  induction cursors generalizing request with
  | nil => rfl
  | cons cursor rest ih =>
    have tail := ih (CursorRequest.setCursor request cursor)
    cases shown : valueAt cursor with
    | none => simpa [visits, accepted, shown] using tail
    | some value => simpa [visits, accepted, shown] using tail

theorem requests_visits (valueAt : Option String → Option Value) (request : Request)
    (cursor : Option String) :
    requests (visits valueAt request [cursor]) = [CursorRequest.setCursor request cursor] := by
  simp [visits, requests_of_taken]

/-- Where a cursor replaces the one before it, a walk asks at each cursor what its first request
would ask there. -/
theorem visits_of_lawful [LawfulCursorRequest Request] (valueAt : Option String → Option Value)
    (request : Request) (cursors : List (Option String)) :
    visits valueAt request cursors = cursors.flatMap fun cursor => visits valueAt request [cursor] := by
  have same : ∀ asked : Request,
      (∀ cursor, CursorRequest.setCursor asked cursor = CursorRequest.setCursor request cursor) →
      visits valueAt asked cursors =
        cursors.flatMap fun cursor => visits valueAt request [cursor] := by
    induction cursors with
    | nil => exact fun _ _ => rfl
    | cons cursor rest ih =>
      intro asked replaced
      have tail := ih (CursorRequest.setCursor asked cursor) fun later => by
        rw [LawfulCursorRequest.setCursor_setCursor, replaced]
      rw [replaced] at tail
      simp only [visits, List.flatMap_cons, List.append_nil, List.cons_append, replaced] at tail ⊢
      rw [tail]
  exact same request fun _ => rfl

theorem requests_of_lawful [LawfulCursorRequest Request] (valueAt : Option String → Option Value)
    (request : Request) (cursors : List (Option String)) :
    requests (visits valueAt request cursors) = cursors.map (CursorRequest.setCursor request) := by
  rw [visits_of_lawful]
  induction cursors with
  | nil => rfl
  | cons cursor rest ih =>
    rw [List.flatMap_cons, requests_append, requests_visits, ih]
    rfl

variable [CursorPage Page]
variable {s : Setting Service Request Page Context Value Kept} {pageAt : Option String → Page}

/-- With a projection of each page, an invocation is its loop. -/
theorem execute_eachPage (mode : s.projection.mode = .eachPage) (turns : Nat) (request : Request)
    (control : Control) (service : Service) (kept : Kept) :
    execute s turns request control service kept =
      loop { s with callerPages := control.callerPages } turns
        ⟨request, service, kept, Progress.start control.initialCursor, []⟩ := by
  have silent : finish { s with callerPages := control.callerPages } =
      (id : Finished Service Request Value Kept → _) := funext (finish_eachPage mode)
  rw [execute, run, silent, Option.map_id_fun]
  rfl

/-- A turn over such a service, with a sink that takes everything, leads behind its page. -/
theorem turn_keyed (mode : s.projection.mode = .eachPage)
    {now : Standing Service Request Value Kept} {cursor : Option String}
    (stands : now.progress.cursor = cursor) (keyed : s.operation.Keyed pageAt now.service)
    (accepts : s.sink.Accepts now.kept) :
    ∃ service kept, s.operation.Keyed pageAt service ∧ s.sink.Accepts kept ∧
      turn s now = behind s (now.passed service kept (pageAt cursor) (s.valueAt pageAt cursor)) := by
  subst stands
  obtain ⟨service, fetched, keyed⟩ := keyed.fetch now.request now.progress.cursor
  obtain ⟨kept, takes, accepts⟩ := accepts.takes (s.shown (pageAt now.progress.cursor)).toList
  refine ⟨service, kept, keyed, accepts, ?_⟩
  rw [turn_of_page fetched takes, Setting.shown_pageAt mode]

theorem visits_passed {now : Standing Service Request Value Kept} {cursor : Option String}
    (stands : now.progress.cursor = cursor) (valueAt : Option String → Option Value)
    (service : Service) (kept : Kept) (page : Page) (rest : List (Option String)) :
    (now.passed service kept page (valueAt cursor)).events ++
        visits valueAt (now.passed service kept page (valueAt cursor)).request rest =
      now.events ++ visits valueAt now.request (cursor :: rest) := by
  simp [Standing.passed, visits, Standing.asked, stands]

/-- A walk that nobody stops follows the chain to its end. -/
theorem loop_chain (mode : s.projection.mode = .eachPage) (caller : s.callerPages = false)
    (uncapped : s.maxPages = none) {cursor : Option String} {cursors : List (Option String)}
    (chain : Chain pageAt cursor cursors) {now : Standing Service Request Value Kept}
    (stands : now.progress.cursor = cursor) (keyed : s.operation.Keyed pageAt now.service)
    (accepts : s.sink.Accepts now.kept) :
    ∃ last, last.events = now.events ++ visits (s.valueAt pageAt) now.request cursors ∧
      ∀ turns, cursors.length ≤ turns → loop s turns now = some ⟨last, .exhausted, none⟩ := by
  induction chain generalizing now with
  | @last cursor final =>
    obtain ⟨service, kept, _, _, step⟩ := turn_keyed mode stands keyed accepts
    have stop : stop? s (now.passed service kept (pageAt cursor) (s.valueAt pageAt cursor)).progress =
        some .exhausted := by
      simp [stop?, caller, Standing.hasMore_passed, final]
    rw [behind_of_stop stop] at step
    refine ⟨now.passed service kept (pageAt cursor) (s.valueAt pageAt cursor), ?_, ?_⟩
    · have logged := visits_passed stands (s.valueAt pageAt) service kept (pageAt cursor) []
      rwa [visits, List.append_nil] at logged
    · intro turns enough
      obtain ⟨turns, rfl⟩ := Nat.exists_eq_add_of_le' enough
      simp only [List.length_singleton, loop, step]
  | @next cursor following rest named chain ih =>
    obtain ⟨service, kept, keyed, accepts, step⟩ := turn_keyed mode stands keyed accepts
    have onward : stop? s (now.passed service kept (pageAt cursor) (s.valueAt pageAt cursor)).progress =
        none := by
      refine stop?_eq_none_iff.mpr ⟨caller, ?_, by simp [uncapped]⟩
      rw [Standing.hasMore_passed, named]
      rfl
    rw [behind_of_onward onward] at step
    have stands' : (now.passed service kept (pageAt cursor) (s.valueAt pageAt cursor)).progress.cursor =
        some following := named
    obtain ⟨last, events, ends⟩ := ih stands' keyed accepts
    refine ⟨last, events.trans (visits_passed stands _ service kept (pageAt cursor) rest), ?_⟩
    intro turns enough
    obtain ⟨turns, rfl⟩ := Nat.exists_eq_add_of_le' enough
    simp only [List.length_cons, ← Nat.add_assoc, loop, step]
    exact ends _ (Nat.le_add_left _ _)

end Walk

end Pager
