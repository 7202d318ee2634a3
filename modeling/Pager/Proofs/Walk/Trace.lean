import Pager.Proofs.Walk.Log

namespace Pager.Walk

variable {Service Request Page Context Value Kept : Type}

/-- Why a walk may end with this answer and this event as its last ones, after so many fetches. -/
inductive Ending [CursorPage Page] (s : Setting Service Request Page Context Value Kept)
    (fetches : Nat) : Except Fault Page → Event Request Value → Prop
  | failed {fault e} : Ending s fetches (.error fault) e
  | refused {page value fault} : s.projection.mode = .eachPage →
      Ending s fetches (.ok page) (.refused value fault)
  | callerPages {page e} : s.callerPages = true → Ending s fetches (.ok page) e
  | lastPage {page e} : noneIfEmpty (CursorPage.nextCursor page) = none → Ending s fetches (.ok page) e
  | capped {page e cap} : s.maxPages = some cap → cap ≤ fetches → Ending s fetches (.ok page) e

/-- What the events of a walk are, when its first request is `first`, `before` pages were counted
already, and at most `turns` turns are taken. -/
structure Trace [CursorRequest Request] [CursorPage Page]
    (s : Setting Service Request Page Context Value Kept) (first : Request) (service : Service)
    (kept : Kept) (before turns : Nat) (ended : Bool) (events : List (Event Request Value)) :
    Prop where
  opening : ∀ e, events.head? = some e → e = .fetched first
  /-- Every later request carries the cursor of the page before it, which came and named one. -/
  follows : ∀ k earlier later, (requests events)[k]? = some earlier →
    (requests events)[k + 1]? = some later →
    ∃ page cursor, (answers s.operation service events)[k]? = some (.ok page) ∧
      CursorPage.nextCursor page = some cursor ∧ cursor ≠ "" ∧
      later = CursorRequest.setCursor earlier (some cursor)
  /-- Each page's value is offered before the next fetch, and the last value, if every fetch came
  back with a page, behind the loop. -/
  order : events.map Event.deed =
    ((requests events).zip (answers s.operation service events)).flatMap (deeds s) ++
      if ended && (answers s.operation service events).all Except.isOk then
        s.shownLast.toList.map .inr
      else []
  verdicts : events.filterMap Event.verdict? = (replies s.sink.emit kept (offers events)).2
  refusal_last : ∀ e ∈ events.dropLast, ∀ value fault, e ≠ .refused value fault
  goes_on : ∀ k, k + 1 < (requests events).length →
    s.callerPages = false ∧ ∀ cap, s.maxPages = some cap → before + k + 1 < cap
  ends : ended = true → ∃ answer e, (answers s.operation service events).getLast? = some answer ∧
    events.getLast? = some e ∧ Ending s (before + (requests events).length) answer e
  /-- A walk that has not ended took all its turns, each with a page. -/
  walking : ended = false → (requests events).length = turns ∧
    (answers s.operation service events).all Except.isOk

variable [CursorRequest Request] [CursorPage Page]
variable {s : Setting Service Request Page Context Value Kept} {first : Request} {kept : Kept}
variable {service later : Service} {before turns : Nat}

theorem Trace.first_request {ended : Bool} {events : List (Event Request Value)}
    (trace : Trace s first service kept before turns ended events) {request : Request}
    (sent : (requests events)[0]? = some request) : request = first := by
  cases events with
  | nil => simp at sent
  | cons e rest =>
    have opening := trace.opening e rfl
    subst opening
    simpa using sent.symm

/-- Where a cursor replaces the one before it, every request is the template of the first one with a
cursor of its own. -/
theorem Trace.request_template [LawfulCursorRequest Request] {request : Request}
    {cursor : Option String} {ended : Bool} {events : List (Event Request Value)}
    (trace : Trace s (CursorRequest.setCursor request cursor) service kept before turns ended events)
    {k : Nat} {sent : Request} (member : (requests events)[k]? = some sent) :
    ∃ own, sent = CursorRequest.setCursor request own := by
  induction k generalizing sent with
  | zero => exact ⟨cursor, trace.first_request member⟩
  | succ k ih =>
    obtain ⟨earlier, previous⟩ := request_before member
    obtain ⟨_, next, _, _, _, same⟩ := trace.follows k earlier sent previous member
    obtain ⟨_, template⟩ := ih previous
    exact ⟨some next, by rw [same, template, LawfulCursorRequest.setCursor_setCursor]⟩

/-- A later request is the template with the cursor of the page before it. -/
theorem Trace.follows_lawful [LawfulCursorRequest Request] {request : Request}
    {cursor : Option String} {ended : Bool} {events : List (Event Request Value)}
    (trace : Trace s (CursorRequest.setCursor request cursor) service kept before turns ended events)
    {k : Nat} {later : Request} (sent : (requests events)[k + 1]? = some later) :
    ∃ page next, (answers s.operation service events)[k]? = some (.ok page) ∧
      CursorPage.nextCursor page = some next ∧ next ≠ "" ∧
      later = CursorRequest.setCursor request (some next) := by
  obtain ⟨earlier, previous⟩ := request_before sent
  obtain ⟨page, next, answered, named, filled, same⟩ := trace.follows k earlier later previous sent
  obtain ⟨_, template⟩ := trace.request_template previous
  refine ⟨page, next, answered, named, filled, ?_⟩
  rw [same, template, LawfulCursorRequest.setCursor_setCursor]

/-- A walk whose first fetch is its last. -/
theorem Trace.single {answer : Except Fault Page} {tail : List (Event Request Value)}
    (fetched : s.operation.fetch service first = (later, answer))
    (silent : requests tail = []) (short : tail.length ≤ 1)
    (order : .inl first :: tail.map Event.deed =
      deeds s (first, answer) ++ if answer.isOk then s.shownLast.toList.map .inr else [])
    (verdicts : tail.filterMap Event.verdict? = (replies s.sink.emit kept (offers tail)).2)
    (ends : ∀ e, (Event.fetched first :: tail).getLast? = some e → Ending s (before + 1) answer e) :
    Trace s first service kept before (turns + 1) true (.fetched first :: tail) := by
  have answered : answers s.operation service (.fetched first :: tail) = [answer] := by
    simp only [answers, requests_fetched, silent, replies_cons, replies_nil, fetched]
  refine ⟨by simp, ?_, ?_, ?_, ?_, ?_, ?_, by simp⟩
  · intro k earlier later _ follows
    simp [silent] at follows
  · simpa [answered, silent, Event.deed] using order
  · exact verdicts
  · intro e member value fault
    rcases tail with _ | ⟨x, _ | ⟨y, rest⟩⟩
    · simp at member
    · rw [List.mem_singleton.mp member]
      exact nofun
    · simp at short
  · intro k more
    simp [silent] at more
  · intro _
    obtain ⟨e, last⟩ : ∃ e, (Event.fetched first :: tail).getLast? = some e :=
      ⟨_, List.getLast?_eq_some_getLast (List.cons_ne_nil _ _)⟩
    refine ⟨answer, e, by rw [answered]; rfl, last, ?_⟩
    simpa [silent] using ends e last

theorem Trace.failed {fault : Fault}
    (fetched : s.operation.fetch service first = (later, .error fault)) :
    Trace s first service kept before (turns + 1) true [.fetched first] :=
  .single fetched rfl (Nat.zero_le 1) rfl rfl fun _ _ => .failed

theorem Trace.refused {page : Page} {value : Value} {fault : Fault} {after : Kept}
    (fetched : s.operation.fetch service first = (later, .ok page))
    (shown : s.shown page = some value) (verdict : s.sink.emit kept value = (after, some fault)) :
    Trace s first service kept before (turns + 1) true [.fetched first, .refused value fault] := by
  have last : s.shownLast = none := (shown_or_last s page).resolve_left (by simp [shown])
  refine .single fetched rfl (Nat.le_refl 1) ?_ ?_ ?_
  · simp [deeds, shown, last, Event.deed]
  · simp [Event.verdict?, verdict]
  · intro e final
    cases Option.some.inj final
    exact .refused (eachPage_of_shown shown)

/-- A walk may end where the turn's page stops it. -/
theorem ending_of_stop {page : Page} {termination : Termination} {value : Option Value}
    {now : Standing Service Request Value Kept} {after : Kept} (e : Event Request Value)
    (stop : stop? s (now.passed later after page value).progress = some termination) :
    Ending s (now.progress.pages + 1) (.ok page) e := by
  rcases stop?_eq_some stop with ⟨caller, _⟩ | ⟨_, more, _⟩ | ⟨_, _, _, cap, limit, reached⟩
  · exact .callerPages caller
  · rw [Standing.hasMore_passed, Option.isSome_eq_false_iff, Option.isNone_iff_eq_none] at more
    exact .lastPage more
  · exact .capped limit reached

/-- A walk that stops behind its page, and whose last value, if any, the sink took. -/
theorem Trace.stopped_taken {page : Page} {after final : Kept}
    (fetched : s.operation.fetch service first = (later, .ok page))
    (takes : Takes s kept (s.shown page).toList after)
    (takesLast : Takes s after s.shownLast.toList final)
    (ends : ∀ e, Ending s (before + 1) (.ok page) e) :
    Trace s first service kept before (turns + 1) true
      (.fetched first :: ((s.shown page).toList.map .emitted ++ s.shownLast.toList.map .emitted)) := by
  rcases shown_or_last s page with shown | last
  · have same : kept = after := by simpa [Takes, shown] using takes
    subst same
    simp only [shown, Option.toList_none, List.map_nil, List.nil_append]
    cases last : s.shownLast with
    | none =>
      refine .single fetched rfl (Nat.zero_le 1) ?_ rfl fun e _ => ends e
      simp [deeds, shown, last]
    | some value =>
      have verdict := congrArg Prod.snd (last ▸ takesLast)
      refine .single fetched rfl (Nat.le_refl 1) ?_ ?_ fun e _ => ends e
      · simp [deeds, shown, last, Event.deed, Except.isOk, Except.toBool]
      · simpa [Event.verdict?] using verdict.symm
  · simp only [last, Option.toList_none, List.map_nil, List.append_nil]
    cases shown : s.shown page with
    | none =>
      refine .single fetched rfl (Nat.zero_le 1) ?_ rfl fun e _ => ends e
      simp [deeds, shown, last]
    | some value =>
      have verdict := congrArg Prod.snd (shown ▸ takes)
      refine .single fetched rfl (Nat.le_refl 1) ?_ ?_ fun e _ => ends e
      · simp [deeds, shown, last, Event.deed]
      · simpa [Event.verdict?] using verdict.symm

/-- A walk that stops behind its page, and whose last value the sink refused. -/
theorem Trace.stopped_refused {page : Page} {value : Value} {fault : Fault} {after final : Kept}
    (fetched : s.operation.fetch service first = (later, .ok page))
    (takes : Takes s kept (s.shown page).toList after)
    (last : s.shownLast = some value) (verdict : s.sink.emit after value = (final, some fault))
    (ends : ∀ e, Ending s (before + 1) (.ok page) e) :
    Trace s first service kept before (turns + 1) true
      (.fetched first :: ((s.shown page).toList.map .emitted ++ [.refused value fault])) := by
  have shown : s.shown page = none := (shown_or_last s page).resolve_right (by simp [last])
  have same : kept = after := by simpa [Takes, shown] using takes
  subst same
  simp only [shown, Option.toList_none, List.map_nil, List.nil_append]
  refine .single fetched rfl (Nat.le_refl 1) ?_ ?_ fun e _ => ends e
  · simp [deeds, shown, last, Event.deed, Except.isOk, Except.toBool]
  · simp [Event.verdict?, verdict]

/-- A walk that goes on behind its first page. -/
theorem Trace.passed {page : Page} {cursor : String} {after : Kept} {ended : Bool}
    {rest : List (Event Request Value)}
    (fetched : s.operation.fetch service first = (later, .ok page))
    (takes : Takes s kept (s.shown page).toList after)
    (named : noneIfEmpty (CursorPage.nextCursor page) = some cursor)
    (onward : s.callerPages = false ∧ ∀ cap, s.maxPages = some cap → before + 1 < cap)
    (trace : Trace s (CursorRequest.setCursor first (some cursor)) later after (before + 1) turns
      ended rest) :
    Trace s first service kept before (turns + 1) ended
      (.fetched first :: ((s.shown page).toList.map .emitted ++ rest)) := by
  have asked : requests (.fetched first :: ((s.shown page).toList.map .emitted ++ rest)) =
      first :: requests rest := by
    rw [requests_fetched, requests_of_offers]
  have answered : answers s.operation service
      (.fetched first :: ((s.shown page).toList.map .emitted ++ rest)) =
        .ok page :: answers s.operation later rest := by
    simp only [answers, asked, replies_cons, fetched]
  refine ⟨by simp, ?_, ?_, ?_, ?_, ?_, ?_, ?_⟩
  · intro k earlier next atEarlier atNext
    rw [asked] at atEarlier atNext
    rw [answered]
    cases k with
    | zero =>
      cases Option.some.inj atEarlier
      obtain ⟨named, filled⟩ := noneIfEmpty_eq_some_iff.mp named
      exact ⟨page, cursor, rfl, named, filled, trace.first_request atNext⟩
    | succ k => exact trace.follows k earlier next atEarlier atNext
  · rw [asked, answered]
    simp [trace.order, deeds, Event.deed, Function.comp_def, Except.isOk, Except.toBool]
  · rw [offers_fetched, offers_of_offers, replies_append, takes.eq,
      ← trace.verdicts]
    exact verdicts_of_offers _ rest
  · intro e member value fault
    rw [← List.cons_append] at member
    exact refusal_last_append (by simp) (fun e member => trace.refusal_last e member value fault) e member
  · intro k more
    rw [asked, List.length_cons] at more
    cases k with
    | zero => exact onward
    | succ k =>
      obtain ⟨caller, below⟩ := trace.goes_on k (by omega)
      refine ⟨caller, fun cap limit => ?_⟩
      have := below cap limit
      omega
  · intro final
    obtain ⟨answer, e, lastAnswer, lastEvent, ending⟩ := trace.ends final
    refine ⟨answer, e, ?_, ?_, ?_⟩
    · rw [answered, List.getLast?_cons, lastAnswer]
      rfl
    · simp [List.getLast?_cons, lastEvent]
    · rw [asked, List.length_cons]
      have count : before + ((requests rest).length + 1) = before + 1 + (requests rest).length := by omega
      rw [count]
      exact ending
  · intro unended
    obtain ⟨count, came⟩ := trace.walking unended
    rw [asked, answered]
    exact ⟨by simp [count], by simpa [Except.isOk, Except.toBool] using came⟩

theorem Trace.unstarted : Trace s first service kept before 0 false [] := by
  refine ⟨nofun, ?_, rfl, rfl, nofun, ?_, nofun, fun _ => ⟨rfl, rfl⟩⟩
  · intro k earlier next atEarlier
    simp at atEarlier
  · intro k more
    simp at more

end Pager.Walk
