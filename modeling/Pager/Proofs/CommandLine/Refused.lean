import Pager.CommandLine.Run
import Pager.Proofs.Fault

namespace Pager.CommandLine

variable {State : Type} {w : Surroundings State} {c : CommandLine} {service : State}
variable {report : Report State} {fault : Fault}

/-- Whether a command line is refused with a fault before its far side is asked, so that it makes no
difference which one it is. -/
def Refuses (w : Surroundings State) (c : CommandLine) (fault : Fault) : Prop :=
  ∀ (Other : Type) (farSide : FarSide Other) (turns : Nat) (service : Other),
    run ⟨w.readFile, w.environment, farSide, turns⟩ c service = some (refused service fault)

/-- What a run of a refused command line comes to. -/
theorem Refuses.comes_to {cause : Fault} (refuses : Refuses w c cause)
    (ran : run w c service = some report) (failed : report.result = .error fault) :
    Refuses w c fault ∧ report = refused service fault := by
  have same : run w c service = some (refused service cause) := refuses State w.farSide w.turns service
  rw [same] at ran
  cases ran
  cases failed
  exact ⟨refuses, rfl⟩

/-- Preparing a list operation is between the command line, its definition and the environment. -/
theorem prepareList_eq {Other : Type} (farSide : FarSide Other) (turns : Nat) (name : String)
    (params : List String) (options : OutputOptions) :
    prepareList ⟨w.readFile, w.environment, farSide, turns⟩ c name params options =
      prepareList w c name params options := rfl

theorem loadDefinition_eq {Other : Type} (farSide : FarSide Other) (turns : Nat) :
    loadDefinition ⟨w.readFile, w.environment, farSide, turns⟩ c = loadDefinition w c := rfl

theorem fault_of_toResult {o : Outcome} (failed : (o.toResult.map fun _ => ()) = .error fault) :
    o.fault = some fault := by
  unfold Outcome.toResult at failed
  cases told : o.fault with
  | none =>
    rw [told] at failed
    cases failed
  | some cause =>
    rw [told] at failed
    cases failed
    rfl

/-- No walk ends in a fault of the arguments. -/
theorem walk_not_argument {Request Page : Type} [CursorRequest Request] [CursorPage Page]
    {paging : Paging} {operation : Operation State Request Page}
    {projection : Projection Page Invocation Json} {invocation : Invocation} {request : Request}
    (fetches : ∀ now sent cause, (operation.fetch now sent).2 = .error cause →
      (operation.normalize cause).isArgument = false)
    (walked : walk w c paging operation projection invocation request service = some report)
    (failed : report.result = .error fault) : fault.isArgument = false := by
  obtain ⟨f, run, rfl⟩ := Option.map_eq_some_iff.mp walked
  have told : f.fault = some fault := fault_of_toResult failed
  rcases Walk.fault_of_execute run told with ⟨now, sent, cause, unfetched, rfl⟩ | ⟨kept, v, refusal⟩
  · exact fetches now sent cause unfetched
  · exact JsonLines.emit_not_argument refusal

theorem written_not_argument {notices : List Notice} {v : Json}
    (failed : (written c service notices v).result = .error fault) : fault.isArgument = false := by
  unfold written at failed
  rcases wrote : (JsonLines.sink (layout c)).emit .unlimited v with ⟨output, _ | cause⟩
  · simp only [wrote] at failed
    cases failed
  · simp only [wrote] at failed
    cases failed
    exact JsonLines.emit_not_argument (congrArg Prod.snd wrote)

/-- A run that failed was refused, or its fault is none of the arguments. -/
theorem refuses_or_not_argument (ran : run w c service = some report)
    (failed : report.result = .error fault) :
    (Refuses w c fault ∧ report = refused service fault) ∨ fault.isArgument = false := by
  cases command : c.command with
  | list name params paging passThru =>
    cases prepared : prepareList w c name params ⟨paging.select, passThru⟩ with
    | error cause =>
      have refuses : Refuses w c cause := fun _ farSide turns service => by
        simp only [run, command, prepareList_eq, prepared]
      exact .inl (refuses.comes_to ran failed)
    | ok both =>
      simp only [run, command, prepared] at ran
      refine .inr (walk_not_argument (fun now sent cause unfetched => ?_) ran failed)
      rw [Endpoint.operation, Fault.isArgument_normalizeLookup]
      exact Endpoint.fetch_not_argument unfetched
  | bucket filter region endpointUrl paging =>
    cases resolved : OutputOptions.resolve ⟨paging.select, false⟩ filter.invocation with
    | error cause =>
      have refuses : Refuses w c cause := fun _ farSide turns service => by
        simp only [run, command, resolved]
      exact .inl (refuses.comes_to ran failed)
    | ok selection =>
      simp only [run, command, resolved] at ran
      refine .inr (walk_not_argument (fun now sent cause unfetched => ?_) ran failed)
      rw [Bucket.operation, Bucket.isArgument_normalize]
      exact Bucket.fetch_not_argument unfetched
  | operations | validate =>
    cases loaded : loadDefinition w c with
    | error cause =>
      have refuses : Refuses w c cause := fun _ farSide turns service => by
        simp only [run, command, loadDefinition_eq, loaded]
      exact .inl (refuses.comes_to ran failed)
    | ok d =>
      simp only [run, command, loaded] at ran
      cases ran
      exact .inr (written_not_argument failed)

/-- A run that ends in a fault of the arguments was refused before anything happened: its far side is
as it was, nothing was written and nothing logged, and it would have been refused in front of any other
far side. No fault of fetching a page is one of the arguments, be it over the web or from a bucket,
neither before nor after it is normalized, and no fault of writing a value to any writer. -/
theorem run_refused (ran : run w c service = some report) (failed : report.result = .error fault)
    (argument : fault.isArgument = true) :
    (report.service = service ∧ report.output.written = [] ∧ report.notices = [] ∧
      Refuses w c fault) ∧
    (∀ (e : Endpoint) (t : Transport.Settings) (peer : Transport.Peer State) (now : State)
      (request : ListRequest) (cause : Fault),
      ((e.operation t peer).fetch now request).2 = .error cause →
        cause.isArgument = false ∧ ((e.operation t peer).normalize cause).isArgument = false) ∧
    (∀ (client : Bucket.Client State) (now : State) (request : Bucket.Request) (cause : Fault),
      ((Bucket.operation client).fetch now request).2 = .error cause →
        cause.isArgument = false ∧ ((Bucket.operation client).normalize cause).isArgument = false) ∧
    ∀ (layout : JsonLines.Layout) (output : Writer) (v : Json) (cause : Fault),
      ((JsonLines.sink layout).emit output v).2 = some cause → cause.isArgument = false := by
  refine ⟨?_, fun e t peer now request cause unfetched => ?_,
    fun client now request cause unfetched => ?_, fun _ _ _ _ => JsonLines.emit_not_argument⟩
  · rcases refuses_or_not_argument ran failed with ⟨refuses, rfl⟩ | other
    · exact ⟨rfl, rfl, rfl, refuses⟩
    · rw [argument] at other
      cases other
  · have kind := Endpoint.fetch_not_argument unfetched
    exact ⟨kind, (Fault.isArgument_normalizeLookup e.host cause).trans kind⟩
  · have kind := Bucket.fetch_not_argument unfetched
    exact ⟨kind, (Bucket.isArgument_normalize client.region cause).trans kind⟩

/-- A listing whose selection is no parameter of it. -/
def colored : CommandLine :=
  ⟨none, .json, false,
    .bucket ⟨"b", none, none, none⟩ none (some "http://h") ⟨none, false, some "^Color", none⟩⟩

/-- A client that keeps the requests it is asked, and answers each with an empty page. -/
def keeping (region : Option String) : Bucket.Client (List Bucket.Request) where
  region
  list asked request := (asked ++ [request], .ok ⟨[], [], some 0, some false, none⟩)

def beforeAnswer : Surroundings (List Bucket.Request) :=
  ⟨fun _ => .error .missing, fun _ => none,
    ⟨⟨fun asked _ => (asked, .silence)⟩, fun region _ => keeping region⟩, 1⟩

/-- The client would answer, but it is asked nothing. -/
theorem colored_refused : ∃ report fault,
    run beforeAnswer colored [] = some report ∧ report.result = .error fault ∧
    fault = .invalidArgument "select" "'Color' is not a parameter of this operation" ∧
    fault.isArgument = true ∧ report.service = [] ∧ report.output.written = [] ∧
    Refuses beforeAnswer colored fault := by
  have ran : run beforeAnswer colored [] = some (refused []
      (.invalidArgument "select" "'Color' is not a parameter of this operation")) := by
    rfl
  obtain ⟨same, wrote, _, refuses⟩ := (run_refused ran rfl rfl).1
  exact ⟨_, _, ran, rfl, rfl, rfl, same, wrote, refuses⟩

end Pager.CommandLine
