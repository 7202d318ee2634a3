import Pager.Bucket.Listing
import Pager.CommandLine.Assignment
import Pager.CommandLine.Basic
import Pager.Definition.Defect
import Pager.Selection
import Pager.Sink.JsonLines
import Pager.Transport.Listing

namespace Pager.CommandLine

inductive FileFault
  | missing
  | folder
  | notFolder
  | denied
  | notText
  | longName
  /-- The name holds a zero character, which no file's name does. -/
  | impossibleName
  deriving DecidableEq, Repr

def FileFault.message : FileFault → String
  | .missing => "No such file or directory (os error 2)"
  | .folder => "Is a directory (os error 21)"
  | .notFolder => "Not a directory (os error 20)"
  | .denied => "Permission denied (os error 13)"
  | .notText => "stream did not contain valid UTF-8"
  | .longName => "File name too long (os error 36)"
  | .impossibleName => "file name contained an unexpected NUL byte"

/-- What the log is told. -/
inductive Notice
  | valid (definition : String) (operations : Nat)
  | more (operation nextToken : String)
  | capped (operation nextToken : String) (pages : Nat)
  deriving DecidableEq, Repr

namespace Notice

def level : Notice → String
  | .capped .. => "WARN"
  | _ => "INFO"

def message : Notice → String
  | .valid .. => "Definition is valid"
  | .more .. => "More pages available; pass --next-token to continue"
  | .capped .. => "Stopped at --max-pages; pass --next-token to continue"

def fields : Notice → List (String × Json)
  | .valid name operations => [("name", .text name), ("operations", .ofNat operations)]
  | .more operation token => [("operation", .text operation), ("next_token", .text token)]
  | .capped operation token pages =>
    [("operation", .text operation), ("next_token", .text token), ("pages", .ofNat pages)]

end Notice

/-- What a run may ask: web services, and the client of buckets that is made for a region and an
endpoint, where those that are not given may be found in its environment. -/
structure FarSide (State : Type) where
  web : Transport.Peer State
  buckets : Option String → Option String → Bucket.Client State

/-- Web services by themselves, without a bucket that can be reached. -/
instance {State : Type} : Coe (Transport.Peer State) (FarSide State) :=
  ⟨fun web => ⟨web, fun region _ => .unreachable region⟩⟩

/-- What surrounds a run. -/
structure Surroundings (State : Type) where
  readFile : String → Except FileFault Text.Bytes
  environment : Template.Environment
  farSide : FarSide State
  /-- How many pages a walk may fetch before it is given up. -/
  turns : Nat

/-- The text of a file. -/
def Surroundings.readText {State : Type} (w : Surroundings State) (path : String) :
    Except FileFault String := do
  if path.contains '\x00' then .error .impossibleName
  else
    let bytes ← w.readFile path
    match Text.ofBytes? bytes with
    | some text => .ok text
    | none => .error .notText

/-- What a run comes to. -/
structure Report (State : Type) where
  result : Except Fault Unit
  output : Writer
  notices : List Notice
  service : State

variable {State : Type}

def loadDefinition (w : Surroundings State) (c : CommandLine) : Except Fault Definition := do
  match c.definition with
  | none => .error (.config "Definition file not specified (use -d flag)")
  | some path =>
    match w.readText path with
    | .error fault =>
      .error (.config s!"Failed to read definition file '{path}': {fault.message}")
    | .ok text => Definition.load text

def layout (c : CommandLine) : JsonLines.Layout :=
  ⟨c.format == .pretty, true⟩

/-- A run that ends before any document is written. -/
def refused (service : State) (fault : Fault) : Report State :=
  ⟨.error fault, .unlimited, [], service⟩

/-- A run that writes one value. -/
def written (c : CommandLine) (service : State) (notices : List Notice) (v : Json) : Report State :=
  let (output, fault) := (JsonLines.sink (layout c)).emit .unlimited v
  ⟨match fault with
    | some fault => .error fault
    | none => .ok (), output, notices, service⟩

/-- How to go on after a walk that stopped before the last page. -/
def resumeNotice (operation : String) (o : Outcome) : List Notice :=
  match o.resumeCursor, o.termination with
  | some token, .userLimited => [.more operation token]
  | some token, .pageLimit => [.capped operation token o.pages]
  | _, _ => []

/-- Walks through an operation's pages and writes every emission. -/
def walk {Request Page : Type} [CursorRequest Request] [CursorPage Page]
    (w : Surroundings State) (c : CommandLine) (paging : Paging)
    (operation : Operation State Request Page) (projection : Projection Page Invocation Json)
    (invocation : Invocation) (request : Request) (service : State) : Option (Report State) :=
  let control : Control := ⟨paging.noAutoIteration, paging.nextToken⟩
  let setting : Setting State Request Page Invocation Json Writer := {
    operation, projection
    context := invocation
    sink := JsonLines.sink (layout c)
    callerPages := control.callerPages
    maxPages := paging.maxPages }
  (Walk.execute setting w.turns request control service .unlimited).map fun finished =>
    let outcome := finished.outcome
    let notices := if outcome.isFaulted then [] else resumeNotice operation.name outcome
    ⟨outcome.toResult.map fun _ => (), finished.standing.kept, notices, finished.standing.service⟩

/-- The list operation of a definition, with everything checked that can be before a request. -/
def prepareList (w : Surroundings State) (c : CommandLine) (name : String) (params : List String)
    (options : OutputOptions) : Except Fault (Binding × Selection) := do
  let d ← loadDefinition w c
  let supplied ← assignments params
  let binding ← d.bind w.environment name supplied
  let _ ← binding.transport.usable
  let selection ← options.resolve binding.parameters.invocation
  .ok (binding, selection)

def describeParameter (p : ParameterDefinition) : Json :=
  .ofPairs
    [("name", .text p.name), ("required", .bool p.required), ("default", .ofOption p.default)]

def describeOperation (op : OperationDefinition) : Json :=
  .ofPairs [
    ("name", .text op.name), ("description", .ofOption op.description),
    ("method", .text op.method.name), ("path", .text op.path),
    ("parameters", .list (op.parameters.map describeParameter))]

def describeValid (d : Definition) : Json :=
  .ofPairs [
    ("status", .text "valid"), ("name", .text d.name),
    ("operations", .list (d.operationNames.map Json.text))]

/-- Runs a command line; none when its walk did not end in time. Documents are written as JSON
lines, and what was written before a fault stays written. -/
def run (w : Surroundings State) (c : CommandLine) (service : State) : Option (Report State) :=
  match c.command with
  | .list name params paging passThru =>
    match prepareList w c name params ⟨paging.select, passThru⟩ with
    | .error fault => some (refused service fault)
    | .ok (binding, selection) =>
      walk w c paging (binding.endpoint.operation binding.transport w.farSide.web)
        (selection.toProjection binding.endpoint.itemsPath) binding.parameters.invocation
        binding.endpoint.request service
  | .bucket filter region endpointUrl paging =>
    match OutputOptions.resolve ⟨paging.select, false⟩ filter.invocation with
    | .error fault => some (refused service fault)
    | .ok selection =>
      walk w c paging (Bucket.operation (w.farSide.buckets region endpointUrl))
        (selection.toProjection (some Bucket.recordsPath)) filter.invocation filter.request service
  | .operations =>
    some <| match loadDefinition w c with
      | .error fault => refused service fault
      | .ok d => written c service [] (.list (d.operations.map describeOperation))
  | .validate =>
    some <| match loadDefinition w c with
      | .error fault => refused service fault
      | .ok d => written c service [.valid d.name d.operations.length] (describeValid d)

end Pager.CommandLine
