import Pager.Yaml.Event

namespace Pager.Yaml

/-- The tree of a document. Aliases stay in it as references, since a collection may hold one to
itself. -/
inductive Node
  /-- The text is unsound from here on. -/
  | cut
  /-- There is no document. -/
  | absent
  | alias (target : Nat)
  | scalar (tag : Option Text.Bytes) (text : String) (style : Style)
  | sequence (tag : Option Text.Bytes) (items : List Node)
  | mapping (tag : Option Text.Bytes) (entries : List (Node × Node))
  deriving Repr, Inhabited

/-- Anchors met so far: each name with its number, and each number with its node and the place of
the event it stands for. Of two nodes with one number the one that begins later counts. -/
structure Anchors where
  numbers : List (String × Nat)
  nodes : List (Nat × Nat × Node)

namespace Anchors

def empty : Anchors := ⟨[], []⟩

/-- Numbers an anchor by how many names there were before it. -/
def register (a : Anchors) (name : String) : Nat × Anchors :=
  let number := a.numbers.length
  let others := a.numbers.filter fun (known, _) => known != name
  (number, { a with numbers := (name, number) :: others })

def define (a : Anchors) (number place : Nat) (n : Node) : Anchors :=
  { a with nodes := (number, place, n) :: a.nodes }

/-- The node of a number. -/
def target? (a : Anchors) (number : Nat) : Option Node :=
  let named := a.nodes.filter fun (k, _, _) => k == number
  let latest := named.foldl (fun best (_, place, _) => max best place) 0
  (named.find? fun (_, place, _) => place == latest).map fun (_, _, n) => n

end Anchors

/-- What composing leaves: the rest of the events, how many were used, and the anchors. -/
structure Composing where
  events : List Event
  used : Nat
  anchors : Anchors

namespace Composing

def next (s : Composing) (rest : List Event) : Composing :=
  { s with events := rest, used := s.used + 1 }

/-- Numbers the anchor of a node, if it has one. -/
def mark (s : Composing) (anchor : Option String) : Option Nat × Composing :=
  match anchor with
  | none => (none, s)
  | some name =>
    let (number, anchors) := s.anchors.register name
    (some number, { s with anchors })

def settle (s : Composing) (number : Option Nat) (place : Nat) (n : Node) : Composing :=
  match number with
  | none => s
  | some k => { s with anchors := s.anchors.define k place n }

end Composing

mutual

/-- The node that begins at the first event. -/
def composeNode : Nat → Composing → Node × Composing
  | 0, s => (.cut, { s with events := [] })
  | fuel + 1, s =>
    match s.events with
    | .alias name :: rest =>
      match s.anchors.numbers.lookup name with
      | some number => (.alias number, s.next rest)
      | none => (.cut, { s with events := [] })
    | .scalar anchor tag text style :: rest =>
      let place := s.used
      let (number, s) := (s.next rest).mark anchor
      let n := Node.scalar tag text style
      (n, s.settle number place n)
    | .sequenceStart anchor tag :: rest =>
      let place := s.used
      let (number, s) := (s.next rest).mark anchor
      let (items, s) := composeItems fuel s
      let n := Node.sequence tag items
      (n, s.settle number place n)
    | .mappingStart anchor tag :: rest =>
      let place := s.used
      let (number, s) := (s.next rest).mark anchor
      let (entries, s) := composeEntries fuel s
      let n := Node.mapping tag entries
      (n, s.settle number place n)
    | _ => (.cut, { s with events := [] })

def composeItems : Nat → Composing → List Node × Composing
  | 0, s => ([.cut], { s with events := [] })
  | fuel + 1, s =>
    match s.events with
    | .sequenceEnd :: rest => ([], s.next rest)
    | [] => ([.cut], s)
    | _ =>
      let (n, s) := composeNode fuel s
      let (more, s) := composeItems fuel s
      (n :: more, s)

def composeEntries : Nat → Composing → List (Node × Node) × Composing
  | 0, s => ([(.cut, .cut)], { s with events := [] })
  | fuel + 1, s =>
    match s.events with
    | .mappingEnd :: rest => ([], s.next rest)
    | [] => ([(.cut, .cut)], s)
    | _ =>
      let (k, s) := composeNode fuel s
      let (v, s) := composeNode fuel s
      let (more, s) := composeEntries fuel s
      ((k, v) :: more, s)

end

/-- A text's first document: its tree, its anchors and its number of events; whether the document
is sound to its end, and whether the text is over with it. -/
structure Document where
  root : Node
  anchors : Anchors
  size : Nat
  sound : Bool
  single : Bool

/-- The document of a text. -/
def Document.ofText (text : String) : Document :=
  let (events, sound) := eventsOf text
  match events with
  | [.streamStart, .streamEnd] => ⟨.absent, .empty, 1, true, true⟩
  | .streamStart :: .documentStart :: rest =>
    let (root, s) := composeNode (2 * rest.length + 2) ⟨rest, 0, .empty⟩
    match s.events with
    | .documentEnd :: after => ⟨root, s.anchors, s.used, true, sound && after == [.streamEnd]⟩
    | _ => ⟨root, s.anchors, s.used, false, false⟩
  | _ => ⟨.cut, .empty, 0, false, false⟩

end Pager.Yaml
