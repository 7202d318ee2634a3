import Pager.Yaml.Token

namespace Pager.Yaml

/-- Scalars, aliases and the starts and ends of collections, in the order of the text. -/
inductive Event
  | streamStart
  | streamEnd
  | documentStart
  | documentEnd
  | alias (name : String)
  | scalar (anchor : Option String) (tag : Option Text.Bytes) (text : String) (style : Style)
  | sequenceStart (anchor : Option String) (tag : Option Text.Bytes)
  | sequenceEnd
  | mappingStart (anchor : Option String) (tag : Option Text.Bytes)
  | mappingEnd
  deriving DecidableEq, Repr

/-- What the grammar allows next. -/
inductive Expecting
  | streamStart
  | implicitDocumentStart
  | documentStart
  | documentContent
  | documentEnd
  | blockNode
  | blockSequenceFirstEntry
  | blockSequenceEntry
  | indentlessSequenceEntry
  | blockMappingFirstKey
  | blockMappingKey
  | blockMappingValue
  | flowSequenceFirstEntry
  | flowSequenceEntry
  | flowPairKey
  | flowPairValue
  | flowPairEnd
  | flowMappingFirstKey
  | flowMappingKey
  | flowMappingValue
  | flowMappingEmptyValue
  | nothing
  deriving DecidableEq, Repr

structure Grammar where
  lexer : Lexer
  state : Expecting
  stack : List Expecting
  /-- Tag handles and what they stand for. -/
  handles : List (String × Text.Bytes)

namespace Grammar

def ofText (text : List Char) : Grammar where
  lexer := .ofText text
  state := .streamStart
  stack := []
  handles := []

def standardHandles : List (String × Text.Bytes) :=
  [("!", Text.toBytes "!"), ("!!", Text.toBytes "tag:yaml.org,2002:")]

/-- The next token and the grammar that has seen it. -/
def peek (g : Grammar) : Option (Token × Grammar) :=
  g.lexer.peek.map fun (t, lexer) => (t, { g with lexer })

def drop (g : Grammar) : Grammar :=
  { g with lexer := g.lexer.drop }

def push (g : Grammar) (state : Expecting) : Grammar :=
  { g with stack := state :: g.stack }

/-- Goes back to the state that waits on the stack. -/
def pop (g : Grammar) : Grammar :=
  { g with state := g.stack.headD .nothing, stack := g.stack.tail }

def goto (g : Grammar) (state : Expecting) : Grammar :=
  { g with state }

def emptyScalar (anchor : Option String) (tag : Option Text.Bytes) : Event :=
  .scalar anchor tag "" .plain

/-- An empty scalar, after which the grammar is in the given state. -/
def missing (g : Grammar) (state : Expecting) : Option (Event × Grammar) :=
  some (emptyScalar none none, g.goto state)

/-- What a tag token stands for. -/
def resolveTag (g : Grammar) (handle : String) (suffix : Text.Bytes) : Option Text.Bytes :=
  if handle = "" then some suffix
  else (g.handles.lookup handle).map (· ++ suffix)

/-- The anchor and tag in front of a node, in either order. -/
def properties (g : Grammar) :
    Option (Option String × Option (String × Text.Bytes) × Grammar) := do
  let (t, g) ← g.peek
  match t with
  | .anchor name =>
    let (t, g) ← g.drop.peek
    match t with
    | .tag handle suffix => some (some name, some (handle, suffix), g.drop)
    | _ => some (some name, none, g)
  | .tag handle suffix =>
    let (t, g) ← g.drop.peek
    match t with
    | .anchor name => some (some name, some (handle, suffix), g.drop)
    | _ => some (none, some (handle, suffix), g)
  | _ => some (none, none, g)

/-- A node: an alias, a scalar, or the start of a collection. Block collections are allowed when
`block` is set, and a list at the indentation of its key when `indentless` is. -/
def node (g : Grammar) (block indentless : Bool) : Option (Event × Grammar) := do
  let (t, g) ← g.peek
  match t with
  | .alias name => some (.alias name, g.pop.drop)
  | _ =>
    let (anchor, rawTag, g) ← g.properties
    let tag ← match rawTag with
      | none => some none
      | some (handle, suffix) => (g.resolveTag handle suffix).map some
    let (t, g) ← g.peek
    match t with
    | .scalar text style => some (.scalar anchor tag text style, g.pop.drop)
    | .flowSequenceStart => some (.sequenceStart anchor tag, g.goto .flowSequenceFirstEntry)
    | .flowMappingStart => some (.mappingStart anchor tag, g.goto .flowMappingFirstKey)
    | .blockEntry =>
      if indentless then some (.sequenceStart anchor tag, g.goto .indentlessSequenceEntry)
      else if anchor.isSome || tag.isSome then some (emptyScalar anchor tag, g.pop)
      else none
    | .blockSequenceStart =>
      if block then some (.sequenceStart anchor tag, g.goto .blockSequenceFirstEntry)
      else if anchor.isSome || tag.isSome then some (emptyScalar anchor tag, g.pop)
      else none
    | .blockMappingStart =>
      if block then some (.mappingStart anchor tag, g.goto .blockMappingFirstKey)
      else if anchor.isSome || tag.isSome then some (emptyScalar anchor tag, g.pop)
      else none
    | _ =>
      if anchor.isSome || tag.isSome then some (emptyScalar anchor tag, g.pop)
      else none

/-- The directives of a document: at most one version, and each handle once. -/
def directives : Nat → Bool → List (String × Text.Bytes) → Grammar → Option Grammar
  | 0, _, _, _ => none
  | fuel + 1, versioned, handles, g => do
    let (t, g) ← g.peek
    match t with
    | .versionDirective major minor =>
      if versioned || major != 1 || (minor != 1 && minor != 2) then none
      else directives fuel true handles g.drop
    | .tagDirective handle start =>
      if (handles.lookup handle).isSome then none
      else directives fuel versioned (handles ++ [(handle, start)]) g.drop
    | _ =>
      let standard := standardHandles.filter fun (handle, _) => (handles.lookup handle).isNone
      some { g with handles := handles ++ standard }

/-- Past the tokens that end documents. -/
def dropDocumentEnds : Nat → Grammar → Option Grammar
  | 0, _ => none
  | fuel + 1, g => do
    let (t, g) ← g.peek
    if t = .documentEnd then dropDocumentEnds fuel g.drop else some g

def size (g : Grammar) : Nat :=
  g.lexer.cursor.rest.length + g.lexer.queue.length + 2

def documentStart (g : Grammar) (bare : Bool) : Option (Event × Grammar) := do
  let g ← if bare then some g else dropDocumentEnds g.size g
  let (t, g) ← g.peek
  match t with
  | .streamEnd => some (.streamEnd, (g.goto .nothing).drop)
  | _ =>
    let marked := match t with
      | .versionDirective .. | .tagDirective .. | .documentStart => true
      | _ => false
    if bare && !marked then
      let g ← directives g.size false [] g
      some (.documentStart, (g.push .documentEnd).goto .blockNode)
    else
      let g ← directives g.size false [] g
      let (t, g) ← g.peek
      if t = .documentStart then
        some (.documentStart, ((g.push .documentEnd).goto .documentContent).drop)
      else none

def documentContent (g : Grammar) : Option (Event × Grammar) := do
  let (t, g) ← g.peek
  match t with
  | .versionDirective .. | .tagDirective .. | .documentStart | .documentEnd | .streamEnd =>
    some (emptyScalar none none, g.pop)
  | _ => g.node true false

def documentEnd (g : Grammar) : Option (Event × Grammar) := do
  let (t, g) ← g.peek
  let g := if t = .documentEnd then g.drop else g
  some (.documentEnd, { g with state := .documentStart, handles := [] })

/-- The value after an indicator, or an empty scalar when one of the tokens `ends` follows. -/
def content (g : Grammar) (ends : List Token) (back : Expecting) (block indentless : Bool) :
    Option (Event × Grammar) := do
  let (t, g) ← g.peek
  if ends.contains t then g.missing back
  else (g.push back).node block indentless

def blockSequenceEntry (g : Grammar) : Option (Event × Grammar) := do
  let (t, g) ← g.peek
  match t with
  | .blockEntry => g.drop.content [.blockEntry, .blockEnd] .blockSequenceEntry true false
  | .blockEnd => some (.sequenceEnd, g.pop.drop)
  | _ => none

def indentlessSequenceEntry (g : Grammar) : Option (Event × Grammar) := do
  let (t, g) ← g.peek
  match t with
  | .blockEntry =>
    g.drop.content [.blockEntry, .key, .value, .blockEnd] .indentlessSequenceEntry true false
  | _ => some (.sequenceEnd, g.pop)

def blockMappingKey (g : Grammar) : Option (Event × Grammar) := do
  let (t, g) ← g.peek
  match t with
  | .key => g.drop.content [.key, .value, .blockEnd] .blockMappingValue true true
  | .blockEnd => some (.mappingEnd, g.pop.drop)
  | _ => none

def blockMappingValue (g : Grammar) : Option (Event × Grammar) := do
  let (t, g) ← g.peek
  match t with
  | .value => g.drop.content [.key, .value, .blockEnd] .blockMappingKey true true
  | _ => g.missing .blockMappingKey

/-- Past the comma between the entries of a flow collection. -/
def comma (g : Grammar) (first : Bool) : Option Grammar := do
  if first then some g
  else
    let (t, g) ← g.peek
    if t = .flowEntry then some g.drop else none

def flowSequenceEntry (g : Grammar) (first : Bool) : Option (Event × Grammar) := do
  let (t, g) ← g.peek
  if t = .flowSequenceEnd then some (.sequenceEnd, g.pop.drop)
  else
    let g ← g.comma first
    let (t, g) ← g.peek
    match t with
    | .key => some (.mappingStart none none, (g.goto .flowPairKey).drop)
    | .flowSequenceEnd => some (.sequenceEnd, g.pop.drop)
    | _ => (g.push .flowSequenceEntry).node false false

/-- The key of a single pair inside a flow sequence. Where the key is left out, the token behind it
is passed over. -/
def flowPairKey (g : Grammar) : Option (Event × Grammar) := do
  let (t, g) ← g.peek
  if t = .value || t = .flowEntry || t = .flowSequenceEnd then g.drop.missing .flowPairValue
  else (g.push .flowPairValue).node false false

def flowPairValue (g : Grammar) : Option (Event × Grammar) := do
  let (t, g) ← g.peek
  match t with
  | .value => g.drop.content [.flowEntry, .flowSequenceEnd] .flowPairEnd false false
  | _ => g.missing .flowPairEnd

def flowMappingKey (g : Grammar) (first : Bool) : Option (Event × Grammar) := do
  let (t, g) ← g.peek
  if t = .flowMappingEnd then some (.mappingEnd, g.pop.drop)
  else
    let g ← g.comma first
    let (t, g) ← g.peek
    match t with
    | .key => g.drop.content [.value, .flowEntry, .flowMappingEnd] .flowMappingValue false false
    | .flowMappingEnd => some (.mappingEnd, g.pop.drop)
    | _ => (g.push .flowMappingEmptyValue).node false false

def flowMappingValue (g : Grammar) : Option (Event × Grammar) := do
  let (t, g) ← g.peek
  match t with
  | .value => g.drop.content [.flowEntry, .flowMappingEnd] .flowMappingKey false false
  | _ => g.missing .flowMappingKey

/-- The next event. -/
def step (g : Grammar) : Option (Event × Grammar) := do
  match g.state with
  | .streamStart =>
    let (_, g) ← g.peek
    some (.streamStart, (g.goto .implicitDocumentStart).drop)
  | .implicitDocumentStart => g.documentStart true
  | .documentStart => g.documentStart false
  | .documentContent => g.documentContent
  | .documentEnd => g.documentEnd
  | .blockNode => g.node true false
  | .blockSequenceFirstEntry =>
    let (_, g) ← g.peek
    g.drop.blockSequenceEntry
  | .blockSequenceEntry => g.blockSequenceEntry
  | .indentlessSequenceEntry => g.indentlessSequenceEntry
  | .blockMappingFirstKey =>
    let (_, g) ← g.peek
    g.drop.blockMappingKey
  | .blockMappingKey => g.blockMappingKey
  | .blockMappingValue => g.blockMappingValue
  | .flowSequenceFirstEntry =>
    let (_, g) ← g.peek
    g.drop.flowSequenceEntry true
  | .flowSequenceEntry => g.flowSequenceEntry false
  | .flowPairKey => g.flowPairKey
  | .flowPairValue => g.flowPairValue
  | .flowPairEnd => some (.mappingEnd, g.goto .flowSequenceEntry)
  | .flowMappingFirstKey =>
    let (_, g) ← g.peek
    g.drop.flowMappingKey true
  | .flowMappingKey => g.flowMappingKey false
  | .flowMappingValue => g.flowMappingValue
  | .flowMappingEmptyValue =>
    let (_, g) ← g.peek
    g.missing .flowMappingKey
  | .nothing => none

/-- The events up to and with the end of the text, or up to the place where it is none; whether the
text is sound comes with them. -/
def events : Nat → Grammar → List Event × Bool
  | 0, _ => ([], false)
  | fuel + 1, g =>
    match g.step with
    | none => ([], false)
    | some (.streamEnd, _) => ([.streamEnd], true)
    | some (event, g) =>
      let (more, sound) := events fuel g
      (event :: more, sound)

end Grammar

/-- The events of a text. A character that no text may hold leaves none of them. -/
def eventsOf (text : String) : List Event × Bool :=
  let chars := text.toList
  if chars.all isAllowed then Grammar.events (4 * chars.length + 16) (.ofText chars)
  else ([], false)

/-- A text that is given by its characters is read without going through its bytes. -/
theorem eventsOf_ofList (chars : List Char) :
    eventsOf (String.ofList chars) =
      if chars.all isAllowed then Grammar.events (4 * chars.length + 16) (.ofText chars)
      else ([], false) := by
  rw [eventsOf, String.toList_ofList]

end Pager.Yaml
