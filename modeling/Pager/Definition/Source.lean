import Pager.Json.Basic
import Pager.Yaml.Node
import Pager.Yaml.Typed

namespace Pager

/-- Why a tree is no definition. -/
inductive Misfit
  | unfit
  | missingField (name : String)
  | unknownVariant (name : String)
  | duplicateField (name : String)
  deriving DecidableEq, Repr

/-- Reading with a number of aliases that may still be followed. -/
abbrev Reading (α : Type) := StateT Nat (Except Misfit) α

def Reading.fail {α : Type} (misfit : Misfit) : Reading α :=
  fun _ => .error misfit

/-- How the places of a tree are read. -/
structure Source (Place : Type) where
  text : Place → Reading String
  flag : Place → Reading Bool
  /-- A whole number below the bound. -/
  natural : Nat → Place → Reading Nat
  /-- One of the words given. -/
  word : List String → Place → Reading String
  /-- The place itself, unless nothing stands there. -/
  optional : Place → Reading (Option Place)
  items : Place → Reading (List Place)
  entries : Place → Reading (List (Place × Place))
  /-- The entries of a record with the given fields. -/
  record : List String → Place → Reading (List (Place × Place))
  json : Place → Reading Json
  /-- Passes over a place that is not asked for. -/
  skip : Place → Reading Unit

namespace Yaml

/-- A node inside its document, with the levels of nesting that are left below it. -/
structure Place where
  node : Node
  anchors : Anchors
  levels : Nat

namespace Place

/-- The place of another node of the same document. -/
def moveTo (p : Place) (n : Node) : Place :=
  { p with node := n }

/-- The place an alias stands for. -/
def follow (p : Place) : Reading Place :=
  match p.node with
  | .alias number => fun jumps =>
    match jumps, p.anchors.target? number with
    | jumps + 1, some n => .ok (p.moveTo n, jumps)
    | _, _ => .error .unfit
  | _ => pure p

def scalar (p : Place) : Reading (Option Text.Bytes × String × Style) := do
  match (← p.follow).node with
  | .scalar tag text style => pure (tag, text, style)
  | _ => .fail .unfit

def text (p : Place) : Reading String := do
  let (_, text, _) ← p.scalar
  pure text

def coreTag (name : String) : Text.Bytes :=
  Text.toBytes ("tag:yaml.org,2002:" ++ name)

/-- Whether a scalar may be read as other than a text: it is plain, or literal with the very tag. -/
def isOpen (tag : Option Text.Bytes) (style : Style) (name : String) : Bool :=
  style == .plain || (style == .literal && tag == some (coreTag name))

def flag (p : Place) : Reading Bool := do
  let (tag, text, style) ← p.scalar
  match isOpen tag style "bool", boolOf? text with
  | true, some b => pure b
  | _, _ => .fail .unfit

def natural (limit : Nat) (p : Place) : Reading Nat := do
  let (tag, text, style) ← p.scalar
  match isOpen tag style "int", natOf? (Nat.pow 2 64) text.toList with
  | true, some n => if n < limit then pure n else .fail .unfit
  | _, _ => .fail .unfit

/-- Whether a tag begins with an exclamation mark. -/
def isLocal : Text.Bytes → Bool
  | b :: _ => b == '!'.toUInt8
  | [] => false

/-- The name a local tag gives; one that is no text gives none. -/
def localTag? (tag : Option Text.Bytes) : Option String := do
  let tag ← tag.filter isLocal
  Text.ofBytes? (if tag.length = 1 then tag else tag.drop 1)

/-- A word is a scalar's text; a local tag may name it instead, with nothing behind it. -/
def word (words : List String) (p : Place) : Reading String := do
  let p ← p.follow
  let tagged (name : String) (bare : Bool) : Reading String :=
    if !words.contains name then .fail (.unknownVariant name)
    else if bare then pure name
    else .fail .unfit
  match p.node with
  | .scalar tag text style =>
    match localTag? tag with
    | some name => tagged name (style == .plain && (text = "" || isNullText text))
    | none => if words.contains text then pure text else .fail (.unknownVariant text)
  | .sequence tag _ | .mapping tag _ =>
    match localTag? tag with
    | some name => tagged name false
    | none => .fail .unfit
  | _ => .fail .unfit

def optional (p : Place) : Reading (Option Place) := do
  let p ← p.follow
  match p.node with
  | .absent => pure none
  | .scalar tag text style =>
    if style != .plain then pure (some p)
    else match tag with
      | some tag =>
        if tag != coreTag "null" then pure (some p)
        else if isNullText text then pure none
        else .fail .unfit
      | none => pure (if text = "" || isNullText text then none else some p)
  | .cut => .fail .unfit
  | _ => pure (some p)

/-- One level further down. -/
def inside (p : Place) : Reading Place :=
  match p.levels with
  | 0 => .fail .unfit
  | levels + 1 => pure { p with levels }

def isNothing : Node → Bool
  | .absent => true
  | .scalar _ text style => text = "" && style == .plain
  | _ => false

def items (p : Place) : Reading (List Place) := do
  let p ← p.follow
  match p.node with
  | .sequence _ nodes =>
    let p ← p.inside
    pure (nodes.map p.moveTo)
  | n => if isNothing n then pure [] else .fail .unfit

def entries (p : Place) : Reading (List (Place × Place)) := do
  let p ← p.follow
  match p.node with
  | .mapping _ nodes =>
    let p ← p.inside
    pure (nodes.map fun (k, v) => (p.moveTo k, p.moveTo v))
  | n => if isNothing n then pure [] else .fail .unfit

/-- The JSON value of a scalar. A core tag decides what it is, a local tag nothing, and other tags
make it a text. -/
def scalarValue (tag : Option Text.Bytes) (s : String) (style : Style) : Option Json :=
  match tag with
  | none => if style == .plain then plainValue s else some (.text s)
  | some tag =>
    if tag = coreTag "bool" then (boolOf? s).map Json.bool
    else if tag = coreTag "int" then
      (wholeOf? s).bind fun whole => whole.map fun i => .number (.whole i)
    else if tag = coreTag "float" then
      match doubleOf s with
      | .finite x => some (.number (.double x))
      | .notFinite => some .null
      | .noNumber => none
    else if tag = coreTag "null" then if isNullText s then some .null else none
    else if isLocal tag && style == .plain then plainValue s
    else some (.text s)

/-- The JSON value of a node, with so many levels of nesting left. -/
def value (anchors : Anchors) : Nat → Node → Reading Json
  | levels, start => do
    let p ← (Place.mk start anchors levels).follow
    match p.node with
    | .absent => pure .null
    | .scalar tag s style =>
      if (localTag? tag).isSome then .fail .unfit
      else match scalarValue tag s style with
        | some v => pure v
        | none => .fail .unfit
    | .sequence tag nodes =>
      match levels with
      | 0 => .fail .unfit
      | levels + 1 =>
        if (localTag? tag).isSome then .fail .unfit
        else Json.list <$> nodes.mapM (value anchors levels)
    | .mapping tag nodes =>
      match levels with
      | 0 => .fail .unfit
      | levels + 1 =>
        if (localTag? tag).isSome then .fail .unfit
        else
          let pairs ← nodes.mapM fun (k, v) => do
            let name ← (Place.mk k anchors levels).text
            let v ← value anchors levels v
            pure (name, v)
          pure (Json.ofPairs pairs)
    | _ => .fail .unfit

mutual

/-- Whether the text is sound through the whole of a node. -/
def isWhole : Node → Bool
  | .cut => false
  | .sequence _ nodes => allWhole nodes
  | .mapping _ nodes => pairsWhole nodes
  | _ => true

def allWhole : List Node → Bool
  | [] => true
  | n :: rest => isWhole n && allWhole rest

def pairsWhole : List (Node × Node) → Bool
  | [] => true
  | (k, v) :: rest => isWhole k && isWhole v && pairsWhole rest

end

/-- The nodes of a YAML document as the places of a definition. A scalar is a text whatever it looks
like. -/
def source : Source Place where
  text := text
  flag := flag
  natural := natural
  word := word
  optional := optional
  items := items
  entries := entries
  record _ := entries
  json p := value p.anchors p.levels p.node
  skip p := if isWhole p.node then pure () else .fail .unfit

end Place

end Yaml

namespace Json

def readText : Json → Reading String
  | .text s => pure s
  | _ => .fail .unfit

def readEntries : Json → Reading (List (Json × Json))
  | .object fields => pure (fields.map fun (name, v) => (.text name, v))
  | _ => .fail .unfit

/-- JSON values as the places of a definition. A record may also be a list of its fields' values
in their order. -/
def source : Source Json where
  text := readText
  flag
    | .bool b => pure b
    | _ => .fail .unfit
  natural limit
    | .number (.whole i) => if 0 ≤ i && i < limit then pure i.toNat else .fail .unfit
    | _ => .fail .unfit
  word words
    | .text s => if words.contains s then pure s else .fail (.unknownVariant s)
    | .object [(name, .null)] =>
      if words.contains name then pure name else .fail (.unknownVariant name)
    | _ => .fail .unfit
  optional
    | .null => pure none
    | v => pure (some v)
  items
    | .list vs => pure vs
    | _ => .fail .unfit
  entries := readEntries
  record names
    | .list vs =>
      if vs.length ≤ names.length then pure ((names.zip vs).map fun (name, v) => (.text name, v))
      else .fail .unfit
    | v => readEntries v
  json v := pure v
  skip _ := pure ()

end Json

end Pager
