import Pager.Yaml.Scalar

namespace Pager.Yaml

inductive Token
  | streamStart
  | streamEnd
  | versionDirective (major minor : Nat)
  | tagDirective (handle : String) (start : Text.Bytes)
  | documentStart
  | documentEnd
  | blockSequenceStart
  | blockMappingStart
  | blockEnd
  | flowSequenceStart
  | flowSequenceEnd
  | flowMappingStart
  | flowMappingEnd
  | blockEntry
  | flowEntry
  | key
  | value
  | alias (name : String)
  | anchor (name : String)
  | tag (handle : String) (suffix : Text.Bytes)
  | scalar (text : String) (style : Style)
  deriving DecidableEq, Repr

/-- A token that may turn out to begin a key, by its number, and the place where it stands. It is
held back until the line shows a colon behind it or none. -/
structure KeyStart where
  possible : Bool
  required : Bool
  token : Nat
  index : Nat
  line : Nat
  column : Nat

def KeyStart.none : KeyStart := ⟨false, false, 0, 0, 0, 0⟩

/-- The tokens not yet taken, and what is needed to find more. There is one candidate for a key at
each level of flow brackets, the innermost first. -/
structure Lexer where
  cursor : Cursor
  flowLevel : Nat
  indent : Int
  indents : List Int
  keyAllowed : Bool
  keys : List KeyStart
  queue : List Token
  taken : Nat
  started : Bool

namespace Lexer

def ofText (text : List Char) : Lexer where
  cursor := .ofText text
  flowLevel := 0
  indent := -1
  indents := []
  keyAllowed := true
  keys := [.none]
  queue := []
  taken := 0
  started := false

def append (x : Lexer) (t : Token) : Lexer :=
  { x with queue := x.queue ++ [t] }

/-- Puts a token at the place of the given number. -/
def insertAt (x : Lexer) (number : Nat) (t : Token) : Lexer :=
  let k := number - x.taken
  { x with queue := x.queue.take k ++ t :: x.queue.drop k }

def next (x : Lexer) : Nat :=
  x.taken + x.queue.length

/-- Gives up the candidates that are too far back; one that had to be a key is an error. -/
def dropStale (x : Lexer) : Option Lexer := do
  let keys ← x.keys.mapM fun k =>
    if k.possible && (k.line < x.cursor.line || k.index + 1024 < x.cursor.index) then
      if k.required then none else some { k with possible := false }
    else some k
  some { x with keys }

def removeKey (x : Lexer) : Option Lexer :=
  match x.keys with
  | [] => some x
  | k :: keys =>
    if k.possible && k.required then none
    else some { x with keys := { k with possible := false } :: keys }

/-- Notes that the token to come may begin a key. -/
def saveKey (x : Lexer) : Option Lexer :=
  if x.keyAllowed then do
    let required := x.flowLevel == 0 && x.indent == (x.cursor.column : Int)
    let x ← x.removeKey
    let k : KeyStart := ⟨true, required, x.next, x.cursor.index, x.cursor.line, x.cursor.column⟩
    some { x with keys := k :: x.keys.tail }
  else some x

/-- Opens a block collection at a deeper column, before the token of the given number. -/
def rollIndent (x : Lexer) (column : Nat) (number : Nat) (t : Token) : Lexer :=
  if x.flowLevel == 0 && x.indent < (column : Int) then
    { x with indents := x.indent :: x.indents, indent := column }.insertAt number t
  else x

def unrollLoop (column : Int) : Nat → Lexer → Lexer
  | 0, x => x
  | fuel + 1, x =>
    if column < x.indent then
      unrollLoop column fuel
        { x with indent := x.indents.headD (-1), indents := x.indents.tail
                 queue := x.queue ++ [.blockEnd] }
    else x

/-- Closes the block collections that are deeper than the column. -/
def unrollIndent (x : Lexer) (column : Int) : Lexer :=
  if x.flowLevel == 0 then unrollLoop column (x.indents.length + 1) x else x

/-- Past blanks, comments and line breaks to the next token. A line may begin with a byte order
mark. -/
def toNextToken : Nat → Lexer → Lexer
  | 0, x => x
  | fuel + 1, x =>
    let c := x.cursor
    let c := if c.column == 0 && c.here == byteOrderMark then c.skip 1 else c
    let tabs := x.flowLevel != 0 || !x.keyAllowed
    let c := c.skipWhile fun ch => ch == ' ' || (tabs && ch == '\t')
    let c := if c.here == '#' then c.skipWhile fun ch => !isBreakOrEnd ch else c
    if isBreak c.here then
      toNextToken fuel
        { x with cursor := c.skipBreak, keyAllowed := x.keyAllowed || x.flowLevel == 0 }
    else { x with cursor := c }

/-- A part of a version: one to nine digits. -/
def versionNumber (c : Cursor) : Option (Nat × Cursor) :=
  let digits := c.rest.takeWhile Char.isDigit
  if digits.isEmpty || 9 < digits.length then none
  else some (Text.decimalValue digits, c.skip digits.length)

/-- A tag's handle, from its exclamation mark. -/
def tagHandle (directive : Bool) (c : Cursor) : Option (List Char × Cursor) :=
  if c.here != '!' then none
  else
    let word := (c.skip 1).rest.takeWhile isWordChar
    let c := c.skip (1 + word.length)
    if c.here == '!' then some ('!' :: word ++ ['!'], c.skip 1)
    else if directive && !word.isEmpty then none
    else some ('!' :: word, c)

def isUriChar (verbatim : Bool) (c : Char) : Bool :=
  isWordChar c || ";/?:@&=+$.%!~*'()".toList.contains c
    || (verbatim && (c == ',' || c == '[' || c == ']'))

/-- The byte a percent escape stands for. -/
def escapedByte : List Char → Option (UInt8 × List Char)
  | '%' :: a :: b :: rest => (Text.digitsIn? 16 [a, b]).map fun n => (UInt8.ofNat n, rest)
  | _ => none

/-- How many bytes the character takes that `b` begins, by its leading bits alone. -/
def escapedWidth (b : UInt8) : Option Nat :=
  if b < 0x80 then some 1
  else if 0xc0 ≤ b && b ≤ 0xdf then some 2
  else if 0xe0 ≤ b && b ≤ 0xef then some 3
  else if 0xf0 ≤ b && b ≤ 0xf7 then some 4
  else none

/-- So many escapes of bytes that continue a character. -/
def escapedTail : Nat → List Char → Option (Text.Bytes × List Char)
  | 0, s => some ([], s)
  | n + 1, s => do
    let (b, s) ← escapedByte s
    if Text.isContinuation b then
      let (bs, s) ← escapedTail n s
      some (b :: bs, s)
    else none

/-- The bytes with their percent escapes undone. The escapes of one character have to stand
together; which character it is does not matter. -/
def undoEscapes : Nat → List Char → Option Text.Bytes
  | 0, _ => none
  | _, [] => some []
  | fuel + 1, c :: rest =>
    if c = '%' then do
      let (lead, s) ← escapedByte (c :: rest)
      let (tail, s) ← escapedTail ((← escapedWidth lead) - 1) s
      some (lead :: tail ++ (← undoEscapes fuel s))
    else (undoEscapes fuel rest).map (c.toUInt8 :: ·)

/-- The bytes of a tag's URI with its escapes undone, after what of it stands in `start`. A zero
byte ends them. -/
def uriBytes (verbatim : Bool) (start : List Char) (c : Cursor) : Option (Text.Bytes × Cursor) :=
  let raw := c.rest.takeWhile (isUriChar verbatim)
  if raw.isEmpty && start.isEmpty then none
  else (undoEscapes (raw.length + 1) raw).map fun bytes =>
    (((start.drop 1).map Char.toUInt8 ++ bytes).takeWhile (· != 0), c.skip raw.length)

/-- A tag: its handle and suffix. -/
def tagToken (c : Cursor) : Option (Token × Cursor) := do
  let (handle, suffix, c) ←
    if c.ahead 1 == '<' then do
      let (suffix, c) ← uriBytes true [] (c.skip 2)
      if c.here == '>' then some ([], suffix, c.skip 1) else none
    else do
      let (handle, c) ← tagHandle false c
      if 2 ≤ handle.length && handle.getLast? == some '!' then do
        let (suffix, c) ← uriBytes false [] c
        some (handle, suffix, c)
      else do
        let (suffix, c) ← uriBytes false handle c
        if suffix.isEmpty then some ([], Text.toBytes "!", c) else some (['!'], suffix, c)
  some (.tag (String.ofList handle) suffix, c)

/-- What has to follow a directive: blanks, a comment and the end of the line. -/
def directiveEnd (c : Cursor) : Option Cursor :=
  let c := c.skipWhile isBlank
  let c := if c.here == '#' then c.skipWhile fun ch => !isBreakOrEnd ch else c
  if isBreakOrEnd c.here then some c.skipBreak else none

def directive (c : Cursor) : Option (Token × Cursor) := do
  let c := c.skip 1
  let name := c.rest.takeWhile isWordChar
  let c := c.skip name.length
  if name.isEmpty || !isBlankBreakOrEnd c.here then none
  else
    let c := c.skipWhile isBlank
    if name = "YAML".toList then do
      let (major, c) ← versionNumber c
      if c.here != '.' then none
      else
        let (minor, c) ← versionNumber (c.skip 1)
        some (.versionDirective major minor, ← directiveEnd c)
    else if name = "TAG".toList then do
      let (handle, c) ← tagHandle true c
      if !isBlank c.here then none
      else
        let c := c.skipWhile isBlank
        let (start, c) ← uriBytes true [] c
        if !isBlankBreakOrEnd c.here then none
        else some (.tagDirective (String.ofList handle) start, ← directiveEnd c)
    else none

/-- The name of an anchor or alias, from its indicator. -/
def anchorName (c : Cursor) : Option (String × Cursor) :=
  let name := (c.skip 1).rest.takeWhile isWordChar
  let c := c.skip (1 + name.length)
  let ends := isBlankBreakOrEnd c.here || "?:,]\x7d%@".toList.contains c.here || c.here == '\x60'
  if name.isEmpty || !ends then none else some (String.ofList name, c)

def fetchStreamEnd (x : Lexer) : Option Lexer := do
  let x ← (x.unrollIndent (-1)).removeKey
  some ({ x with keyAllowed := false }.append .streamEnd)

def fetchDirective (x : Lexer) : Option Lexer := do
  let x ← (x.unrollIndent (-1)).removeKey
  let (t, c) ← directive x.cursor
  some ({ x with keyAllowed := false, cursor := c }.append t)

def fetchDocumentIndicator (x : Lexer) (t : Token) : Option Lexer := do
  let x ← (x.unrollIndent (-1)).removeKey
  some ({ x with keyAllowed := false, cursor := x.cursor.skip 3 }.append t)

def fetchFlowStart (x : Lexer) (t : Token) : Option Lexer := do
  let x ← x.saveKey
  some ({ x with
    keys := .none :: x.keys, flowLevel := x.flowLevel + 1
    keyAllowed := true, cursor := x.cursor.skip 1 }.append t)

def fetchFlowEnd (x : Lexer) (t : Token) : Option Lexer := do
  let x ← x.removeKey
  let x := if x.flowLevel == 0 then x
    else { x with flowLevel := x.flowLevel - 1, keys := x.keys.tail }
  some ({ x with keyAllowed := false, cursor := x.cursor.skip 1 }.append t)

def fetchFlowEntry (x : Lexer) : Option Lexer := do
  let x ← x.removeKey
  some ({ x with keyAllowed := true, cursor := x.cursor.skip 1 }.append .flowEntry)

def fetchBlockEntry (x : Lexer) : Option Lexer := do
  let x ←
    if x.flowLevel == 0 then
      if x.keyAllowed then some (x.rollIndent x.cursor.column x.next .blockSequenceStart) else none
    else some x
  let x ← x.removeKey
  some ({ x with keyAllowed := true, cursor := x.cursor.skip 1 }.append .blockEntry)

def fetchKey (x : Lexer) : Option Lexer := do
  let x ←
    if x.flowLevel == 0 then
      if x.keyAllowed then some (x.rollIndent x.cursor.column x.next .blockMappingStart) else none
    else some x
  let x ← x.removeKey
  some ({ x with keyAllowed := x.flowLevel == 0, cursor := x.cursor.skip 1 }.append .key)

def fetchValue (x : Lexer) : Option Lexer := do
  let k := x.keys.headD .none
  let x ←
    if k.possible then
      let x := x.insertAt k.token .key
      let x := x.rollIndent k.column k.token .blockMappingStart
      some { x with keys := { k with possible := false } :: x.keys.tail, keyAllowed := false }
    else if x.flowLevel == 0 then
      if x.keyAllowed then
        some { x.rollIndent x.cursor.column x.next .blockMappingStart with keyAllowed := true }
      else none
    else some { x with keyAllowed := false }
  some ({ x with cursor := x.cursor.skip 1 }.append .value)

def fetchAnchor (x : Lexer) (t : String → Token) : Option Lexer := do
  let x ← x.saveKey
  let (name, c) ← anchorName x.cursor
  some ({ x with keyAllowed := false, cursor := c }.append (t name))

def fetchTag (x : Lexer) : Option Lexer := do
  let x ← x.saveKey
  let (t, c) ← tagToken x.cursor
  if isBlankBreakOrEnd c.here || (x.flowLevel != 0 && c.here == ',') then
    some ({ x with keyAllowed := false, cursor := c }.append t)
  else none

def fetchBlockScalar (x : Lexer) (isLiteral : Bool) : Option Lexer := do
  let x ← x.removeKey
  let (text, c) ← blockScalar isLiteral x.indent x.cursor
  some ({ x with keyAllowed := true, cursor := c }.append
    (.scalar text (if isLiteral then .literal else .folded)))

def fetchQuoted (x : Lexer) (single : Bool) : Option Lexer := do
  let x ← x.saveKey
  let (text, c) ← quotedScalar single x.cursor
  some ({ x with keyAllowed := false, cursor := c }.append
    (.scalar text (if single then .singleQuoted else .doubleQuoted)))

def fetchPlain (x : Lexer) : Option Lexer := do
  let x ← x.saveKey
  let (text, c, broken) ← plainScalar (x.flowLevel != 0) (x.indent + 1) x.cursor
  some ({ x with keyAllowed := broken, cursor := c }.append (.scalar text .plain))

/-- Whether a plain scalar may begin with the character, given the one behind it. -/
def beginsPlain (flow : Bool) (here next : Char) : Bool :=
  !(isBlankBreakOrEnd here || "-?:,[]\x7b\x7d#&*!|>'\"%@".toList.contains here || here == '\x60')
    || (here == '-' && !isBlank next)
    || (!flow && (here == '?' || here == ':') && !isBlankBreakOrEnd next)

/-- Finds one token more, or several that belong together. -/
def fetch (x : Lexer) : Option Lexer :=
  if !x.started then some { x with started := true, queue := x.queue ++ [.streamStart] }
  else do
    let x := toNextToken (x.cursor.rest.length + 1) x
    let x ← x.dropStale
    let x := x.unrollIndent x.cursor.column
    let c := x.cursor
    let here := c.here
    let next := c.ahead 1
    let flow := x.flowLevel != 0
    if isEnd here then x.fetchStreamEnd
    else if c.column == 0 && here == '%' then x.fetchDirective
    else if c.atIndicator '-' then x.fetchDocumentIndicator .documentStart
    else if c.atIndicator '.' then x.fetchDocumentIndicator .documentEnd
    else if here == '[' then x.fetchFlowStart .flowSequenceStart
    else if here == '{' then x.fetchFlowStart .flowMappingStart
    else if here == ']' then x.fetchFlowEnd .flowSequenceEnd
    else if here == '}' then x.fetchFlowEnd .flowMappingEnd
    else if here == ',' then x.fetchFlowEntry
    else if here == '-' && isBlankBreakOrEnd next then x.fetchBlockEntry
    else if here == '?' && (flow || isBlankBreakOrEnd next) then x.fetchKey
    else if here == ':' && (flow || isBlankBreakOrEnd next) then x.fetchValue
    else if here == '*' then x.fetchAnchor .alias
    else if here == '&' then x.fetchAnchor .anchor
    else if here == '!' then x.fetchTag
    else if here == '|' && !flow then x.fetchBlockScalar true
    else if here == '>' && !flow then x.fetchBlockScalar false
    else if here == '\'' then x.fetchQuoted true
    else if here == '"' then x.fetchQuoted false
    else if beginsPlain flow here next then x.fetchPlain
    else none

/-- Whether the first token is certain: it is there, and no longer a candidate for a key. -/
def isReady (x : Lexer) : Bool :=
  !x.queue.isEmpty && !(x.keys.any fun k => k.possible && k.token == x.taken)

/-- Finds tokens until the first one is certain. -/
def fill : Nat → Lexer → Option Lexer
  | 0, _ => none
  | fuel + 1, x => do
    let x ← if x.queue.isEmpty then some x else x.dropStale
    if x.isReady then some x
    else fill fuel (← x.fetch)

/-- The first token, left where it is. -/
def peek (x : Lexer) : Option (Token × Lexer) := do
  let x ← fill (x.cursor.rest.length + 8) x
  let t ← x.queue.head?
  some (t, x)

/-- Takes the first token. -/
def drop (x : Lexer) : Lexer :=
  { x with queue := x.queue.tail, taken := x.taken + 1 }

end Lexer

end Pager.Yaml
