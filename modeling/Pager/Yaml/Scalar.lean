import Pager.Yaml.Cursor
import Pager.Text.Bytes
import Pager.Text.Digits

namespace Pager.Yaml

inductive Style
  | plain
  | singleQuoted
  | doubleQuoted
  | literal
  | folded
  deriving DecidableEq, Repr

/-- A text whose line breaks are being folded: a single one becomes a blank, of several the first is
dropped. Kept are what is fixed of it, in reverse, and the blanks and breaks that wait for the next
character. -/
structure Folding where
  fixed : List Char
  blanks : List Char
  leading : List Char
  trailing : List Char
  broken : Bool

namespace Folding

def empty : Folding := ⟨[], [], [], [], false⟩

def push (f : Folding) (c : Char) : Folding :=
  { f with fixed := c :: f.fixed }

/-- Folds what waits into the text. -/
def settle (f : Folding) : Folding :=
  let added :=
    if f.broken then
      if f.leading = ['\n'] then if f.trailing.isEmpty then [' '] else f.trailing
      else f.leading ++ f.trailing
    else f.blanks
  ⟨added.reverse ++ f.fixed, [], [], [], false⟩

def pushBlank (f : Folding) (c : Char) : Folding :=
  if f.broken then f else { f with blanks := f.blanks ++ [c] }

def pushBreak (f : Folding) (text : List Char) : Folding :=
  if f.broken then { f with trailing := f.trailing ++ text }
  else { f with blanks := [], leading := text, broken := true }

def text (f : Folding) : String :=
  String.ofList f.fixed.reverse

end Folding

def isFlowBracketOrComma (c : Char) : Bool :=
  c == ',' || c == '[' || c == ']' || c == '{' || c == '}'

/-- The characters up to the next blank, break or end of a plain scalar. -/
def plainWord (flow : Bool) : Nat → Cursor → Folding → Option (Cursor × Folding)
  | 0, _, _ => none
  | fuel + 1, c, f =>
    let here := c.here
    let next := c.ahead 1
    if isBlankBreakOrEnd here then some (c, f)
    else if flow && here == ':' && (isFlowBracketOrComma next || next == '?') then none
    else if here == ':' && isBlankBreakOrEnd next then some (c, f)
    else if flow && isFlowBracketOrComma here then some (c, f)
    else
      let f := if f.broken || !f.blanks.isEmpty then f.settle else f
      plainWord flow fuel (c.skip 1) (f.push here)

/-- The blanks and breaks after a word. A tab may not stand for indentation. -/
def plainGap (indent : Int) : Nat → Cursor → Folding → Option (Cursor × Folding)
  | 0, _, _ => none
  | fuel + 1, c, f =>
    let here := c.here
    if isBlank here then
      if f.broken && (c.column : Int) < indent && here == '\t' then none
      else plainGap indent fuel (c.skip 1) (f.pushBlank here)
    else if isBreak here then
      let (text, c) := c.takeBreak
      plainGap indent fuel c (f.pushBreak text)
    else some (c, f)

def plainLines (flow : Bool) (indent : Int) : Nat → Cursor → Folding → Option (Cursor × Folding)
  | 0, _, _ => none
  | fuel + 1, c, f =>
    if c.atDocumentIndicator || c.here == '#' then some (c, f)
    else do
      let (c, f) ← plainWord flow (c.rest.length + 1) c f
      if !(isBlank c.here || isBreak c.here) then some (c, f)
      else
        let (c, f) ← plainGap indent (c.rest.length + 1) c f
        if !flow && (c.column : Int) < indent then some (c, f)
        else plainLines flow indent fuel c f

/-- A plain scalar: its text, where it ends and whether it ran over a line break. -/
def plainScalar (flow : Bool) (indent : Int) (c : Cursor) : Option (String × Cursor × Bool) :=
  (plainLines flow indent (c.rest.length + 2) c .empty).map fun (c, f) => (f.text, c, f.broken)

/-- The character with the code that `n` hexadecimal digits give. -/
def hexEscape (c : Cursor) (n : Nat) : Option (Char × Cursor) := do
  let digits := c.rest.take n
  if digits.length < n then none
  else
    let code ← Text.digitsIn? 16 digits
    if (0xd800 ≤ code && code ≤ 0xdfff) || 0x10ffff < code then none
    else some (Char.ofNat code, c.skip n)

/-- The character an escape stands for, from behind its backslash. -/
def escape (c : Cursor) : Option (Char × Cursor) :=
  let one (code : Nat) : Option (Char × Cursor) := some (Char.ofNat code, c.skip 1)
  match c.here with
  | '0' => one 0x00
  | 'a' => one 0x07
  | 'b' => one 0x08
  | 't' => one 0x09
  | '\t' => one 0x09
  | 'n' => one 0x0a
  | 'v' => one 0x0b
  | 'f' => one 0x0c
  | 'r' => one 0x0d
  | 'e' => one 0x1b
  | ' ' => one 0x20
  | '"' => one 0x22
  | '/' => one 0x2f
  | '\\' => one 0x5c
  | 'N' => one 0x85
  | '_' => one 0xa0
  | 'L' => one 0x2028
  | 'P' => one 0x2029
  | 'x' => hexEscape (c.skip 1) 2
  | 'u' => hexEscape (c.skip 1) 4
  | 'U' => hexEscape (c.skip 1) 8
  | _ => none

def quotedWord (single : Bool) : Nat → Cursor → Folding → Option (Cursor × Folding)
  | 0, _, _ => none
  | fuel + 1, c, f =>
    let here := c.here
    if isBlankBreakOrEnd here then some (c, f)
    else if single then
      if here == '\'' then
        if c.ahead 1 == '\'' then quotedWord single fuel (c.skip 2) (f.push '\'') else some (c, f)
      else quotedWord single fuel (c.skip 1) (f.push here)
    else if here == '"' then some (c, f)
    else if here == '\\' then
      if isBreak (c.ahead 1) then some ((c.skip 1).skipBreak, { f with broken := true })
      else do
        let (char, c) ← escape (c.skip 1)
        quotedWord single fuel c (f.push char)
    else quotedWord single fuel (c.skip 1) (f.push here)

def quotedGap : Nat → Cursor → Folding → Cursor × Folding
  | 0, c, f => (c, f)
  | fuel + 1, c, f =>
    if isBlank c.here then quotedGap fuel (c.skip 1) (f.pushBlank c.here)
    else if isBreak c.here then
      let (text, c) := c.takeBreak
      quotedGap fuel c (f.pushBreak text)
    else (c, f)

def quotedLines (single : Bool) : Nat → Cursor → Folding → Option (Cursor × Folding)
  | 0, _, _ => none
  | fuel + 1, c, f =>
    if c.atDocumentIndicator || isEnd c.here then none
    else do
      let (c, f) ← quotedWord single (c.rest.length + 1) c f
      if c.here == (if single then '\'' else '"') then some (c.skip 1, f)
      else
        let (c, f) := quotedGap (c.rest.length + 1) c f
        quotedLines single fuel c f.settle

/-- A quoted scalar from its opening quote. -/
def quotedScalar (single : Bool) (c : Cursor) : Option (String × Cursor) :=
  (quotedLines single (c.rest.length + 2) (c.skip 1) .empty).map fun (c, f) => (f.text, c)

/-- What becomes of the breaks at the end of a block scalar. -/
inductive Chomping
  | strip
  | clip
  | keep
  deriving DecidableEq, Repr

/-- Chomping and indentation as the header gives them, in either order. -/
def blockHeader (c : Cursor) : Option (Chomping × Option Nat × Cursor) :=
  let chomping? (c : Cursor) : Option (Chomping × Cursor) :=
    if c.here == '+' then some (.keep, c.skip 1)
    else if c.here == '-' then some (.strip, c.skip 1)
    else none
  let increment (c : Cursor) : Option (Option Nat × Cursor) :=
    if c.here.isDigit then
      if c.here == '0' then none else some (some (c.here.toNat - 48), c.skip 1)
    else some (none, c)
  match chomping? c with
  | some (chomping, c) => (increment c).map fun (n, c) => (chomping, n, c)
  | none => (increment c).map fun (n, c) =>
    match n, chomping? c with
    | some _, some (chomping, c) => (chomping, n, c)
    | _, _ => (.clip, n, c)

/-- Empty lines and indentation before a line of a block scalar: the breaks, and the indentation,
found here if none is given yet. -/
def blockBreaks (parent : Int) (indent? : Option Nat) :
    Nat → Nat → List Char → Cursor → Option (List Char × Nat × Cursor)
  | 0, _, _, _ => none
  | fuel + 1, widest, breaks, c =>
    let bounded (c : Cursor) : Bool := match indent? with
      | some n => c.column < n
      | none => true
    let spaces := (c.rest.takeWhile (· == ' ')).length
    let c := c.skip (match indent? with
      | some n => min spaces (n - c.column)
      | none => spaces)
    let widest := max widest c.column
    if bounded c && c.here == '\t' then none
    else if isBreak c.here then
      let (text, c) := c.takeBreak
      blockBreaks parent indent? fuel widest (breaks ++ text) c
    else some (breaks, indent?.getD (max widest (max (parent + 1) 1).toNat), c)

/-- What of a block scalar is fixed, in reverse, and what waits for the next line. -/
structure BlockText where
  fixed : List Char
  leading : List Char
  trailing : List Char
  leadingBlank : Bool

def blockLines (isLiteral : Bool) (parent : Int) (indent : Nat) :
    Nat → Cursor → BlockText → Option (Cursor × BlockText)
  | 0, _, _ => none
  | fuel + 1, c, b =>
    if c.column == indent && !isEnd c.here then
      let blank := isBlank c.here
      let between :=
        if !isLiteral && b.leading = ['\n'] && !b.leadingBlank && !blank then
          if b.trailing.isEmpty then [' '] else b.trailing
        else b.leading ++ b.trailing
      let line := c.rest.takeWhile fun ch => !isBreakOrEnd ch
      let (leading, c) := (c.skip line.length).takeBreak
      match blockBreaks parent (some indent) (c.rest.length + 1) 0 [] c with
      | none => none
      | some (trailing, _, c) =>
        blockLines isLiteral parent indent fuel c
          ⟨line.reverse ++ (between.reverse ++ b.fixed), leading, trailing, blank⟩
    else some (c, b)

/-- A block scalar from its indicator; `parent` is the indentation around it. Its lines stay as they
stand or are folded, below an indentation that is given or found. -/
def blockScalar (isLiteral : Bool) (parent : Int) (c : Cursor) : Option (String × Cursor) := do
  let (chomping, increment, c) ← blockHeader (c.skip 1)
  let c := c.skipWhile isBlank
  let c := if c.here == '#' then c.skipWhile fun ch => !isBreakOrEnd ch else c
  if !isBreakOrEnd c.here then none
  else
    let c := c.skipBreak
    let indent? : Option Nat := increment.map fun n =>
      if 0 ≤ parent then parent.toNat + n else n
    let (breaks, indent, c) ← blockBreaks parent indent? (c.rest.length + 1) 0 [] c
    let (c, b) ← blockLines isLiteral parent indent (c.rest.length + 2) c ⟨[], [], breaks, false⟩
    let ending := match chomping with
      | .strip => []
      | .clip => b.leading
      | .keep => b.leading ++ b.trailing
    some (String.ofList (b.fixed.reverse ++ ending), c)

end Pager.Yaml
