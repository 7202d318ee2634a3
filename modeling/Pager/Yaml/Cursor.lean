namespace Pager.Yaml

/-- The characters a YAML text may hold. -/
def isAllowed (c : Char) : Bool :=
  let n := c.toNat
  n == 0x09 || n == 0x0a || n == 0x0d || (0x20 ≤ n && n ≤ 0x7e) || n == 0x85
    || (0xa0 ≤ n && n ≤ 0xd7ff) || (0xe000 ≤ n && n ≤ 0xfffd) || 0x10000 ≤ n

def byteOrderMark : Char := '\ufeff'

def isBreak (c : Char) : Bool :=
  c == '\n' || c == '\r' || c == '\u0085' || c == '\u2028' || c == '\u2029'

def isBlank (c : Char) : Bool :=
  c == ' ' || c == '\t'

def isEnd (c : Char) : Bool :=
  c == '\x00'

def isBreakOrEnd (c : Char) : Bool :=
  isBreak c || isEnd c

def isBlankBreakOrEnd (c : Char) : Bool :=
  isBlank c || isBreakOrEnd c

/-- The characters of anchors, tag handles and directive names. -/
def isWordChar (c : Char) : Bool :=
  c.isAlphanum || c == '_' || c == '-'

/-- A place in a text: its line, its column in characters, and how many bytes stand before it. -/
structure Cursor where
  rest : List Char
  /-- The bytes before this place. -/
  index : Nat
  line : Nat
  column : Nat
  deriving Repr

namespace Cursor

def ofText (text : List Char) : Cursor :=
  ⟨text, 0, 0, 0⟩

/-- The character `k` places ahead. The end of the text reads as the character zero, which no text
may hold. -/
def ahead (c : Cursor) (k : Nat) : Char :=
  c.rest.getD k '\x00'

def here (c : Cursor) : Char :=
  c.ahead 0

/-- The bytes that characters take. -/
def width (chars : List Char) : Nat :=
  chars.foldl (fun n c => n + c.utf8Size) 0

/-- Past `n` characters of this line. -/
def skip (c : Cursor) (n : Nat) : Cursor :=
  { c with rest := c.rest.drop n, index := c.index + width (c.rest.take n), column := c.column + n }

/-- Past the characters of this line that the test holds of. -/
def skipWhile (c : Cursor) (test : Char → Bool) : Cursor :=
  c.skip (c.rest.takeWhile test).length

/-- The line break here, as it counts in a text, and the start of the next line. Carriage returns
and next-line characters count as line feeds. -/
def takeBreak (c : Cursor) : List Char × Cursor :=
  match c.rest with
  | '\r' :: '\n' :: rest => (['\n'], ⟨rest, c.index + 2, c.line + 1, 0⟩)
  | b :: rest =>
    if isBreak b then
      let text := if b == '\u2028' || b == '\u2029' then [b] else ['\n']
      (text, ⟨rest, c.index + b.utf8Size, c.line + 1, 0⟩)
    else ([], c)
  | [] => ([], c)

def skipBreak (c : Cursor) : Cursor :=
  c.takeBreak.2

/-- Whether a line begins here with `---` or `...` standing alone. -/
def atIndicator (c : Cursor) (mark : Char) : Bool :=
  c.column == 0 && c.ahead 0 == mark && c.ahead 1 == mark && c.ahead 2 == mark
    && isBlankBreakOrEnd (c.ahead 3)

def atDocumentIndicator (c : Cursor) : Bool :=
  c.atIndicator '-' || c.atIndicator '.'

end Cursor

end Pager.Yaml
