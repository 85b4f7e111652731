import NodeFlags.Text.Digit

/-!
# Characters with their places

A YAML text as a list of cells: characters together with the place where they stand.
Line breaks of all kinds are one cell each (a carriage return with the line feed
after it, either alone, and the next-line character become a line feed; the line
and paragraph separators stay), and the list ends with a cell that holds NUL, which
cannot stand in a text.

A text is looked through in blocks, from the first one on as far as it is read. Where a
block holds a character that may not stand in a text the list breaks off before that
block, without the cell at the end.

Places depend on the text alone, so the functions that read tokens take a list of
cells and return what is left of it.
-/

namespace NodeFlags.Yaml

/-- A character and its place. -/
structure Cell where
  char : Char
  line : Nat
  column : Nat
  /-- The number of bytes before it. -/
  index : Nat
  deriving DecidableEq, Repr, Inhabited

/-- The character that ends every list of cells. -/
def endMark : Char := '\x00'

/-- Whether `c` breaks a line. -/
def isBreak (c : Char) : Bool :=
  c = '\n' || c = '\u2028' || c = '\u2029'

/-- Whether `c` is a blank or a tab. -/
def isBlank (c : Char) : Bool :=
  c = ' ' || c = '\t'

/-- Whether `c` breaks a line or ends the text. -/
def isBreakOrEnd (c : Char) : Bool :=
  isBreak c || c = endMark

/-- Whether `c` separates words. -/
def isGap (c : Char) : Bool :=
  isBlank c || isBreakOrEnd c

/-- Whether `c` may stand in the name of an anchor, a tag handle or a directive. -/
def isNameChar (c : Char) : Bool :=
  Text.isDigit c || ('A' ≤ c && c ≤ 'Z') || ('a' ≤ c && c ≤ 'z') || c = '_' || c = '-'

/-- Whether `c` may stand in a text. -/
def isAllowed (c : Char) : Bool :=
  let n := c.toNat
  n = 0x9 || n = 0xA || n = 0xD || (0x20 ≤ n && n ≤ 0x7E) || n = 0x85 ||
    (0xA0 ≤ n && n ≤ 0xD7FF) || (0xE000 ≤ n && n ≤ 0xFFFD) || 0x10000 ≤ n

/-- The cells of a text from a place on. -/
def cellsFrom (line column index : Nat) : List Char → List Cell
  | [] => [⟨endMark, line, column, index⟩]
  | '\r' :: '\n' :: rest => ⟨'\n', line, column, index⟩ :: cellsFrom (line + 1) 0 (index + 2) rest
  | c :: rest =>
    let next := index + c.utf8Size
    if c = '\r' || c = '\u0085' then
      ⟨'\n', line, column, index⟩ :: cellsFrom (line + 1) 0 next rest
    else if isBreak c then ⟨c, line, column, index⟩ :: cellsFrom (line + 1) 0 next rest
    else ⟨c, line, column, index⟩ :: cellsFrom line (column + 1) next rest

/-- The number of bytes that a block may have. -/
def blockSize : Nat := 16384

/-- Split a text into blocks that are as long as they may be. `block` holds the beginning of the
first one in reverse, in which `room` bytes are left. -/
def blocksFrom (room : Nat) (block : List Char) : List Char → List (List Char)
  | [] => [block.reverse]
  | c :: rest =>
    if c.utf8Size ≤ room then blocksFrom (room - c.utf8Size) (c :: block) rest
    else block.reverse :: blocksFrom (blockSize - c.utf8Size) [c] rest

/-- The cells of a text, as far as it is sound. -/
def cells (cs : List Char) : List Cell :=
  let blocks := blocksFrom blockSize [] cs
  let sound := blocks.takeWhile (·.all isAllowed)
  let placed := cellsFrom 0 0 0 sound.flatten
  if sound.length = blocks.length then placed else placed.dropLast

/-- Whether the next `n` characters are known, or those up to the end of the text. -/
def reaches (n : Nat) (cells : List Cell) : Bool :=
  let ahead := cells.take n
  ahead.length = n || ahead.any (·.char = endMark)

/-- The character of the cell at a distance; NUL beyond the end. -/
def charAt (cells : List Cell) (i : Nat) : Char :=
  ((cells[i]?).map (·.char)).getD endMark

/-- The column of the first cell. -/
def columnOf (cells : List Cell) : Nat :=
  (cells.head?.map (·.column)).getD 0

/-- Whether three characters `c` stand at the beginning of a line, with a gap after them. -/
def atMarker (c : Char) (cells : List Cell) : Bool :=
  columnOf cells = 0 && charAt cells 0 = c && charAt cells 1 = c && charAt cells 2 = c &&
    isGap (charAt cells 3)

/-- Whether the beginning or the end of a document is marked here. -/
def atDocumentMarker (cells : List Cell) : Bool :=
  atMarker '-' cells || atMarker '.' cells

/-- The characters of cells up to a condition, and the cells from there on. -/
def takeUntil (p : Char → Bool) : List Cell → List Char × List Cell
  | [] => ([], [])
  | c :: rest =>
    if p c.char then ([], c :: rest)
    else
      let (cs, rest) := takeUntil p rest
      (c.char :: cs, rest)

/-- The cells from a condition on. -/
def skipUntil (p : Char → Bool) (cells : List Cell) : List Cell :=
  (takeUntil p cells).2

end NodeFlags.Yaml
