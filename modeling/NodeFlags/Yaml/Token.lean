import NodeFlags.Yaml.Scalar
import NodeFlags.Yaml.Tag

/-!
# Tokens of YAML

The tokens of a text: marks of flow collections, scalars, anchors, aliases and tags as
they stand, and marks for the beginning and end of block collections, which follow
from the indentation.

A word becomes a key only when a colon turns up after it. Until then its place is kept
(`PossibleKey`), and the mark for the key is put there afterwards. Such a place lapses at
the end of the line, and after 1024 bytes. In a block collection of the same
indentation the word must become a key, and it is an error if its place lapses.

Where no token can be read, the list of tokens ends. It then ends before every word
that could still have become a key, since it is not known what that word begins.
-/

namespace NodeFlags.Yaml

/-- A token. -/
inductive Token where
  | streamStart
  | streamEnd
  | versionDirective (major minor : Nat)
  | tagDirective (handle : String) (meaning : Tag)
  | documentStart
  | documentEnd
  | blockSequenceStart
  | blockMappingStart
  | blockEnd
  | flowSequenceStart
  | flowSequenceEnd
  | flowMappingStart
  | flowMappingEnd
  | blockEntry
  | flowEntry
  | key
  | value
  | alias (name : String)
  | anchor (name : String)
  /-- A tag: its handle, empty if it has none, and the rest of it. -/
  | tag (handle : String) (rest : Tag)
  | scalar (style : Style) (text : String)
  deriving DecidableEq, Repr

/-! ### Names and directives -/

/-- Read the name of an anchor or alias. -/
def readAnchorName (cells : List Cell) : Option (String × List Cell) :=
  let (name, rest) := takeUntil (!isNameChar ·) cells
  let next := charAt rest 0
  if name.isEmpty then none
  else if isGap next || ['?', ':', ',', ']', '}', '%', '@', '\x60'].contains next then
    some (.ofList name, rest)
  else none

/-- Read a part of a version number. -/
def readVersionPart (cells : List Cell) : Option (Nat × List Cell) :=
  let (ds, rest) := takeUntil (!Text.isDigit ·) cells
  if ds.isEmpty ∨ 9 < ds.length then none
  else some (Text.digitsValue ds, rest)

/-- Read the value of a version directive. -/
def readVersionDirective (cells : List Cell) : Option (Token × List Cell) := do
  let (major, rest) ← readVersionPart (skipUntil (!isBlank ·) cells)
  if charAt rest 0 ≠ '.' then none
  else do
    let (minor, rest) ← readVersionPart (rest.drop 1)
    return (.versionDirective major minor, rest)

/-- Read the value of a tag directive. -/
def readTagDirective (cells : List Cell) : Option (Token × List Cell) := do
  let (handle, rest) ← Tag.readHandle (skipUntil (!isBlank ·) cells)
  if (!Tag.isFullHandle handle && handle != ['!']) || !isBlank (charAt rest 0) then none
  else do
    let (meaning, rest) ← Tag.readBytes true (skipUntil (!isBlank ·) rest)
    if meaning.isEmpty ∨ !isGap (charAt rest 0) then none
    else return (.tagDirective (.ofList handle) (.ofBytes meaning), rest)

/-- Read a directive and the rest of its line. -/
def readDirective (cells : List Cell) : Option (Token × List Cell) := do
  let (name, rest) := takeUntil (!isNameChar ·) (cells.drop 1)
  if name.isEmpty ∨ !isGap (charAt rest 0) then none
  else do
    let (token, rest) ←
      if name = ['Y', 'A', 'M', 'L'] then readVersionDirective rest
      else if name = ['T', 'A', 'G'] then readTagDirective rest
      else none
    return (token, ← skipLineEnd rest)

/-! ### Scanning -/

/-- A place where the mark for a key may still have to be put. -/
structure PossibleKey where
  /-- Whether the word there must become a key. -/
  required : Bool
  /-- The number of tokens before it. -/
  position : Nat
  /-- The cell where the word begins. -/
  cell : Cell
  deriving DecidableEq, Repr

/-- Where the scanning of a text stands. -/
structure Scan where
  /-- What is left of the text. -/
  cells : List Cell
  /-- The tokens so far. -/
  tokens : Array Token := #[.streamStart]
  /-- The column of the innermost block collection, -1 outside all. -/
  indent : Int := -1
  /-- The columns of the block collections around it. -/
  outerIndents : List Int := []
  /-- The place for a key at this level. -/
  possible : Option PossibleKey := none
  /-- The places for keys around the open flow collections, the innermost first. -/
  outerPossible : List (Option PossibleKey) := []
  /-- Whether a word may become a key here. -/
  keyAllowed : Bool := true
  /-- Whether the end of the text has been reached. -/
  ended : Bool := false

namespace Scan

/-- Whether a flow collection is open. -/
def inFlow (s : Scan) : Bool :=
  !s.outerPossible.isEmpty

/-- Append a token. -/
def push (s : Scan) (t : Token) : Scan :=
  { s with tokens := s.tokens.push t }

/-- The place at which the scan stands. -/
def here (s : Scan) : Cell :=
  s.cells.headD { char := endMark, line := 0, column := 0, index := 0 }

/-- Drop a place for a key that has lapsed; there is an error if a key was required. -/
def lapse (now : Cell) (key : Option PossibleKey) : Option (Option PossibleKey) :=
  match key with
  | none => some none
  | some k =>
    if k.cell.line < now.line ∨ k.cell.index + 1024 < now.index then
      if k.required then none else some none
    else some (some k)

/-- The place that counts when places lapse: after the end of the text all have. -/
def now (s : Scan) : Cell :=
  if s.ended && s.here.column ≠ 0 then { s.here with line := s.here.line + 1 } else s.here

/-- Drop all places for keys that have lapsed. -/
def lapseAll (s : Scan) : Option Scan := do
  let possible ← lapse s.now s.possible
  let outer ← s.outerPossible.mapM (lapse s.now)
  return { s with possible := possible, outerPossible := outer }

/-- The number of tokens before which no mark for a key can be put any more. -/
def settled (s : Scan) : Nat :=
  (s.possible :: s.outerPossible).foldl
    (fun n key => match key with
      | some k => min n k.position
      | none => n)
    s.tokens.size

/-- Give up the place for a key at this level. -/
def dropPossible (s : Scan) : Option Scan :=
  match s.possible with
  | some k => if k.required then none else some { s with possible := none }
  | none => some s

/-- Keep this place for a key, if a key may stand here. -/
def keepPossible (s : Scan) : Option Scan :=
  if s.keyAllowed then do
    let required := !s.inFlow && s.indent == (s.here.column : Int)
    let s ← s.dropPossible
    return { s with possible := some ⟨required, s.tokens.size, s.here⟩ }
  else some s

/-- Close block collections up to the one at a column. -/
def closeBlocks (column : Int) (tokens : Array Token) (indent : Int) :
    List Int → Array Token × Int × List Int
  | [] => (tokens, indent, [])
  | outer :: rest =>
    if column < indent then closeBlocks column (tokens.push .blockEnd) outer rest
    else (tokens, indent, outer :: rest)

/-- Close the block collections that end before a column. -/
def unroll (s : Scan) (column : Int) : Scan :=
  if s.inFlow then s
  else
    let (tokens, indent, outer) := closeBlocks column s.tokens s.indent s.outerIndents
    { s with tokens := tokens, indent := indent, outerIndents := outer }

/-- Open a block collection at a column, unless one is open there; its mark goes to a position. -/
def roll (s : Scan) (column position : Nat) (t : Token) : Scan :=
  if s.inFlow || (column : Int) ≤ s.indent then s
  else
    { s with
      tokens := s.tokens.insertIdxIfInBounds position t
      indent := column
      outerIndents := s.indent :: s.outerIndents }

/-- Skip one cell. -/
def skip (s : Scan) : Scan :=
  { s with cells := s.cells.drop 1 }

/-- Skip blanks, comments and line breaks. Tabs count as blanks where no key may begin, and a byte
order mark at the beginning of a line. -/
def skipGaps (inFlow : Bool) (keyAllowed inComment : Bool) : List Cell → List Cell × Bool
  | [] => ([], keyAllowed)
  | c :: rest =>
    if isBreak c.char then skipGaps inFlow (keyAllowed || !inFlow) false rest
    else if c.char = endMark then (c :: rest, keyAllowed)
    else if inComment || c.char = ' ' || (c.char = '\t' && (inFlow || !keyAllowed)) ||
        (c.char = '\ufeff' && c.column = 0) then
      skipGaps inFlow keyAllowed inComment rest
    else if c.char = '#' then skipGaps inFlow keyAllowed true rest
    else (c :: rest, keyAllowed)

/-- Go to the next token and close the block collections that end before it. -/
def toNext (s : Scan) : Option Scan := do
  let (cells, keyAllowed) := skipGaps s.inFlow s.keyAllowed false s.cells
  let s ← { s with cells := cells, keyAllowed := keyAllowed }.lapseAll
  return s.unroll s.here.column

/-- The end of the text. -/
def atEnd (s : Scan) : Option Scan := do
  let s ← (s.unroll (-1)).dropPossible
  return { s.push .streamEnd with keyAllowed := false, ended := true }

/-- A directive. -/
def directive (s : Scan) : Option Scan := do
  let s ← (s.unroll (-1)).dropPossible
  let (token, rest) ← readDirective s.cells
  return { s.push token with cells := rest, keyAllowed := false }

/-- The mark of the beginning or end of a document. -/
def documentMarker (s : Scan) (t : Token) : Option Scan := do
  let s ← (s.unroll (-1)).dropPossible
  return { s.push t with cells := s.cells.drop 3, keyAllowed := false }

/-- The beginning of a flow collection. -/
def openFlow (s : Scan) (t : Token) : Option Scan := do
  let s ← s.keepPossible
  return { s.push t with
    cells := s.cells.drop 1
    possible := none
    outerPossible := s.possible :: s.outerPossible
    keyAllowed := true }

/-- The end of a flow collection. -/
def closeFlow (s : Scan) (t : Token) : Option Scan := do
  let s ← s.dropPossible
  let (possible, outer) :=
    match s.outerPossible with
    | p :: rest => (p, rest)
    | [] => (none, [])
  return { s.push t with
    cells := s.cells.drop 1
    possible := possible
    outerPossible := outer
    keyAllowed := false }

/-- A comma in a flow collection. -/
def flowEntry (s : Scan) : Option Scan := do
  let s ← s.dropPossible
  return { s.skip.push .flowEntry with keyAllowed := true }

/-- A hyphen before an item of a block sequence. -/
def blockEntry (s : Scan) : Option Scan := do
  if !s.inFlow && !s.keyAllowed then none
  else
    let s := s.roll s.here.column s.tokens.size .blockSequenceStart
    let s ← s.dropPossible
    return { s.skip.push .blockEntry with keyAllowed := true }

/-- A question mark before a key. -/
def explicitKey (s : Scan) : Option Scan := do
  if !s.inFlow && !s.keyAllowed then none
  else
    let s := s.roll s.here.column s.tokens.size .blockMappingStart
    let s ← s.dropPossible
    return { s.skip.push .key with keyAllowed := !s.inFlow }

/-- A colon before a value. -/
def valueMark (s : Scan) : Option Scan :=
  match s.possible with
  | some k =>
    let s := { s with tokens := s.tokens.insertIdxIfInBounds k.position .key, possible := none }
    let s := s.roll k.cell.column k.position .blockMappingStart
    some { s.skip.push .value with keyAllowed := false }
  | none =>
    if !s.inFlow && !s.keyAllowed then none
    else
      let s := s.roll s.here.column s.tokens.size .blockMappingStart
      some { s.skip.push .value with keyAllowed := !s.inFlow }

/-- An anchor or alias. -/
def anchor (s : Scan) (t : String → Token) : Option Scan := do
  let s ← s.keepPossible
  let (name, rest) ← readAnchorName (s.cells.drop 1)
  return { s.push (t name) with cells := rest, keyAllowed := false }

/-- A tag. -/
def tag (s : Scan) : Option Scan := do
  let s ← s.keepPossible
  let (handle, tag, rest) ← Tag.read s.inFlow s.cells
  return { s.push (.tag handle tag) with cells := rest, keyAllowed := false }

/-- A block scalar. -/
def blockScalar (s : Scan) (style : Style) : Option Scan := do
  let s ← s.dropPossible
  let (text, rest) ← readBlock (style == .folded) s.indent (s.cells.drop 1)
  return { s.push (.scalar style (.ofList text)) with cells := rest, keyAllowed := true }

/-- A quoted scalar. -/
def quotedScalar (s : Scan) (single : Bool) : Option Scan := do
  let s ← s.keepPossible
  let (text, rest) ← readQuoted single (s.cells.drop 1) [] (.between .nothing)
  return { s.push (.scalar .quoted (.ofList text)) with cells := rest, keyAllowed := false }

/-- A plain scalar. -/
def plainScalar (s : Scan) : Option Scan := do
  let s ← s.keepPossible
  let (text, broken, rest) ← readPlain s.inFlow (s.indent + 1) s.cells [] .nothing
  return { s.push (.scalar .plain (.ofList text)) with cells := rest, keyAllowed := broken }

/-- The characters with which no plain scalar begins. -/
def isIndicator (c : Char) : Bool :=
  ['-', '?', ':', ',', '[', ']', '{', '}', '#', '&', '*', '!', '|', '>', '\'', '"', '%', '@',
    '\x60'].contains c

/-- Read the token that begins here. -/
def token (s : Scan) : Option Scan :=
  let c := s.here.char
  let gapNext := isGap (charAt s.cells 1)
  if c = endMark then s.atEnd
  else if s.here.column = 0 ∧ c = '%' then s.directive
  else if atMarker '-' s.cells then s.documentMarker .documentStart
  else if atMarker '.' s.cells then s.documentMarker .documentEnd
  else if c = '[' then s.openFlow .flowSequenceStart
  else if c = '{' then s.openFlow .flowMappingStart
  else if c = ']' then s.closeFlow .flowSequenceEnd
  else if c = '}' then s.closeFlow .flowMappingEnd
  else if c = ',' then s.flowEntry
  else if c = '-' ∧ gapNext then s.blockEntry
  else if c = '?' ∧ (s.inFlow ∨ gapNext) then s.explicitKey
  else if c = ':' ∧ (s.inFlow ∨ gapNext) then s.valueMark
  else if c = '*' then s.anchor .alias
  else if c = '&' then s.anchor .anchor
  else if c = '!' then s.tag
  else if c = '|' ∧ !s.inFlow then s.blockScalar .literal
  else if c = '>' ∧ !s.inFlow then s.blockScalar .folded
  else if c = '\'' then s.quotedScalar true
  else if c = '"' then s.quotedScalar false
  else if (!isGap c && !isIndicator c) ∨ (c = '-' ∧ !isBlank (charAt s.cells 1)) ∨
      (!s.inFlow ∧ (c = '?' ∨ c = ':') ∧ !gapNext) then s.plainScalar
  else none

/-- Read the next token. What it may be is told by four characters at most; and since a token ends
where another character follows, it cannot end where the text breaks off. -/
def fetch (s : Scan) : Option Scan := do
  let s ← s.toNext
  if reaches 4 s.cells then s.token.filter fun s => reaches 1 s.cells else none

/-- Read the tokens of a text; `count` of them are settled. -/
def run : Nat → Scan → Nat → List Token
  | 0, s, count => (s.tokens.toList).take count
  | fuel + 1, s, count =>
    match s.lapseAll with
    | none => (s.tokens.toList).take count
    | some s =>
      let count := max count s.settled
      if s.ended then s.tokens.toList
      else
        match s.fetch with
        | none => (s.tokens.toList).take count
        | some s => run fuel s count

end Scan

/-- The tokens of a text, as far as they can be read. -/
def Token.scan (cs : List Char) : List Token :=
  let cells := cells cs
  Scan.run (cells.length + 2) { cells := cells } 0

end NodeFlags.Yaml
