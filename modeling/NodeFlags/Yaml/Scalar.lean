import NodeFlags.Yaml.Cell

/-!
# Scalars in YAML

How the text of a scalar is read in each of its styles: plain, between quotes, or as
a block of lines.

In plain and quoted scalars line breaks are folded. What stands between two words is
a `Gap`: nothing, blanks, or line breaks. Blanks stay as they are unless a line break
follows; a single line break becomes a blank, and of several the first is dropped.
In a block the same folding applies between lines that do not begin with a blank, if
the block asks for it.
-/

namespace NodeFlags.Yaml

/-- The style of a scalar. -/
inductive Style where
  | plain
  | quoted
  | literal
  | folded
  deriving DecidableEq, Repr

/-- What stands between two words of a plain or quoted scalar, characters in reverse. -/
inductive Gap where
  | nothing
  | blanks (cs : List Char)
  /-- Line breaks: the first, unless it was escaped, and the further ones. -/
  | lines (first : Option Char) (more : List Char)
  deriving DecidableEq, Repr

namespace Gap

/-- A gap with one more blank. -/
def addBlank (c : Char) : Gap → Gap
  | .nothing => .blanks [c]
  | .blanks cs => .blanks (c :: cs)
  | .lines first more => .lines first more

/-- A gap with one more line break. -/
def addBreak (c : Char) : Gap → Gap
  | .lines first more => .lines first (c :: more)
  | _ => .lines (some c) []

/-- Whether a gap holds a line break. -/
def hasBreak : Gap → Bool
  | .lines _ _ => true
  | _ => false

/-- The text that a gap leaves in the scalar, in reverse. -/
def fold : Gap → List Char
  | .nothing => []
  | .blanks cs => cs
  | .lines none more => more
  | .lines (some first) more =>
    if first = '\n' then (if more.isEmpty then [' '] else more) else more ++ [first]

end Gap

/-! ### Plain scalars -/

/-- Whether `c` ends or begins a flow collection. -/
def isFlowMark (c : Char) : Bool :=
  c = ',' || c = '[' || c = ']' || c = '{' || c = '}'

/-- A plain scalar that ends before some cells: its text, whether a line break follows it, and those
cells. `out` holds the text in reverse. -/
def endPlain (out : List Char) (gap : Gap) (rest : List Cell) : List Char × Bool × List Cell :=
  (out.reverse, gap.hasBreak, rest)

/-- Read a plain scalar: its text, whether a line break follows it, and the cells after it. `out`
holds the text so far in reverse, `indent` is the least column of a continuation line outside flow
collections. -/
def readPlain (inFlow : Bool) (indent : Int) :
    List Cell → List Char → Gap → Option (List Char × Bool × List Cell)
  | [], out, gap => some (endPlain out gap [])
  | cell :: rest, out, gap =>
    let c := cell.char
    if isBlank c then
      if gap.hasBreak && c = '\t' && (cell.column : Int) < indent then none
      else readPlain inFlow indent rest out (gap.addBlank c)
    else if isBreak c then readPlain inFlow indent rest out (gap.addBreak c)
    else if c = endMark then some (endPlain out gap (cell :: rest))
    else if gap != .nothing && ((!inFlow && (cell.column : Int) < indent) ||
        atDocumentMarker (cell :: rest) || c = '#') then
      some (endPlain out gap (cell :: rest))
    else
      let next := charAt rest 0
      if inFlow && c = ':' && (isFlowMark next || next = '?') then none
      else if (c = ':' && isGap next) || (inFlow && isFlowMark c) then
        some (endPlain out gap (cell :: rest))
      else readPlain inFlow indent rest (c :: gap.fold ++ out) .nothing

/-! ### Quoted scalars -/

/-- What an escape in a double-quoted scalar calls for. -/
inductive Escape where
  | char (c : Char)
  /-- A character code of so many hexadecimal digits. -/
  | code (digits : Nat)
  deriving DecidableEq, Repr

/-- The escape of a letter. -/
def Escape.ofLetter? (c : Char) : Option Escape :=
  [('0', .char '\x00'), ('a', .char '\x07'), ('b', .char '\x08'), ('t', .char '\t'),
   ('\t', .char '\t'), ('n', .char '\n'), ('v', .char '\x0b'), ('f', .char '\x0c'),
   ('r', .char '\r'), ('e', .char '\x1b'), (' ', .char ' '), ('"', .char '"'), ('/', .char '/'),
   ('\\', .char '\\'), ('N', .char '\u0085'), ('_', .char '\u00a0'), ('L', .char '\u2028'),
   ('P', .char '\u2029'), ('x', .code 2), ('u', .code 4), ('U', .code 8)].lookup c

/-- The character with a code, if there is one. -/
def charOfCode? (n : Nat) : Option Char :=
  if 0xD800 ≤ n ∧ n ≤ 0xDFFF ∨ 0x10FFFF < n then none else some (Char.ofNat n)

/-- Where the reading of a quoted scalar stands. -/
inductive QuoteState where
  /-- Between characters, after a gap. -/
  | between (gap : Gap)
  /-- Directly after a quote in a single-quoted scalar. -/
  | afterQuote
  /-- Directly after a backslash in a double-quoted scalar. -/
  | afterBackslash
  /-- In a character code with so many digits to come. -/
  | inCode (left value : Nat)
  deriving DecidableEq, Repr

/-- Read a quoted scalar from after its opening quote: its text and the cells after it. `out` holds
the text so far in reverse. -/
def readQuoted (single : Bool) :
    List Cell → List Char → QuoteState → Option (List Char × List Cell)
  | [], _, _ => none
  | cell :: rest, out, .afterQuote =>
    if cell.char = '\'' then readQuoted single rest ('\'' :: out) (.between .nothing)
    else some (out.reverse, cell :: rest)
  | cell :: rest, out, .afterBackslash =>
    if isBreak cell.char then readQuoted single rest out (.between (.lines none []))
    else
      match Escape.ofLetter? cell.char with
      | some (.char c) => readQuoted single rest (c :: out) (.between .nothing)
      | some (.code n) => readQuoted single rest out (.inCode n 0)
      | none => none
  | cell :: rest, out, .inCode left value =>
    match Text.hexValue? cell.char with
    | none => none
    | some digit =>
      if left ≤ 1 then
        match charOfCode? (value * 16 + digit) with
        | some c => readQuoted single rest (c :: out) (.between .nothing)
        | none => none
      else readQuoted single rest out (.inCode (left - 1) (value * 16 + digit))
  | cell :: rest, out, .between gap =>
    let c := cell.char
    if gap != .nothing && atDocumentMarker (cell :: rest) then none
    else if isBlank c then readQuoted single rest out (.between (gap.addBlank c))
    else if isBreak c then readQuoted single rest out (.between (gap.addBreak c))
    else if c = endMark then none
    else if single && c = '\'' then readQuoted single rest (gap.fold ++ out) .afterQuote
    else if !single && c = '"' then some ((gap.fold ++ out).reverse, rest)
    else if !single && c = '\\' then readQuoted single rest (gap.fold ++ out) .afterBackslash
    else readQuoted single rest (c :: gap.fold ++ out) (.between .nothing)

/-! ### Block scalars -/

/-- What happens to the line breaks at the end of a block. -/
inductive Chomping where
  /-- All are dropped. -/
  | strip
  /-- One is kept. -/
  | clip
  /-- All are kept. -/
  | keep
  deriving DecidableEq, Repr

/-- Read a chomping indicator. -/
def readChomping (cells : List Cell) : Option Chomping × List Cell :=
  match cells with
  | c :: rest =>
    if c.char = '+' then (some .keep, rest)
    else if c.char = '-' then (some .strip, rest)
    else (none, cells)
  | [] => (none, [])

/-- Read an indentation indicator, a digit from 1 to 9. -/
def readIndentation (cells : List Cell) : Option (Option Nat × List Cell) :=
  match cells with
  | c :: rest =>
    if c.char = '0' then none
    else if Text.isDigit c.char then some (some (Text.digitValue c.char), rest)
    else some (none, cells)
  | [] => some (none, [])

/-- Read the two indicators of a block in either order. -/
def readIndicators (cells : List Cell) : Option (Chomping × Option Nat × List Cell) :=
  match readChomping cells with
  | (some chomping, rest) => do
    let (increment, rest) ← readIndentation rest
    return (chomping, increment, rest)
  | (none, rest) => do
    match ← readIndentation rest with
    | (some n, rest) =>
      let (chomping, rest) := readChomping rest
      return (chomping.getD .clip, some n, rest)
    | (none, rest) => return (.clip, none, rest)

/-- Skip blanks, a comment and the line break after them. -/
def skipLineEnd (cells : List Cell) : Option (List Cell) :=
  let rest := skipUntil (!isBlank ·) cells
  let rest := if charAt rest 0 = '#' then skipUntil isBreakOrEnd rest else rest
  match rest with
  | [] => some []
  | c :: more =>
    if isBreak c.char then some more
    else if c.char = endMark then some (c :: more)
    else none

/-- Skip the indentation of a line and the empty lines before it: the line breaks in reverse, the
greatest column reached, and the cells after them. Without an indentation, any is skipped. -/
def skipIndentation (indent : Option Nat) (breaks : List Char) (reached : Nat) :
    List Cell → Option (List Char × Nat × List Cell)
  | [] => some (breaks, reached, [])
  | c :: rest =>
    let inside := match indent with
      | none => true
      | some n => c.column < n
    if inside && c.char = ' ' then skipIndentation indent breaks reached rest
    else if inside && c.char = '\t' then none
    else if isBreak c.char then
      skipIndentation indent (c.char :: breaks) (max reached c.column) rest
    else some (breaks, max reached c.column, c :: rest)

/-- Read the lines of a block. `out`, `leading` and `trailing` hold in reverse the text so far, the
line break after it and the breaks of the empty lines after that; `afterBlank` tells whether the
last line begins with a blank. -/
def readLines (folded : Bool) (indent : Nat) (chomping : Chomping) :
    Nat → List Cell → (out leading trailing : List Char) → (afterBlank : Bool) →
      Option (List Char × List Cell)
  | 0, _, _, _, _, _ => none
  | fuel + 1, cells, out, leading, trailing, afterBlank =>
    if columnOf cells = indent && charAt cells 0 != endMark then
      let blank := isBlank (charAt cells 0)
      let joined :=
        if folded && leading = ['\n'] && !afterBlank && !blank then
          if trailing.isEmpty then ' ' :: out else trailing ++ out
        else trailing ++ leading ++ out
      let (line, rest) := takeUntil isBreakOrEnd cells
      let (leading, rest) :=
        match rest with
        | c :: more => if isBreak c.char then ([c.char], more) else ([], rest)
        | [] => ([], [])
      match skipIndentation (some indent) [] 0 rest with
      | none => none
      | some (trailing, _, rest) =>
        readLines folded indent chomping fuel rest (line.reverse ++ joined) leading trailing blank
    else
      let kept :=
        match chomping with
        | .strip => out
        | .clip => leading ++ out
        | .keep => trailing ++ leading ++ out
      some (kept.reverse, cells)

/-- Read a block scalar from after its first character: its text and the cells after it. `parent` is
the indentation of the collection that holds it. -/
def readBlock (folded : Bool) (parent : Int) (cells : List Cell) :
    Option (List Char × List Cell) := do
  let (chomping, increment, rest) ← readIndicators cells
  let rest ← skipLineEnd rest
  let given := increment.map fun n => (max parent 0).toNat + n
  let (breaks, reached, rest) ← skipIndentation given [] 0 rest
  let indent := given.getD (max (max reached (parent + 1).toNat) 1)
  readLines folded indent chomping (rest.length + 1) rest [] [] breaks false

end NodeFlags.Yaml
