import NodeFlags.Yaml.Cell

/-!
# Tags in YAML

A tag says what kind of value a node holds. It is written out between angle brackets,
or as a handle, which stands for the beginning of the tag, and the rest of it.

A tag is a list of bytes: a percent sign and two hexadecimal digits stand for any byte.
Escaped bytes come in groups, of which the first byte tells the length as it does in
UTF-8, but nothing more is asked of them, so that a tag need not spell a text. A NUL
byte ends the tag.
-/

namespace NodeFlags.Yaml

/-- A tag, or a part of one, as the bytes that it stands for. -/
structure Tag where
  bytes : List UInt8
  deriving DecidableEq, Repr

namespace Tag

/-- The tag that some bytes stand for, up to the first NUL byte. -/
def ofBytes (bytes : List UInt8) : Tag :=
  ⟨bytes.takeWhile (· != 0)⟩

/-- The tag that a text spells. -/
def ofText (text : String) : Tag :=
  ofBytes text.toUTF8.toList

/-- The tag that begins with `a` and goes on with `b`. -/
instance : Append Tag where
  append a b := ⟨a.bytes ++ b.bytes⟩

/-- What the tags for the common kinds of value begin with. -/
def common : Tag :=
  ofText "tag:yaml.org,2002:"

/-- The tag for null. -/
def null : Tag :=
  common ++ ofText "null"

/-- The tag for switches. -/
def bool : Tag :=
  common ++ ofText "bool"

/-- The text that a tag spells, if it spells one. -/
def text? (tag : Tag) : Option String :=
  String.fromUTF8? ⟨tag.bytes.toArray⟩

/-- The name that a tag gives: what follows its exclamation mark, or the mark if it stands alone. A
tag that begins with anything else, or spells no text, gives none. -/
def name? (tag : Tag) : Option String :=
  tag.text?.bind fun text =>
    match text.toList with
    | ['!'] => some "!"
    | '!' :: name => some (.ofList name)
    | _ => none

/-! ### Reading -/

/-- Whether `c` may stand in a tag; some marks only between angle brackets. -/
def isTagChar (verbatim : Bool) (c : Char) : Bool :=
  isNameChar c || (verbatim && [',', '[', ']'].contains c) ||
    [';', '/', '?', ':', '@', '&', '=', '+', '$', '.', '%', '!', '~', '*', '\'', '(', ')'].contains
      c

/-- The number of bytes that follow the first byte of a group. -/
def furtherBytes? (first : Nat) : Option Nat :=
  if first < 0x80 then some 0
  else if first < 0xC0 then none
  else if first < 0xE0 then some 1
  else if first < 0xF0 then some 2
  else if first < 0xF8 then some 3
  else none

/-- The bytes that are still due in a group after a byte, where `due` were due with it; 0 is between
groups. -/
def dueAfter? (due byte : Nat) : Option Nat :=
  if due = 0 then furtherBytes? byte
  else if 0x80 ≤ byte ∧ byte < 0xC0 then some (due - 1)
  else none

/-- The bytes that the characters of a tag stand for, where `due` escaped bytes are due first. -/
def unescape (due : Nat) : List Char → Option (List UInt8)
  | [] => if due = 0 then some [] else none
  | '%' :: a :: b :: rest => do
    let byte := (← Text.hexValue? a) * 16 + (← Text.hexValue? b)
    let due ← dueAfter? due byte
    return .ofNat byte :: (← unescape due rest)
  | c :: rest =>
    if due = 0 ∧ c ≠ '%' then (unescape 0 rest).map (c.toUInt8 :: ·) else none

/-- Read the characters of a tag, of which there may be none: the bytes that they stand for. -/
def readBytes (verbatim : Bool) (cells : List Cell) : Option (List UInt8 × List Cell) :=
  let (cs, rest) := takeUntil (!isTagChar verbatim ·) cells
  (unescape 0 cs).map fun bytes => (bytes, rest)

/-- Read a tag handle: an exclamation mark, and possibly a name and another one. -/
def readHandle (cells : List Cell) : Option (List Char × List Cell) :=
  match cells with
  | [] => none
  | c :: rest =>
    if c.char = '!' then
      let (name, rest) := takeUntil (!isNameChar ·) rest
      if charAt rest 0 = '!' then some ('!' :: name ++ ['!'], rest.drop 1)
      else some ('!' :: name, rest)
    else none

/-- Whether a handle ends with an exclamation mark of its own. -/
def isFullHandle (handle : List Char) : Bool :=
  2 ≤ handle.length && handle.getLast? = some '!'

/-- Read a tag between angle brackets, from the first bracket on. -/
def readVerbatim (cells : List Cell) : Option (Tag × List Cell) := do
  let (bytes, rest) ← readBytes true (cells.drop 1)
  if bytes.isEmpty ∨ charAt rest 0 ≠ '>' then none else some (ofBytes bytes, rest.drop 1)

/-- Read a tag that begins with a handle: the handle and the rest of the tag. A name without an
exclamation mark after it belongs to the tag, and a mark that stands alone is the whole tag. -/
def readShort (cells : List Cell) : Option (String × Tag × List Cell) := do
  let (handle, rest) ← readHandle cells
  let (bytes, rest) ← readBytes false rest
  if isFullHandle handle then
    if bytes.isEmpty then none else some (.ofList handle, ofBytes bytes, rest)
  else
    let tag := ofText (.ofList (handle.drop 1)) ++ ofBytes bytes
    if tag.bytes.isEmpty then some ("", ofText "!", rest) else some ("!", tag, rest)

/-- Read a tag: its handle, which is empty if the tag has none, and the rest of it. -/
def read (inFlow : Bool) (cells : List Cell) : Option (String × Tag × List Cell) := do
  let (handle, tag, rest) ←
    if charAt cells 1 = '<' then (readVerbatim (cells.drop 1)).map fun r => ("", r.1, r.2)
    else readShort cells
  if isGap (charAt rest 0) ∨ (inFlow ∧ charAt rest 0 = ',') then some (handle, tag, rest)
  else none

end Tag

end NodeFlags.Yaml
