import NodeFlags.Json.Number
import NodeFlags.Json.Text

/-!
# Tokens of JSON

A JSON text is a sequence of tokens with blanks between them. `Token.scan` takes a
text apart from left to right; where no token can be read, the list ends with
`broken`.
-/

namespace NodeFlags.Json

/-- A token. -/
inductive Token where
  | openObject
  | closeObject
  | openArray
  | closeArray
  | comma
  | colon
  | null
  | bool (value : Bool)
  | number (value : Number)
  /-- A text; it has no value if half a surrogate pair stands alone in it. -/
  | text (value : Option String)
  /-- The place where no token can be read. -/
  | broken
  deriving DecidableEq, Repr

namespace Token

/-- The blanks between tokens. -/
def isBlank (c : Char) : Bool :=
  c = ' ' || c = '\t' || c = '\n' || c = '\r'

/-- The tokens of one character. -/
def ofMark? (c : Char) : Option Token :=
  if c = '{' then some .openObject
  else if c = '}' then some .closeObject
  else if c = '[' then some .openArray
  else if c = ']' then some .closeArray
  else if c = ',' then some .comma
  else if c = ':' then some .colon
  else none

/-- Read the token at the head of a text that does not begin with a blank. -/
def read? (cs : List Char) : Option (Token × List Char) :=
  match cs with
  | [] => none
  | 'n' :: 'u' :: 'l' :: 'l' :: rest => some (.null, rest)
  | 't' :: 'r' :: 'u' :: 'e' :: rest => some (.bool true, rest)
  | 'f' :: 'a' :: 'l' :: 's' :: 'e' :: rest => some (.bool false, rest)
  | '"' :: rest => (readPieces rest).map fun r => (.text ((decode r.1).map .ofList), r.2)
  | c :: rest =>
    match ofMark? c with
    | some t => some (t, rest)
    | none => (Number.read cs).map fun r => (.number r.1, r.2)

theorem read?_length {cs : List Char} {r : Token × List Char} (h : read? cs = some r) :
    r.2.length < cs.length := by
  unfold read? at h
  split at h
  · cases h
  · cases h
    simp only [List.length_cons]
    omega
  · cases h
    simp only [List.length_cons]
    omega
  · cases h
    simp only [List.length_cons]
    omega
  · obtain ⟨q, hq, rfl⟩ := Option.map_eq_some_iff.1 h
    have := readPieces_length hq
    simp only [List.length_cons]
    omega
  · split at h
    · cases h
      simp
    · obtain ⟨q, hq, rfl⟩ := Option.map_eq_some_iff.1 h
      exact Number.read_length hq

/-- The tokens of a text. -/
def scan (cs : List Char) : List Token :=
  match cs with
  | [] => []
  | c :: rest =>
    if isBlank c then scan rest
    else
      match h : read? (c :: rest) with
      | none => [.broken]
      | some (t, rest') =>
        have : rest'.length < rest.length + 1 := read?_length h
        t :: scan rest'
termination_by cs.length
decreasing_by
  · simp
  · simpa

/-- A token as it is written. -/
def render : Token → List Char
  | .openObject => ['{']
  | .closeObject => ['}']
  | .openArray => ['[']
  | .closeArray => [']']
  | .comma => [',']
  | .colon => [':']
  | .null => ['n', 'u', 'l', 'l']
  | .bool true => ['t', 'r', 'u', 'e']
  | .bool false => ['f', 'a', 'l', 's', 'e']
  | .number n => n.render
  | .text (some s) => quote s
  | .text none => ['"', '"']
  | .broken => []

end Token

end NodeFlags.Json
