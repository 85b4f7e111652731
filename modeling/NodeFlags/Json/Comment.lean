/-!
# Comments in JSON

A definition in JSON may hold comments, which the format itself does not know: from
`//` to the end of the line, and from `/*` to the next `*/`. They are removed before
the text is read. A line comment leaves its line feed; a block comment leaves
nothing, and one that is never closed reaches to the end of the text. Inside texts
nothing is a comment.

Removal is a walk over the characters with five states. It knows nothing else of
the format, so it is defined for every text.
-/

namespace NodeFlags.Json.Comment

/-- Where the walk stands. -/
inductive State where
  /-- Outside texts and comments. -/
  | outside
  /-- Inside a text. -/
  | inText
  /-- Inside a text, after a backslash. -/
  | escaped
  /-- Inside a line comment. -/
  | inLine
  /-- Inside a block comment; `star` tells that the character before was a star. -/
  | inBlock (star : Bool)
  deriving DecidableEq, Repr

/-- Walk over a text from a state, keeping what is no comment. -/
def stripFrom : State → List Char → List Char
  | _, [] => []
  | .outside, '/' :: '/' :: rest => stripFrom .inLine rest
  | .outside, '/' :: '*' :: rest => stripFrom (.inBlock false) rest
  | .outside, c :: rest => c :: stripFrom (if c = '"' then .inText else .outside) rest
  | .inText, c :: rest =>
    c :: stripFrom (if c = '\\' then .escaped else if c = '"' then .outside else .inText) rest
  | .escaped, c :: rest => c :: stripFrom .inText rest
  | .inLine, c :: rest => if c = '\n' then c :: stripFrom .outside rest else stripFrom .inLine rest
  | .inBlock star, c :: rest =>
    stripFrom (if star && c = '/' then .outside else .inBlock (c = '*')) rest

/-- A text without its comments. -/
def strip (cs : List Char) : List Char :=
  stripFrom .outside cs

/-- A text without its comments. -/
def stripText (s : String) : String :=
  .ofList (strip s.toList)

end NodeFlags.Json.Comment
