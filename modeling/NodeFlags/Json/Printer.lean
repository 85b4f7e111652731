import NodeFlags.Json.Value

/-!
# Writing JSON

Two ways to write a value: compactly, without blanks, and laid out over lines, each
item or member on a line of its own and two blanks deeper than what holds it. An
empty array or object is written `[]` or `{}` either way. What is missing from a
cut value is written as nothing.
-/

namespace NodeFlags.Json

/-- A key as it is written. -/
def renderKey (key : Option String) : List Char :=
  (Token.text key).render

mutual

/-- A value without blanks. -/
def compactChars : Json → List Char
  | .null => Token.null.render
  | .bool b => (Token.bool b).render
  | .number n => n.render
  | .text s => (Token.text s).render
  | .array items _ => '[' :: compactItems items ++ [']']
  | .object members _ => '{' :: compactMembers members ++ ['}']
  | .keyless _ => ['{', '}']
  | .missing => []

/-- Items joined by commas. -/
def compactItems : List Json → List Char
  | [] => []
  | v :: vs => v.compactChars ++ compactMoreItems vs

/-- Items with a comma before each. -/
def compactMoreItems : List Json → List Char
  | [] => []
  | v :: vs => ',' :: v.compactChars ++ compactMoreItems vs

/-- Members joined by commas. -/
def compactMembers : List (Option String × Json) → List Char
  | [] => []
  | (k, v) :: ms => renderKey k ++ ':' :: v.compactChars ++ compactMoreMembers ms

/-- Members with a comma before each. -/
def compactMoreMembers : List (Option String × Json) → List Char
  | [] => []
  | (k, v) :: ms => ',' :: renderKey k ++ ':' :: v.compactChars ++ compactMoreMembers ms

end

/-- A new line at a depth. -/
def newLine (depth : Nat) : List Char :=
  '\n' :: List.replicate (2 * depth) ' '

mutual

/-- A value over lines, at a depth. -/
def prettyChars (depth : Nat) : Json → List Char
  | .null => Token.null.render
  | .bool b => (Token.bool b).render
  | .number n => n.render
  | .text s => (Token.text s).render
  | .array [] _ => ['[', ']']
  | .array (v :: vs) _ =>
    '[' :: newLine (depth + 1) ++ prettyChars (depth + 1) v ++ prettyMoreItems (depth + 1) vs ++
      newLine depth ++ [']']
  | .object [] _ => ['{', '}']
  | .object ((k, v) :: ms) _ =>
    '{' :: newLine (depth + 1) ++ renderKey k ++ ':' :: ' ' :: prettyChars (depth + 1) v ++
      prettyMoreMembers (depth + 1) ms ++ newLine depth ++ ['}']
  | .keyless _ => ['{', '}']
  | .missing => []

/-- Items with a comma and a new line before each. -/
def prettyMoreItems (depth : Nat) : List Json → List Char
  | [] => []
  | v :: vs => ',' :: newLine depth ++ prettyChars depth v ++ prettyMoreItems depth vs

/-- Members with a comma and a new line before each. -/
def prettyMoreMembers (depth : Nat) : List (Option String × Json) → List Char
  | [] => []
  | (k, v) :: ms =>
    ',' :: newLine depth ++ renderKey k ++ ':' :: ' ' :: prettyChars depth v ++
      prettyMoreMembers depth ms

end

/-- A value as a text without blanks. -/
def compact (v : Json) : String :=
  .ofList v.compactChars

/-- A value as a text over lines. -/
def pretty (v : Json) : String :=
  .ofList (prettyChars 0 v)

end NodeFlags.Json
