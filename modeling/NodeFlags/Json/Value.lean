import NodeFlags.Json.Token
import NodeFlags.Text.Quoted

/-!
# Values of JSON

A value as far as it can be read. Where the tokens stop making sense the value is
cut: `missing` stands in the place of what should have followed, and every array
and object around it is left open. An object that has something else where its first
key is due keeps that instead (`keyless`). So a cut value still tells what was read before
the cut, and a reader that takes it from the front meets its problems in the order
of the text.
-/

namespace NodeFlags

/-- A JSON value, possibly cut. -/
inductive Json where
  | null
  | bool (value : Bool)
  | number (value : Json.Number)
  /-- A text; it has no value if half a surrogate pair stands alone in it. -/
  | text (value : Option String)
  /-- The items of an array, and whether its end was reached. -/
  | array (items : List Json) (closed : Bool)
  /-- The members of an object in their order, and whether its end was reached. -/
  | object (members : List (Option String × Json)) (closed : Bool)
  /-- An object that breaks off because this stands where its first key is due. -/
  | keyless (found : Json)
  /-- The place where a value was due. -/
  | missing

namespace Json

/-! ### From tokens -/

mutual

/-- Read a value, looking at most `fuel` levels and items ahead. -/
def readValue : Nat → List Token → Json × List Token
  | 0, _ => (.missing, [])
  | fuel + 1, ts =>
    match ts with
    | .null :: ts => (.null, ts)
    | .bool b :: ts => (.bool b, ts)
    | .number n :: ts => (.number n, ts)
    | .text s :: ts => (.text s, ts)
    | .openArray :: .closeArray :: ts => (.array [] true, ts)
    | .openArray :: ts =>
      let (items, closed, ts) := readItems fuel ts
      (.array items closed, ts)
    | .openObject :: .closeObject :: ts => (.object [] true, ts)
    | .openObject :: .text k :: ts =>
      let (members, closed, ts) := readMembers fuel (.text k :: ts)
      (.object members closed, ts)
    | .openObject :: ts => (.keyless (readValue fuel ts).1, [])
    | _ => (.missing, [])

/-- Read the items of an array, of which there is at least one, and its end. -/
def readItems : Nat → List Token → List Json × Bool × List Token
  | 0, _ => ([], false, [])
  | fuel + 1, ts =>
    match readValue fuel ts with
    | (v, .comma :: ts) =>
      let (vs, closed, ts) := readItems fuel ts
      (v :: vs, closed, ts)
    | (v, .closeArray :: ts) => ([v], true, ts)
    | (v, _) => ([v], false, [])

/-- Read the members of an object, of which there is at least one, and its end. -/
def readMembers : Nat → List Token → List (Option String × Json) × Bool × List Token
  | 0, _ => ([], false, [])
  | fuel + 1, ts =>
    match ts with
    | .text k :: .colon :: ts =>
      match readValue fuel ts with
      | (v, .comma :: ts) =>
        let (ms, closed, ts) := readMembers fuel ts
        ((k, v) :: ms, closed, ts)
      | (v, .closeObject :: ts) => ([(k, v)], true, ts)
      | (v, _) => ([(k, v)], false, [])
    | .text k :: _ => ([(k, .missing)], false, [])
    | _ => ([], false, [])

end

/-- The value at the head of a list of tokens, and the tokens after it. -/
def ofTokens (ts : List Token) : Json × List Token :=
  readValue (2 * ts.length + 1) ts

/-- Read a text: the value, and whether only blanks follow it. -/
def read (cs : List Char) : Json × Bool :=
  let (v, rest) := ofTokens (Token.scan cs)
  (v, rest.isEmpty)

/-! ### Looking at values -/

mutual

/-- Whether a value is not cut. -/
def isWhole : Json → Bool
  | .array items closed => closed && itemsWhole items
  | .object members closed => closed && membersWhole members
  | .keyless _ => false
  | .missing => false
  | _ => true

/-- Whether no item is cut. -/
def itemsWhole : List Json → Bool
  | [] => true
  | v :: vs => v.isWhole && itemsWhole vs

/-- Whether no member is cut. -/
def membersWhole : List (Option String × Json) → Bool
  | [] => true
  | (_, v) :: ms => v.isWhole && membersWhole ms

end

/-- How a message names a value; nothing if the value cannot be made out. -/
def describe : Json → Option String
  | .null => some "null"
  | .bool b => some ("boolean `" ++ toString b ++ "`")
  | .number n => n.describe
  | .text s => s.map fun s => "string " ++ Text.quoteText s
  | .array _ _ => some "sequence"
  | .object _ _ => some "map"
  | .keyless _ => some "map"
  | .missing => none

/-! ### Making values -/

/-- A text. -/
def ofText (s : String) : Json :=
  .text (some s)

/-- An array. -/
def ofItems (items : List Json) : Json :=
  .array items true

/-- An object with the given members in their order. -/
def ofMembers (members : List (String × Json)) : Json :=
  .object (members.map fun m => (some m.1, m.2)) true

/-- A natural number. -/
def ofNat (n : Nat) : Json :=
  .number (.ofNat n)

end Json

end NodeFlags
