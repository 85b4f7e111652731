import NodeFlags.Json.Value
import NodeFlags.Schema.Reader

/-!
# Reading records from JSON

The kinds of value of a definition, read from JSON. Problems are met in the order of
the text: a value of the wrong kind at its place, a field given twice at its second
name, a missing field at the end of its record, a cut where the text breaks off.

A record is an object, whose unknown members are skipped, or an array of its fields
in their order, of which the last may be left out as far as they are not required.
A choice is a name, or an object with the name as its only key and `null` under it.
Only there is a key that is no text a value of the wrong kind; elsewhere it is a cut.
-/

namespace NodeFlags.Json

/-- Reading from JSON fails with a problem or not at all. -/
abbrev Read := Except ReadError

/-- A value that is of the wrong kind, unless it cannot be made out. -/
def wrongKind {α : Type} (v : Json) (want : String) : Read α :=
  match v.describe with
  | some got => .error (.data "" (.wrongKind got want))
  | none => .error .malformed

/-- Go on only if the end of an array or object was reached. -/
def atEnd {α : Type} (closed : Bool) (a : α) : Read α :=
  if closed then .ok a else .error .malformed

/-- A text. -/
def readText : Json → Read String
  | .text (some s) => .ok s
  | v => v.wrongKind "a string"

/-- A switch. -/
def readSwitch : Json → Read Bool
  | .bool b => .ok b
  | v => v.wrongKind "a boolean"

/-- The value of a name. -/
def readName {α : Type} (names : List (String × α)) (name : String) : Read α :=
  match names.lookup name with
  | some a => .ok a
  | none => .error (.data "" (.unknownVariant name (names.map (·.1))))

/-- One of the named values. -/
def readChoice {α : Type} (names : List (String × α)) : Json → Read α
  | .text (some s) => readName names s
  | .object ((some k, v) :: rest) closed => do
    let a ← readName names k
    match v with
    | .null => if rest.isEmpty then atEnd closed a else .error .malformed
    | v => v.wrongKind "unit"
  | .keyless found => found.wrongKind "variant identifier"
  | _ => .error .malformed

/-- A value that may be `null`. -/
def readOptional {α : Type} (inner : Json → Read α) : Json → Read (Option α)
  | .null => .ok none
  | v => some <$> inner v

/-- A list. -/
def readList {α : Type} (inner : Json → Read α) : Json → Read (List α)
  | .array items closed => do atEnd closed (← items.mapM inner)
  | v => v.wrongKind "a sequence"

/-- Members of a dictionary put into `acc`; of two with one key the later wins. -/
def readEntries {α : Type} (inner : Json → Read α) :
    List (Option String × Json) → Dict α → Read (Dict α)
  | [], acc => .ok acc
  | (none, _) :: _, _ => .error .malformed
  | (some k, v) :: rest, acc => do readEntries inner rest (acc.insert k (← inner v))

/-- A dictionary. -/
def readDict {α : Type} (inner : Json → Read α) : Json → Read (Dict α)
  | .object members closed => do atEnd closed (← readEntries inner members {})
  | .keyless _ => .error .malformed
  | v => v.wrongKind "a map"

/-- Members of a record put into `a`; `seen` holds the names of the fields met before. -/
def readFields {α : Type} (fields : List (Field Read Json α)) :
    List (Option String × Json) → List String → α → Read (α × List String)
  | [], seen, a => .ok (a, seen)
  | (none, _) :: _, _, _ => .error .malformed
  | (some k, v) :: rest, seen, a =>
    match fields.find? (·.name == k) with
    | none => if v.isWhole then readFields fields rest seen a else .error .malformed
    | some f =>
      if seen.contains k then .error (.data "" (.duplicateField k))
      else do
        let put ← f.read v
        readFields fields rest (k :: seen) (put a)

/-- Items of a record written as an array put into `a`; `index` items were read before. -/
def readPositions {α : Type} (record : String) (size : Nat) (closed : Bool) :
    List (Field Read Json α) → List Json → Nat → α → Read α
  | [], [], _, a => atEnd closed a
  | [], _ :: _, _, _ => .error .malformed
  | f :: fs, [], index, a =>
    if !closed then .error .malformed
    else if f.required then .error (.data "" (.wrongLength index record size))
    else readPositions record size closed fs [] (index + 1) a
  | f :: fs, v :: vs, index, a => do
    let put ← f.read v
    readPositions record size closed fs vs (index + 1) (put a)

/-- A record. -/
def readRecord {α : Type} (record : String) (fields : List (Field Read Json α)) (blank : α) :
    Json → Read α
  | .object members closed => do
    let (a, seen) ← readFields fields members [] blank
    let missing? ← atEnd closed (firstMissing? fields seen)
    match missing? with
    | some name => .error (.data "" (.missingField name))
    | none => .ok a
  | .array items closed => readPositions record fields.length closed fields items 0 blank
  | .keyless _ => .error .malformed
  | v => v.wrongKind ("struct " ++ record)

/-- How the kinds of value are read from JSON. -/
def reader : Reader Read Json where
  text := readText
  switch := readSwitch
  choice := readChoice
  optional := readOptional
  list := readList
  dict := readDict
  record := readRecord

end NodeFlags.Json
