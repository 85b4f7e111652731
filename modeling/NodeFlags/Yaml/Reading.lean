import NodeFlags.Schema.Reader
import NodeFlags.Yaml.Node

/-!
# Reading records from YAML

The kinds of value of a definition, read from the nodes of a document. A problem is
reported with the place of its value, the keys and item numbers on the way to it from
the root; a value of the wrong kind is only malformed.

* A text is any scalar as it is written.
* A switch is a plain scalar with one of six words.
* An optional value is absent if it is written as nothing, as a tilde or as null.
* A list, dictionary or record may be written as nothing and is then empty.
* A choice is a scalar with the name, or a tag with an exclamation mark and the name, and
  nothing or null after it.

An alias stands for the node with its number. The number of aliases followed is
limited in proportion to the size of the document.
-/

namespace NodeFlags.Yaml

/-- A node and its place. -/
structure Located where
  place : String
  node : Node

/-- Reading counts the aliases followed. -/
abbrev Read := StateT Nat (Except ReadError)

/-- What reading needs to know about the document. -/
structure Scope where
  /-- The anchored nodes, the later ones first. -/
  anchored : List (Nat × Node)
  /-- How many aliases may be followed. -/
  limit : Nat

/-- The scope of a tree. -/
def Scope.ofRoot (root : Node) : Scope where
  anchored := root.anchored []
  limit := 100 * root.eventCount

/-- The text is not well formed, or in a way that is not told apart from that. -/
def malformed {α : Type} : Read α :=
  throw .malformed

/-- The place of the value under a key. -/
def placeOfKey (place : String) (key : String) : String :=
  if place.isEmpty then key else place ++ "." ++ key

/-- The place of the value under a key that is not a scalar itself. -/
def placeOfOther (place : String) : String :=
  if place.isEmpty then "?" else place ++ "." ++ "?"

/-- The place of an item. -/
def placeOfItem (place : String) (index : Nat) : String :=
  place ++ "[" ++ toString index ++ "]"

/-- Run a reader and give a problem without a place this one. -/
def locate {α : Type} (place : String) (r : Read α) : Read α := fun n =>
  match r n with
  | .error (.data "" problem) => .error (.data place problem)
  | other => other

/-- Whether a text is one of the words for null. -/
def isNullWord (text : String) : Bool :=
  ["~", "null", "Null", "NULL"].contains text

/-- The switch of a word. -/
def switchOfWord? (text : String) : Option Bool :=
  [("true", true), ("True", true), ("TRUE", true), ("false", false), ("False", false),
    ("FALSE", false)].lookup text

/-- Whether a scalar is written as nothing. -/
def isNothing (style : Style) (text : String) : Bool :=
  style == .plain && text.isEmpty

namespace Scope

variable (scope : Scope)

/-- The node itself, or the node that an alias stands for. -/
def follow (x : Located) : Read Located := do
  match x.node with
  | .alias id =>
    let count ← get
    if scope.limit < count + 1 then malformed
    else
      set (count + 1)
      match scope.anchored.lookup id with
      | some node => return { x with node := node }
      | none => malformed
  | _ => return x

/-- A text. -/
def readText (x : Located) : Read String := do
  match (← scope.follow x).node with
  | .scalar _ _ text => return text
  | _ => malformed

/-- A switch. -/
def readSwitch (x : Located) : Read Bool := do
  match (← scope.follow x).node with
  | .scalar props style text =>
    if style = .plain ∨ (style = .literal ∧ props.tag = some .bool) then
      match switchOfWord? text with
      | some b => return b
      | none => malformed
    else malformed
  | _ => malformed

/-- The value of a name. -/
def readName {α : Type} (names : List (String × α)) (name : String) : Read α :=
  match names.lookup name with
  | some a => return a
  | none => throw (.data "" (.unknownVariant name (names.map (·.1))))

/-- One of the named values, from a node that is no alias. A tag is looked at on behalf of the
record that holds the choice, so a name that comes from a tag has no place of its own. -/
def readWrittenChoice {α : Type} (names : List (String × α)) (x : Located) : Read α := do
  match x.node with
  | .scalar props style text =>
    match props.tag.bind Tag.name? with
    | some name => do
      let a ← readName names name
      if style = .plain ∧ (text.isEmpty ∨ isNullWord text) then return a else malformed
    | none => locate x.place (readName names text)
  | .sequence props _ _ => readCollectionName props
  | .mapping props _ _ => readCollectionName props
  | _ => malformed
where
  /-- A collection is no choice, but the name that its tag gives is looked at first. -/
  readCollectionName (props : Properties) : Read α := do
    if let some name := props.tag.bind Tag.name? then
      let _ ← readName names name
    malformed

/-- One of the named values. An alias has its own place, whatever it stands for. -/
def readChoice {α : Type} (names : List (String × α)) (x : Located) : Read α := do
  match x.node with
  | .alias _ => locate x.place (readWrittenChoice names (← scope.follow x))
  | _ => readWrittenChoice names x

/-- A value that may be absent. -/
def readOptional {α : Type} (inner : Located → Read α) (x : Located) : Read (Option α) := do
  let x ← scope.follow x
  match x.node with
  | .scalar props .plain text =>
    match props.tag with
    | none => if text.isEmpty || isNullWord text then return none else some <$> inner x
    | some tag =>
      if tag = .null then
        if isNullWord text then return none else malformed
      else some <$> inner x
  | .missing => malformed
  | _ => some <$> inner x

/-- Items from number `index` on. -/
def readItems {α : Type} (inner : Located → Read α) (place : String) :
    Nat → List Node → Read (List α)
  | _, [] => return []
  | index, n :: rest => do
    let a ← inner ⟨placeOfItem place index, n⟩
    return a :: (← readItems inner place (index + 1) rest)

/-- Go on only if the end of a collection was reached. -/
def atEnd {α : Type} (closed : Bool) (a : α) : Read α :=
  if closed then return a else malformed

/-- A list. -/
def readList {α : Type} (inner : Located → Read α) (x : Located) : Read (List α) := do
  let x ← scope.follow x
  match x.node with
  | .sequence _ items closed => do atEnd closed (← readItems inner x.place 0 items)
  | .scalar _ style text => if isNothing style text then return [] else malformed
  | _ => malformed

/-- The place of the value of an entry. -/
def placeOfEntry (place : String) (key : Node) : String :=
  match key with
  | .scalar _ _ text => placeOfKey place text
  | _ => placeOfOther place

/-- Entries of a dictionary put into `acc`; of two with one key the later wins. -/
def readEntries {α : Type} (inner : Located → Read α) (place : String) :
    List (Node × Node) → Dict α → Read (Dict α)
  | [], acc => return acc
  | (k, v) :: rest, acc => do
    let key ← scope.readText ⟨place, k⟩
    let a ← inner ⟨placeOfEntry place k, v⟩
    readEntries inner place rest (acc.insert key a)

/-- A dictionary. -/
def readDict {α : Type} (inner : Located → Read α) (x : Located) : Read (Dict α) := do
  let x ← scope.follow x
  match x.node with
  | .mapping _ entries closed => do atEnd closed (← scope.readEntries inner x.place entries {})
  | .scalar _ style text => if isNothing style text then return {} else malformed
  | _ => malformed

/-- Entries of a record put into `a`; `seen` holds the names of the fields met before. -/
def readFields {α : Type} (fields : List (Field Read Located α)) (place : String) :
    List (Node × Node) → List String → α → Read (α × List String)
  | [], seen, a => return (a, seen)
  | (k, v) :: rest, seen, a => do
    let key ← scope.readText ⟨place, k⟩
    match fields.find? (·.name == key) with
    | none => if v.isWhole then readFields fields place rest seen a else malformed
    | some f =>
      if seen.contains key then throw (.data place (.duplicateField key))
      else
        let put ← f.read ⟨placeOfEntry place k, v⟩
        readFields fields place rest (key :: seen) (put a)

/-- A record of the given entries. -/
def readRecordOf {α : Type} (fields : List (Field Read Located α)) (blank : α) (place : String)
    (entries : List (Node × Node)) (closed : Bool) : Read α := do
  let (a, seen) ← scope.readFields fields place entries [] blank
  let missing? ← atEnd closed (firstMissing? fields seen)
  match missing? with
  | some name => throw (.data place (.missingField name))
  | none => return a

/-- A record. -/
def readRecord {α : Type} (_name : String) (fields : List (Field Read Located α)) (blank : α)
    (x : Located) : Read α := do
  let x ← scope.follow x
  locate x.place <|
    match x.node with
    | .mapping _ entries closed => scope.readRecordOf fields blank x.place entries closed
    | .scalar _ style text =>
      if isNothing style text then scope.readRecordOf fields blank x.place [] true else malformed
    | _ => malformed

/-- How the kinds of value are read from the nodes of a document. -/
def reader : Reader Read Located where
  text := scope.readText
  switch := scope.readSwitch
  choice := scope.readChoice
  optional := scope.readOptional
  list := scope.readList
  dict := scope.readDict
  record := scope.readRecord

end Scope

end NodeFlags.Yaml
