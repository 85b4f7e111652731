import NodeFlags.Yaml.Token

/-!
# Nodes of YAML

The first document of a text as a tree of nodes, as far as it can be read. Where the
tokens stop making sense the tree is cut: `missing` stands in the place of the node
that should have followed, and the collections around it are left open.

An anchor is known by a number: the count of distinct names known when it was met. A
name that is used again takes a new number without adding to the count, so that two
anchors may share one; the later node of the document then holds it. An alias has the
number of its name at its place, and an alias of an unknown name cuts the tree.
-/

namespace NodeFlags.Yaml

/-- The anchor and tag of a node. -/
structure Properties where
  /-- The number of the anchor. -/
  anchor : Option Nat := none
  /-- The full tag. -/
  tag : Option Tag := none
  deriving DecidableEq, Repr

/-- A node, possibly cut. -/
inductive Node where
  | alias (anchor : Nat)
  | scalar (props : Properties) (style : Style) (text : String)
  /-- The items of a sequence, and whether its end was reached. -/
  | sequence (props : Properties) (items : List Node) (closed : Bool)
  /-- The entries of a mapping, and whether its end was reached. -/
  | mapping (props : Properties) (entries : List (Node × Node)) (closed : Bool)
  /-- The place where a node was due. -/
  | missing

namespace Node

/-- The node that stands where nothing is written. -/
def blank : Node :=
  .scalar {} .plain ""

mutual

/-- Whether a node is not cut. -/
def isWhole : Node → Bool
  | .sequence _ items closed => closed && itemsWhole items
  | .mapping _ entries closed => closed && entriesWhole entries
  | .missing => false
  | _ => true

/-- Whether no item is cut. -/
def itemsWhole : List Node → Bool
  | [] => true
  | n :: rest => n.isWhole && itemsWhole rest

/-- Whether no entry is cut. -/
def entriesWhole : List (Node × Node) → Bool
  | [] => true
  | (k, v) :: rest => k.isWhole && v.isWhole && entriesWhole rest

end

mutual

/-- The number of beginnings and ends of nodes in a tree. -/
def eventCount : Node → Nat
  | .sequence _ items closed => 1 + itemsCount items + closed.toNat
  | .mapping _ entries closed => 1 + entriesCount entries + closed.toNat
  | .missing => 0
  | _ => 1

/-- The number of beginnings and ends of nodes in items. -/
def itemsCount : List Node → Nat
  | [] => 0
  | n :: rest => n.eventCount + itemsCount rest

/-- The number of beginnings and ends of nodes in entries. -/
def entriesCount : List (Node × Node) → Nat
  | [] => 0
  | (k, v) :: rest => k.eventCount + v.eventCount + entriesCount rest

end

/-- An anchored node with its number, in front of `found`. -/
def note (props : Properties) (n : Node) (found : List (Nat × Node)) : List (Nat × Node) :=
  match props.anchor with
  | some id => (id, n) :: found
  | none => found

mutual

/-- The anchored nodes of a tree in front of `found`, the later nodes of the document first. -/
def anchored (found : List (Nat × Node)) : Node → List (Nat × Node)
  | .scalar props style text => note props (.scalar props style text) found
  | .sequence props items closed =>
    itemsAnchored (note props (.sequence props items closed) found) items
  | .mapping props entries closed =>
    entriesAnchored (note props (.mapping props entries closed) found) entries
  | _ => found

/-- The anchored nodes of items. -/
def itemsAnchored (found : List (Nat × Node)) : List Node → List (Nat × Node)
  | [] => found
  | n :: rest => itemsAnchored (n.anchored found) rest

/-- The anchored nodes of entries. -/
def entriesAnchored (found : List (Nat × Node)) : List (Node × Node) → List (Nat × Node)
  | [] => found
  | (k, v) :: rest => entriesAnchored (v.anchored (k.anchored found)) rest

end

end Node

/-! ### From tokens to nodes -/

/-- What is left to read, and what was met before. -/
structure Pending where
  tokens : List Token
  /-- The anchor names known so far with their numbers. -/
  anchors : List (String × Nat) := []
  /-- The tag handles of the document with their meanings. -/
  handles : List (String × Tag) := [("!", .ofText "!"), ("!!", .common)]

namespace Pending

/-- Go on with other tokens. -/
def resume (p : Pending) (tokens : List Token) : Pending :=
  { p with tokens := tokens }

/-- Nothing more can be read. -/
def cut (p : Pending) : Pending :=
  { p with tokens := [] }

/-- Give an anchor name its number. -/
def register (p : Pending) (name : Option String) : Option Nat × Pending :=
  match name with
  | none => (none, p)
  | some name =>
    let id := p.anchors.length
    (some id, { p with anchors := (name, id) :: p.anchors.filter (·.1 != name) })

/-- The full tag of a handle and the rest after it; nothing if the handle is unknown. -/
def resolveTag (p : Pending) (handle : String) (rest : Tag) : Option Tag :=
  if handle.isEmpty then some rest else (p.handles.lookup handle).map (· ++ rest)

/-- Read an anchor and a tag, in either order. -/
def readProperties (p : Pending) : Option String × Option (String × Tag) × Pending :=
  match p.tokens with
  | .anchor name :: .tag handle tag :: rest => (some name, some (handle, tag), p.resume rest)
  | .tag handle tag :: .anchor name :: rest => (some name, some (handle, tag), p.resume rest)
  | .anchor name :: rest => (some name, none, p.resume rest)
  | .tag handle tag :: rest => (none, some (handle, tag), p.resume rest)
  | _ => (none, none, p)

end Pending

namespace Token

/-- The tokens before which nothing is written for an item of a block sequence. -/
def endsBlockItem : Token → Bool
  | .blockEntry | .blockEnd => true
  | _ => false

/-- The tokens before which nothing is written for an item of a sequence without indentation. -/
def endsIndentlessItem : Token → Bool
  | .blockEntry | .key | .value | .blockEnd => true
  | _ => false

/-- The tokens before which nothing is written for a key or value of a block mapping. -/
def endsBlockPart : Token → Bool
  | .key | .value | .blockEnd => true
  | _ => false

/-- The tokens before which nothing is written for a key of a single pair. -/
def endsPairKey : Token → Bool
  | .value | .flowEntry | .flowSequenceEnd => true
  | _ => false

/-- The tokens before which nothing is written for a value of a single pair. -/
def endsPairValue : Token → Bool
  | .flowEntry | .flowSequenceEnd => true
  | _ => false

/-- The tokens before which nothing is written for a key of a flow mapping. -/
def endsFlowKey : Token → Bool
  | .value | .flowEntry | .flowMappingEnd => true
  | _ => false

/-- The tokens before which nothing is written for a value of a flow mapping. -/
def endsFlowValue : Token → Bool
  | .flowEntry | .flowMappingEnd => true
  | _ => false

/-- The tokens that begin or end a document. -/
def bordersDocument : Token → Bool
  | .versionDirective _ _ | .tagDirective _ _ | .documentStart | .documentEnd | .streamEnd => true
  | _ => false

end Token

namespace Node

mutual

/-- Read a node. Block collections may begin only where `block` holds, and a sequence without
indentation of its own only where `indentless` holds. -/
def readNode : Nat → (block indentless : Bool) → Pending → Node × Pending
  | 0, _, _, p => (.missing, p.cut)
  | fuel + 1, block, indentless, p =>
    match p.tokens with
    | .alias name :: rest =>
      match p.anchors.lookup name with
      | some id => (.alias id, p.resume rest)
      | none => (.missing, p.cut)
    | _ =>
      let (anchorName, written, p) := p.readProperties
      let tag := match written with
        | none => some none
        | some (handle, rest) => (p.resolveTag handle rest).map some
      match tag with
      | none => (.missing, p.cut)
      | some tag =>
        match p.tokens with
        | .scalar style text :: rest =>
          let (anchor, p) := p.register anchorName
          (.scalar ⟨anchor, tag⟩ style text, p.resume rest)
        | .flowSequenceStart :: rest =>
          let (anchor, p) := p.register anchorName
          let (items, closed, p) := readFlowItems fuel true (p.resume rest)
          (.sequence ⟨anchor, tag⟩ items closed, p)
        | .flowMappingStart :: rest =>
          let (anchor, p) := p.register anchorName
          let (entries, closed, p) := readFlowEntries fuel true (p.resume rest)
          (.mapping ⟨anchor, tag⟩ entries closed, p)
        | t :: rest =>
          if indentless && t = .blockEntry then
            let (anchor, p) := p.register anchorName
            let (items, closed, p) := readIndentlessItems fuel p
            (.sequence ⟨anchor, tag⟩ items closed, p)
          else if block && t = .blockSequenceStart then
            let (anchor, p) := p.register anchorName
            let (items, closed, p) := readBlockItems fuel (p.resume rest)
            (.sequence ⟨anchor, tag⟩ items closed, p)
          else if block && t = .blockMappingStart then
            let (anchor, p) := p.register anchorName
            let (entries, closed, p) := readBlockEntries fuel (p.resume rest)
            (.mapping ⟨anchor, tag⟩ entries closed, p)
          else if anchorName.isSome || tag.isSome then
            let (anchor, p) := p.register anchorName
            (.scalar ⟨anchor, tag⟩ .plain "", p)
          else (.missing, p.cut)
        | [] => (.missing, p.cut)

/-- Read a node unless the next token shows that nothing is written. -/
def readPart : Nat → (block indentless : Bool) → (Token → Bool) → Pending → Node × Pending
  | 0, _, _, _, p => (.missing, p.cut)
  | fuel + 1, block, indentless, ends, p =>
    match p.tokens with
    | [] => (.missing, p)
    | t :: _ => if ends t then (.blank, p) else readNode fuel block indentless p

/-- Read the value of an entry, if there is one. -/
def readValue : Nat → (block : Bool) → (Token → Bool) → Pending → Node × Pending
  | 0, _, _, p => (.missing, p.cut)
  | fuel + 1, block, ends, p =>
    match p.tokens with
    | [] => (.missing, p)
    | .value :: rest => readPart fuel block block ends (p.resume rest)
    | _ => (.blank, p)

/-- Read the items of a block sequence and its end. -/
def readBlockItems : Nat → Pending → List Node × Bool × Pending
  | 0, p => ([], false, p.cut)
  | fuel + 1, p =>
    match p.tokens with
    | .blockEntry :: rest =>
      let (item, p) := readPart fuel true false Token.endsBlockItem (p.resume rest)
      let (items, closed, p) := readBlockItems fuel p
      (item :: items, closed, p)
    | .blockEnd :: rest => ([], true, p.resume rest)
    | _ => ([], false, p.cut)

/-- Read the items of a block sequence without indentation of its own. -/
def readIndentlessItems : Nat → Pending → List Node × Bool × Pending
  | 0, p => ([], false, p.cut)
  | fuel + 1, p =>
    match p.tokens with
    | .blockEntry :: rest =>
      let (item, p) := readPart fuel true false Token.endsIndentlessItem (p.resume rest)
      let (items, closed, p) := readIndentlessItems fuel p
      (item :: items, closed, p)
    | [] => ([], false, p)
    | _ => ([], true, p)

/-- Read the entries of a block mapping and its end. -/
def readBlockEntries : Nat → Pending → List (Node × Node) × Bool × Pending
  | 0, p => ([], false, p.cut)
  | fuel + 1, p =>
    match p.tokens with
    | .key :: rest =>
      let (key, p) := readPart fuel true true Token.endsBlockPart (p.resume rest)
      let (value, p) := readValue fuel true Token.endsBlockPart p
      let (entries, closed, p) := readBlockEntries fuel p
      ((key, value) :: entries, closed, p)
    | .blockEnd :: rest => ([], true, p.resume rest)
    | _ => ([], false, p.cut)

/-- Read the items of a flow sequence and its end. -/
def readFlowItems : Nat → (first : Bool) → Pending → List Node × Bool × Pending
  | 0, _, p => ([], false, p.cut)
  | fuel + 1, first, p =>
    let afterComma : Option Pending :=
      match p.tokens with
      | .flowSequenceEnd :: _ => some p
      | .flowEntry :: rest => if first then some p else some (p.resume rest)
      | _ => if first then some p else none
    match afterComma with
    | none => ([], false, p.cut)
    | some p =>
      match p.tokens with
      | .flowSequenceEnd :: rest => ([], true, p.resume rest)
      | .key :: rest =>
        let (key, p) := readPairKey fuel (p.resume rest)
        let (value, p) := readValue fuel false Token.endsPairValue p
        let whole := !p.tokens.isEmpty
        let (items, closed, p) := readFlowItems fuel false p
        (.mapping {} [(key, value)] whole :: items, closed, p)
      | _ =>
        let (item, p) := readNode fuel false false p
        let (items, closed, p) := readFlowItems fuel false p
        (item :: items, closed, p)

/-- Read the key of a single pair in a flow sequence. Where nothing is written for it, the next
token is passed over. -/
def readPairKey : Nat → Pending → Node × Pending
  | 0, p => (.missing, p.cut)
  | fuel + 1, p =>
    match p.tokens with
    | [] => (.missing, p)
    | t :: rest => if t.endsPairKey then (.blank, p.resume rest) else readNode fuel false false p

/-- Read the entries of a flow mapping and its end. -/
def readFlowEntries : Nat → (first : Bool) → Pending → List (Node × Node) × Bool × Pending
  | 0, _, p => ([], false, p.cut)
  | fuel + 1, first, p =>
    let afterComma : Option Pending :=
      match p.tokens with
      | .flowMappingEnd :: _ => some p
      | .flowEntry :: rest => if first then some p else some (p.resume rest)
      | _ => if first then some p else none
    match afterComma with
    | none => ([], false, p.cut)
    | some p =>
      match p.tokens with
      | .flowMappingEnd :: rest => ([], true, p.resume rest)
      | .key :: rest =>
        let (key, p) := readPart fuel false false Token.endsFlowKey (p.resume rest)
        let (value, p) := readValue fuel false Token.endsFlowValue p
        let (entries, closed, p) := readFlowEntries fuel false p
        ((key, value) :: entries, closed, p)
      | _ =>
        let (key, p) := readNode fuel false false p
        let value := if p.tokens.isEmpty then .missing else .blank
        let (entries, closed, p) := readFlowEntries fuel false p
        ((key, value) :: entries, closed, p)

end

end Node

/-! ### Documents -/

/-- The first document of a text. -/
structure Document where
  /-- The tree; none for a text without documents. -/
  root : Option Node
  /-- Whether the text ends properly after the document. -/
  complete : Bool

namespace Document

/-- The versions of YAML that a text may ask for. -/
def knownVersion (major minor : Nat) : Bool :=
  major = 1 && (minor = 1 || minor = 2)

/-- Read directives: whether a version was given, the handles that were given a meaning, and the
tokens after them. -/
def readDirectives (version : Bool) (handles : List (String × Tag)) :
    List Token → Option (List (String × Tag) × List Token)
  | .versionDirective major minor :: rest =>
    if version || !knownVersion major minor then none else readDirectives true handles rest
  | .tagDirective handle meaning :: rest =>
    if (handles.lookup handle).isSome then none
    else readDirectives version (handles ++ [(handle, meaning)]) rest
  | ts => some (handles, ts)

/-- Whether nothing but ends of documents comes before the end of the text. -/
def endsProperly : List Token → Bool
  | .documentEnd :: rest => endsProperly rest
  | .streamEnd :: _ => true
  | _ => false

/-- The document whose content stands at the head of what is left. -/
def ofContent (p : Pending) : Document :=
  let (root, p) := Node.readNode (4 * p.tokens.length + 4) true false p
  ⟨some root, endsProperly p.tokens⟩

/-- The document of a list of tokens. -/
def ofTokens (ts : List Token) : Document :=
  match ts with
  | .streamStart :: .streamEnd :: _ => ⟨none, true⟩
  | .streamStart :: t :: rest =>
    match t with
    | .versionDirective _ _ | .tagDirective _ _ | .documentStart =>
      match readDirectives false [] (t :: rest) with
      | some (handles, .documentStart :: rest) =>
        let p : Pending := { tokens := rest }
        let p := { p with handles := handles ++ p.handles }
        match rest with
        | [] => ⟨some .missing, false⟩
        | t :: _ => if t.bordersDocument then ⟨some .blank, endsProperly rest⟩ else ofContent p
      | _ => ⟨some .missing, false⟩
    | _ => ofContent { tokens := t :: rest }
  | _ => ⟨some .missing, false⟩

/-- The first document of a text. -/
def read (text : String) : Document :=
  ofTokens (Token.scan text.toList)

end Document

end NodeFlags.Yaml
