import NodeFlags.Text.Blank
import NodeFlags.Text.Digit
import NodeFlags.Text.Quoted
import NodeFlags.Version.Basic

/-!
# Reading versions

A version text is trimmed, may begin with one `v`, and is then read from left to
right: three numbers separated by dots, an optional pre-release after `-` and an
optional build part after `+`. Numbers have no leading zeros and fit in 64 bits;
the same holds of leading zeros in numeric pre-release identifiers, while build
identifiers are free. The first problem met is the one reported.

`atLeast` is the gate on which all version-dependent decisions hang. It fails
closed: a text that is no version is at or above nothing, and nothing is at or
above it.
-/

namespace NodeFlags

namespace Version

/-- The parts of a version text, in the order in which they are read. -/
inductive Part where
  | major
  | minor
  | patch
  | pre
  | build
  deriving DecidableEq, Repr

/-- What can be wrong inside a version text. -/
inductive Problem where
  /-- Nothing is left after the optional `v`. -/
  | nothingLeft
  /-- The text ends where a part, or the dot after it, is due. -/
  | unexpectedEnd (part : Part)
  /-- Another character stands where a number is due. -/
  | unexpectedChar (c : Char) (part : Part)
  /-- Another character stands after a complete part. -/
  | unexpectedAfter (c : Char) (part : Part)
  /-- A number begins with a needless zero. -/
  | leadingZero (part : Part)
  /-- A number does not fit in 64 bits. -/
  | tooLarge (part : Part)
  /-- An identifier is empty. -/
  | emptySegment (part : Part)
  deriving DecidableEq, Repr

/-- Why a text is no version. -/
inductive ReadError where
  /-- The text is blank. -/
  | blank
  /-- The text, given as written, has a problem. -/
  | invalid (raw : String) (problem : Problem)
  deriving DecidableEq, Repr

/-- How a message names a part. -/
def Part.describe : Part → String
  | .major => "major version number"
  | .minor => "minor version number"
  | .patch => "patch version number"
  | .pre => "pre-release identifier"
  | .build => "build metadata"

/-- The text of a problem. -/
def Problem.message : Problem → String
  | .nothingLeft => "empty string, expected a semver version"
  | .unexpectedEnd p => "unexpected end of input while parsing " ++ p.describe
  | .unexpectedChar c p =>
    "unexpected character " ++ Text.quoteChar c ++ " while parsing " ++ p.describe
  | .unexpectedAfter c p => "unexpected character " ++ Text.quoteChar c ++ " after " ++ p.describe
  | .leadingZero p => "invalid leading zero in " ++ p.describe
  | .tooLarge p => "value of " ++ p.describe ++ " exceeds u64::MAX"
  | .emptySegment p => "empty identifier segment in " ++ p.describe

/-- The text of an error. -/
def ReadError.message : ReadError → String
  | .blank => "Orchestrator version is empty"
  | .invalid raw problem =>
    "Invalid orchestrator version '" ++ raw ++ "': " ++ problem.message

/-! ### Numbers -/

/-- The greatest release number. -/
def maxNumber : Nat := 0xFFFFFFFFFFFFFFFF

/-- Read a release number: its digits are the longest run at the head of the text. -/
def readNumber (part : Part) (cs : List Char) : Except Problem (Nat × List Char) :=
  let ds := cs.takeWhile Text.isDigit
  let rest := cs.dropWhile Text.isDigit
  match ds with
  | [] =>
    match rest with
    | [] => .error (.unexpectedEnd part)
    | c :: _ => .error (.unexpectedChar c part)
  | '0' :: _ :: _ => .error (.leadingZero part)
  | _ =>
    if maxNumber < Text.digitsValue ds then .error (.tooLarge part)
    else .ok (Text.digitsValue ds, rest)

/-- Read the dot after a release number. -/
def readDot (part : Part) : List Char → Except Problem (List Char)
  | [] => .error (.unexpectedEnd part)
  | c :: rest => if c = '.' then .ok rest else .error (.unexpectedAfter c part)

/-! ### Identifiers -/

/-- Whether `c` may stand in an identifier. -/
def isIdentifierChar (c : Char) : Bool :=
  Text.isDigit c || ('A' ≤ c && c ≤ 'Z') || ('a' ≤ c && c ≤ 'z') || c = '-'

/-- The identifier that a non-empty run of identifier characters denotes. -/
def identifierOf (cs : List Char) : Identifier :=
  if cs.all Text.isDigit then
    .numeric (Text.digitsValue cs)
      ((cs.takeWhile (· = '0')).length - (if Text.digitsValue cs = 0 then 1 else 0))
  else
    .word (.ofList cs)

/-- Read one identifier; only build identifiers may have needless leading zeros. -/
def readIdentifier (part : Part) (cs : List Char) : Except Problem (Identifier × List Char) :=
  let run := cs.takeWhile isIdentifierChar
  if run.isEmpty then .error (.emptySegment part)
  else if part = .pre ∧ run.all Text.isDigit ∧ 1 < run.length ∧ run.head? = some '0' then
    .error (.leadingZero part)
  else .ok (identifierOf run, cs.dropWhile isIdentifierChar)

theorem readIdentifier_length {part : Part} {cs : List Char} {r : Identifier × List Char}
    (h : readIdentifier part cs = .ok r) : r.2.length < cs.length := by
  unfold readIdentifier at h
  simp only at h
  split at h
  · cases h
  · split at h
    · cases h
    · rename_i hne _
      cases h
      have hsum := congrArg List.length
        (List.takeWhile_append_dropWhile (p := isIdentifierChar) (l := cs))
      rw [List.length_append] at hsum
      have hpos : 0 < (cs.takeWhile isIdentifierChar).length := by
        rw [List.length_pos_iff]
        simpa using hne
      simp only
      omega

/-- Read identifiers separated by dots. -/
def readIdentifiers (part : Part) (cs : List Char) :
    Except Problem (List Identifier × List Char) :=
  match h : readIdentifier part cs with
  | .error e => .error e
  | .ok (id, '.' :: rest) =>
    have : rest.length < cs.length := by
      have := readIdentifier_length h
      simp only [List.length_cons] at this
      omega
    match readIdentifiers part rest with
    | .error e => .error e
    | .ok (ids, rest') => .ok (id :: ids, rest')
  | .ok (id, rest) => .ok ([id], rest)
termination_by cs.length

/-- Read an optional part that begins with `mark`. -/
def readOptional (mark : Char) (part : Part) (cs : List Char) :
    Except Problem (List Identifier × List Char) :=
  match cs with
  | c :: rest => if c = mark then readIdentifiers part rest else .ok ([], cs)
  | [] => .ok ([], [])

/-! ### Versions -/

/-- The part after which a character is out of place. -/
def lastPart (pre build : List Identifier) : Part :=
  if build.isEmpty then (if pre.isEmpty then .patch else .pre) else .build

/-- Read a version from a text without surrounding blanks and without the leading `v`. -/
def ofChars (cs : List Char) : Except Problem Version := do
  if cs.isEmpty then throw .nothingLeft
  let (major, cs) ← readNumber .major cs
  let cs ← readDot .major cs
  let (minor, cs) ← readNumber .minor cs
  let cs ← readDot .minor cs
  let (patch, cs) ← readNumber .patch cs
  let (pre, cs) ← readOptional '-' .pre cs
  let (build, cs) ← readOptional '+' .build cs
  match cs with
  | [] => return ⟨major, minor, patch, pre, build⟩
  | c :: _ => throw (.unexpectedAfter c (lastPart pre build))

/-- A text without one leading `v`. -/
def dropMark : List Char → List Char
  | 'v' :: rest => rest
  | cs => cs

/-- Read a version text. -/
def read (raw : String) : Except ReadError Version :=
  let cs := Text.trimChars raw.toList
  if cs.isEmpty then .error .blank
  else (ofChars (dropMark cs)).mapError (.invalid raw)

/-- The version that a text denotes, if any. -/
def read? (raw : String) : Option Version :=
  (read raw).toOption

end Version

/-- **The version gate.** Both texts are versions and the first is at or above the second. -/
def atLeast (version threshold : String) : Bool :=
  match Version.read? version, Version.read? threshold with
  | some v, some t => (v.cmp t).isGE
  | _, _ => false

/-- The catalog key of a version text, if it is a version. -/
def minorKey? (version : String) : Option String :=
  (Version.read? version).map Version.minorKey

end NodeFlags
