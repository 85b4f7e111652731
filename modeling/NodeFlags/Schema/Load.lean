import NodeFlags.Path.Expansion
import NodeFlags.Path.Files
import NodeFlags.Schema.Json
import NodeFlags.Schema.Yaml

/-!
# Loading cluster definitions

A definition is loaded from a path in four steps: the references in the path are
expanded, the format is taken from the extension, the file is read as text, and the
text is read in the format. The first step that fails decides the error.
-/

namespace NodeFlags

/-- The formats of cluster definitions. -/
inductive DefinitionFormat where
  | yaml
  /-- JSON, with comments. -/
  | json
  deriving DecidableEq, Repr

/-- Why a definition cannot be loaded. -/
inductive LoadError where
  | unreadable (cause : FileError)
  | invalid (cause : ReadError)
  | unsupported (extension : String)
  deriving DecidableEq, Repr

namespace LoadError

/-- The text of an error. -/
def message : LoadError → String
  | .unreadable cause => "Failed to read file: " ++ cause.message
  | .invalid cause => "Failed to parse cluster definition: " ++ cause.message
  | .unsupported extension =>
    "Unsupported cluster definition format '" ++ extension ++
      "' (expected .yaml, .yml, .json or .jsonc)"

/-- The texts of an error and of what is behind it. -/
def chain (e : LoadError) : List String :=
  match e with
  | .unreadable cause => [e.message, cause.message]
  | _ => [e.message]

end LoadError

namespace DefinitionFormat

/-- The format of an extension. -/
def ofExtension? (extension : String) : Option DefinitionFormat :=
  if extension = "yaml" ∨ extension = "yml" then some .yaml
  else if extension = "json" ∨ extension = "jsonc" then some .json
  else none

/-- The format of the file that a path leads to. -/
def ofPath (path : String) : Except LoadError DefinitionFormat :=
  let extension := (Path.extension? path).getD ""
  match ofExtension? extension with
  | some format => .ok format
  | none => .error (.unsupported extension)

end DefinitionFormat

namespace Definition

/-- Read a definition from a text in a format. -/
def read (format : DefinitionFormat) (text : String) : Except ReadError Definition :=
  match format with
  | .yaml => readYaml text
  | .json => readJson text

/-- The text of bytes in UTF-8. -/
def textOf (bytes : ByteArray) : Except FileError String :=
  match String.fromUTF8? bytes with
  | some text => .ok text
  | none => .error .notText

/-- Load a definition; `readFile` reads the file at a path, and `account` is the home directory on
record for the user's account. -/
def load (readFile : String → Except FileError ByteArray) (env : Path.Environment)
    (account : Option String) (path : String) : Except LoadError Definition := do
  let path := Path.expand env account path
  let format ← DefinitionFormat.ofPath path
  let bytes ← (readFile path).mapError .unreadable
  let text ← (textOf bytes).mapError .unreadable
  (read format text).mapError .invalid

end Definition

end NodeFlags
