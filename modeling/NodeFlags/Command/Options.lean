/-!
# Command-line arguments

The command takes the path of a cluster definition and options. Options are written
with two hyphens, some also with one and a letter; letters may be joined. The value
of an option follows it as the next argument, or after an equals sign. After `--`
every argument is a path.

A value that was taken is held back and only looked at when the next option, the
next path or the end is reached; an argument that is not known at all is therefore
reported before a bad value in front of it. An option may be given once, except
`--verbose`, which counts up to 255.
-/

namespace NodeFlags.Command

/-- How the result is written. -/
inductive OutputFormat where
  | text
  | json
  deriving DecidableEq, Repr

/-- What the command line asks for. -/
structure Options where
  /-- The path of the cluster definition. -/
  clusterFile : String
  verbosity : Nat := 0
  /-- Treat the pass as an upgrade. -/
  upgrade : Bool := false
  /-- The version to resolve for, in place of the definition's. -/
  targetVersion : Option String := none
  /-- The only role to show. -/
  role : Option String := none
  format : OutputFormat := .text
  /-- Whether to show fingerprints. -/
  fingerprint : Bool := false
  deriving DecidableEq, Repr

/-- Why the arguments do not lead to a run. -/
inductive Stop where
  /-- Help is asked for. -/
  | help
  /-- The version is asked for. -/
  | version
  | unknownArgument
  /-- An option without a value is given one. -/
  | needlessValue
  /-- A value is missing or not among the possible ones. -/
  | invalidValue
  /-- An option is given twice. -/
  | repeated
  /-- The path is missing. -/
  | missingFile
  deriving DecidableEq, Repr

/-- The options with a value. -/
inductive ValueOption where
  | targetVersion
  | role
  | format
  deriving DecidableEq, Repr

/-- The options without a value. -/
inductive Switch where
  | verbose
  | upgrade
  | fingerprint
  | help
  | version
  deriving DecidableEq, Repr

/-- What is held back. -/
inductive Held where
  | nothing
  /-- An option that still waits for its value. -/
  | awaiting (option : ValueOption)
  | value (option : ValueOption) (text : String)
  | file (path : String)
  deriving DecidableEq, Repr

/-- What has been taken from the arguments so far. -/
structure Draft where
  file : Option String := none
  verbosity : Nat := 0
  upgrade : Bool := false
  fingerprint : Bool := false
  targetVersion : Option String := none
  role : Option String := none
  format : Option OutputFormat := none
  held : Held := .nothing
  /-- Whether a path has been met. -/
  fileMet : Bool := false
  deriving DecidableEq, Repr

/-- The greatest verbosity. -/
def maxVerbosity : Nat := 255

/-- The option with a value of a name. -/
def ValueOption.ofName? (name : String) : Option ValueOption :=
  [("target-version", ValueOption.targetVersion), ("role", .role), ("format", .format)].lookup name

/-- The option without a value of a name. -/
def Switch.ofName? (name : String) : Option Switch :=
  [("verbose", Switch.verbose), ("upgrade", .upgrade), ("fingerprint", .fingerprint),
    ("help", .help), ("version", .version)].lookup name

/-- The option of a letter. -/
def Switch.ofLetter? (c : Char) : Option Switch :=
  [('v', Switch.verbose), ('h', .help), ('V', .version)].lookup c

/-- The output format of a name. -/
def OutputFormat.ofName? (name : String) : Option OutputFormat :=
  [("text", OutputFormat.text), ("json", .json)].lookup name

namespace Draft

/-- Give an option its value. -/
def setValue (d : Draft) (option : ValueOption) (text : String) : Except Stop Draft :=
  match option with
  | .targetVersion =>
    if d.targetVersion.isSome then .error .repeated else .ok { d with targetVersion := some text }
  | .role => if d.role.isSome then .error .repeated else .ok { d with role := some text }
  | .format =>
    if d.format.isSome then .error .repeated
    else
      match OutputFormat.ofName? text with
      | some format => .ok { d with format := some format }
      | none => .error .invalidValue

/-- Look at what is held back. -/
def settle (d : Draft) : Except Stop Draft :=
  match d.held with
  | .nothing => .ok d
  | .awaiting _ => .error .invalidValue
  | .value option text => { d with held := .nothing }.setValue option text
  | .file path =>
    if path.isEmpty then .error .invalidValue
    else .ok { d with held := .nothing, file := some path }

/-- Take an option without a value. -/
def takeSwitch (d : Draft) (s : Switch) : Except Stop Draft := do
  let d ← d.settle
  match s with
  | .verbose => return { d with verbosity := min maxVerbosity (d.verbosity + 1) }
  | .upgrade => if d.upgrade then throw .repeated else return { d with upgrade := true }
  | .fingerprint => if d.fingerprint then throw .repeated else return { d with fingerprint := true }
  | .help => throw .help
  | .version => throw .version

/-- Take the letters after a single hyphen. -/
def takeLetters (d : Draft) : List Char → Except Stop Draft
  | [] => .ok d
  | c :: rest => do
    match Switch.ofLetter? c with
    | some s => (← d.takeSwitch s).takeLetters rest
    | none => throw .unknownArgument

/-- Take what follows two hyphens. -/
def takeLong (d : Draft) (cs : List Char) : Except Stop Draft := do
  let name := String.ofList (cs.takeWhile (· != '='))
  let attached :=
    match cs.dropWhile (· != '=') with
    | [] => none
    | _ :: text => some (String.ofList text)
  match ValueOption.ofName? name, Switch.ofName? name with
  | some option, _ => do
    let d ← d.settle
    match attached with
    | some text => d.setValue option text
    | none => return { d with held := .awaiting option }
  | none, some s => if attached.isSome then throw .needlessValue else d.takeSwitch s
  | none, none => throw .unknownArgument

/-- Take a path. -/
def takeFile (d : Draft) (path : String) : Except Stop Draft := do
  if d.fileMet then throw .unknownArgument
  let d ← d.settle
  return { d with held := .file path, fileMet := true }

/-- Take an argument that is neither an option nor `--`: a value that is waited for, or a path. -/
def takeWord (d : Draft) (word : String) : Except Stop Draft :=
  match d.held with
  | .awaiting option => .ok { d with held := .value option word }
  | _ => d.takeFile word

/-- Take all arguments. -/
def takeAll (d : Draft) : List String → Except Stop Draft
  | [] => d.settle
  | arg :: rest =>
    match arg.toList with
    | ['-', '-'] => do (← rest.foldlM takeFile d).settle
    | '-' :: '-' :: cs => do (← d.takeLong cs).takeAll rest
    | '-' :: c :: cs => do (← d.takeLetters (c :: cs)).takeAll rest
    | _ => do (← d.takeWord arg).takeAll rest

end Draft

/-- Read the arguments of the command. -/
def Options.ofArguments (args : List String) : Except Stop Options := do
  let d ← ({} : Draft).takeAll args
  match d.file with
  | none => throw .missingFile
  | some file =>
    return {
      clusterFile := file
      verbosity := d.verbosity
      upgrade := d.upgrade
      targetVersion := d.targetVersion
      role := d.role
      format := d.format.getD .text
      fingerprint := d.fingerprint }

end NodeFlags.Command
