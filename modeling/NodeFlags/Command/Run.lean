import NodeFlags.Command.Report
import NodeFlags.Resolution
import NodeFlags.Schema.Load

/-!
# A run of the command

What the command prints, and its exit code, for given arguments, files, environment
and home directory of the user's account: 0 after success, 1 if the definition cannot
be loaded or lacks the role that was asked for, 2 if the arguments are no good.
-/

namespace NodeFlags.Command

/-- What a run leaves behind. -/
structure Outcome where
  exitCode : Nat
  stdout : String := ""
  stderr : String := ""
  deriving DecidableEq, Repr

/-- The name and version of the command. -/
def versionLine : String := "kubeletconf 0.1.0\n"

/-- The lines of the help text. -/
def helpLines : List String :=
  ["Resolve kubelet command-line flags for every node role of a cluster",
   "",
   "Usage: kubeletconf [OPTIONS] <CLUSTER_FILE>",
   "",
   "Arguments:",
   "  <CLUSTER_FILE>  Path to the cluster definition (YAML, JSON or JSONC)",
   "",
   "Options:",
   "  -v, --verbose...                Enable verbose logging output (-v, -vv, -vvv)",
   "      --upgrade                   Treat this pass as an upgrade of an existing cluster",
   "      --target-version <VERSION>  Resolve against this orchestrator version instead of the file's",
   "      --role <NAME>               Only print the role with this name",
   "      --format <FORMAT>           Output format [default: text] [possible values: text, json]",
   "      --fingerprint               Append a SHA256 fingerprint of each role's rendered flags",
   "  -h, --help                      Print help",
   "  -V, --version                   Print version"]

/-- The help text. -/
def helpText : String :=
  "\n".intercalate helpLines ++ "\n"

/-- What is said about arguments that are no good. -/
def Stop.message : Stop → String
  | .help => ""
  | .version => ""
  | .unknownArgument => "unexpected argument found"
  | .needlessValue => "unexpected value for an option that takes none"
  | .invalidValue => "a value is missing or invalid"
  | .repeated => "an argument cannot be used multiple times"
  | .missingFile => "the argument <CLUSTER_FILE> was not provided"

/-- The outcome of arguments that do not lead to a run. -/
def Stop.outcome : Stop → Outcome
  | .help => { exitCode := 0, stdout := helpText }
  | .version => { exitCode := 0, stdout := versionLine }
  | s => { exitCode := 2, stderr := "error: " ++ s.message ++ "\n" }

/-- Why a run fails: what could not be done, and the causes behind it. -/
structure Failure where
  summary : String
  causes : List String := []
  deriving DecidableEq, Repr

/-- A text with its further lines indented. -/
def indentLines (indent : String) (text : String) : String :=
  ("\n" ++ indent).intercalate ((text.toList.splitOn '\n').map .ofList)

/-- A number at the right edge of five columns. -/
def padNumber (n : Nat) : String :=
  let ds := toString n
  .ofList (List.replicate (5 - ds.length) ' ') ++ ds

/-- Causes from number `n` on. -/
def numberedCauses : Nat → List String → String
  | _, [] => ""
  | n, c :: cs =>
    "\n" ++ padNumber n ++ ": " ++ indentLines "       " c ++ numberedCauses (n + 1) cs

/-- The report on a failure. A single cause stands alone, several are numbered. -/
def Failure.report (f : Failure) : String :=
  "Error: " ++ f.summary ++
    (match f.causes with
    | [] => ""
    | [c] => "\n\nCaused by:\n    " ++ indentLines "    " c
    | cs => "\n\nCaused by:" ++ numberedCauses 0 cs) ++ "\n"

/-- Apply the options that change the definition. -/
def adjust (d : Definition) (o : Options) : Definition :=
  { d with context := { d.context with
    orchestratorVersion := o.targetVersion.getD d.context.orchestratorVersion
    isUpgrade := d.context.isUpgrade || o.upgrade } }

/-- The report for options, or why there is none. -/
def execute (readFile : String → Except FileError ByteArray) (env : Path.Environment)
    (account : Option String) (o : Options) : Except Failure String := do
  let d ← (Definition.load readFile env account o.clusterFile).mapError fun e =>
    { summary := "Failed to load cluster definition " ++ o.clusterFile, causes := e.chain }
  let d := adjust d o
  match o.role with
  | none => return report d.resolve o
  | some name =>
    if (d.findRole? name).isNone then
      throw { summary := "Role '" ++ name ++ "' is not defined in the cluster definition" }
    else return report d.resolve o

/-- Run the command. -/
def run (args : List String) (readFile : String → Except FileError ByteArray)
    (env : Path.Environment) (account : Option String) : Outcome :=
  match Options.ofArguments args with
  | .error stop => stop.outcome
  | .ok o =>
    match execute readFile env account o with
    | .ok text => { exitCode := 0, stdout := text ++ "\n" }
    | .error f => { exitCode := 1, stderr := f.report }

end NodeFlags.Command
