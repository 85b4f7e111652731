import NodeFlags.Command.Run

/-!
# The command line

Reads the arguments, the environment, the home directory of the user's account and the
file that they lead to, and hands them to a run of the command.
-/

open NodeFlags

/-- The number of an error of the system, which may be given with its sign turned. -/
def errorNumber (code : UInt32) : Nat :=
  if code < 0x80000000 then code.toNat else (-code).toNat

/-- Why the system could not read a file. -/
def fileErrorOf (e : IO.Error) : FileError :=
  match e with
  | .noFileOrDirectory _ _ _ => .missing
  | .permissionDenied _ _ _ => .denied
  | .inappropriateType _ code _ =>
    if errorNumber code = 20 then .notDirectory
    else if errorNumber code = 21 then .isDirectory
    else .other (toString e)
  | .invalidArgument _ code _ =>
    if errorNumber code = 36 then .nameTooLong else .other (toString e)
  | _ => .other (toString e)

/-- Read the file at a path. -/
def readFileAt (path : String) : IO (Except FileError ByteArray) := do
  try
    return .ok (← IO.FS.readBinFile path)
  catch e =>
    return .error (fileErrorOf e)

/-- The home directory that an entry of the account table gives to a user. -/
def homeIn? (user : String) (entry : List Char) : Option String :=
  match (entry.splitOn ':').map String.ofList with
  | _ :: _ :: number :: _ :: _ :: home :: _ => if number = user then some home else none
  | _ => none

/-- The number of the user who runs a process, in what the system tells of the process. -/
def userIn? (status : List Char) : Option String :=
  (status.splitOn '\n').findSome? fun line =>
    match (line.splitOn '\t').map String.ofList with
    | "Uid:" :: user :: _ => some user
    | _ => none

/-- The home directory on record for the user who runs the command. -/
def accountHome : IO (Option String) := do
  try
    let status ← IO.FS.readFile "/proc/self/status"
    let accounts ← IO.FS.readFile "/etc/passwd"
    return (userIn? status.toList).bind fun user =>
      (accounts.toList.splitOn '\n').findSome? (homeIn? user)
  catch _ => return none

/-- The path that the arguments lead to. -/
def pathOf (args : List String) (env : Path.Environment) (account : Option String) :
    Option String :=
  ((Command.Options.ofArguments args).toOption).map fun o => Path.expand env account o.clusterFile

/-- The variables that a segment of a path refers to. -/
def variableOf? : Path.Segment → Option String
  | .reference name _ => some (.ofList name)
  | .literal _ => none

/-- The variables of the environment that the path refers to, and the home directory. -/
def variablesFor (args : List String) : IO Path.Environment := do
  let names :=
    match Command.Options.ofArguments args with
    | .error _ => []
    | .ok o => "HOME" :: (Path.segments o.clusterFile.toList).filterMap variableOf?
  let values ← names.mapM fun name => do return (name, ← IO.getEnv name)
  return fun name => (values.lookup name).join

/-- Run the command on the system's files and environment. -/
def main (args : List String) : IO UInt32 := do
  let env ← variablesFor args
  let account ← accountHome
  let content ←
    match pathOf args env account with
    | some path => readFileAt path
    | none => pure (.error .missing)
  let outcome := Command.run args (fun _ => content) env account
  IO.print outcome.stdout
  IO.eprint outcome.stderr
  return outcome.exitCode.toUInt32
