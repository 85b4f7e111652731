import NodeFlags.Path.Extension

/-!
# Reading files

Why a file cannot be read, with the text in which the system says so, and a finite
set of files below a working directory to read from.
-/

namespace NodeFlags

/-- Why a file cannot be read. -/
inductive FileError where
  | missing
  /-- The user may not read it. -/
  | denied
  | notDirectory
  | isDirectory
  | nameTooLong
  /-- The path holds a NUL character. -/
  | nulInPath
  /-- The content is not text in UTF-8. -/
  | notText
  /-- Any other reason, as the system describes it. -/
  | other (description : String)
  deriving DecidableEq, Repr

/-- The text of a file error. -/
def FileError.message : FileError → String
  | .missing => "No such file or directory (os error 2)"
  | .denied => "Permission denied (os error 13)"
  | .notDirectory => "Not a directory (os error 20)"
  | .isDirectory => "Is a directory (os error 21)"
  | .nameTooLong => "File name too long (os error 36)"
  | .nulInPath => "file name contained an unexpected NUL byte"
  | .notText => "stream did not contain valid UTF-8"
  | .other description => description

namespace Path

/-- What may stand at a path. -/
inductive Node where
  | file (bytes : ByteArray)
  | directory

/-- Files and directories below a working directory, by the components of their paths. The
directories above them exist too. -/
structure Files where
  entries : List (List String × Node)

namespace Files

/-- The content of the file at a path. -/
def bytes? (files : Files) (place : List String) : Option ByteArray :=
  match files.entries.lookup place with
  | some (.file bytes) => some bytes
  | _ => none

/-- Whether there is a directory at a path. -/
def isDirectory (files : Files) (place : List String) : Bool :=
  (files.bytes? place).isNone && (place.isEmpty || files.entries.any fun e => place.isPrefixOf e.1)

/-- The longest name of a file, in bytes. -/
def maxName : Nat := 255

/-- The longest path, in bytes. -/
def maxPath : Nat := 4095

/-- Follow the components of a path from a directory. Above the working directory nothing is
known. -/
def walk (files : Files) : List String → List String → Except FileError (List String)
  | here, [] => .ok here
  | here, c :: rest =>
    if !files.isDirectory here then
      .error (if (files.bytes? here).isSome then .notDirectory else .missing)
    else if c = "" ∨ c = "." then walk files here rest
    else if c = ".." then
      if here.isEmpty then .error .missing else walk files here.dropLast rest
    else if maxName < c.utf8ByteSize then .error .nameTooLong
    else walk files (here ++ [c]) rest

/-- Read the file that a path leads to. -/
def read (files : Files) (path : String) : Except FileError ByteArray :=
  if path.toList.contains '\x00' then .error .nulInPath
  else if maxPath < path.utf8ByteSize then .error .nameTooLong
  else if path.toList.head? = some '/' then .error .missing
  else do
    let here ← files.walk [] (components path)
    match files.bytes? here with
    | some bytes => .ok bytes
    | none => .error (if files.isDirectory here then .isDirectory else .missing)

/-- The files of a list of paths with what stands at them. -/
def ofList (entries : List (String × Node)) : Files :=
  ⟨entries.map fun e => ((components e.1).filter fun c => c != "" && c != ".", e.2)⟩

end Files

end Path

end NodeFlags
