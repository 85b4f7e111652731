/-!
# Names and extensions of files

The name of the file that a path leads to, and the extension of a name. Slashes at
the end of a path and components `.` do not count, and `..` names no file. An
extension is what follows the last dot, unless nothing stands before that dot.
-/

namespace NodeFlags.Path

/-- The components of a path, empty ones included. -/
def components (path : String) : List String :=
  (path.toList.splitOn '/').map .ofList

/-- The name of the file that a path leads to. -/
def fileName? (path : String) : Option String :=
  ((components path).filter fun c => c != "" && c != ".").getLast?.filter (· != "..")

/-- What follows the last dot, if anything stands before that dot. -/
def extensionOf? (name : List Char) : Option (List Char) :=
  let after := name.reverse.takeWhile (· != '.')
  match name.reverse.dropWhile (· != '.') with
  | _ :: _ :: _ => some after.reverse
  | _ => none

/-- The extension of the file that a path leads to. -/
def extension? (path : String) : Option String :=
  (fileName? path).bind fun name => (extensionOf? name.toList).map .ofList

end NodeFlags.Path
