import NodeFlags.Text.WordChar

/-!
# References in paths

A path may refer to variables of the environment: `$NAME`, `${NAME}`, or
`${NAME:-fallback}` with a text for the case that the variable is not set. `$$`
stands for one dollar sign, and a dollar sign before anything else for itself. A
path is taken apart once, so what comes from a variable or a fallback is not looked
at again.

Expansion is all or nothing: if a variable without a fallback is not set, the path
stays as it was written. A tilde at the beginning of the path, followed by a slash or
by nothing once the references are replaced, stands for the home directory: the one
that the environment names, or else the one on record for the user's account.
-/

namespace NodeFlags.Path

/-- The variables of the environment. -/
abbrev Environment := String → Option String

/-- The value that an entry `NAME=VALUE` of the environment gives to a variable. -/
def valueIn? (name : String) (entry : List Char) : Option String :=
  ((name.toList ++ ['=']).isPrefixOf? entry).map .ofList

/-- The environment in which variables have been set. A variable is looked for in the entries, so
the name asked for may go on with an equals sign and the beginning of the value of a shorter name;
but it is not empty and holds no NUL. -/
def Environment.ofList (vars : List (String × String)) : Environment := fun name =>
  if name.isEmpty || name.toList.contains '\x00' then none
  else vars.findSome? fun v => valueIn? name (v.1.toList ++ '=' :: v.2.toList)

/-- A part of a path. -/
inductive Segment where
  /-- Characters that stand for themselves. -/
  | literal (cs : List Char)
  /-- A variable, and what stands for it if it is not set. -/
  | reference (name : List Char) (fallback : Option (List Char))
  deriving DecidableEq, Repr

/-- Split at the first `:-`, if there is one. -/
def splitAtFallback : List Char → Option (List Char × List Char)
  | [] => none
  | ':' :: '-' :: rest => some ([], rest)
  | c :: rest => (splitAtFallback rest).map fun r => (c :: r.1, r.2)

/-- The reference that stands between braces. A fallback needs a name before it. -/
def referenceOf (body : List Char) : Segment :=
  match splitAtFallback body with
  | some (c :: name, fallback) => .reference (c :: name) (some fallback)
  | _ => .reference body none

/-- Take a path apart. -/
def segments (cs : List Char) : List Segment :=
  match cs with
  | [] => []
  | '$' :: '$' :: rest => .literal ['$'] :: segments rest
  | '$' :: '{' :: rest =>
    match h : rest.dropWhile (· != '}') with
    | [] => .literal ['$', '{'] :: segments rest
    | _ :: rest' =>
      have : rest'.length < rest.length + 2 := by
        have : (rest.dropWhile (· != '}')).length ≤ rest.length :=
          (List.dropWhile_suffix _).length_le
        rw [h] at this
        simp only [List.length_cons] at this
        omega
      referenceOf (rest.takeWhile (· != '}')) :: segments rest'
  | '$' :: rest =>
    if (rest.takeWhile Text.isWordChar).isEmpty then .literal ['$'] :: segments rest
    else
      have : (rest.dropWhile Text.isWordChar).length < rest.length + 1 := by
        have : (rest.dropWhile Text.isWordChar).length ≤ rest.length :=
          (List.dropWhile_suffix _).length_le
        omega
      .reference (rest.takeWhile Text.isWordChar) none :: segments (rest.dropWhile Text.isWordChar)
  | c :: rest => .literal [c] :: segments rest
termination_by cs.length

/-- What a segment stands for; nothing for a variable that is not set and has no fallback. -/
def Segment.value? (env : Environment) : Segment → Option (List Char)
  | .literal cs => some cs
  | .reference name fallback => ((env (.ofList name)).map String.toList).or fallback

/-- Replace all references, if every one of them stands for something. -/
def replaceReferences? (env : Environment) (cs : List Char) : Option (List Char) :=
  ((segments cs).mapM (Segment.value? env)).map List.flatten

/-- Replace a tilde at the beginning by the home directory. -/
def replaceTilde (home : Option String) : List Char → List Char
  | ['~'] => (home.map String.toList).getD ['~']
  | '~' :: '/' :: rest => (home.map String.toList).getD ['~'] ++ '/' :: rest
  | cs => cs

/-- A home directory, unless it is left empty. -/
def nonempty? (home : Option String) : Option String :=
  home.filter fun h => !h.isEmpty

/-- The home directory: the value of `HOME`, and without one what is on record for the user's
account. -/
def home? (env : Environment) (account : Option String) : Option String :=
  (nonempty? (env "HOME")).or (nonempty? account)

/-- Expand the references of a path and the tilde with which it begins. The home directory on
record for the user's account is `account`. -/
def expand (env : Environment) (account : Option String) (path : String) : String :=
  match replaceReferences? env path.toList with
  | none => path
  | some cs =>
    .ofList (if path.toList.head? = some '~' then replaceTilde (home? env account) cs else cs)

end NodeFlags.Path
