/-!
# Problems with the data of a definition

What can be wrong with a well-formed text that should be a cluster definition, and
how it is said. A text that is not even well formed is only `malformed`.
-/

namespace NodeFlags

/-- What can be wrong with a value. -/
inductive DataProblem where
  /-- A record lacks a field that it must have. -/
  | missingField (name : String)
  /-- A record has a field twice. -/
  | duplicateField (name : String)
  /-- A name stands where one of a few others is due. -/
  | unknownVariant (got : String) (variants : List String)
  /-- A value is of another kind than the one due. -/
  | wrongKind (got want : String)
  /-- A record written as a list is too short. -/
  | wrongLength (length : Nat) (record : String) (size : Nat)
  deriving DecidableEq, Repr

/-- Why a text is no cluster definition. -/
inductive ReadError where
  /-- The text is not well formed, or in a way that is not told apart from that. -/
  | malformed
  /-- The value at a place has a problem. The empty place is the whole text, or unknown. -/
  | data (place : String) (problem : DataProblem)
  deriving DecidableEq, Repr

namespace DataProblem

/-- A name between accents. -/
def quoteName (name : String) : String :=
  "`" ++ name ++ "`"

/-- The names of which one is due. -/
def oneOf : List String → String
  | [a] => quoteName a
  | [a, b] => quoteName a ++ " or " ++ quoteName b
  | names => "one of " ++ ", ".intercalate (names.map quoteName)

/-- The text of a problem. -/
def message : DataProblem → String
  | .missingField name => "missing field " ++ quoteName name
  | .duplicateField name => "duplicate field " ++ quoteName name
  | .unknownVariant got variants =>
    "unknown variant " ++ quoteName got ++ ", expected " ++ oneOf variants
  | .wrongKind got want => "invalid type: " ++ got ++ ", expected " ++ want
  | .wrongLength length record size =>
    "invalid length " ++ toString length ++ ", expected struct " ++ record ++ " with " ++
      toString size ++ (if size = 1 then " element" else " elements")

end DataProblem

namespace ReadError

/-- The text of an error. -/
def message : ReadError → String
  | .malformed => "the text is not well formed"
  | .data place problem =>
    (if place.isEmpty then "" else place ++ ": ") ++ problem.message

end ReadError

end NodeFlags
