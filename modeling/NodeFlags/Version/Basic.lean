/-!
# Semantic versions

A version is three release numbers, a list of pre-release identifiers and a list
of build identifiers. Versions are ordered totally, build identifiers included:

* release numbers first, as numbers;
* then the pre-release lists, a version without one coming after every version
  with one;
* then the build lists, a version without one coming before every version with
  one.

Two lists of identifiers are compared from the left, and of two lists that agree
as far as the shorter one goes the longer is greater. An identifier made of digits
is less than any other; two such are compared as numbers, and equal numbers by
their leading zeros (`0 < 00 < 1 < 01 < 001 < 2`).
-/

namespace NodeFlags

/-- One identifier of a pre-release or of build metadata. -/
inductive Identifier where
  /-- Digits: `zeros` leading zeros, then the decimal numeral of `value`. -/
  | numeric (value zeros : Nat)
  /-- Letters, digits and hyphens, not all of them digits. -/
  | word (text : String)
  deriving DecidableEq, Repr

/-- A semantic version. -/
structure Version where
  /-- The first release number. -/
  major : Nat
  /-- The second release number. -/
  minor : Nat
  /-- The third release number. -/
  patch : Nat
  /-- The pre-release identifiers; none for a release. -/
  pre : List Identifier
  /-- The build identifiers. -/
  build : List Identifier
  deriving DecidableEq, Repr

namespace Identifier

/-- The order of identifiers. -/
def cmp : Identifier → Identifier → Ordering
  | numeric a y, numeric b z => (compare a b).then (compare y z)
  | numeric _ _, word _ => .lt
  | word _, numeric _ _ => .gt
  | word s, word t => compare s t

/-- The order of lists of identifiers: from the left, a longer list after its own beginning. -/
def cmpList : List Identifier → List Identifier → Ordering
  | [], [] => .eq
  | [], _ :: _ => .lt
  | _ :: _, [] => .gt
  | a :: as, b :: bs => (a.cmp b).then (cmpList as bs)

/-- An identifier as it is written. -/
def render : Identifier → String
  | numeric value zeros => .ofList (List.replicate zeros '0') ++ toString value
  | word text => text

/-- Identifiers as they are written, joined by dots. -/
def renderList (ids : List Identifier) : String :=
  ".".intercalate (ids.map render)

end Identifier

namespace Version

/-- The order of pre-release lists: the empty list is the greatest. -/
def cmpPre : List Identifier → List Identifier → Ordering
  | [], [] => .eq
  | [], _ :: _ => .gt
  | _ :: _, [] => .lt
  | as, bs => Identifier.cmpList as bs

/-- The order of versions. -/
def cmp (a b : Version) : Ordering :=
  (compare a.major b.major).then <| (compare a.minor b.minor).then <|
    (compare a.patch b.patch).then <| (cmpPre a.pre b.pre).then <|
      Identifier.cmpList a.build b.build

/-- A version as it is written. -/
def render (v : Version) : String :=
  let release := toString v.major ++ "." ++ toString v.minor ++ "." ++ toString v.patch
  let pre := if v.pre.isEmpty then "" else "-" ++ Identifier.renderList v.pre
  let build := if v.build.isEmpty then "" else "+" ++ Identifier.renderList v.build
  release ++ pre ++ build

/-- The first two release numbers as they are written, the key of the component catalog. -/
def minorKey (v : Version) : String :=
  toString v.major ++ "." ++ toString v.minor

end Version

end NodeFlags
