import NodeFlags.Dict
import NodeFlags.Schema.Problem

/-!
# Readers of structured values

A cluster definition is made of few kinds of value: texts, switches, choices among
names, optional values, lists, dictionaries and records. A `Reader` says how each of
them is read from the values of one data format; what the records of a definition
hold is then said once for all formats.
-/

namespace NodeFlags

/-- A field of a record `α`, read from values `v`. -/
structure Field (m : Type → Type) (v α : Type) where
  /-- The name under which the field stands. -/
  name : String
  /-- Whether the record must have it. -/
  required : Bool
  /-- Read a value and say how to put it into the record. -/
  read : v → m (α → α)

/-- How the kinds of value are read from values `v` of a data format. -/
structure Reader (m : Type → Type) (v : Type) where
  text : v → m String
  switch : v → m Bool
  /-- One of the named values. -/
  choice : {α : Type} → List (String × α) → v → m α
  optional : {α : Type} → (v → m α) → v → m (Option α)
  list : {α : Type} → (v → m α) → v → m (List α)
  dict : {α : Type} → (v → m α) → v → m (Dict α)
  /-- A record of a name with its fields, starting from a record of defaults. -/
  record : {α : Type} → String → List (Field m v α) → α → v → m α

namespace Field

variable {m : Type → Type} [Functor m] {v α β : Type}

/-- A field that a record must have. -/
def mandatory (name : String) (read : v → m β) (put : α → β → α) : Field m v α :=
  ⟨name, true, fun x => (fun b a => put a b) <$> read x⟩

/-- A field that a record may leave out. -/
def optional (name : String) (read : v → m β) (put : α → β → α) : Field m v α :=
  ⟨name, false, fun x => (fun b a => put a b) <$> read x⟩

end Field

/-- The first field, in the order of the record, that must be there and was not seen. -/
def firstMissing? {m : Type → Type} {v α : Type} (fields : List (Field m v α))
    (seen : List String) : Option String :=
  (fields.find? fun f => f.required && !seen.contains f.name).map (·.name)

end NodeFlags
