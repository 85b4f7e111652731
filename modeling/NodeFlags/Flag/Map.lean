import NodeFlags.Dict

/-!
# Flag maps

The kubelet flags of a node role: flag names with their values. The empty value
has a meaning of its own while a role is being resolved: it marks a flag that is
present, hides the layers below, and is removed at the end.

A flag map is written as `name=value` tokens in the order of the names, joined by
blanks. The order is that of the dictionary, so equal maps are written alike.
-/

namespace NodeFlags

/-- Kubelet flag names with their values. -/
abbrev FlagMap := Dict String

namespace FlagMap

/-- The value of a flag that is to be removed at the end of a resolution. -/
def removalMark : String := ""

/-- One `name=value` token. -/
def token (entry : String × String) : String :=
  entry.1 ++ "=" ++ entry.2

/-- The flags as one line: `name=value` tokens in the order of the names, joined by blanks. -/
def render (flags : FlagMap) : String :=
  " ".intercalate (flags.entries.map token)

end FlagMap

end NodeFlags
