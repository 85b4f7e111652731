import NodeFlags.Cluster.Basic
import NodeFlags.Version.Reader

/-!
# The component catalog

Image tags and release settings by minor version of the orchestrator. Only the
text `major.minor` of the version that is looked up matters; a text that is no
version has no entry.
-/

namespace NodeFlags

/-- Components by `major.minor`. -/
abbrev Catalog := Dict Components

namespace Catalog

/-- The minor releases of the first major release that are known. -/
def knownMinors : List Nat :=
  [6, 7, 8, 9, 10, 11, 12, 13, 14, 15, 16]

/-- The components of a known minor release. -/
def knownComponents (minor : Nat) : Components where
  pause := if minor < 8 then "pause-amd64:3.0" else "pause-amd64:3.1"
  nodeStatusFrequency := "10s"

/-- The releases known without a definition's help. -/
def builtin : Catalog :=
  .ofList (knownMinors.map fun minor => ("1." ++ toString minor, knownComponents minor))

/-- The components for a version, if its minor release is known. -/
def lookup? (catalog : Catalog) (version : String) : Option Components :=
  (minorKey? version).bind catalog.get?

end Catalog

/-- The known releases with the definition's own entries in place of theirs. -/
def Definition.catalog (d : Definition) : Catalog :=
  Catalog.builtin.overlay d.components

end NodeFlags
