import NodeFlags.Flag.Map
import NodeFlags.Flag.Name
import NodeFlags.Text.Blank
import NodeFlags.Version.Reader

/-!
# Feature gates

All feature gates of a kubelet go through one flag, as a list of `name=value`
entries joined by commas. A `GateSet` is that list taken apart: an ordered list of
entries in which an entry is appended only if it is not there yet. Blank segments
of the joined form are dropped, all others are kept in their order, so an
operator's entries stay as they were written. The same gate with another value is
another entry.
-/

namespace NodeFlags

/-- Feature gates in the order in which they are passed on. -/
structure GateSet where
  /-- The `name=value` entries. -/
  entries : List String := []
  deriving DecidableEq, Repr

namespace GateSet

/-- Pods may have priorities. -/
def podPriority : String := "PodPriority=true"

/-- The kubelet renews its serving certificate. -/
def rotateServerCertificate : String := "RotateKubeletServerCertificate=true"

/-- The kubelet itself hands out graphics accelerators. -/
def accelerators : String := "Accelerators=true"

/-- The kubelet honours a limit on process identifiers per pod. -/
def supportPodPidsLimit : String := "SupportPodPidsLimit=true"

/-- The trimmed segments between commas that are not blank. -/
def segments (cs : List Char) : List (List Char) :=
  ((cs.splitOn ',').map Text.trimChars).filter fun s => !s.isEmpty

/-- Take the joined form apart. -/
def parse (composite : String) : GateSet where
  entries := (segments composite.toList).map .ofList

/-- The joined form. -/
def render (gates : GateSet) : String :=
  ",".intercalate gates.entries

/-- Whether this very entry is there. -/
def contains (gates : GateSet) (entry : String) : Bool :=
  gates.entries.contains entry

/-- Whether there are no entries. -/
def isEmpty (gates : GateSet) : Bool :=
  gates.entries.isEmpty

/-- Append an entry unless it is there already. -/
def insert (gates : GateSet) (entry : String) : GateSet :=
  if gates.contains entry then gates else ⟨gates.entries ++ [entry]⟩

/-- The gates of a flag map; none if the flag is absent. -/
def ofFlags (flags : FlagMap) : GateSet :=
  ((flags.get? Flag.featureGates).map parse).getD {}

/-- Write the gates into a flag map. Without gates there is no flag. -/
def store (gates : GateSet) (flags : FlagMap) : FlagMap :=
  if gates.isEmpty then flags.erase Flag.featureGates
  else flags.insert Flag.featureGates gates.render

end GateSet

namespace FlagMap

/-- Add a gate if `version` is at or above `threshold`; below it nothing changes. -/
def addGate (flags : FlagMap) (version threshold entry : String) : FlagMap :=
  if atLeast version threshold then ((GateSet.ofFlags flags).insert entry).store flags else flags

/-- The gates that every role receives, each from a version on. -/
def defaultGates : List (String × String) :=
  [("1.8.0", GateSet.podPriority), ("1.11.9", GateSet.rotateServerCertificate)]

/-- Add the default gates for `version`. -/
def addDefaultGates (flags : FlagMap) (version : String) : FlagMap :=
  defaultGates.foldl (fun acc gate => acc.addGate version gate.1 gate.2) flags

end FlagMap

end NodeFlags
