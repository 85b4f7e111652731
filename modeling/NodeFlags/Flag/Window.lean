import NodeFlags.Flag.Map
import NodeFlags.Flag.Name
import NodeFlags.Version.Reader

/-!
# Version windows of flags

Some flags are accepted by the kubelet only from a version on, others only up to
one. `FlagMap.restrict` removes what a version does not accept and then every flag
that carries the removal mark. A text that is no version is at or above nothing:
it has no flag that was introduced later and loses no flag to retirement.
-/

namespace NodeFlags.FlagMap

/-- Flags with the version from which on they are accepted. -/
def introducedIn : List (String × String) :=
  [(Flag.podMaxPids, "1.10.0")]

/-- Flags with the version from which on they are no longer accepted. -/
def retiredIn : List (String × String) :=
  [(Flag.cadvisorPort, "1.12.0"), (Flag.allowPrivileged, "1.15.0-beta.1")]

/-- Remove the flags that came later than `version`. -/
def dropUnborn (flags : FlagMap) (version : String) : FlagMap :=
  introducedIn.foldl (fun acc w => if atLeast version w.2 then acc else acc.erase w.1) flags

/-- Remove the flags retired by `version`. -/
def dropRetired (flags : FlagMap) (version : String) : FlagMap :=
  retiredIn.foldl (fun acc w => if atLeast version w.2 then acc.erase w.1 else acc) flags

/-- Remove the flags that carry the removal mark. -/
def sweep (flags : FlagMap) : FlagMap :=
  flags.filter fun _ value => value != removalMark

/-- Keep what `version` accepts and what is not marked for removal. -/
def restrict (flags : FlagMap) (version : String) : FlagMap :=
  ((flags.dropUnborn version).dropRetired version).sweep

end NodeFlags.FlagMap
