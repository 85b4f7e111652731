import NodeFlags.Flag.Window
import NodeFlags.Layer.Default
import NodeFlags.Layer.Static
import NodeFlags.Text.Blank

/-!
# Resolution of the flags of a role

The flags of a role are resolved in a fixed order of steps:

1. the static flags of its operating system overwrite what is there;
2. gaps are filled from the snapshot, which is the operator's cluster-wide map
   filled up with the computed defaults and given the default gates;
3. the default feature gates for the version are added;
4. a worker pool on graphics hardware receives the accelerator gate;
5. an upgrade disables a positive limit on process identifiers that lacks its gate;
6. what the version does not accept, and what is marked for removal, goes.

The snapshot is computed once per pass and is only read, so roles do not influence
one another.
-/

namespace NodeFlags

/-! ### Graphics hardware -/

/-- What the names of machine sizes with graphics hardware contain. -/
def gpuMarker : String := "Standard_N"

/-- Whether `part` stands somewhere in a list of characters. -/
def occursIn (part : List Char) : List Char → Bool
  | [] => part.isEmpty
  | c :: rest => part.isPrefixOf (c :: rest) || occursIn part rest

/-- Whether a machine size has graphics hardware. -/
def isGpuSize (vmSize : String) : Bool :=
  occursIn gpuMarker.toList vmSize.toList

/-- The version from which on the accelerator gate is passed. -/
def acceleratorsFrom : String := "1.6.0"

/-- The version from which on a device plugin replaces the accelerator gate. -/
def acceleratorsUntil : String := "1.11.0"

/-! ### The limit on process identifiers -/

/-- The value of a decimal numeral: digits, at least one. -/
def numeral? (ds : List Char) : Option Nat :=
  if ds.isEmpty || !ds.all Text.isDigit then none else some (Text.digitsValue ds)

/-- Read a 64-bit integer: an optional sign and digits. -/
def readInt64? (cs : List Char) : Option Int :=
  match cs with
  | '-' :: ds =>
    (numeral? ds).bind fun n => if n ≤ 0x8000000000000000 then some (-(n : Int)) else none
  | '+' :: ds => (numeral? ds).bind bounded
  | ds => (numeral? ds).bind bounded
where
  bounded (n : Nat) : Option Int := if n < 0x8000000000000000 then some (n : Int) else none

/-- The limit that a flag value states; zero if it states none. -/
def pidLimit (value : Option String) : Int :=
  (value.bind fun v => readInt64? (Text.trimChars v.toList)).getD 0

/-- The value that disables the limit. -/
def pidLimitDisabled : String := "-1"

/-- The version from which on an upgrade disables an inherited limit. -/
def pidClampFrom : String := "1.14.0"

/-- Disable a positive limit that lacks its feature gate. -/
def FlagMap.clampPidLimit (flags : FlagMap) : FlagMap :=
  if 0 < pidLimit (flags.get? Flag.podMaxPids) ∧
      ¬ (GateSet.ofFlags flags).contains GateSet.supportPodPidsLimit then
    flags.insert Flag.podMaxPids pidLimitDisabled
  else flags

/-! ### A pass -/

/-- What all roles share in one pass. -/
structure Plan where
  context : Context
  /-- The flags that fill the gaps of every role. -/
  snapshot : FlagMap

namespace Plan

/-- The plan for a context and a catalog. -/
def ofContext (ctx : Context) (catalog : Catalog) : Plan where
  context := ctx
  snapshot :=
    FlagMap.addDefaultGates (ctx.kubeletConfig.fill (DefaultFlags.ofContext ctx catalog)).1
      ctx.orchestratorVersion

/-- Whether a role receives the accelerator gate, as far as that hangs on anything but the version
from which on it is passed. -/
def wantsAccelerators (plan : Plan) (vmSize : String) (kind : RoleKind) : Bool :=
  kind == .workerPool && isGpuSize vmSize && !plan.context.gpuDevicePlugin &&
    !atLeast plan.context.orchestratorVersion acceleratorsUntil

/-- Whether the limit on process identifiers is looked at. -/
def clampsPidLimit (plan : Plan) : Bool :=
  plan.context.isUpgrade && atLeast plan.context.orchestratorVersion pidClampFrom

/-- The flags of a role after the pass. -/
def resolveFlags (plan : Plan) (role : Role) (kind : RoleKind) : FlagMap :=
  let version := plan.context.orchestratorVersion
  let pinned : FlagMap := role.flags.overlay (StaticFlags.ofContext plan.context role.osFamily)
  let filled : FlagMap := (pinned.fill plan.snapshot).1
  let gated := filled.addDefaultGates version
  let accelerated :=
    if plan.wantsAccelerators role.vmSize kind then
      gated.addGate version acceleratorsFrom GateSet.accelerators
    else gated
  let clamped := if plan.clampsPidLimit then accelerated.clampPidLimit else accelerated
  clamped.restrict version

/-- A role after the pass. -/
def resolveRole (plan : Plan) (role : Role) (kind : RoleKind) : Role :=
  { role with kubeletConfig := some (plan.resolveFlags role kind) }

end Plan

namespace Definition

/-- Resolve all roles against a catalog. -/
def resolveWith (d : Definition) (catalog : Catalog) : Definition :=
  let plan := Plan.ofContext d.context catalog
  { d with
    controlPlane := d.controlPlane.map (plan.resolveRole · .controlPlane)
    workerPools := d.workerPools.map (plan.resolveRole · .workerPool) }

/-- Resolve all roles against the known releases and the definition's own entries. -/
def resolve (d : Definition) : Definition :=
  d.resolveWith d.catalog

end Definition

end NodeFlags
