import NodeFlags.Json.Comment
import NodeFlags.Json.Printer
import NodeFlags.Json.Reading
import NodeFlags.Schema.Cluster

/-!
# Cluster definitions in JSON

Definitions are read from JSON with comments. They are written with every field in
the order of its record, except that a control plane or a role's flag map that is
absent is left out.
-/

namespace NodeFlags

/-- Flags as an object. -/
def FlagMap.toJson (flags : FlagMap) : Json :=
  .ofMembers (flags.entries.map fun e => (e.1, .ofText e.2))

/-- A context as an object. -/
def Context.toJson (c : Context) : Json :=
  .ofMembers
    [("orchestrator-version", .ofText c.orchestratorVersion),
     ("dns-service-ip", .ofText c.dnsServiceIp),
     ("image-base", .ofText c.imageBase),
     ("network-plugin", .ofText (nameIn NetworkPlugin.names c.networkPlugin)),
     ("network-policy", .ofText (nameIn NetworkPolicy.names c.networkPolicy)),
     ("cloud-provider", .ofText (nameIn CloudProvider.names c.cloudProvider)),
     ("ip-masq-agent", .bool c.ipMasqAgent),
     ("cluster-subnet", .ofText c.clusterSubnet),
     ("secure-kubelet", .bool c.secureKubelet),
     ("gpu-device-plugin", .bool c.gpuDevicePlugin),
     ("is-upgrade", .bool c.isUpgrade),
     ("kubelet-config", c.kubeletConfig.toJson)]

/-- A role as an object. -/
def Role.toJson (role : Role) : Json :=
  .ofMembers <|
    [("name", .ofText role.name),
     ("os-family", .ofText (nameIn OsFamily.names role.osFamily)),
     ("vm-size", .ofText role.vmSize)] ++
    match role.kubeletConfig with
    | some flags => [("kubelet-config", FlagMap.toJson flags)]
    | none => []

/-- A catalog entry as an object. -/
def Components.toJson (c : Components) : Json :=
  .ofMembers
    [("pause", .ofText c.pause), ("node-status-frequency", .ofText c.nodeStatusFrequency)]

/-- A component catalog as an object. -/
def Catalog.toJson (catalog : Catalog) : Json :=
  .ofMembers (catalog.entries.map fun e => (e.1, e.2.toJson))

/-- A definition as an object. -/
def Definition.toJson (d : Definition) : Json :=
  .ofMembers <|
    [("context", d.context.toJson)] ++
    (match d.controlPlane with
    | some role => [("control-plane", role.toJson)]
    | none => []) ++
    [("worker-pools", .ofItems (d.workerPools.map Role.toJson)),
     ("components", Catalog.toJson d.components)]

/-- Read a definition from a text in JSON, in which comments may stand. -/
def Definition.readJson (text : String) : Except ReadError Definition :=
  let (v, complete) := Json.read (Json.Comment.strip text.toList)
  match Json.reader.definition v with
  | .error e => .error e
  | .ok d => if complete then .ok d else .error .malformed

end NodeFlags
