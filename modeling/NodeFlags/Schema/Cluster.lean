import NodeFlags.Cluster.Catalog
import NodeFlags.Schema.Reader

/-!
# The records of a cluster definition

The fields of each record in their order, with the names under which they stand in
a file. Fields that may be left out have the defaults of the record.
-/

namespace NodeFlags

/-- The names of the network plugins. -/
def NetworkPlugin.names : List (String × NetworkPlugin) :=
  [("azure", .azure), ("kubenet", .kubenet), ("flannel", .flannel), ("cilium", .cilium)]

/-- The names of the network policies. -/
def NetworkPolicy.names : List (String × NetworkPolicy) :=
  [("none", .none), ("calico", .calico), ("azure", .azure), ("cilium", .cilium)]

/-- The names of the ways to connect a cloud provider. -/
def CloudProvider.names : List (String × CloudProvider) :=
  [("managed", .managed), ("external", .external)]

/-- The names of the operating systems. -/
def OsFamily.names : List (String × OsFamily) :=
  [("linux", .linux), ("windows", .windows)]

/-- The name of a value in a list of named values. -/
def nameIn {α : Type} [DecidableEq α] (names : List (String × α)) (a : α) : String :=
  ((names.find? fun n => n.2 = a).map (·.1)).getD ""

namespace Reader

variable {m : Type → Type} [Monad m] {v : Type} (r : Reader m v)

/-- A flag map. -/
def flagMap : v → m FlagMap :=
  r.dict r.text

/-- The fields of a context. -/
def contextFields : List (Field m v Context) :=
  [.mandatory "orchestrator-version" r.text fun c x => { c with orchestratorVersion := x },
   .optional "dns-service-ip" r.text fun c x => { c with dnsServiceIp := x },
   .optional "image-base" r.text fun c x => { c with imageBase := x },
   .optional "network-plugin" (r.choice NetworkPlugin.names) fun c x =>
     { c with networkPlugin := x },
   .optional "network-policy" (r.choice NetworkPolicy.names) fun c x =>
     { c with networkPolicy := x },
   .optional "cloud-provider" (r.choice CloudProvider.names) fun c x =>
     { c with cloudProvider := x },
   .optional "ip-masq-agent" r.switch fun c x => { c with ipMasqAgent := x },
   .optional "cluster-subnet" r.text fun c x => { c with clusterSubnet := x },
   .optional "secure-kubelet" r.switch fun c x => { c with secureKubelet := x },
   .optional "gpu-device-plugin" r.switch fun c x => { c with gpuDevicePlugin := x },
   .optional "is-upgrade" r.switch fun c x => { c with isUpgrade := x },
   .optional "kubelet-config" r.flagMap fun c x => { c with kubeletConfig := x }]

/-- A context. -/
def context : v → m Context :=
  r.record "ClusterContext" r.contextFields { orchestratorVersion := "" }

/-- The fields of a role. -/
def roleFields : List (Field m v Role) :=
  [.mandatory "name" r.text fun c x => { c with name := x },
   .optional "os-family" (r.choice OsFamily.names) fun c x => { c with osFamily := x },
   .optional "vm-size" r.text fun c x => { c with vmSize := x },
   .optional "kubelet-config" (r.optional r.flagMap) fun c x => { c with kubeletConfig := x }]

/-- A role. -/
def role : v → m Role :=
  r.record "Role" r.roleFields { name := "" }

/-- The fields of a catalog entry. -/
def componentsFields : List (Field m v Components) :=
  [.mandatory "pause" r.text fun c x => { c with pause := x },
   .mandatory "node-status-frequency" r.text fun c x => { c with nodeStatusFrequency := x }]

/-- A catalog entry. -/
def components : v → m Components :=
  r.record "ComponentVersions" r.componentsFields { pause := "", nodeStatusFrequency := "" }

/-- A component catalog. -/
def catalog : v → m Catalog :=
  r.dict r.components

/-- The fields of a definition. -/
def definitionFields : List (Field m v Definition) :=
  [.mandatory "context" r.context fun c x => { c with context := x },
   .optional "control-plane" (r.optional r.role) fun c x => { c with controlPlane := x },
   .optional "worker-pools" (r.list r.role) fun c x => { c with workerPools := x },
   .optional "components" r.catalog fun c x => { c with components := x }]

/-- A cluster definition. -/
def definition : v → m Definition :=
  r.record "ClusterDefinition" r.definitionFields { context := { orchestratorVersion := "" } }

end Reader

end NodeFlags
