import NodeFlags.Flag.Map

/-!
# Clusters and their node roles

A cluster definition holds what all nodes share (the context), an optional control
plane, any number of worker pools, and extra entries for the component catalog.
The control plane and the pools are roles: groups of nodes that run the kubelet
with the same flags.
-/

namespace NodeFlags

/-- The network plugin of a cluster. -/
inductive NetworkPlugin where
  /-- Pods take addresses from the virtual network of their node. -/
  | azure
  | kubenet
  | flannel
  | cilium
  deriving DecidableEq, Repr

/-- The network policy engine of a cluster. -/
inductive NetworkPolicy where
  | none
  | calico
  | azure
  | cilium
  deriving DecidableEq, Repr

/-- How the cloud provider is connected. -/
inductive CloudProvider where
  /-- Built into the kubelet. -/
  | managed
  /-- Run by a controller of its own. -/
  | external
  deriving DecidableEq, Repr

/-- The operating system of a node. -/
inductive OsFamily where
  | linux
  | windows
  deriving DecidableEq, Repr

/-- Which kind of node group a role is. -/
inductive RoleKind where
  | controlPlane
  | workerPool
  deriving DecidableEq, Repr

/-- What all nodes of a cluster share. -/
structure Context where
  /-- The orchestrator version as written; read only when compared with a threshold. -/
  orchestratorVersion : String
  /-- The address of the name service in the cluster. -/
  dnsServiceIp : String := "10.0.0.10"
  /-- What stands before the names of container images. -/
  imageBase : String := "k8s.gcr.io/"
  networkPlugin : NetworkPlugin := .kubenet
  networkPolicy : NetworkPolicy := .none
  cloudProvider : CloudProvider := .managed
  /-- Whether the masquerade agent runs on the nodes. -/
  ipMasqAgent : Bool := true
  /-- The address range of the pods. -/
  clusterSubnet : String := "10.244.0.0/16"
  /-- Whether access to the kubelet must be authenticated. -/
  secureKubelet : Bool := true
  /-- Whether a device plugin hands out graphics accelerators. -/
  gpuDevicePlugin : Bool := false
  /-- Whether an existing cluster is resolved again, rather than a new one. -/
  isUpgrade : Bool := false
  /-- The operator's flags for every role. -/
  kubeletConfig : FlagMap := {}
  deriving DecidableEq

/-- A group of nodes with the same flags. -/
structure Role where
  name : String
  osFamily : OsFamily := .linux
  /-- The hardware size, such as `Standard_NC6`. -/
  vmSize : String := ""
  /-- The operator's flags for this role; after a resolution, all its flags. -/
  kubeletConfig : Option FlagMap := none
  deriving DecidableEq

/-- The components pinned for one minor version of the orchestrator. -/
structure Components where
  /-- Name and tag of the pause image, without the image base. -/
  pause : String
  /-- How often a node reports its status. -/
  nodeStatusFrequency : String
  deriving DecidableEq

/-- A cluster and its roles. -/
structure Definition where
  context : Context
  controlPlane : Option Role := none
  workerPools : List Role := []
  /-- Extra catalog entries by `major.minor`. -/
  components : Dict Components := {}
  deriving DecidableEq

namespace Role

/-- The flags of a role; a role without a flag map has none. -/
def flags (role : Role) : FlagMap :=
  role.kubeletConfig.getD {}

end Role

namespace Definition

/-- All roles, the control plane first. -/
def roles (d : Definition) : List Role :=
  d.controlPlane.toList ++ d.workerPools

/-- The first role of a name. -/
def findRole? (d : Definition) (name : String) : Option Role :=
  d.roles.find? (·.name == name)

end Definition

end NodeFlags
