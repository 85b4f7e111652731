import NodeFlags.Cluster.Catalog
import NodeFlags.Flag.Gates
import NodeFlags.Flag.Name

/-!
# Default flags

The flags computed from the context of a cluster. They are the lowest layer: the
operator's flags for the cluster or a role hide them, and the static flags hide
both.
-/

namespace NodeFlags

namespace DefaultFlags

/-- The cipher suites that a kubelet offers. -/
def cipherSuites : List String :=
  ["TLS_ECDHE_ECDSA_WITH_AES_128_GCM_SHA256", "TLS_ECDHE_RSA_WITH_AES_128_GCM_SHA256",
   "TLS_ECDHE_ECDSA_WITH_CHACHA20_POLY1305", "TLS_ECDHE_RSA_WITH_AES_256_GCM_SHA384",
   "TLS_ECDHE_RSA_WITH_CHACHA20_POLY1305", "TLS_ECDHE_ECDSA_WITH_AES_256_GCM_SHA384",
   "TLS_RSA_WITH_AES_256_GCM_SHA384", "TLS_RSA_WITH_AES_128_GCM_SHA256"]

/-- The version from which on kubelets renew their certificates. -/
def rotateCertificatesFrom : String := "1.11.9"

/-- The version from which on kubelets take a list of cipher suites. -/
def cipherSuitesFrom : String := "1.10.0"

/-- Defaults that depend on nothing. -/
def common : List (String × String) :=
  [(Flag.clusterDomain, "cluster.local"),
   (Flag.networkPlugin, "cni"),
   (Flag.evictionHard, "memory.available<750Mi,nodefs.available<10%,nodefs.inodesFree<5%"),
   (Flag.nonMasqueradeCidr, "10.0.0.0/8"),
   (Flag.cloudProvider, "azure"),
   (Flag.cloudConfig, "/etc/kubernetes/azure.json"),
   (Flag.azureContainerRegistryConfig, "/etc/kubernetes/azure.json"),
   (Flag.eventQps, "0"),
   (Flag.cadvisorPort, "0"),
   (Flag.imagePullProgressDeadline, "30m"),
   (Flag.enforceNodeAllocatable, "pods"),
   (Flag.streamingConnectionIdleTimeout, "5m"),
   (Flag.maxPods, "110"),
   (Flag.imageGcHighThreshold, "85"),
   (Flag.imageGcLowThreshold, "80"),
   (Flag.podMaxPids, "100")]

/-- Defaults taken from the catalog. -/
def ofComponents (ctx : Context) : Option Components → List (String × String)
  | some c =>
    [(Flag.podInfraContainerImage, ctx.imageBase ++ c.pause),
     (Flag.nodeStatusUpdateFrequency, c.nodeStatusFrequency)]
  | none => []

/-- Without the masquerade agent the pods' own range is left alone. -/
def ofMasquerade (ctx : Context) : List (String × String) :=
  if ctx.ipMasqAgent then [] else [(Flag.nonMasqueradeCidr, ctx.clusterSubnet)]

/-- Defaults that hang on the network plugin. -/
def ofNetwork (ctx : Context) : List (String × String) :=
  match ctx.networkPlugin with
  | .azure => [(Flag.maxPods, "30")]
  | .kubenet =>
    if ctx.networkPolicy = .calico then [] else [(Flag.networkPlugin, "kubenet")]
  | .flannel => []
  | .cilium => []

/-- Defaults that hang on the version. -/
def ofVersion (ctx : Context) : List (String × String) :=
  (if atLeast ctx.orchestratorVersion rotateCertificatesFrom then
    [(Flag.rotateCertificates, "true")] else []) ++
  (if atLeast ctx.orchestratorVersion cipherSuitesFrom then
    [(Flag.tlsCipherSuites, ",".intercalate cipherSuites)] else [])

/-- The default flags of a cluster. Of two entries for one flag the later holds. -/
def ofContext (ctx : Context) (catalog : Catalog) : FlagMap :=
  .ofList (common ++ ofComponents ctx (catalog.lookup? ctx.orchestratorVersion) ++
    ofMasquerade ctx ++ ofNetwork ctx ++ ofVersion ctx)

end DefaultFlags

end NodeFlags
