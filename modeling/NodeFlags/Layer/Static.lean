import NodeFlags.Cluster.Basic
import NodeFlags.Flag.Name

/-!
# Static flags

The flags that the platform dictates. They overwrite whatever the operator wrote.
The set for Windows starts from that for Linux: what makes sense on Linux alone is
marked for removal, then the paths and additions of Windows are set.
-/

namespace NodeFlags

namespace StaticFlags

/-- The value that the Windows start script passes on as an empty argument. It is not empty
itself and so survives the sweep. -/
def emptyArgument : String := "\"\"\"\""

/-- Flags that make sense on Linux nodes alone. -/
def linuxOnly : List String :=
  [Flag.podManifestPath, Flag.tlsCertFile, Flag.tlsPrivateKeyFile]

/-- Flags that are dropped where access to the kubelet is open. -/
def secureOnly : List String :=
  [Flag.anonymousAuth, Flag.clientCaFile]

/-- Mark flags for removal. -/
def mark (flags : FlagMap) (names : List String) : FlagMap :=
  names.foldl (fun acc name => acc.insert name FlagMap.removalMark) flags

/-- The static flags of Linux nodes. -/
def linux (ctx : Context) : FlagMap :=
  let common : FlagMap := .ofList [
    (Flag.address, "0.0.0.0"),
    (Flag.allowPrivileged, "true"),
    (Flag.anonymousAuth, "false"),
    (Flag.authorizationMode, "Webhook"),
    (Flag.clientCaFile, "/etc/kubernetes/certs/ca.crt"),
    (Flag.podManifestPath, "/etc/kubernetes/manifests"),
    (Flag.clusterDns, ctx.dnsServiceIp),
    (Flag.cgroupsPerQos, "true"),
    (Flag.kubeconfig, "/var/lib/kubelet/kubeconfig"),
    (Flag.keepTerminatedPodVolumes, "false"),
    (Flag.tlsCertFile, "/etc/kubernetes/certs/kubeletserver.crt"),
    (Flag.tlsPrivateKeyFile, "/etc/kubernetes/certs/kubeletserver.key")]
  let provided :=
    match ctx.cloudProvider with
    | .external => common.insert Flag.cloudProvider "external"
    | .managed => common
  if ctx.secureKubelet then provided else mark provided secureOnly

/-- What Windows nodes set on top of the Linux flags. -/
def windowsAdditions (secureKubelet : Bool) : List (String × String) :=
  [(Flag.azureContainerRegistryConfig, "c:\\k\\azure.json"),
   (Flag.podInfraContainerImage, "kubletwin/pause"),
   (Flag.kubeconfig, "c:\\k\\config"),
   (Flag.cloudConfig, "c:\\k\\azure.json"),
   (Flag.cgroupsPerQos, "false"),
   (Flag.enforceNodeAllocatable, emptyArgument),
   (Flag.systemReserved, "memory=2Gi"),
   (Flag.hairpinMode, "promiscuous-bridge"),
   (Flag.imagePullProgressDeadline, "20m"),
   (Flag.resolvConf, emptyArgument),
   (Flag.evictionHard, emptyArgument)] ++
  if secureKubelet then [(Flag.clientCaFile, "c:\\k\\ca.crt")] else []

/-- The static flags of Windows nodes. -/
def windows (ctx : Context) : FlagMap :=
  (mark (linux ctx) linuxOnly).overlay (.ofList (windowsAdditions ctx.secureKubelet))

/-- The static flags for an operating system. -/
def ofContext (ctx : Context) : OsFamily → FlagMap
  | .linux => linux ctx
  | .windows => windows ctx

end StaticFlags

end NodeFlags
