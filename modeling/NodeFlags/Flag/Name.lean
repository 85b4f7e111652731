/-!
# Names of kubelet flags

The flags that the layers, the feature gates and the version windows speak of.
-/

namespace NodeFlags.Flag

def address : String := "--address"
def allowPrivileged : String := "--allow-privileged"
def anonymousAuth : String := "--anonymous-auth"
def authorizationMode : String := "--authorization-mode"
def azureContainerRegistryConfig : String := "--azure-container-registry-config"
def cadvisorPort : String := "--cadvisor-port"
def cgroupsPerQos : String := "--cgroups-per-qos"
def clientCaFile : String := "--client-ca-file"
def cloudConfig : String := "--cloud-config"
def cloudProvider : String := "--cloud-provider"
def clusterDns : String := "--cluster-dns"
def clusterDomain : String := "--cluster-domain"
def enforceNodeAllocatable : String := "--enforce-node-allocatable"
def eventQps : String := "--event-qps"
def evictionHard : String := "--eviction-hard"
def featureGates : String := "--feature-gates"
def hairpinMode : String := "--hairpin-mode"
def imageGcHighThreshold : String := "--image-gc-high-threshold"
def imageGcLowThreshold : String := "--image-gc-low-threshold"
def imagePullProgressDeadline : String := "--image-pull-progress-deadline"
def keepTerminatedPodVolumes : String := "--keep-terminated-pod-volumes"
def kubeconfig : String := "--kubeconfig"
def maxPods : String := "--max-pods"
def networkPlugin : String := "--network-plugin"
def nodeStatusUpdateFrequency : String := "--node-status-update-frequency"
def nonMasqueradeCidr : String := "--non-masquerade-cidr"
def podInfraContainerImage : String := "--pod-infra-container-image"
def podManifestPath : String := "--pod-manifest-path"
def podMaxPids : String := "--pod-max-pids"
def resolvConf : String := "--resolv-conf"
def rotateCertificates : String := "--rotate-certificates"
def streamingConnectionIdleTimeout : String := "--streaming-connection-idle-timeout"
def systemReserved : String := "--system-reserved"
def tlsCertFile : String := "--tls-cert-file"
def tlsCipherSuites : String := "--tls-cipher-suites"
def tlsPrivateKeyFile : String := "--tls-private-key-file"

end NodeFlags.Flag
