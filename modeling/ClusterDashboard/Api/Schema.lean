import ClusterDashboard.Json.Shape
import ClusterDashboard.Kind.Basic
/-!
The types of the objects that the API server sends: metadata, the built-in kinds, listings,
and what discovery and the version endpoint answer.
-/
namespace ClusterDashboard

namespace Schema

open Shape

def texts : Shape := .list .text
def labels : Shape := .dictionary .text
def objects : Shape := .list .object

/-- The written type of an object, where it is written, has to be the expected one. -/
def typed (version kind : String) (rest : Shape) : Shape :=
  .field "apiVersion" false (.exactly version) (.field "kind" false (.exactly kind) rest)

def managedField : Shape :=
  record [("apiVersion", .text), ("fieldsType", .text), ("manager", .text), ("operation", .text),
    ("subresource", .text), ("time", .instant)]

def ownerReference : Shape :=
  record [("apiVersion", .text), ("blockOwnerDeletion", .flag), ("controller", .flag),
    ("kind", .text), ("name", .text), ("uid", .text)]

def metadata : Shape :=
  record [("annotations", labels), ("creationTimestamp", .instant),
    ("deletionGracePeriodSeconds", .whole 64), ("deletionTimestamp", .instant),
    ("finalizers", texts), ("generateName", .text), ("generation", .whole 64), ("labels", labels),
    ("managedFields", .list managedField), ("name", .text), ("namespace", .text),
    ("ownerReferences", .list ownerReference), ("resourceVersion", .text), ("selfLink", .text),
    ("uid", .text)]

def condition : Shape :=
  record [("type", .text), ("status", .text), ("reason", .text), ("message", .text),
    ("lastProbeTime", .instant), ("lastHeartbeatTime", .instant), ("lastUpdateTime", .instant),
    ("lastTransitionTime", .instant), ("observedGeneration", .whole 64)]

def conditions : Shape := .list condition

def selector : Shape :=
  record [("matchLabels", labels),
    ("matchExpressions", .list (record [("key", .text), ("operator", .text), ("values", texts)]))]

def containerPort : Shape :=
  record [("containerPort", .whole 32), ("hostIP", .text), ("hostPort", .whole 32),
    ("name", .text), ("protocol", .text)]

def envVar : Shape := record [("name", .text), ("value", .text), ("valueFrom", .object)]

def amounts : Shape := record [("claims", objects), ("limits", labels), ("requests", labels)]

def volumeMount : Shape :=
  record [("mountPath", .text), ("mountPropagation", .text), ("name", .text), ("readOnly", .flag),
    ("recursiveReadOnly", .text), ("subPath", .text), ("subPathExpr", .text)]

def container : Shape :=
  record [("args", texts), ("command", texts), ("env", .list envVar), ("envFrom", objects),
    ("image", .text), ("imagePullPolicy", .text), ("lifecycle", .object),
    ("livenessProbe", .object), ("name", .text), ("ports", .list containerPort),
    ("readinessProbe", .object), ("resizePolicy", objects), ("resources", amounts),
    ("restartPolicy", .text), ("securityContext", .object), ("startupProbe", .object),
    ("stdin", .flag), ("stdinOnce", .flag), ("terminationMessagePath", .text),
    ("terminationMessagePolicy", .text), ("tty", .flag), ("volumeDevices", objects),
    ("volumeMounts", .list volumeMount), ("workingDir", .text)]

def toleration : Shape :=
  record [("effect", .text), ("key", .text), ("operator", .text),
    ("tolerationSeconds", .whole 64), ("value", .text)]

def reference : Shape := record [("name", .text)]

def podSpec : Shape :=
  record [("activeDeadlineSeconds", .whole 64), ("affinity", .object),
    ("automountServiceAccountToken", .flag), ("containers", .list container),
    ("dnsConfig", .object), ("dnsPolicy", .text), ("enableServiceLinks", .flag),
    ("ephemeralContainers", .list container), ("hostAliases", objects), ("hostIPC", .flag),
    ("hostNetwork", .flag), ("hostPID", .flag), ("hostUsers", .flag), ("hostname", .text),
    ("hostnameOverride", .text), ("imagePullSecrets", .list reference),
    ("initContainers", .list container), ("nodeName", .text), ("nodeSelector", labels),
    ("os", reference), ("overhead", labels), ("preemptionPolicy", .text),
    ("priority", .whole 32), ("priorityClassName", .text), ("readinessGates", objects),
    ("resourceClaims", .list reference), ("resources", amounts), ("restartPolicy", .text),
    ("runtimeClassName", .text), ("schedulerName", .text), ("schedulingGates", .list reference),
    ("securityContext", .object), ("serviceAccount", .text), ("serviceAccountName", .text),
    ("setHostnameAsFQDN", .flag), ("shareProcessNamespace", .flag), ("subdomain", .text),
    ("terminationGracePeriodSeconds", .whole 64), ("tolerations", .list toleration),
    ("topologySpreadConstraints", objects), ("volumes", .list reference)]

def template : Shape := record [("metadata", metadata), ("spec", podSpec)]

def containerState : Shape :=
  record [("running", record [("startedAt", .instant)]),
    ("terminated", record [("containerID", .text), ("exitCode", .whole 32),
      ("finishedAt", .instant), ("message", .text), ("reason", .text), ("signal", .whole 32),
      ("startedAt", .instant)]),
    ("waiting", record [("message", .text), ("reason", .text)])]

def containerStatus : Shape :=
  record [("allocatedResources", labels), ("allocatedResourcesStatus", objects),
    ("containerID", .text), ("image", .text), ("imageID", .text), ("lastState", containerState),
    ("name", .text), ("ready", .flag), ("resources", amounts), ("restartCount", .whole 32),
    ("started", .flag), ("state", containerState), ("stopSignal", .text), ("user", .object),
    ("volumeMounts", .list volumeMount)]

def podStatus : Shape :=
  record [("conditions", conditions), ("containerStatuses", .list containerStatus),
    ("ephemeralContainerStatuses", .list containerStatus), ("hostIP", .text),
    ("hostIPs", .list (record [("ip", .text)])), ("initContainerStatuses", .list containerStatus),
    ("message", .text), ("nominatedNodeName", .text), ("observedGeneration", .whole 64),
    ("phase", .text), ("podIP", .text), ("podIPs", .list (record [("ip", .text)])),
    ("qosClass", .text), ("reason", .text), ("resize", .text),
    ("resourceClaimStatuses", .list reference), ("startTime", .instant)]

def rolling : Shape :=
  record [("type", .text), ("rollingUpdate", record [("maxSurge", .wholeOrText),
    ("maxUnavailable", .wholeOrText), ("partition", .whole 32)])]

def deploymentSpec : Shape :=
  record [("minReadySeconds", .whole 32), ("paused", .flag),
    ("progressDeadlineSeconds", .whole 32), ("replicas", .whole 32),
    ("revisionHistoryLimit", .whole 32), ("selector", selector), ("strategy", rolling),
    ("template", template)]

def deploymentStatus : Shape :=
  record [("availableReplicas", .whole 32), ("collisionCount", .whole 32),
    ("conditions", conditions), ("observedGeneration", .whole 64), ("readyReplicas", .whole 32),
    ("replicas", .whole 32), ("terminatingReplicas", .whole 32),
    ("unavailableReplicas", .whole 32), ("updatedReplicas", .whole 32)]

def statefulSetSpec : Shape :=
  record [("minReadySeconds", .whole 32), ("ordinals", record [("start", .whole 32)]),
    ("persistentVolumeClaimRetentionPolicy",
      record [("whenDeleted", .text), ("whenScaled", .text)]),
    ("podManagementPolicy", .text), ("replicas", .whole 32), ("revisionHistoryLimit", .whole 32),
    ("selector", selector), ("serviceName", .text), ("template", template),
    ("updateStrategy", rolling), ("volumeClaimTemplates", objects)]

def statefulSetStatus : Shape :=
  record [("availableReplicas", .whole 32), ("collisionCount", .whole 32),
    ("conditions", conditions), ("currentReplicas", .whole 32), ("currentRevision", .text),
    ("observedGeneration", .whole 64), ("readyReplicas", .whole 32), ("replicas", .whole 32),
    ("updateRevision", .text), ("updatedReplicas", .whole 32)]

def daemonSetSpec : Shape :=
  record [("minReadySeconds", .whole 32), ("revisionHistoryLimit", .whole 32),
    ("selector", selector), ("template", template), ("updateStrategy", rolling)]

def daemonSetStatus : Shape :=
  record [("collisionCount", .whole 32), ("conditions", conditions),
    ("currentNumberScheduled", .whole 32), ("desiredNumberScheduled", .whole 32),
    ("numberAvailable", .whole 32), ("numberMisscheduled", .whole 32), ("numberReady", .whole 32),
    ("numberUnavailable", .whole 32), ("observedGeneration", .whole 64),
    ("updatedNumberScheduled", .whole 32)]

def jobSpec : Shape :=
  record [("activeDeadlineSeconds", .whole 64), ("backoffLimit", .whole 32),
    ("backoffLimitPerIndex", .whole 32), ("completionMode", .text), ("completions", .whole 32),
    ("managedBy", .text), ("manualSelector", .flag), ("maxFailedIndexes", .whole 32),
    ("parallelism", .whole 32), ("podFailurePolicy", .object), ("podReplacementPolicy", .text),
    ("selector", selector), ("successPolicy", .object), ("suspend", .flag),
    ("template", template), ("ttlSecondsAfterFinished", .whole 32)]

def jobStatus : Shape :=
  record [("active", .whole 32), ("completedIndexes", .text), ("completionTime", .instant),
    ("conditions", conditions), ("failed", .whole 32), ("failedIndexes", .text),
    ("ready", .whole 32), ("startTime", .instant), ("succeeded", .whole 32),
    ("terminating", .whole 32), ("uncountedTerminatedPods", .object)]

def servicePort : Shape :=
  record [("appProtocol", .text), ("name", .text), ("nodePort", .whole 32), ("port", .whole 32),
    ("protocol", .text), ("targetPort", .wholeOrText)]

def serviceSpec : Shape :=
  record [("allocateLoadBalancerNodePorts", .flag), ("clusterIP", .text), ("clusterIPs", texts),
    ("externalIPs", texts), ("externalName", .text), ("externalTrafficPolicy", .text),
    ("healthCheckNodePort", .whole 32), ("internalTrafficPolicy", .text), ("ipFamilies", texts),
    ("ipFamilyPolicy", .text), ("loadBalancerClass", .text), ("loadBalancerIP", .text),
    ("loadBalancerSourceRanges", texts), ("ports", .list servicePort),
    ("publishNotReadyAddresses", .flag), ("selector", labels), ("sessionAffinity", .text),
    ("sessionAffinityConfig", record [("clientIP", record [("timeoutSeconds", .whole 32)])]),
    ("trafficDistribution", .text), ("type", .text)]

def loadBalancer : Shape :=
  record [("ingress", .list (record [("hostname", .text), ("ip", .text), ("ipMode", .text),
    ("ports", .list (record [("error", .text), ("port", .whole 32), ("protocol", .text)]))]))]

def backend : Shape :=
  record [("resource", record [("apiGroup", .text), ("kind", .text), ("name", .text)]),
    ("service", record [("name", .text),
      ("port", record [("name", .text), ("number", .whole 32)])])]

def ingressSpec : Shape :=
  record [("defaultBackend", backend), ("ingressClassName", .text),
    ("rules", .list (record [("host", .text), ("http", record [("paths", .list (record [
      ("backend", backend), ("path", .text), ("pathType", .text)]))])])),
    ("tls", .list (record [("hosts", texts), ("secretName", .text)]))]

def nodeSpec : Shape :=
  record [("configSource", .object), ("externalID", .text), ("podCIDR", .text),
    ("podCIDRs", texts), ("providerID", .text),
    ("taints", .list (record [("effect", .text), ("key", .text), ("timeAdded", .instant),
      ("value", .text)])),
    ("unschedulable", .flag)]

def nodeInfo : Shape :=
  record [("architecture", .text), ("bootID", .text), ("containerRuntimeVersion", .text),
    ("kernelVersion", .text), ("kubeProxyVersion", .text), ("kubeletVersion", .text),
    ("machineID", .text), ("operatingSystem", .text), ("osImage", .text), ("systemUUID", .text)]

def nodeStatus : Shape :=
  record [("addresses", .list (record [("address", .text), ("type", .text)])),
    ("allocatable", labels), ("capacity", labels), ("conditions", conditions),
    ("daemonEndpoints", record [("kubeletEndpoint", record [("Port", .whole 32)])]),
    ("images", .list (record [("names", texts), ("sizeBytes", .whole 64)])),
    ("nodeInfo", nodeInfo), ("phase", .text), ("volumesAttached", objects),
    ("volumesInUse", texts)]

/-- The fields of a kind besides its type. -/
def body : BuiltinKind → List (String × Shape)
  | .pods => [("spec", podSpec), ("status", podStatus)]
  | .deployments => [("spec", deploymentSpec), ("status", deploymentStatus)]
  | .statefulSets => [("spec", statefulSetSpec), ("status", statefulSetStatus)]
  | .daemonSets => [("spec", daemonSetSpec), ("status", daemonSetStatus)]
  | .jobs => [("spec", jobSpec), ("status", jobStatus)]
  | .services =>
    [("spec", serviceSpec),
      ("status", record [("conditions", conditions), ("loadBalancer", loadBalancer)])]
  | .ingresses => [("spec", ingressSpec), ("status", record [("loadBalancer", loadBalancer)])]
  | .configMaps =>
    [("binaryData", .dictionary .bytes), ("data", labels), ("immutable", .flag)]
  | .secrets =>
    [("data", .dictionary .bytes), ("immutable", .flag), ("stringData", labels), ("type", .text)]
  | .nodes => [("spec", nodeSpec), ("status", nodeStatus)]
  | .namespaces =>
    [("spec", record [("finalizers", texts)]),
      ("status", record [("conditions", conditions), ("phase", .text)])]

end Schema

namespace BuiltinKind

/-- The name of the kind in the type of a single object. -/
def objectKind : BuiltinKind → String
  | .pods => "Pod"
  | .deployments => "Deployment"
  | .statefulSets => "StatefulSet"
  | .daemonSets => "DaemonSet"
  | .jobs => "Job"
  | .services => "Service"
  | .ingresses => "Ingress"
  | .configMaps => "ConfigMap"
  | .secrets => "Secret"
  | .nodes => "Node"
  | .namespaces => "Namespace"

def apiVersion (kind : BuiltinKind) : String :=
  if kind.group = "" then "v1" else kind.group ++ "/v1"

def shape (kind : BuiltinKind) : Shape :=
  Schema.typed kind.apiVersion kind.objectKind
    (Shape.record (("metadata", Schema.metadata) :: Schema.body kind))

end BuiltinKind

namespace Schema

open Shape

/-- An object of a kind that is known by its metadata only. -/
def discovered : Shape := .field "metadata" false metadata .object

def listMetadata : Shape :=
  record [("continue", .text), ("remainingItemCount", .whole 64), ("resourceVersion", .text),
    ("selfLink", .text)]

def listing (item : Shape) : Shape :=
  .field "metadata" true listMetadata (.field "items" true (.optional (.list item)) .object)

def groupVersion : Shape := record [("groupVersion", .text), ("version", .text)]

def clientAddresses : Shape :=
  .list (record [("clientCIDR", .text), ("serverAddress", .text)])

def group : Shape :=
  typed "v1" "APIGroup" (record [("name", .text), ("preferredVersion", groupVersion),
    ("serverAddressByClientCIDRs", clientAddresses), ("versions", .list groupVersion)])

def groups : Shape := typed "v1" "APIGroupList" (record [("groups", .list group)])

def coreVersions : Shape :=
  typed "v1" "APIVersions" (record [("serverAddressByClientCIDRs", clientAddresses),
    ("versions", texts)])

def resource : Shape :=
  record [("categories", texts), ("group", .text), ("kind", .text), ("name", .text),
    ("namespaced", .flag), ("shortNames", texts), ("singularName", .text),
    ("storageVersionHash", .text), ("verbs", texts), ("version", .text)]

def resources : Shape :=
  typed "v1" "APIResourceList" (record [("groupVersion", .text), ("resources", .list resource)])

def version : Shape :=
  record [("buildDate", .text), ("compiler", .text), ("emulationMajor", .text),
    ("emulationMinor", .text), ("gitCommit", .text), ("gitTreeState", .text),
    ("gitVersion", .text), ("goVersion", .text), ("major", .text), ("minCompatibilityMajor", .text),
    ("minCompatibilityMinor", .text), ("minor", .text), ("platform", .text)]

end Schema
end ClusterDashboard
