/-! # Object kinds

The twenty kinds of object that have a typed reading, with their names and the API group each is
served from (the core group is the empty text).
-/

namespace ManifestLint

/-- A kind of object with a typed reading. -/
inductive Kind
  | deployment | statefulSet | daemonSet | replicaSet | replicationController | pod | job
  | cronJob | service | ingress | networkPolicy | role | clusterRole | roleBinding
  | clusterRoleBinding | serviceAccount | horizontalPodAutoscaler | podDisruptionBudget
  | persistentVolumeClaim | deploymentConfig
deriving DecidableEq, Repr

namespace Kind

/-- Every kind, in the order of the catalogue. -/
def all : List Kind :=
  [deployment, statefulSet, daemonSet, replicaSet, replicationController, pod, job, cronJob,
    service, ingress, networkPolicy, role, clusterRole, roleBinding, clusterRoleBinding,
    serviceAccount, horizontalPodAutoscaler, podDisruptionBudget, persistentVolumeClaim,
    deploymentConfig]

/-- The name of a kind as manifests write it. -/
def name : Kind → String
  | deployment => "Deployment"
  | statefulSet => "StatefulSet"
  | daemonSet => "DaemonSet"
  | replicaSet => "ReplicaSet"
  | replicationController => "ReplicationController"
  | pod => "Pod"
  | job => "Job"
  | cronJob => "CronJob"
  | service => "Service"
  | ingress => "Ingress"
  | networkPolicy => "NetworkPolicy"
  | role => "Role"
  | clusterRole => "ClusterRole"
  | roleBinding => "RoleBinding"
  | clusterRoleBinding => "ClusterRoleBinding"
  | serviceAccount => "ServiceAccount"
  | horizontalPodAutoscaler => "HorizontalPodAutoscaler"
  | podDisruptionBudget => "PodDisruptionBudget"
  | persistentVolumeClaim => "PersistentVolumeClaim"
  | deploymentConfig => "DeploymentConfig"

/-- The API group a kind is served from. -/
def group : Kind → String
  | deployment | statefulSet | daemonSet | replicaSet => "apps"
  | replicationController | pod | service | serviceAccount | persistentVolumeClaim => ""
  | job | cronJob => "batch"
  | ingress | networkPolicy => "networking.k8s.io"
  | role | clusterRole | roleBinding | clusterRoleBinding => "rbac.authorization.k8s.io"
  | horizontalPodAutoscaler => "autoscaling"
  | podDisruptionBudget => "policy"
  | deploymentConfig => "apps.openshift.io"

/-- The kind a manifest's kind name stands for, whatever its group. -/
def ofName? (s : String) : Option Kind :=
  all.find? (·.name == s)

/-- The kinds that carry a pod template and count as workloads. -/
def workloads : List Kind :=
  [deployment, daemonSet, deploymentConfig, statefulSet, replicaSet, pod, replicationController,
    job, cronJob]

theorem mem_all (k : Kind) : k ∈ all := by
  cases k <;> simp [all]

theorem ofName?_name (k : Kind) : ofName? k.name = some k := by
  cases k <;> rfl

end Kind

end ManifestLint
