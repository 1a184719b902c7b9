import Mathlib.Data.List.Basic

set_option autoImplicit false

/-!
# The API objects `affinity_assistant.go` reads and builds

Kubernetes and Tekton types, cut down to the fields the file reads or sets. Go pointers that
may be nil are `Option`s, Go maps from strings to strings are association lists, and
`int32` counts are `Int`s (nothing here computes with them).
-/
namespace AffinityAssistant

inductive AffinityAssistantBehavior
  | affinityAssistantPerWorkspace
  | affinityAssistantPerPipelineRun
  | affinityAssistantPerPipelineRunWithIsolation
  | affinityAssistantDisabled
  deriving DecidableEq, Repr

structure PersistentVolumeClaimVolumeSource where
  claimName : String
  readOnly : Bool
  deriving DecidableEq, Repr

/-- A workspace's claim template; its spec is copied, never read. -/
structure PersistentVolumeClaim where
  name : String
  accessModes : List String
  storage : String
  deriving DecidableEq, Repr

/-- A binding with neither claim stands for every other volume source. -/
structure WorkspaceBinding where
  name : String
  persistentVolumeClaim : Option PersistentVolumeClaimVolumeSource
  volumeClaimTemplate : Option PersistentVolumeClaim
  deriving DecidableEq, Repr

structure LabelSelector where
  matchLabels : List (String × String)
  deriving DecidableEq, Repr

structure PodAffinityTerm where
  labelSelector : Option LabelSelector
  topologyKey : String
  deriving DecidableEq, Repr

structure WeightedPodAffinityTerm where
  weight : Int
  podAffinityTerm : PodAffinityTerm
  deriving DecidableEq, Repr

structure PodAffinity where
  requiredDuringSchedulingIgnoredDuringExecution : List PodAffinityTerm
  preferredDuringSchedulingIgnoredDuringExecution : List WeightedPodAffinityTerm
  deriving DecidableEq, Repr

structure PodAntiAffinity where
  requiredDuringSchedulingIgnoredDuringExecution : List PodAffinityTerm
  preferredDuringSchedulingIgnoredDuringExecution : List WeightedPodAffinityTerm
  deriving DecidableEq, Repr

structure NodeSelectorRequirement where
  key : String
  operator : String
  values : List String
  deriving DecidableEq, Repr

structure NodeAffinity where
  requiredDuringSchedulingIgnoredDuringExecution : List (List NodeSelectorRequirement)
  preferredDuringSchedulingIgnoredDuringExecution : List (Int × List NodeSelectorRequirement)
  deriving DecidableEq, Repr

structure Affinity where
  nodeAffinity : Option NodeAffinity
  podAffinity : Option PodAffinity
  podAntiAffinity : Option PodAntiAffinity
  deriving DecidableEq, Repr

structure Toleration where
  key : String
  operator : String
  value : String
  effect : String
  deriving DecidableEq, Repr

structure PodTemplate where
  nodeSelector : List (String × String)
  tolerations : List Toleration
  imagePullSecrets : List String
  affinity : Option Affinity
  deriving DecidableEq, Repr

structure AffinityAssistantTemplate where
  nodeSelector : List (String × String)
  tolerations : List Toleration
  imagePullSecrets : List String
  deriving DecidableEq, Repr

structure PipelineRun where
  name : String
  «namespace» : String
  uid : String
  labels : List (String × String)
  workspaces : List WorkspaceBinding
  podTemplate : Option PodTemplate
  deriving DecidableEq, Repr

structure OwnerReference where
  apiVersion : String
  kind : String
  name : String
  uid : String
  controller : Bool
  blockOwnerDeletion : Bool
  deriving DecidableEq, Repr

structure VolumeMount where
  name : String
  mountPath : String
  deriving DecidableEq, Repr

structure ResourceList where
  cpu : String
  memory : String
  deriving DecidableEq, Repr

structure Container where
  name : String
  image : String
  args : List String
  limits : ResourceList
  requests : ResourceList
  volumeMounts : List VolumeMount
  deriving DecidableEq, Repr

structure Volume where
  name : String
  persistentVolumeClaim : PersistentVolumeClaimVolumeSource
  deriving DecidableEq, Repr

structure PodSpec where
  containers : List Container
  tolerations : List Toleration
  nodeSelector : List (String × String)
  imagePullSecrets : List String
  affinity : Option Affinity
  volumes : List Volume
  deriving DecidableEq, Repr

/-- `appsv1.StatefulSet`; `readyReplicas` is its `Status.ReadyReplicas`. -/
structure StatefulSet where
  name : String
  labels : List (String × String)
  ownerReferences : List OwnerReference
  replicas : Int
  selector : List (String × String)
  volumeClaimTemplates : List PersistentVolumeClaim
  templateLabels : List (String × String)
  templateSpec : PodSpec
  readyReplicas : Int
  deriving DecidableEq, Repr

structure Pod where
  name : String
  «namespace» : String
  nodeName : String
  deriving DecidableEq, Repr

structure Node where
  name : String
  unschedulable : Bool
  deriving DecidableEq, Repr

inductive ApiError
  | notFound (message : String)
  | alreadyExists (message : String)
  | other (message : String)
  deriving DecidableEq, Repr

def ApiError.isNotFound : ApiError → Bool
  | .notFound _ => true
  | _ => false

def ApiError.error : ApiError → String
  | .notFound m | .alreadyExists m | .other m => m

/-- A Go map from strings to strings: `m[k] = v`. -/
def mapSet (m : List (String × String)) (k v : String) : List (String × String) :=
  m.filter (fun p => p.1 ≠ k) ++ [(k, v)]

/-- `errorutils.NewAggregate`: no error for an empty list. -/
def newAggregate (errs : List String) : Option (List String) :=
  if errs.isEmpty then none else some errs

end AffinityAssistant
