import AffinityAssistant.Names

set_option autoImplicit false

namespace AffinityAssistant

/-- The receiver, the context and the helpers of other packages that the file reads:
`c.Images.NopImage`, the `disable-affinity-assistant` flag and the default assistant pod
template of the config, `aa.GetAffinityAssistantBehavior(ctx)`,
`volumeclaim.GetPVCNameWithoutAffinityAssistant`,
`pod.MergeAAPodTemplateWithDefault` after `ToAffinityAssistantTemplate` (never nil at its
one call, where one of its arguments is not), and `PipelineRun.HasVolumeClaimTemplate`. -/
structure Reconciler where
  nopImage : String
  disableAffinityAssistant : Bool
  defaultAAPodTemplate : Option AffinityAssistantTemplate
  getAffinityAssistantBehavior : Except String AffinityAssistantBehavior
  getPVCNameWithoutAffinityAssistant : String → WorkspaceBinding → OwnerReference → String
  mergeAAPodTemplateWithDefault :
    Option PodTemplate → Option AffinityAssistantTemplate → AffinityAssistantTemplate
  hasVolumeClaimTemplate : PipelineRun → Bool

def Reconciler.ofBehavior (aaBehavior : AffinityAssistantBehavior) : Reconciler :=
  ⟨"nop", false, none, .ok aaBehavior, fun claimName _ _ => claimName, fun _ _ => ⟨[], [], []⟩,
    fun pr => pr.workspaces.any fun w => w.volumeClaimTemplate.isSome⟩

def repelOtherAffinityAssistantsPodAffinityTerm : PodAffinityTerm :=
  ⟨some ⟨[(labelComponent, componentNameAffinityAssistant)]⟩, "kubernetes.io/hostname"⟩

def emptyAffinity : Affinity := ⟨none, none, none⟩

def podTemplateAffinity (pr : PipelineRun) : Option Affinity :=
  pr.podTemplate.bind PodTemplate.affinity

/-- The change made to `affinityAssistantsAffinity`: one repelling term, required under
isolation and preferred with weight 100 otherwise. -/
def addRepelTerm (aaBehavior : AffinityAssistantBehavior) (a : Affinity) : Affinity :=
  let anti := a.podAntiAffinity.getD ⟨[], []⟩
  if aaBehavior = .affinityAssistantPerPipelineRunWithIsolation then
    { a with podAntiAffinity := some { anti with
        requiredDuringSchedulingIgnoredDuringExecution :=
          anti.requiredDuringSchedulingIgnoredDuringExecution ++
            [repelOtherAffinityAssistantsPodAffinityTerm] } }
  else
    { a with podAntiAffinity := some { anti with
        preferredDuringSchedulingIgnoredDuringExecution :=
          anti.preferredDuringSchedulingIgnoredDuringExecution ++
            [⟨100, repelOtherAffinityAssistantsPodAffinityTerm⟩] } }

/-- The PipelineRun seen through a pointer to its pod template's affinity, after that
affinity became `a`. -/
def setPodTemplateAffinity (pr : PipelineRun) (a : Affinity) : PipelineRun :=
  match pr.podTemplate with
  | some t => if t.affinity.isSome then { pr with podTemplate := some { t with affinity := some a } }
      else pr
  | none => pr

theorem setPodTemplateAffinity_eq (pr : PipelineRun) (a : Affinity) :
    setPodTemplateAffinity pr a = { pr with podTemplate := (setPodTemplateAffinity pr a).podTemplate } := by
  unfold setPodTemplateAffinity
  split
  · split_ifs <;> rfl
  · rfl

@[simp] theorem setPodTemplateAffinity_name (pr : PipelineRun) (a : Affinity) :
    (setPodTemplateAffinity pr a).name = pr.name := by
  rw [setPodTemplateAffinity_eq]

@[simp] theorem setPodTemplateAffinity_namespace (pr : PipelineRun) (a : Affinity) :
    (setPodTemplateAffinity pr a).namespace = pr.namespace := by
  rw [setPodTemplateAffinity_eq]

@[simp] theorem setPodTemplateAffinity_workspaces (pr : PipelineRun) (a : Affinity) :
    (setPodTemplateAffinity pr a).workspaces = pr.workspaces := by
  rw [setPodTemplateAffinity_eq]

@[simp] theorem podTemplateAffinity_setPodTemplateAffinity (pr : PipelineRun) (a : Affinity) :
    podTemplateAffinity (setPodTemplateAffinity pr a) = (podTemplateAffinity pr).map (fun _ => a) := by
  rcases pr with ⟨_, _, _, _, _, _ | ⟨_, _, _, _ | _⟩⟩ <;> rfl

def getAssistantAffinityMergedWithPodTemplateAffinity (pr : PipelineRun)
    (aaBehavior : AffinityAssistantBehavior) : Affinity × PipelineRun :=
  let affinityAssistantsAffinity := addRepelTerm aaBehavior ((podTemplateAffinity pr).getD emptyAffinity)
  (affinityAssistantsAffinity, setPodTemplateAffinity pr affinityAssistantsAffinity)

def affinityAssistantContainer (affinityAssistantImage : String) (mounts : List VolumeMount) :
    Container :=
  ⟨"affinity-assistant", affinityAssistantImage, ["tekton_run_indefinitely"],
    ⟨"50m", "100Mi"⟩, ⟨"50m", "100Mi"⟩, mounts⟩

def claimVolumes (i : Nat) : List PersistentVolumeClaimVolumeSource → List Volume
  | [] => []
  | claim :: claims => ⟨"workspace-" ++ toString i, claim⟩ :: claimVolumes (i + 1) claims

def affinityAssistantStatefulSet (r : Reconciler) (aaBehavior : AffinityAssistantBehavior)
    (name : String) (pr : PipelineRun) (claimTemplates : List PersistentVolumeClaim)
    (claims : List PersistentVolumeClaimVolumeSource) (affinityAssistantImage : String)
    (defaultAATpl : Option AffinityAssistantTemplate) : StatefulSet × PipelineRun :=
  let tpl : AffinityAssistantTemplate :=
    if pr.podTemplate.isSome || defaultAATpl.isSome then
      r.mergeAAPodTemplateWithDefault pr.podTemplate defaultAATpl
    else ⟨[], [], []⟩
  let mounts := claimTemplates.map (fun claimTemplate => ⟨claimTemplate.name, claimTemplate.name⟩)
  let merged := getAssistantAffinityMergedWithPodTemplateAffinity pr aaBehavior
  ({ name := name
     labels := getStatefulSetLabels pr name
     ownerReferences := [newControllerRef pr]
     replicas := 1
     selector := getStatefulSetLabels pr name
     volumeClaimTemplates := claimTemplates
     templateLabels := getStatefulSetLabels pr name
     templateSpec :=
       { containers := [affinityAssistantContainer affinityAssistantImage mounts]
         tolerations := tpl.tolerations
         nodeSelector := tpl.nodeSelector
         imagePullSecrets := tpl.imagePullSecrets
         affinity := some merged.1
         volumes := claimVolumes 0 claims }
     readyReplicas := 0 }, merged.2)

section
variable (r : Reconciler) (aaBehavior : AffinityAssistantBehavior) (name : String)
  (pr : PipelineRun) (claimTemplates : List PersistentVolumeClaim)
  (claims : List PersistentVolumeClaimVolumeSource) (image : String)
  (defaultAATpl : Option AffinityAssistantTemplate)

@[simp] theorem affinityAssistantStatefulSet_name :
    (affinityAssistantStatefulSet r aaBehavior name pr claimTemplates claims image
      defaultAATpl).1.name = name := rfl

@[simp] theorem affinityAssistantStatefulSet_volumeClaimTemplates :
    (affinityAssistantStatefulSet r aaBehavior name pr claimTemplates claims image
      defaultAATpl).1.volumeClaimTemplates = claimTemplates := rfl

@[simp] theorem affinityAssistantStatefulSet_volumes :
    (affinityAssistantStatefulSet r aaBehavior name pr claimTemplates claims image
      defaultAATpl).1.templateSpec.volumes = claimVolumes 0 claims := rfl

@[simp] theorem affinityAssistantStatefulSet_readyReplicas :
    (affinityAssistantStatefulSet r aaBehavior name pr claimTemplates claims image
      defaultAATpl).1.readyReplicas = 0 := rfl

@[simp] theorem affinityAssistantStatefulSet_pipelineRun :
    (affinityAssistantStatefulSet r aaBehavior name pr claimTemplates claims image
      defaultAATpl).2 =
      setPodTemplateAffinity pr (addRepelTerm aaBehavior ((podTemplateAffinity pr).getD emptyAffinity)) :=
  rfl

end

end AffinityAssistant
