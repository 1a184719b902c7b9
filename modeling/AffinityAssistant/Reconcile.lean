import AffinityAssistant.CreateOrUpdate

set_option autoImplicit false

namespace AffinityAssistant

def workspaceClaimTemplate (r : Reconciler) (pr : PipelineRun) (w : WorkspaceBinding) :
    Option PersistentVolumeClaim :=
  match w.persistentVolumeClaim, w.volumeClaimTemplate with
  | none, some t => some { t with
      name := r.getPVCNameWithoutAffinityAssistant t.name w (newControllerRef pr) }
  | _, _ => none

def workspaceClaims (pr : PipelineRun) : List PersistentVolumeClaimVolumeSource :=
  pr.workspaces.filterMap WorkspaceBinding.persistentVolumeClaim

def workspaceClaimTemplates (r : Reconciler) (pr : PipelineRun) : List PersistentVolumeClaim :=
  pr.workspaces.filterMap (workspaceClaimTemplate r pr)

def claimToWorkspace (pr : PipelineRun) : List (PersistentVolumeClaimVolumeSource × String) :=
  pr.workspaces.filterMap fun w => w.persistentVolumeClaim.map (·, w.name)

def claimTemplatesToWorkspace (r : Reconciler) (pr : PipelineRun) :
    List (PersistentVolumeClaim × String) :=
  pr.workspaces.filterMap fun w => (workspaceClaimTemplate r pr w).map (·, w.name)

/-- The orders in which the two loops range over `claimToWorkspace` and
`claimTemplatesToWorkspace`: any order of each map's entries. -/
structure MapOrder (r : Reconciler) (pr : PipelineRun) where
  claimOrder : List (PersistentVolumeClaimVolumeSource × String)
  claimTemplateOrder : List (PersistentVolumeClaim × String)
  claimOrder_perm : claimOrder.Perm (claimToWorkspace pr)
  claimTemplateOrder_perm : claimTemplateOrder.Perm (claimTemplatesToWorkspace r pr)

def MapOrder.insertion (r : Reconciler) (pr : PipelineRun) : MapOrder r pr :=
  ⟨_, _, List.Perm.refl _, List.Perm.refl _⟩

structure Invocation where
  affinityAssistantName : String
  claimTemplates : List PersistentVolumeClaim
  claims : List PersistentVolumeClaimVolumeSource

def invocations (r : Reconciler) (pr : PipelineRun) (aaBehavior : AffinityAssistantBehavior)
    (order : MapOrder r pr) : List Invocation :=
  match aaBehavior with
  | .affinityAssistantPerWorkspace =>
    order.claimOrder.map (fun e => ⟨getAffinityAssistantName e.2 pr.name, [], [e.1]⟩) ++
      order.claimTemplateOrder.map
        (fun e => ⟨getAffinityAssistantName e.2 pr.name, [], [⟨e.1.name, false⟩]⟩)
  | .affinityAssistantPerPipelineRun | .affinityAssistantPerPipelineRunWithIsolation =>
    if !(workspaceClaims pr).isEmpty || !(workspaceClaimTemplates r pr).isEmpty then
      [⟨getAffinityAssistantName "" pr.name, workspaceClaimTemplates r pr, workspaceClaims pr⟩]
    else []
  | .affinityAssistantDisabled => []

structure Progress (σ : Type) where
  state : σ
  pipelineRun : PipelineRun
  requests : List Request
  errs : List String

section
variable {σ : Type}

def Progress.after (p : Progress σ) (srv : Server σ) (o : Outcome) : Progress σ :=
  ⟨o.requests.foldl srv.apply p.state, o.pipelineRun, p.requests ++ o.requests, p.errs ++ o.errs⟩

@[simp] theorem Progress.after_state (p : Progress σ) (srv : Server σ) (o : Outcome) :
    (p.after srv o).state = o.requests.foldl srv.apply p.state := rfl
@[simp] theorem Progress.after_pipelineRun (p : Progress σ) (srv : Server σ) (o : Outcome) :
    (p.after srv o).pipelineRun = o.pipelineRun := rfl
@[simp] theorem Progress.after_requests (p : Progress σ) (srv : Server σ) (o : Outcome) :
    (p.after srv o).requests = p.requests ++ o.requests := rfl
@[simp] theorem Progress.after_errs (p : Progress σ) (srv : Server σ) (o : Outcome) :
    (p.after srv o).errs = p.errs ++ o.errs := rfl

/-- The calls one after another, each on the server as the calls before left it and on the
PipelineRun as they left it. -/
def runInvocations (r : Reconciler) (srv : Server σ) : List Invocation → Progress σ →
    Except Panic (Progress σ)
  | [], p => .ok p
  | i :: is, p =>
    match createOrUpdateAffinityAssistant r (srv.client p.state) i.affinityAssistantName
        p.pipelineRun i.claimTemplates i.claims none with
    | .error e => .error e
    | .ok o => runInvocations r srv is (p.after srv o)

structure Result (σ : Type) where
  err : Option (List String)
  state : σ
  pipelineRun : PipelineRun
  requests : List Request

def createAffinityAssistants (r : Reconciler) (srv : Server σ) (pr : PipelineRun)
    (aaBehavior : AffinityAssistantBehavior) (order : MapOrder r pr) (s : σ)
    (requests : List Request) : Except Panic (Result σ) :=
  (runInvocations r srv (invocations r pr aaBehavior order) ⟨s, pr, requests, []⟩).map
    fun p => ⟨newAggregate p.errs, p.state, p.pipelineRun, p.requests⟩

def createOrUpdateAffinityAssistantsAndPVCs (r : Reconciler) (srv : Server σ) (s : σ)
    (pr : PipelineRun) (aaBehavior : AffinityAssistantBehavior) (order : MapOrder r pr) :
    Except Panic (Result σ) :=
  if (aaBehavior = .affinityAssistantPerWorkspace ∨ aaBehavior = .affinityAssistantDisabled) ∧
      r.hasVolumeClaimTemplate pr = true then
    let createPVCs := Request.createPVCsForWorkspaces pr.workspaces (newControllerRef pr) pr.namespace
    match (srv.client s).createPVCsForWorkspaces pr.workspaces (newControllerRef pr) pr.namespace with
    | some err => .ok ⟨some ["failed to create PVC for PipelineRun " ++ pr.name ++ ": " ++ err.error],
        srv.apply s createPVCs, pr, [createPVCs]⟩
    | none => createAffinityAssistants r srv pr aaBehavior order (srv.apply s createPVCs) [createPVCs]
  else createAffinityAssistants r srv pr aaBehavior order s []

def hasClaim (w : WorkspaceBinding) : Bool :=
  w.persistentVolumeClaim.isSome || w.volumeClaimTemplate.isSome

def volumeWorkspaces (pr : PipelineRun) : List WorkspaceBinding := pr.workspaces.filter hasClaim

def cleanupLoop (srv : Server σ) (pr : PipelineRun) : List WorkspaceBinding → Progress σ → Progress σ
  | [], p => p
  | w :: ws, p =>
    if hasClaim w then
      let affinityAssistantStsName := getAffinityAssistantName w.name pr.name
      let delete := Request.deleteStatefulSet pr.namespace affinityAssistantStsName
      cleanupLoop srv pr ws ⟨srv.apply p.state delete, p.pipelineRun, p.requests ++ [delete],
        p.errs ++ match (srv.client p.state).deleteStatefulSet pr.namespace affinityAssistantStsName with
          | some err => if err.isNotFound then [] else
              ["failed to delete StatefulSet " ++ affinityAssistantStsName ++ ": " ++ err.error]
          | none => []⟩
    else cleanupLoop srv pr ws p

def cleanupAffinityAssistants (r : Reconciler) (srv : Server σ) (s : σ) (pr : PipelineRun) :
    Result σ :=
  if r.disableAffinityAssistant then ⟨none, s, pr, []⟩
  else
    let p := cleanupLoop srv pr pr.workspaces ⟨s, pr, [], []⟩
    ⟨newAggregate p.errs, p.state, pr, p.requests⟩

end

end AffinityAssistant
