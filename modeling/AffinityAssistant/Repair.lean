import AffinityAssistant.SteadyState

set_option autoImplicit false

namespace AffinityAssistant

section
variable {r : Reconciler} {n : String} {pr : PipelineRun}
  {claimTemplates : List PersistentVolumeClaim} {claims : List PersistentVolumeClaimVolumeSource}
  {o : Outcome}

end

theorem runInvocations_pods_other {r : Reconciler} {is : List Invocation} {p q : Progress Cluster}
    (h : runInvocations r Cluster.server is p = .ok q) {ns : String} (hns : ns ≠ p.pipelineRun.namespace) :
    q.state.pods ns = p.state.pods ns := by
  refine (runInvocations_induction (fun p' => p'.pipelineRun.namespace = p.pipelineRun.namespace ∧
    p'.state.pods ns = p.state.pods ns) ?_ h ⟨rfl, rfl⟩).2
  intro i _ p' o ⟨hpr, hpods⟩ ho
  simp only [Cluster.server_client] at ho
  refine ⟨by rw [Progress.after_pipelineRun, createOrUpdateAffinityAssistant_podTemplate_only ho]; exact hpr,
    funext fun n => ?_⟩
  obtain ⟨o', ho', hdel⟩ := createOrUpdateAffinityAssistant_cluster_deletePod r p'.state
    i.affinityAssistantName p'.pipelineRun i.claimTemplates i.claims
  obtain rfl : o = o' := Except.ok.inj (ho.symm.trans ho')
  rw [Progress.after_state, Cluster.server_apply, Cluster.foldl_apply_pods,
    if_neg fun hmem => hns (((hdel ns n).mp hmem).1.trans hpr)]
  exact congrFun hpods n

theorem createOrUpdateAffinityAssistantsAndPVCs_other_namespace (r : Reconciler) (c : Cluster)
    (pr : PipelineRun) (aaBehavior : AffinityAssistantBehavior) (order : MapOrder r pr) :
    ∃ res, createOrUpdateAffinityAssistantsAndPVCs r Cluster.server c pr aaBehavior order = .ok res ∧
      ∀ ns, ns ≠ pr.namespace → res.state.statefulSets ns = c.statefulSets ns ∧ res.state.pods ns = c.pods ns := by
  obtain ⟨_, q, -, hq, hres⟩ := createOrUpdateAffinityAssistantsAndPVCs_run r c pr aaBehavior order
  refine ⟨_, hres, fun ns hns => ⟨funext fun n => ?_, runInvocations_pods_other hq hns⟩⟩
  rcases runInvocations_statefulSets_added hq ns n with h | ⟨h, -⟩
  · exact h
  · exact absurd h hns

/-- On any server a reconcile panics exactly when its PVC call, if it makes one, succeeds and
one of its calls, on the state the calls before it left, finds its StatefulSet with one ready
replica and gets no list from the listing of cordoned nodes. -/
theorem createOrUpdateAffinityAssistantsAndPVCs_eq_error {σ : Type} {r : Reconciler} {srv : Server σ}
    {s : σ} {pr : PipelineRun} {aaBehavior : AffinityAssistantBehavior} {order : MapOrder r pr}
    {e : Panic} :
    createOrUpdateAffinityAssistantsAndPVCs r srv s pr aaBehavior order = .error e ↔
      (pvcRequests r pr aaBehavior = [] ∨
        (srv.client s).createPVCsForWorkspaces pr.workspaces (newControllerRef pr) pr.namespace = none) ∧
      ∃ is₁ i is₂, invocations r pr aaBehavior order = is₁ ++ i :: is₂ ∧ ∃ p : Progress σ,
        runInvocations r srv is₁ ⟨(pvcRequests r pr aaBehavior).foldl srv.apply s, pr,
          pvcRequests r pr aaBehavior, []⟩ = .ok p ∧
        (∃ a, (srv.client p.state).getStatefulSet pr.namespace i.affinityAssistantName = (some a, none) ∧
          a.readyReplicas = 1) ∧
        ((srv.client p.state).listNodes unschedulableFieldSelector).1 = none := by
  rw [createOrUpdateAffinityAssistantsAndPVCs_error_iff_run, runInvocations_eq_error]
  refine and_congr_right fun _ => exists_congr fun is₁ => exists_congr fun i => exists_congr fun is₂ =>
    and_congr_right fun _ => exists_congr fun p => and_congr_right fun h₁ => ?_
  rw [createOrUpdateAffinityAssistant_eq_error, (runInvocations_pipelineRun h₁).2.1]
  simp only [and_true, true_and]

def nodeListFailingServer : Server Unit := ⟨fun _ => nodeListFailingClient, fun s _ => s⟩

theorem createOrUpdateAffinityAssistantsAndPVCs_eq_error_failing :
    createOrUpdateAffinityAssistantsAndPVCs (Reconciler.ofBehavior .affinityAssistantPerWorkspace)
        nodeListFailingServer () singleClaimPipelineRun .affinityAssistantPerWorkspace
        (MapOrder.insertion _ _) = .error .nilPointerDereference ∧
      (pvcRequests (Reconciler.ofBehavior .affinityAssistantPerWorkspace) singleClaimPipelineRun
          .affinityAssistantPerWorkspace = [] ∨
        (nodeListFailingServer.client ()).createPVCsForWorkspaces singleClaimPipelineRun.workspaces
          (newControllerRef singleClaimPipelineRun) singleClaimPipelineRun.namespace = none) ∧
      ∃ is₁ i is₂, invocations (Reconciler.ofBehavior .affinityAssistantPerWorkspace) singleClaimPipelineRun
          .affinityAssistantPerWorkspace (MapOrder.insertion _ _) = is₁ ++ i :: is₂ ∧ ∃ p : Progress Unit,
        runInvocations (Reconciler.ofBehavior .affinityAssistantPerWorkspace) nodeListFailingServer is₁
          ⟨(pvcRequests (Reconciler.ofBehavior .affinityAssistantPerWorkspace) singleClaimPipelineRun
              .affinityAssistantPerWorkspace).foldl nodeListFailingServer.apply (), singleClaimPipelineRun,
            pvcRequests (Reconciler.ofBehavior .affinityAssistantPerWorkspace) singleClaimPipelineRun
              .affinityAssistantPerWorkspace, []⟩ = .ok p ∧
        (∃ a, (nodeListFailingServer.client p.state).getStatefulSet singleClaimPipelineRun.namespace
            i.affinityAssistantName = (some a, none) ∧ a.readyReplicas = 1) ∧
        ((nodeListFailingServer.client p.state).listNodes unschedulableFieldSelector).1 = none :=
  ⟨rfl, createOrUpdateAffinityAssistantsAndPVCs_eq_error.mp rfl⟩

end AffinityAssistant
