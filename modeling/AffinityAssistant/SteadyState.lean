import AffinityAssistant.Isolation

set_option autoImplicit false

namespace AffinityAssistant

section
variable {r : Reconciler}

theorem runInvocations_kept {is : List Invocation} {p q : Progress Cluster}
    (h : runInvocations r Cluster.server is p = .ok q) (ns n : String)
    (hp : (p.state.statefulSets ns n).isSome) : (q.state.statefulSets ns n).isSome := by
  refine runInvocations_induction (fun p' => (p'.state.statefulSets ns n).isSome) ?_ h hp
  intro i _ p' o hp' ho
  simp only [Cluster.server_client] at ho
  rcases createOrUpdateAffinityAssistant_cluster_step p'.state ho with
    ⟨hst, -, -⟩ | ⟨_, _, _, hst, -, -⟩
  · simpa [hst] using hp'
  · simpa only [Progress.after_state, Cluster.server_apply, hst] using
      Cluster.createStatefulSet_isSome _ _ _ hp'

theorem runInvocations_held {aaBehavior : AffinityAssistantBehavior}
    (hb : r.getAffinityAssistantBehavior = .ok aaBehavior) :
    ∀ (is : List Invocation) (p q : Progress Cluster), runInvocations r Cluster.server is p = .ok q →
      ∀ i ∈ is, (q.state.statefulSets p.pipelineRun.namespace i.affinityAssistantName).isSome
  | [], _, _, _, _, hi => nomatch hi
  | i :: is, p, q, h, j, hj => by
    obtain ⟨o, ho⟩ := createOrUpdateAffinityAssistant_cluster_ok r p.state i.affinityAssistantName
      p.pipelineRun i.claimTemplates i.claims none
    have hrest : runInvocations r Cluster.server is (p.after Cluster.server o) = .ok q := by
      simpa only [runInvocations, Cluster.server_client, ho] using h
    have hns : (p.after Cluster.server o).pipelineRun.namespace = p.pipelineRun.namespace := by
      rw [Progress.after_pipelineRun, createOrUpdateAffinityAssistant_podTemplate_only ho]
    rcases List.mem_cons.mp hj with rfl | hj
    · refine runInvocations_kept hrest _ _ ?_
      rcases hs : p.state.statefulSets p.pipelineRun.namespace j.affinityAssistantName with _ | a
      · rw [createOrUpdateAffinityAssistant_cluster_absent r p.state _ _ _ _ none aaBehavior hb hs] at ho
        cases ho
        simp [Cluster.apply, hs]
      · rcases createOrUpdateAffinityAssistant_cluster_step p.state ho with
          ⟨hst, -, -⟩ | ⟨_, _, habs, -⟩
        · simp [hst, hs]
        · rw [hs] at habs; cases habs
    · exact hns ▸ runInvocations_held hb is _ q hrest j hj

end

theorem createOrUpdateAffinityAssistantsAndPVCs_run (r : Reconciler) (c : Cluster)
    (pr : PipelineRun) (aaBehavior : AffinityAssistantBehavior) (order : MapOrder r pr) :
    ∃ requests q, createdStatefulSets requests = [] ∧
      runInvocations r Cluster.server (invocations r pr aaBehavior order) ⟨c, pr, requests, []⟩ =
        .ok q ∧
      createOrUpdateAffinityAssistantsAndPVCs r Cluster.server c pr aaBehavior order =
        .ok ⟨newAggregate q.errs, q.state, q.pipelineRun, q.requests⟩ := by
  obtain ⟨requests, hrequests, heq⟩ := createOrUpdateAffinityAssistantsAndPVCs_cluster_pvcs r c pr
    aaBehavior order
  obtain ⟨q, hq⟩ := runInvocations_cluster_ok r (invocations r pr aaBehavior order) ⟨c, pr, requests, []⟩
  exact ⟨requests, q, hrequests, hq, by rw [heq, createAffinityAssistants_eq_ok]; exact ⟨q, hq, rfl⟩⟩

/-- What every assistant a reconcile of `pr` creates under the name `n` carries, whatever its
pod template and map order: the name, the labels its pods are selected and repelled by, one
replica, and `pr` as its controlling owner. -/
structure AssistantOf (pr : PipelineRun) (n : String) (a : StatefulSet) : Prop where
  name_eq : a.name = n
  labels_eq : a.labels = getStatefulSetLabels pr n
  selector_eq : a.selector = getStatefulSetLabels pr n
  templateLabels_eq : a.templateLabels = getStatefulSetLabels pr n
  ownerReferences_eq : a.ownerReferences = [newControllerRef pr]
  replicas_eq : a.replicas = 1

theorem affinityAssistantStatefulSet_assistantOf (r : Reconciler) (aaBehavior : AffinityAssistantBehavior)
    (n : String) (pr : PipelineRun) (t : Option PodTemplate) (claimTemplates : List PersistentVolumeClaim)
    (claims : List PersistentVolumeClaimVolumeSource) (image : String)
    (defaultAATpl : Option AffinityAssistantTemplate) :
    AssistantOf pr n (affinityAssistantStatefulSet r aaBehavior n { pr with podTemplate := t }
      claimTemplates claims image defaultAATpl).1 :=
  ⟨rfl, rfl, rfl, rfl, rfl, rfl⟩

theorem createOrUpdateAffinityAssistant_created_assistantOf {r : Reconciler} {cl : Client} {n : String}
    {pr pr₀ : PipelineRun} {claimTemplates : List PersistentVolumeClaim}
    {claims : List PersistentVolumeClaimVolumeSource} {unschedulableNodes : Option (List String)}
    {o : Outcome}
    (h : createOrUpdateAffinityAssistant r cl n pr claimTemplates claims unschedulableNodes = .ok o)
    (hpr : pr = { pr₀ with podTemplate := pr.podTemplate }) :
    ∀ a ∈ createdStatefulSets o.requests, AssistantOf pr₀ n a := by
  rcases createOrUpdateAffinityAssistant_cases h with ⟨hw, -⟩ | ⟨b, _, _, _, _, hreq, -⟩
  · simp [createdStatefulSets_eq_nil hw]
  · intro a ha
    obtain rfl : a = _ := List.mem_singleton.mp (by simpa only [hreq] using ha)
    have hassistant := affinityAssistantStatefulSet_assistantOf r b n pr₀ pr.podTemplate claimTemplates
      claims r.nopImage r.defaultAAPodTemplate
    rwa [← hpr] at hassistant

theorem runInvocations_statefulSets_added {r : Reconciler} {is : List Invocation}
    {p q : Progress Cluster} (h : runInvocations r Cluster.server is p = .ok q) (ns n : String) :
    q.state.statefulSets ns n = p.state.statefulSets ns n ∨
      (ns = p.pipelineRun.namespace ∧ n ∈ is.map Invocation.affinityAssistantName ∧
        p.state.statefulSets ns n = none ∧
        ∃ a, q.state.statefulSets ns n = some a ∧ AssistantOf p.pipelineRun n a) := by
  refine (runInvocations_induction (fun p' =>
    p'.pipelineRun = { p.pipelineRun with podTemplate := p'.pipelineRun.podTemplate } ∧
    (p'.state.statefulSets ns n = p.state.statefulSets ns n ∨
      (ns = p.pipelineRun.namespace ∧ n ∈ is.map Invocation.affinityAssistantName ∧
        p.state.statefulSets ns n = none ∧
        ∃ a, p'.state.statefulSets ns n = some a ∧ AssistantOf p.pipelineRun n a))) ?_ h
    ⟨rfl, .inl rfl⟩).2
  intro i hi p' o ⟨hpr, hP⟩ ho
  simp only [Cluster.server_client] at ho
  refine ⟨by rw [Progress.after_pipelineRun, createOrUpdateAffinityAssistant_podTemplate_only ho, hpr], ?_⟩
  rcases createOrUpdateAffinityAssistant_cluster_step p'.state ho with
    ⟨hst, -, -⟩ | ⟨b, _, habs, hst, hcreated, -⟩
  · simpa only [Progress.after_state, Cluster.server_apply, hst] using hP
  · simp only [Progress.after_state, Cluster.server_apply, hst, Cluster.createStatefulSet_statefulSets,
      affinityAssistantStatefulSet_name]
    split_ifs with hc
    · obtain ⟨rfl, rfl, -⟩ := hc
      have hassistant := createOrUpdateAffinityAssistant_created_assistantOf ho hpr _
        (hcreated ▸ List.mem_singleton_self _)
      refine .inr ⟨by rw [hpr], List.mem_map_of_mem _ hi, ?_, _, rfl, hassistant⟩
      rcases hP with hP | ⟨-, -, hP, -⟩
      · rw [← hP, habs]
      · exact hP
    · exact hP

theorem createOrUpdateAffinityAssistantsAndPVCs_statefulSets_added (r : Reconciler) (c : Cluster)
    (pr : PipelineRun) (aaBehavior : AffinityAssistantBehavior) (order : MapOrder r pr) :
    ∃ res, createOrUpdateAffinityAssistantsAndPVCs r Cluster.server c pr aaBehavior order = .ok res ∧
      ∀ ns n, res.state.statefulSets ns n = c.statefulSets ns n ∨
        (ns = pr.namespace ∧ n ∈ (invocations r pr aaBehavior order).map Invocation.affinityAssistantName ∧
          c.statefulSets ns n = none ∧ ∃ a, res.state.statefulSets ns n = some a ∧ AssistantOf pr n a) := by
  obtain ⟨_, q, -, hq, hres⟩ := createOrUpdateAffinityAssistantsAndPVCs_run r c pr aaBehavior order
  exact ⟨_, hres, runInvocations_statefulSets_added hq⟩

/-- The assistants a reconcile of `pr` is for, by mode: one per workspace with a claim or a
template, or one for the whole run when it has such a workspace, or none. -/
def desiredAssistantNames (pr : PipelineRun) : AffinityAssistantBehavior → List String
  | .affinityAssistantPerWorkspace => perWorkspaceNames pr
  | .affinityAssistantPerPipelineRun | .affinityAssistantPerPipelineRunWithIsolation =>
    if (volumeWorkspaces pr).isEmpty then [] else [getAffinityAssistantName "" pr.name]
  | .affinityAssistantDisabled => []

theorem mem_invocations_iff (r : Reconciler) (pr : PipelineRun) (aaBehavior : AffinityAssistantBehavior)
    (order : MapOrder r pr) (n : String) :
    n ∈ (invocations r pr aaBehavior order).map Invocation.affinityAssistantName ↔
      n ∈ desiredAssistantNames pr aaBehavior := by
  cases aaBehavior with
  | affinityAssistantPerWorkspace =>
    rw [((perWorkspace_invocations_perm r pr order).map _).mem_iff]
    simp [desiredAssistantNames, perWorkspaceNames, perWorkspaceInvocation, Function.comp_def]
  | affinityAssistantPerPipelineRun | affinityAssistantPerPipelineRunWithIsolation =>
    simp only [invocations, desiredAssistantNames, perPipelineRun_condition]
    cases (volumeWorkspaces pr).isEmpty <;> simp
  | affinityAssistantDisabled => simp [invocations, desiredAssistantNames]

/-- A reconcile on the healthy cluster, with the behaviour readable, does what it is for: the
StatefulSets held afterwards are those held before and the desired assistants of `pr` in its
namespace, in any map order. -/
theorem createOrUpdateAffinityAssistantsAndPVCs_held_iff (r : Reconciler) (c : Cluster)
    (pr : PipelineRun) (aaBehavior : AffinityAssistantBehavior) (order : MapOrder r pr)
    {b : AffinityAssistantBehavior} (hb : r.getAffinityAssistantBehavior = .ok b) :
    ∃ res, createOrUpdateAffinityAssistantsAndPVCs r Cluster.server c pr aaBehavior order = .ok res ∧
      ∀ ns n, (res.state.statefulSets ns n).isSome ↔
        (c.statefulSets ns n).isSome ∨ (ns = pr.namespace ∧ n ∈ desiredAssistantNames pr aaBehavior) := by
  obtain ⟨_, q, -, hq, hres⟩ := createOrUpdateAffinityAssistantsAndPVCs_run r c pr aaBehavior order
  refine ⟨_, hres, fun ns n => ⟨fun h => ?_, ?_⟩⟩
  · rcases runInvocations_statefulSets_added hq ns n with heq | ⟨hns, hn, -⟩
    · exact .inl (heq ▸ h)
    · exact .inr ⟨hns, (mem_invocations_iff r pr aaBehavior order n).mp hn⟩
  · rintro (h | ⟨rfl, hn⟩)
    · exact runInvocations_kept hq ns n h
    · obtain ⟨i, hi, rfl⟩ := List.mem_map.mp ((mem_invocations_iff r pr aaBehavior order n).mpr hn)
      exact runInvocations_held hb _ _ q hq i hi

theorem createOrUpdateAffinityAssistantsAndPVCs_held_iff_single :
    (Reconciler.ofBehavior .affinityAssistantPerWorkspace).getAffinityAssistantBehavior =
        .ok .affinityAssistantPerWorkspace ∧
      ∃ res, createOrUpdateAffinityAssistantsAndPVCs (Reconciler.ofBehavior .affinityAssistantPerWorkspace)
          Cluster.server (Cluster.empty []) singleClaimPipelineRun .affinityAssistantPerWorkspace
          (MapOrder.insertion _ _) = .ok res ∧
        ∀ ns n, (res.state.statefulSets ns n).isSome ↔ ((Cluster.empty []).statefulSets ns n).isSome ∨
          (ns = singleClaimPipelineRun.namespace ∧
            n ∈ desiredAssistantNames singleClaimPipelineRun .affinityAssistantPerWorkspace) :=
  ⟨rfl, createOrUpdateAffinityAssistantsAndPVCs_held_iff _ _ _ _ _ rfl⟩

theorem invocation_name_perWorkspace {r : Reconciler} {pr : PipelineRun}
    {aaBehavior : AffinityAssistantBehavior} {order : MapOrder r pr}
    (hmode : aaBehavior = .affinityAssistantPerWorkspace ∨ aaBehavior = .affinityAssistantDisabled)
    {n : String} (hn : n ∈ (invocations r pr aaBehavior order).map Invocation.affinityAssistantName) :
    n ∈ perWorkspaceNames pr := by
  rcases hmode with rfl | rfl
  · exact (invocation_name_of_mode r pr order _ n hn).1 rfl
  · simp [invocations] at hn

theorem cleanupAffinityAssistants_after_createOrUpdate_perWorkspace (r : Reconciler) (c : Cluster)
    (pr : PipelineRun) (aaBehavior : AffinityAssistantBehavior) (order : MapOrder r pr)
    (hflag : r.disableAffinityAssistant = false)
    (hmode : aaBehavior = .affinityAssistantPerWorkspace ∨ aaBehavior = .affinityAssistantDisabled) :
    ∃ res, createOrUpdateAffinityAssistantsAndPVCs r Cluster.server c pr aaBehavior order = .ok res ∧
      (cleanupAffinityAssistants r Cluster.server res.state res.pipelineRun).state.statefulSets =
        (cleanupAffinityAssistants r Cluster.server c pr).state.statefulSets := by
  obtain ⟨res, hres, hadd⟩ := createOrUpdateAffinityAssistantsAndPVCs_statefulSets_added r c pr
    aaBehavior order
  obtain ⟨hname, hns, hws⟩ := createOrUpdateAffinityAssistantsAndPVCs_pipelineRun hres
  have hnames : perWorkspaceNames res.pipelineRun = perWorkspaceNames pr := by
    simp only [perWorkspaceNames, volumeWorkspaces, hname, hws]
  refine ⟨res, hres, funext fun ns => funext fun n => ?_⟩
  rw [cleanupAffinityAssistants_statefulSets r _ _ hflag, cleanupAffinityAssistants_statefulSets r _ _ hflag,
    hns, hnames]
  split_ifs with h
  · rfl
  · rcases hadd ns n with heq | ⟨rfl, hn, -⟩
    · exact heq
    · exact absurd ⟨rfl, invocation_name_perWorkspace hmode hn⟩ h

theorem cleanupAffinityAssistants_after_createOrUpdate_perWorkspace_single :
    (Reconciler.ofBehavior .affinityAssistantPerWorkspace).disableAffinityAssistant = false ∧
      (AffinityAssistantBehavior.affinityAssistantPerWorkspace = .affinityAssistantPerWorkspace ∨
        AffinityAssistantBehavior.affinityAssistantPerWorkspace = .affinityAssistantDisabled) ∧
      ∃ res, createOrUpdateAffinityAssistantsAndPVCs (Reconciler.ofBehavior .affinityAssistantPerWorkspace)
          Cluster.server (Cluster.empty []) singleClaimPipelineRun .affinityAssistantPerWorkspace
          (MapOrder.insertion _ _) = .ok res ∧
        (cleanupAffinityAssistants (Reconciler.ofBehavior .affinityAssistantPerWorkspace) Cluster.server
            res.state res.pipelineRun).state.statefulSets =
          (cleanupAffinityAssistants (Reconciler.ofBehavior .affinityAssistantPerWorkspace) Cluster.server
            (Cluster.empty []) singleClaimPipelineRun).state.statefulSets :=
  ⟨rfl, .inl rfl, cleanupAffinityAssistants_after_createOrUpdate_perWorkspace _ _ _ _ _ rfl (.inl rfl)⟩

theorem createOrUpdateAffinityAssistantsAndPVCs_cluster_err (r : Reconciler) (c : Cluster)
    (pr : PipelineRun) (aaBehavior : AffinityAssistantBehavior) (order : MapOrder r pr)
    {b : AffinityAssistantBehavior} (hb : r.getAffinityAssistantBehavior = .ok b) :
    ∃ res, createOrUpdateAffinityAssistantsAndPVCs r Cluster.server c pr aaBehavior order = .ok res ∧
      res.err = none := by
  obtain ⟨_, _, -, -, hres⟩ := createOrUpdateAffinityAssistantsAndPVCs_run r c pr aaBehavior order
  exact ⟨_, hres, createOrUpdateAffinityAssistantsAndPVCs_cluster_err_eq_none hb hres⟩

theorem createOrUpdateAffinityAssistantsAndPVCs_cluster_err_single :
    (Reconciler.ofBehavior .affinityAssistantPerWorkspace).getAffinityAssistantBehavior =
        .ok .affinityAssistantPerWorkspace ∧
      ∃ res, createOrUpdateAffinityAssistantsAndPVCs (Reconciler.ofBehavior .affinityAssistantPerWorkspace)
          Cluster.server (Cluster.empty []) singleClaimPipelineRun .affinityAssistantPerWorkspace
          (MapOrder.insertion _ _) = .ok res ∧ res.err = none :=
  ⟨rfl, createOrUpdateAffinityAssistantsAndPVCs_cluster_err _ _ _ _ _ rfl⟩

theorem cleanupLoop_errs (pr : PipelineRun) :
    ∀ (ws : List WorkspaceBinding) (p : Progress Cluster),
      (cleanupLoop Cluster.server pr ws p).errs = p.errs
  | [], _ => rfl
  | w :: ws, p => by
    unfold cleanupLoop
    split_ifs
    · rw [cleanupLoop_errs pr ws]
      simp only [Cluster.server_client, Cluster.client]
      split_ifs <;> simp [ApiError.isNotFound]
    · exact cleanupLoop_errs pr ws p

theorem cleanupAffinityAssistants_cluster_err (r : Reconciler) (s : Cluster) (pr : PipelineRun) :
    (cleanupAffinityAssistants r Cluster.server s pr).err = none := by
  unfold cleanupAffinityAssistants
  split_ifs
  · rfl
  · simp [cleanupLoop_errs, newAggregate]

theorem invocations_name_mem (r : Reconciler) (pr : PipelineRun)
    (aaBehavior : AffinityAssistantBehavior) (order order' : MapOrder r pr) {i : Invocation}
    (hi : i ∈ invocations r pr aaBehavior order') :
    i.affinityAssistantName ∈ (invocations r pr aaBehavior order).map Invocation.affinityAssistantName := by
  cases aaBehavior with
  | affinityAssistantPerWorkspace =>
    exact List.mem_map_of_mem _ ((perWorkspace_invocations_perm r pr order).mem_iff.mpr
      ((perWorkspace_invocations_perm r pr order').mem_iff.mp hi))
  | _ => exact List.mem_map_of_mem _ hi

/-- On the healthy cluster a reconcile of `pr` followed by a second one, each in any map
order and with the behaviour readable, returns twice, and the second pass creates no
StatefulSet. -/
theorem createOrUpdateAffinityAssistantsAndPVCs_idempotent (r : Reconciler) (c : Cluster)
    (pr : PipelineRun) (aaBehavior : AffinityAssistantBehavior) (order order' : MapOrder r pr)
    {b : AffinityAssistantBehavior} (hb : r.getAffinityAssistantBehavior = .ok b) :
    ∃ res, createOrUpdateAffinityAssistantsAndPVCs r Cluster.server c pr aaBehavior order = .ok res ∧
      ∃ res', createOrUpdateAffinityAssistantsAndPVCs r Cluster.server res.state pr aaBehavior
          order' = .ok res' ∧ createdStatefulSets res'.requests = [] := by
  obtain ⟨_, q, -, hq, hres⟩ := createOrUpdateAffinityAssistantsAndPVCs_run r c pr aaBehavior order
  refine ⟨_, hres, createOrUpdateAffinityAssistantsAndPVCs_adopts _ _ _ _ _ fun i hi => ?_⟩
  obtain ⟨j, hj, hname⟩ := List.mem_map.mp (invocations_name_mem r pr aaBehavior order order' hi)
  exact hname ▸ runInvocations_held hb _ _ _ hq j hj

theorem createOrUpdateAffinityAssistantsAndPVCs_idempotent_single :
    (Reconciler.ofBehavior .affinityAssistantPerWorkspace).getAffinityAssistantBehavior =
        .ok .affinityAssistantPerWorkspace ∧
      ∃ res, createOrUpdateAffinityAssistantsAndPVCs (Reconciler.ofBehavior .affinityAssistantPerWorkspace)
          Cluster.server (Cluster.empty []) singleClaimPipelineRun .affinityAssistantPerWorkspace
          (MapOrder.insertion _ _) = .ok res ∧
        ∃ res', createOrUpdateAffinityAssistantsAndPVCs (Reconciler.ofBehavior .affinityAssistantPerWorkspace)
            Cluster.server res.state singleClaimPipelineRun .affinityAssistantPerWorkspace
            (MapOrder.insertion _ _) = .ok res' ∧ createdStatefulSets res'.requests = [] :=
  ⟨rfl, createOrUpdateAffinityAssistantsAndPVCs_idempotent _ _ _ _ _ _ rfl⟩

end AffinityAssistant
