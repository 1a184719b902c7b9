import AffinityAssistant.Cordon
import AffinityAssistant.Reconcile
import Mathlib.Data.List.Nodup

set_option autoImplicit false

namespace AffinityAssistant

section
variable {σ : Type} {r : Reconciler} {srv : Server σ}

theorem runInvocations_induction (P : Progress σ → Prop) {is : List Invocation}
    (step : ∀ i ∈ is, ∀ (p : Progress σ) (o : Outcome), P p →
      createOrUpdateAffinityAssistant r (srv.client p.state) i.affinityAssistantName
        p.pipelineRun i.claimTemplates i.claims none = .ok o → P (p.after srv o))
    {p q : Progress σ} (h : runInvocations r srv is p = .ok q) (hp : P p) : P q := by
  induction is generalizing p with
  | nil => cases h; exact hp
  | cons i is ih =>
    unfold runInvocations at h
    split at h
    · cases h
    · rename_i o ho
      exact ih (fun i' hi' => step i' (List.mem_cons_of_mem _ hi')) h
        (step i (List.mem_cons_self _ _) p o hp ho)

theorem runInvocations_pipelineRun {is : List Invocation} {p q : Progress σ}
    (h : runInvocations r srv is p = .ok q) :
    q.pipelineRun.name = p.pipelineRun.name ∧ q.pipelineRun.namespace = p.pipelineRun.namespace ∧
      q.pipelineRun.workspaces = p.pipelineRun.workspaces := by
  refine runInvocations_induction (fun p' => p'.pipelineRun.name = p.pipelineRun.name ∧
    p'.pipelineRun.namespace = p.pipelineRun.namespace ∧
    p'.pipelineRun.workspaces = p.pipelineRun.workspaces) ?_ h ⟨rfl, rfl, rfl⟩
  intro i _ p' o hp' ho
  rcases createOrUpdateAffinityAssistant_cases ho with ⟨-, hpr⟩ | ⟨_, _, _, _, _, _, hpr⟩ <;>
    simpa [Progress.after, hpr] using hp'

theorem runInvocations_append (is₁ is₂ : List Invocation) (p : Progress σ) :
    runInvocations r srv (is₁ ++ is₂) p = (runInvocations r srv is₁ p).bind (runInvocations r srv is₂) := by
  induction is₁ generalizing p with
  | nil => rfl
  | cons i is₁ ih =>
    simp only [List.cons_append, runInvocations]
    split
    · rfl
    · exact ih _

theorem runInvocations_eq_error {e : Panic} : ∀ {is : List Invocation} {p : Progress σ},
    runInvocations r srv is p = .error e ↔ ∃ is₁ i is₂, is = is₁ ++ i :: is₂ ∧ ∃ p' : Progress σ,
      runInvocations r srv is₁ p = .ok p' ∧
      createOrUpdateAffinityAssistant r (srv.client p'.state) i.affinityAssistantName p'.pipelineRun
        i.claimTemplates i.claims none = .error e
  | [], _ => ⟨nofun, fun ⟨is₁, _, _, h, _⟩ => by simp at h⟩
  | i :: is, p => by
    constructor
    · intro h
      unfold runInvocations at h
      split at h
      · rename_i he
        cases h
        exact ⟨[], i, is, rfl, p, rfl, he⟩
      · rename_i o ho
        obtain ⟨is₁, j, is₂, rfl, p', h₁, he⟩ := runInvocations_eq_error.mp h
        exact ⟨i :: is₁, j, is₂, rfl, p', by simp only [runInvocations, ho]; exact h₁, he⟩
    · rintro ⟨is₁, j, is₂, heq, p', h₁, he⟩
      rw [heq, runInvocations_append, h₁]
      simp only [Except.bind, runInvocations, he]

end

theorem createOrUpdateAffinityAssistantsAndPVCs_cluster (r : Reconciler) (c : Cluster)
    (pr : PipelineRun) (aaBehavior : AffinityAssistantBehavior) (order : MapOrder r pr) :
    createOrUpdateAffinityAssistantsAndPVCs r Cluster.server c pr aaBehavior order =
      createAffinityAssistants r Cluster.server pr aaBehavior order c
        (if (aaBehavior = .affinityAssistantPerWorkspace ∨ aaBehavior = .affinityAssistantDisabled) ∧
          r.hasVolumeClaimTemplate pr = true then
          [.createPVCsForWorkspaces pr.workspaces (newControllerRef pr) pr.namespace] else []) := by
  unfold createOrUpdateAffinityAssistantsAndPVCs
  split_ifs <;> rfl

theorem createOrUpdateAffinityAssistantsAndPVCs_cluster_pvcs (r : Reconciler) (c : Cluster)
    (pr : PipelineRun) (aaBehavior : AffinityAssistantBehavior) (order : MapOrder r pr) :
    ∃ requests, createdStatefulSets requests = [] ∧
      createOrUpdateAffinityAssistantsAndPVCs r Cluster.server c pr aaBehavior order =
        createAffinityAssistants r Cluster.server pr aaBehavior order c requests :=
  ⟨_, by split_ifs <;> rfl, createOrUpdateAffinityAssistantsAndPVCs_cluster r c pr aaBehavior order⟩

theorem createAffinityAssistants_eq_ok {σ : Type} {r : Reconciler} {srv : Server σ}
    {pr : PipelineRun} {aaBehavior : AffinityAssistantBehavior} {order : MapOrder r pr} {s : σ}
    {requests : List Request} {res : Result σ} :
    createAffinityAssistants r srv pr aaBehavior order s requests = .ok res ↔
      ∃ q, runInvocations r srv (invocations r pr aaBehavior order) ⟨s, pr, requests, []⟩ = .ok q ∧
        res = ⟨newAggregate q.errs, q.state, q.pipelineRun, q.requests⟩ := by
  unfold createAffinityAssistants
  cases runInvocations r srv (invocations r pr aaBehavior order) ⟨s, pr, requests, []⟩ <;>
    simp [Except.map, eq_comm]

theorem createAffinityAssistants_eq_error {σ : Type} {r : Reconciler} {srv : Server σ}
    {pr : PipelineRun} {aaBehavior : AffinityAssistantBehavior} {order : MapOrder r pr} {s : σ}
    {requests : List Request} {e : Panic} :
    createAffinityAssistants r srv pr aaBehavior order s requests = .error e ↔
      runInvocations r srv (invocations r pr aaBehavior order) ⟨s, pr, requests, []⟩ = .error e := by
  unfold createAffinityAssistants
  cases runInvocations r srv (invocations r pr aaBehavior order) ⟨s, pr, requests, []⟩ <;>
    simp [Except.map]

def pvcRequests (r : Reconciler) (pr : PipelineRun) (aaBehavior : AffinityAssistantBehavior) :
    List Request :=
  if (aaBehavior = .affinityAssistantPerWorkspace ∨ aaBehavior = .affinityAssistantDisabled) ∧
      r.hasVolumeClaimTemplate pr = true then
    [.createPVCsForWorkspaces pr.workspaces (newControllerRef pr) pr.namespace]
  else []

theorem createOrUpdateAffinityAssistantsAndPVCs_error_iff_run {σ : Type} {r : Reconciler}
    {srv : Server σ} {s : σ} {pr : PipelineRun} {aaBehavior : AffinityAssistantBehavior}
    {order : MapOrder r pr} {e : Panic} :
    createOrUpdateAffinityAssistantsAndPVCs r srv s pr aaBehavior order = .error e ↔
      (pvcRequests r pr aaBehavior = [] ∨
        (srv.client s).createPVCsForWorkspaces pr.workspaces (newControllerRef pr) pr.namespace = none) ∧
      runInvocations r srv (invocations r pr aaBehavior order)
        ⟨(pvcRequests r pr aaBehavior).foldl srv.apply s, pr, pvcRequests r pr aaBehavior, []⟩ = .error e := by
  unfold createOrUpdateAffinityAssistantsAndPVCs pvcRequests
  split_ifs
  · split <;> rename_i hpvc <;> simp [hpvc, createAffinityAssistants_eq_error]
  · simp [createAffinityAssistants_eq_error]

theorem createOrUpdateAffinityAssistantsAndPVCs_pipelineRun {σ : Type} {r : Reconciler}
    {srv : Server σ} {s : σ} {pr : PipelineRun} {aaBehavior : AffinityAssistantBehavior}
    {order : MapOrder r pr} {res : Result σ}
    (h : createOrUpdateAffinityAssistantsAndPVCs r srv s pr aaBehavior order = .ok res) :
    res.pipelineRun.name = pr.name ∧ res.pipelineRun.namespace = pr.namespace ∧
      res.pipelineRun.workspaces = pr.workspaces := by
  have hcreate : ∀ s' requests, createAffinityAssistants r srv pr aaBehavior order s' requests =
      .ok res → res.pipelineRun.name = pr.name ∧ res.pipelineRun.namespace = pr.namespace ∧
        res.pipelineRun.workspaces = pr.workspaces := by
    intro s' requests hc
    obtain ⟨q, hq, rfl⟩ := createAffinityAssistants_eq_ok.mp hc
    exact runInvocations_pipelineRun hq
  unfold createOrUpdateAffinityAssistantsAndPVCs at h
  split_ifs at h
  · split at h
    · cases h; exact ⟨rfl, rfl, rfl⟩
    · exact hcreate _ _ h
  · exact hcreate _ _ h

theorem runInvocations_cluster_ok (r : Reconciler) :
    ∀ (is : List Invocation) (p : Progress Cluster), ∃ q, runInvocations r Cluster.server is p = .ok q
  | [], p => ⟨p, rfl⟩
  | i :: is, p => by
    obtain ⟨o, ho⟩ := createOrUpdateAffinityAssistant_cluster_ok r p.state i.affinityAssistantName
      p.pipelineRun i.claimTemplates i.claims none
    obtain ⟨q, hq⟩ := runInvocations_cluster_ok r is (p.after Cluster.server o)
    exact ⟨q, by simp only [runInvocations, Cluster.server, ho]; exact hq⟩

theorem runInvocations_cluster_errs {r : Reconciler} {b : AffinityAssistantBehavior}
    (hb : r.getAffinityAssistantBehavior = .ok b) {is : List Invocation} {p q : Progress Cluster}
    (h : runInvocations r Cluster.server is p = .ok q) : q.errs = p.errs :=
  runInvocations_induction (fun p' => p'.errs = p.errs) (fun _ _ p' _ hp ho => by
    simp [hp, createOrUpdateAffinityAssistant_cluster_errs r p'.state _ _ _ _ hb ho]) h rfl

theorem createOrUpdateAffinityAssistantsAndPVCs_cluster_err_eq_none {r : Reconciler} {c : Cluster}
    {pr : PipelineRun} {aaBehavior : AffinityAssistantBehavior} {order : MapOrder r pr}
    {b : AffinityAssistantBehavior} (hb : r.getAffinityAssistantBehavior = .ok b) {res : Result Cluster}
    (h : createOrUpdateAffinityAssistantsAndPVCs r Cluster.server c pr aaBehavior order = .ok res) :
    res.err = none := by
  rw [createOrUpdateAffinityAssistantsAndPVCs_cluster] at h
  obtain ⟨q, hq, rfl⟩ := createAffinityAssistants_eq_ok.mp h
  simp [runInvocations_cluster_errs hb hq, newAggregate]

def perWorkspaceNames (pr : PipelineRun) : List String :=
  (volumeWorkspaces pr).map fun w => getAffinityAssistantName w.name pr.name

theorem cleanupLoop_statefulSets (pr : PipelineRun) :
    ∀ (ws : List WorkspaceBinding) (p : Progress Cluster) (ns n : String),
      (cleanupLoop Cluster.server pr ws p).state.statefulSets ns n =
        if ns = pr.namespace ∧ n ∈ (ws.filter hasClaim).map (fun w => getAffinityAssistantName w.name pr.name)
        then none else p.state.statefulSets ns n
  | [], p, ns, n => by simp [cleanupLoop]
  | w :: ws, p, ns, n => by
    by_cases hw : hasClaim w
    · rw [cleanupLoop, if_pos hw, cleanupLoop_statefulSets pr ws]
      simp only [Cluster.server, Cluster.apply, Cluster.deleteStatefulSet_statefulSets,
        List.filter_cons_of_pos hw, List.map_cons, List.mem_cons]
      split_ifs <;> tauto
    · rw [cleanupLoop, if_neg hw, cleanupLoop_statefulSets pr ws,
        List.filter_cons_of_neg hw]

/-- What a run on the healthy cluster keeps, from the cluster `s₀` it started on to the
cluster `s` it is at: what `s₀` held in the namespace stays held, and the StatefulSets
created by `requests` are held, were missing from `s₀`, are named by calls of the run, and
have distinct names. -/
structure HealthyRun (ns : String) (names : List String) (s₀ s : Cluster) (pr : PipelineRun)
    (requests : List Request) : Prop where
  namespace_eq : pr.namespace = ns
  kept : ∀ n, (s₀.statefulSets ns n).isSome → (s.statefulSets ns n).isSome
  created_held : ∀ a ∈ createdStatefulSets requests, (s.statefulSets ns a.name).isSome
  created_new : ∀ a ∈ createdStatefulSets requests, s₀.statefulSets ns a.name = none
  created_named : ∀ a ∈ createdStatefulSets requests, a.name ∈ names
  created_nodup : ((createdStatefulSets requests).map StatefulSet.name).Nodup

theorem HealthyRun.start {ns : String} {names : List String} {s : Cluster} {pr : PipelineRun}
    {requests : List Request} (hns : pr.namespace = ns)
    (hcreated : createdStatefulSets requests = []) : HealthyRun ns names s s pr requests :=
  ⟨hns, fun _ h => h, by simp [hcreated], by simp [hcreated], by simp [hcreated], by simp [hcreated]⟩

theorem runInvocations_healthyRun {r : Reconciler} {ns : String} {s₀ : Cluster}
    {is : List Invocation} {p q : Progress Cluster} (h : runInvocations r Cluster.server is p = .ok q)
    (hp : HealthyRun ns (is.map Invocation.affinityAssistantName) s₀ p.state p.pipelineRun
      p.requests) :
    HealthyRun ns (is.map Invocation.affinityAssistantName) s₀ q.state q.pipelineRun q.requests := by
  refine runInvocations_induction (fun p => HealthyRun ns _ s₀ p.state p.pipelineRun p.requests)
    ?_ h hp
  intro i hi p' o hp' ho
  simp only [Cluster.server_client] at ho
  rcases createOrUpdateAffinityAssistant_cluster_step p'.state ho with
    ⟨hst, hcr, hpr⟩ | ⟨_, _, habs, hst, hcr, hpr⟩
  · refine ⟨by simp [hpr, hp'.namespace_eq], ?_, ?_, ?_, ?_, ?_⟩ <;>
      simp only [Progress.after_state, Progress.after_requests, Cluster.server_apply, hst,
        createdStatefulSets_append, hcr, List.append_nil]
    exacts [hp'.kept, hp'.created_held, hp'.created_new, hp'.created_named, hp'.created_nodup]
  · have hns := hp'.namespace_eq
    subst hns
    have hheld : ∀ n, (p'.state.statefulSets p'.pipelineRun.namespace n).isSome →
        ((o.requests.foldl Cluster.apply p'.state).statefulSets p'.pipelineRun.namespace n).isSome :=
      fun n hn => hst ▸ Cluster.createStatefulSet_isSome _ _ _ hn
    have hnew : ∀ a ∈ createdStatefulSets p'.requests, a.name ≠ i.affinityAssistantName := by
      intro a ha he
      have := hp'.created_held a ha
      rw [he, habs] at this
      cases this
    refine ⟨by simp [hpr], fun n hn => hheld n (hp'.kept n hn), ?_, ?_, ?_, ?_⟩ <;>
      simp only [Progress.after_state, Progress.after_requests, Cluster.server_apply,
        createdStatefulSets_append, hcr, List.mem_append, List.mem_singleton, List.map_append,
        List.map_singleton, List.nodup_append, List.nodup_singleton, List.disjoint_singleton]
    · rintro a (ha | rfl)
      · exact hheld _ (hp'.created_held a ha)
      · rw [hst, Cluster.createStatefulSet_statefulSets, if_pos ⟨rfl, rfl, by simpa using habs⟩]
        rfl
    · rintro a (ha | rfl)
      · exact hp'.created_new a ha
      · simp only [affinityAssistantStatefulSet_name]
        cases h0 : s₀.statefulSets p'.pipelineRun.namespace i.affinityAssistantName
        · rfl
        · have := hp'.kept _ (by rw [h0]; rfl)
          rw [habs] at this
          cases this
    · rintro a (ha | rfl)
      · exact hp'.created_named a ha
      · exact List.mem_map_of_mem _ hi
    · refine ⟨hp'.created_nodup, trivial, ?_⟩
      simp only [affinityAssistantStatefulSet_name, List.mem_map, not_exists, not_and]
      exact fun a ha he => hnew a ha he

theorem createOrUpdateAffinityAssistantsAndPVCs_healthyRun (r : Reconciler) (c : Cluster)
    (pr : PipelineRun) (aaBehavior : AffinityAssistantBehavior) (order : MapOrder r pr) :
    ∃ res, createOrUpdateAffinityAssistantsAndPVCs r Cluster.server c pr aaBehavior order =
        .ok res ∧ HealthyRun pr.namespace ((invocations r pr aaBehavior order).map
          Invocation.affinityAssistantName) c res.state res.pipelineRun res.requests := by
  rw [createOrUpdateAffinityAssistantsAndPVCs_cluster]
  obtain ⟨q, hq⟩ := runInvocations_cluster_ok r (invocations r pr aaBehavior order)
    ⟨c, pr, if (aaBehavior = .affinityAssistantPerWorkspace ∨
      aaBehavior = .affinityAssistantDisabled) ∧ r.hasVolumeClaimTemplate pr = true then
      [.createPVCsForWorkspaces pr.workspaces (newControllerRef pr) pr.namespace] else [], []⟩
  exact ⟨⟨newAggregate q.errs, q.state, q.pipelineRun, q.requests⟩,
    by simp [createAffinityAssistants, hq, Except.map],
    runInvocations_healthyRun hq (HealthyRun.start rfl (by split_ifs <;> rfl))⟩

theorem cleanupAffinityAssistants_statefulSets (r : Reconciler) (s : Cluster) (pr : PipelineRun)
    (hflag : r.disableAffinityAssistant = false) (ns n : String) :
    (cleanupAffinityAssistants r Cluster.server s pr).state.statefulSets ns n =
      if ns = pr.namespace ∧ n ∈ perWorkspaceNames pr then none else s.statefulSets ns n := by
  simp only [cleanupAffinityAssistants, hflag]
  exact cleanupLoop_statefulSets pr pr.workspaces _ ns n

def Invocation.volumes (i : Invocation) : String × List PersistentVolumeClaim × List Volume :=
  (i.affinityAssistantName, i.claimTemplates, claimVolumes 0 i.claims)

def statefulSetVolumes (a : StatefulSet) : String × List PersistentVolumeClaim × List Volume :=
  (a.name, a.volumeClaimTemplates, a.templateSpec.volumes)

theorem runInvocations_cluster_fresh {r : Reconciler} {aaBehavior : AffinityAssistantBehavior}
    (hb : r.getAffinityAssistantBehavior = .ok aaBehavior) :
    ∀ (is : List Invocation) (p : Progress Cluster),
      (is.map Invocation.affinityAssistantName).Nodup →
      (∀ i ∈ is, p.state.statefulSets p.pipelineRun.namespace i.affinityAssistantName = none) →
      ∃ q, runInvocations r Cluster.server is p = .ok q ∧ q.errs = p.errs ∧
        (createdStatefulSets q.requests).map statefulSetVolumes =
          (createdStatefulSets p.requests).map statefulSetVolumes ++ is.map Invocation.volumes
  | [], p, _, _ => ⟨p, rfl, rfl, by simp⟩
  | i :: is, p, hnd, hfresh => by
    rw [List.map_cons, List.nodup_cons] at hnd
    have ho := createOrUpdateAffinityAssistant_cluster_absent r p.state i.affinityAssistantName
      p.pipelineRun i.claimTemplates i.claims none aaBehavior hb
      (hfresh i (List.mem_cons_self _ _))
    obtain ⟨o, ho'⟩ : ∃ o, createOrUpdateAffinityAssistant r p.state.client
      i.affinityAssistantName p.pipelineRun i.claimTemplates i.claims none = .ok o := ⟨_, ho⟩
    have heq := Except.ok.inj (ho.symm.trans ho')
    have hfresh' : ∀ j ∈ is, ((p.after Cluster.server o).state.statefulSets
        (p.after Cluster.server o).pipelineRun.namespace j.affinityAssistantName) = none := by
      intro j hj
      have hne : j.affinityAssistantName ≠ i.affinityAssistantName :=
        fun he => hnd.1 (he ▸ List.mem_map_of_mem _ hj)
      simp [Progress.after, ← heq, Cluster.server, Cluster.apply, hne,
        hfresh j (List.mem_cons_of_mem _ hj)]
    obtain ⟨q, hq, herr, hcr⟩ := runInvocations_cluster_fresh hb is _ hnd.2 hfresh'
    refine ⟨q, ?_, by simp [herr, Progress.after, ← heq], ?_⟩
    · simp only [runInvocations, Cluster.server]
      rw [ho']
      exact hq
    · rw [hcr]
      simp [Progress.after, ← heq, createdStatefulSets, statefulSetVolumes, Invocation.volumes]

end AffinityAssistant
