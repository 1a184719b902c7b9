import AffinityAssistant.CreateOrUpdate

set_option autoImplicit false

namespace AffinityAssistant

def unschedulableNodeNames (c : Cluster) : List String :=
  (c.nodes.filter (·.unschedulable)).map Node.name

theorem deletePodOnUnschedulableNode_cluster (c : Cluster) (pr : PipelineRun) (a : StatefulSet)
    (nodes : List String) (ns name : String) :
    Request.deletePod ns name ∈ (deletePodOnUnschedulableNode c.client pr a nodes).1 ↔
      ns = pr.namespace ∧ name = a.name ++ "-0" ∧
        ∃ p, c.pods pr.namespace (a.name ++ "-0") = some p ∧ p.nodeName ∈ nodes := by
  unfold deletePodOnUnschedulableNode
  rcases hp : c.pods pr.namespace (a.name ++ "-0") with _ | p
  · split_ifs <;> simp [Cluster.client, hp]
  · obtain ⟨hname, hns⟩ := c.pods_name _ _ p hp
    by_cases hn : p.nodeName ∈ nodes
    · simp [Cluster.client, hp, hn, List.length_pos_of_mem hn, hname, hns]
    · split_ifs <;> simp [Cluster.client, hp, hn]

theorem createOrUpdateAffinityAssistant_cluster_ready (r : Reconciler) (c : Cluster) (n : String)
    (pr : PipelineRun) (claimTemplates : List PersistentVolumeClaim)
    (claims : List PersistentVolumeClaimVolumeSource) {a : StatefulSet}
    (ha : c.statefulSets pr.namespace n = some a) (hr : a.readyReplicas = 1) :
    createOrUpdateAffinityAssistant r c.client n pr claimTemplates claims none =
      .ok ⟨.getStatefulSet pr.namespace n :: [.listNodes unschedulableFieldSelector] ++
          (deletePodOnUnschedulableNode c.client pr a (unschedulableNodeNames c)).1,
        [] ++ (deletePodOnUnschedulableNode c.client pr a (unschedulableNodeNames c)).2, pr⟩ := by
  simp [createOrUpdateAffinityAssistant, Cluster.client, ha, hr, listUnschedulableNodes, Except.map,
    unschedulableNodeNames]

theorem createOrUpdateAffinityAssistant_cluster_deletePod (r : Reconciler) (c : Cluster)
    (n : String) (pr : PipelineRun) (claimTemplates : List PersistentVolumeClaim)
    (claims : List PersistentVolumeClaimVolumeSource) :
    ∃ o, createOrUpdateAffinityAssistant r c.client n pr claimTemplates claims none = .ok o ∧
      ∀ ns name, Request.deletePod ns name ∈ o.requests ↔
        ns = pr.namespace ∧ name = n ++ "-0" ∧ ∃ a p, c.statefulSets pr.namespace n = some a ∧
          a.readyReplicas = 1 ∧ c.pods pr.namespace (n ++ "-0") = some p ∧
          p.nodeName ∈ unschedulableNodeNames c := by
  obtain ⟨o, ho⟩ := createOrUpdateAffinityAssistant_cluster_ok r c n pr claimTemplates claims none
  refine ⟨o, ho, fun ns name => ?_⟩
  rcases ha : c.statefulSets pr.namespace n with _ | a
  · simp only [createOrUpdateAffinityAssistant, Cluster.client, ha, ApiError.isNotFound,
      if_true] at ho
    split at ho <;> cases ho <;> simp
  · have hname := c.statefulSets_name _ _ a ha
    by_cases hr : a.readyReplicas = 1
    · rw [createOrUpdateAffinityAssistant_cluster_ready r c n pr claimTemplates claims ha hr] at ho
      cases ho
      simp [deletePodOnUnschedulableNode_cluster, hname, hr]
    · obtain rfl : ⟨[.getStatefulSet pr.namespace n], [], pr⟩ = o := by
        simpa [createOrUpdateAffinityAssistant, Cluster.client, ha, hr] using ho
      simp [hr]

/-- The error a call answered that counts as a failure: a NotFound from a Get, or from the
cleanup's Delete, does not. -/
def Request.failure (cl : Client) : Request → Option ApiError
  | .getStatefulSet ns name => (cl.getStatefulSet ns name).2.filter fun e => !e.isNotFound
  | .createStatefulSet ns a => cl.createStatefulSet ns a
  | .deleteStatefulSet ns name => (cl.deleteStatefulSet ns name).filter fun e => !e.isNotFound
  | .listNodes sel => (cl.listNodes sel).2
  | .getPod ns name => (cl.getPod ns name).2.filter fun e => !e.isNotFound
  | .deletePod ns name => cl.deletePod ns name
  | .createPVCsForWorkspaces workspaces owner ns => cl.createPVCsForWorkspaces workspaces owner ns

theorem deletePodOnUnschedulableNode_errs (cl : Client) (pr : PipelineRun) (a : StatefulSet)
    (nodes : List String) :
    (deletePodOnUnschedulableNode cl pr a nodes).2 = [] ↔
      ∀ q ∈ (deletePodOnUnschedulableNode cl pr a nodes).1, q.failure cl = none := by
  unfold deletePodOnUnschedulableNode
  split_ifs
  · rcases hg : cl.getPod pr.namespace (a.name ++ "-0") with ⟨_ | p, _ | err⟩
    · simp [Request.failure, hg]
    · cases err <;> simp [Request.failure, hg, ApiError.isNotFound]
    all_goals by_cases hn : p.nodeName ∈ nodes
    all_goals try cases err
    all_goals cases hd : cl.deletePod p.namespace p.name <;>
      simp [Request.failure, hg, hn, hd, ApiError.isNotFound]
  · simp

/-- Short of the panic, a call returns no error exactly when none of its client calls
failed, a NotFound from a Get apart, and the behaviour was readable when it was read. -/
theorem createOrUpdateAffinityAssistant_errs_eq_nil {r : Reconciler} {cl : Client} {n : String}
    {pr : PipelineRun} {claimTemplates : List PersistentVolumeClaim}
    {claims : List PersistentVolumeClaimVolumeSource} {o : Outcome}
    (h : createOrUpdateAffinityAssistant r cl n pr claimTemplates claims none = .ok o) :
    o.errs = [] ↔ (∀ q ∈ o.requests, q.failure cl = none) ∧
      ((cl.getStatefulSet pr.namespace n).2.any ApiError.isNotFound →
        r.getAffinityAssistantBehavior.isOk) := by
  unfold createOrUpdateAffinityAssistant at h
  split at h
  · rename_i err hg
    rcases err with m | m | m <;>
      simp only [ApiError.isNotFound, if_true, if_false, Bool.false_eq_true] at h
    · rcases hb : r.getAffinityAssistantBehavior with e | b <;> rw [hb] at h <;> cases h
      · simp [Request.failure, hg, hb, ApiError.isNotFound, Except.isOk, Except.toBool]
      · cases hc : cl.createStatefulSet pr.namespace _ <;>
          simp [Request.failure, hg, hc, hb, ApiError.isNotFound, Except.isOk, Except.toBool]
    all_goals cases h; simp [Request.failure, hg, ApiError.isNotFound]
  · rename_i a hg
    split_ifs at h
    · unfold listUnschedulableNodes at h
      rcases hl : cl.listNodes unschedulableFieldSelector with ⟨_ | items, _ | err⟩ <;>
        simp only [hl, Except.map] at h <;> cases h
      · simpa [Request.failure, hg, hl] using deletePodOnUnschedulableNode_errs cl pr a _
      · simp [Request.failure, hl]
    · cases h; simp [Request.failure, hg]
  · rename_i hg
    cases h; simp [Request.failure, hg]

theorem createOrUpdateAffinityAssistant_errs_eq_nil_empty :
    ∃ o, createOrUpdateAffinityAssistant (Reconciler.ofBehavior .affinityAssistantPerWorkspace)
        (Cluster.empty []).client "affinity-assistant-run" ⟨"run", "default", "run-uid", [], [], none⟩ [] []
        none = .ok o ∧
      (o.errs = [] ↔ (∀ q ∈ o.requests, q.failure (Cluster.empty []).client = none) ∧
        (((Cluster.empty []).client.getStatefulSet "default" "affinity-assistant-run").2.any
          ApiError.isNotFound →
          (Reconciler.ofBehavior .affinityAssistantPerWorkspace).getAffinityAssistantBehavior.isOk)) :=
  ⟨_, rfl, createOrUpdateAffinityAssistant_errs_eq_nil rfl⟩

theorem createOrUpdateAffinityAssistant_cluster_errs (r : Reconciler) (c : Cluster) (n : String)
    (pr : PipelineRun) (claimTemplates : List PersistentVolumeClaim)
    (claims : List PersistentVolumeClaimVolumeSource) {aaBehavior : AffinityAssistantBehavior}
    (hb : r.getAffinityAssistantBehavior = .ok aaBehavior) {o : Outcome}
    (h : createOrUpdateAffinityAssistant r c.client n pr claimTemplates claims none = .ok o) :
    o.errs = [] := by
  rcases ha : c.statefulSets pr.namespace n with _ | a
  · rw [createOrUpdateAffinityAssistant_cluster_absent r c n pr claimTemplates claims none aaBehavior
      hb ha] at h
    cases h; rfl
  by_cases hr : a.readyReplicas = 1
  · rw [createOrUpdateAffinityAssistant_cluster_ready r c n pr claimTemplates claims ha hr] at h
    cases h
    show [] ++ (deletePodOnUnschedulableNode c.client pr a _).2 = []
    unfold deletePodOnUnschedulableNode
    split_ifs
    · rcases hp : c.pods pr.namespace (a.name ++ "-0") with _ | p
      · simp [Cluster.client, hp, ApiError.isNotFound]
      · obtain ⟨hname, hns⟩ := c.pods_name _ _ p hp
        by_cases hn : p.nodeName ∈ unschedulableNodeNames c <;> simp [Cluster.client, hp, hn, hname, hns]
    · rfl
  · simp [createOrUpdateAffinityAssistant, Cluster.client, ha, hr] at h
    rw [← h]

def readyAssistant : StatefulSet :=
  ⟨"affinity-assistant-run", [], [], 1, [], [], [], ⟨[], [], [], [], none, []⟩, 1⟩

/-- A client that finds the StatefulSet ready and whose listing of cordoned nodes fails,
answering no list with its error. -/
def nodeListFailingClient : Client :=
  ⟨fun _ _ => (some readyAssistant, none), fun _ _ => none, fun _ _ => none,
    fun _ => (none, some (.other "connection refused")),
    fun _ _ => (none, some (.notFound "affinity-assistant-run-0")), fun _ _ => none,
    fun _ _ _ => none⟩

/-- The failed listing's missing list is ranged over: every call on a ready assistant
panics. -/
theorem createOrUpdateAffinityAssistant_failed_node_list (r : Reconciler) (pr : PipelineRun)
    (claimTemplates : List PersistentVolumeClaim) (claims : List PersistentVolumeClaimVolumeSource) :
    createOrUpdateAffinityAssistant r nodeListFailingClient "affinity-assistant-run" pr
      claimTemplates claims none = .error .nilPointerDereference := rfl

end AffinityAssistant
