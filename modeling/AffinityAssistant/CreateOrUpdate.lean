import AffinityAssistant.Client

set_option autoImplicit false

namespace AffinityAssistant

inductive Panic
  | nilPointerDereference
  deriving DecidableEq, Repr

structure Outcome where
  requests : List Request
  errs : List String
  pipelineRun : PipelineRun

def listUnschedulableNodes (cl : Client) : Except Panic (List Request × List String × List String) :=
  let errs := match (cl.listNodes unschedulableFieldSelector).2 with
    | some err => ["could not get the list of nodes, err: " ++ err.error]
    | none => []
  match (cl.listNodes unschedulableFieldSelector).1 with
  | some items => .ok ([.listNodes unschedulableFieldSelector], errs, items.map Node.name)
  | none => .error .nilPointerDereference

/-- The `unschedulableNodes.Len() > 0` block: get pod `a.Name-0` and delete it when its node
is one of `unschedulableNodes`. -/
def deletePodOnUnschedulableNode (cl : Client) (pr : PipelineRun) (a : StatefulSet)
    (unschedulableNodes : List String) : List Request × List String :=
  if 0 < unschedulableNodes.length then
    let getPod := Request.getPod pr.namespace (a.name ++ "-0")
    let errs := match (cl.getPod pr.namespace (a.name ++ "-0")).2 with
      | some err => if err.isNotFound then [] else
          ["could not get the affinity assistant pod for StatefulSet " ++ a.name ++ ": " ++ err.error]
      | none => []
    match (cl.getPod pr.namespace (a.name ++ "-0")).1 with
    | some p =>
      if p.nodeName ∈ unschedulableNodes then
        ([getPod, .deletePod p.namespace p.name], errs ++ match cl.deletePod p.namespace p.name with
          | some err => ["error deleting affinity assistant pod " ++ p.name ++ " in ns " ++
              p.namespace ++ ": " ++ err.error]
          | none => [])
      else ([getPod], errs)
    | none => ([getPod], errs)
  else ([], [])

def createOrUpdateAffinityAssistant (r : Reconciler) (cl : Client) (affinityAssistantName : String)
    (pr : PipelineRun) (claimTemplates : List PersistentVolumeClaim)
    (claims : List PersistentVolumeClaimVolumeSource) (unschedulableNodes : Option (List String)) :
    Except Panic Outcome :=
  let get := Request.getStatefulSet pr.namespace affinityAssistantName
  match cl.getStatefulSet pr.namespace affinityAssistantName with
  | (_, some err) =>
    if err.isNotFound then
      match r.getAffinityAssistantBehavior with
      | .error e => .ok ⟨[get], [e], pr⟩
      | .ok aaBehavior =>
        let built := affinityAssistantStatefulSet r aaBehavior affinityAssistantName pr
          claimTemplates claims r.nopImage r.defaultAAPodTemplate
        .ok ⟨[get, .createStatefulSet pr.namespace built.1],
          (match cl.createStatefulSet pr.namespace built.1 with
            | some err => ["failed to create StatefulSet " ++ affinityAssistantName ++ ": " ++ err.error]
            | none => []), built.2⟩
    else .ok ⟨[get], ["failed to retrieve StatefulSet " ++ affinityAssistantName ++ ": " ++ err.error], pr⟩
  | (some a, none) =>
    if a.readyReplicas = 1 then
      match unschedulableNodes with
      | some nodes =>
        let deleted := deletePodOnUnschedulableNode cl pr a nodes
        .ok ⟨get :: deleted.1, deleted.2, pr⟩
      | none => (listUnschedulableNodes cl).map fun listed =>
        let deleted := deletePodOnUnschedulableNode cl pr a listed.2.2
        ⟨get :: listed.1 ++ deleted.1, listed.2.1 ++ deleted.2, pr⟩
    else .ok ⟨[get], [], pr⟩
  | (none, none) => .ok ⟨[get], [], pr⟩

theorem deletePodOnUnschedulableNode_writes (cl : Client) (pr : PipelineRun) (a : StatefulSet)
    (nodes : List String) :
    ∀ q ∈ (deletePodOnUnschedulableNode cl pr a nodes).1, q.writesStatefulSet = false := by
  unfold deletePodOnUnschedulableNode
  split_ifs
  · rcases hp : (cl.getPod pr.namespace (a.name ++ "-0")).1 with _ | p
    · simp [hp, Request.writesStatefulSet]
    · by_cases hn : p.nodeName ∈ nodes <;> simp [hp, hn, Request.writesStatefulSet]
  · simp

theorem listUnschedulableNodes_requests {cl : Client} {x : List Request × List String × List String}
    (h : listUnschedulableNodes cl = .ok x) : x.1 = [.listNodes unschedulableFieldSelector] := by
  unfold listUnschedulableNodes at h
  rcases hn : (cl.listNodes unschedulableFieldSelector).1 with _ | items <;> rw [hn] at h
  · cases h
  · cases h; rfl

section
variable {r : Reconciler} {cl : Client} {n : String} {pr : PipelineRun}
  {claimTemplates : List PersistentVolumeClaim} {claims : List PersistentVolumeClaimVolumeSource}
  {unschedulableNodes : Option (List String)} {o : Outcome}

/-- Everything one call can do: either it writes no StatefulSet and leaves the PipelineRun
alone, or the Get said not found, the behaviour was read, and it created the StatefulSet
`affinityAssistantStatefulSet` built, moving the PipelineRun as that build did. -/
theorem createOrUpdateAffinityAssistant_cases
    (h : createOrUpdateAffinityAssistant r cl n pr claimTemplates claims unschedulableNodes = .ok o) :
    ((∀ q ∈ o.requests, q.writesStatefulSet = false) ∧ o.pipelineRun = pr) ∨
    (∃ aaBehavior err, (cl.getStatefulSet pr.namespace n).2 = some err ∧ err.isNotFound ∧
      r.getAffinityAssistantBehavior = .ok aaBehavior ∧
      o.requests = [.getStatefulSet pr.namespace n, .createStatefulSet pr.namespace
        (affinityAssistantStatefulSet r aaBehavior n pr claimTemplates claims r.nopImage
          r.defaultAAPodTemplate).1] ∧
      o.pipelineRun = (affinityAssistantStatefulSet r aaBehavior n pr claimTemplates claims
        r.nopImage r.defaultAAPodTemplate).2) := by
  unfold createOrUpdateAffinityAssistant at h
  split at h
  · rename_i err hget
    split at h
    · split at h
      · cases h; exact .inl ⟨by simp [Request.writesStatefulSet], rfl⟩
      · rename_i aaBehavior hb
        cases h
        exact .inr ⟨aaBehavior, err, by rw [hget], by assumption, hb, rfl, rfl⟩
    · cases h; exact .inl ⟨by simp [Request.writesStatefulSet], rfl⟩
  · split at h
    · split at h
      · cases h
        refine .inl ⟨?_, rfl⟩
        simpa [Request.writesStatefulSet] using deletePodOnUnschedulableNode_writes cl pr _ _
      · cases hl : listUnschedulableNodes cl with
        | error e => rw [hl] at h; cases h
        | ok x =>
          rw [hl] at h
          cases h
          refine .inl ⟨?_, rfl⟩
          simp only [List.mem_cons, List.mem_append]
          rintro q ((rfl | hq) | hq)
          · rfl
          · simp only [listUnschedulableNodes_requests hl, List.mem_singleton] at hq; subst hq; rfl
          · exact deletePodOnUnschedulableNode_writes cl pr _ _ q hq
    · cases h; exact .inl ⟨by simp [Request.writesStatefulSet], rfl⟩
  · cases h; exact .inl ⟨by simp [Request.writesStatefulSet], rfl⟩

theorem createOrUpdateAffinityAssistant_podTemplate_only
    (h : createOrUpdateAffinityAssistant r cl n pr claimTemplates claims unschedulableNodes = .ok o) :
    o.pipelineRun = { pr with podTemplate := o.pipelineRun.podTemplate } := by
  rcases createOrUpdateAffinityAssistant_cases h with ⟨-, hpr⟩ | ⟨_, _, _, _, _, _, hpr⟩ <;> rw [hpr]
  rw [affinityAssistantStatefulSet_pipelineRun, setPodTemplateAffinity_eq]

theorem listUnschedulableNodes_eq_error {e : Panic} :
    listUnschedulableNodes cl = .error e ↔ (cl.listNodes unschedulableFieldSelector).1 = none := by
  cases e
  unfold listUnschedulableNodes
  rcases hn : (cl.listNodes unschedulableFieldSelector).1 with _ | items <;> simp

/-- The one panic: the Get found a ready StatefulSet, no node set was passed in, and the
node listing answered no list, failed or not. -/
theorem createOrUpdateAffinityAssistant_eq_error {e : Panic} :
    createOrUpdateAffinityAssistant r cl n pr claimTemplates claims unschedulableNodes = .error e ↔
      (∃ a, cl.getStatefulSet pr.namespace n = (some a, none) ∧ a.readyReplicas = 1) ∧
      unschedulableNodes = none ∧ (cl.listNodes unschedulableFieldSelector).1 = none := by
  unfold createOrUpdateAffinityAssistant
  rcases hg : cl.getStatefulSet pr.namespace n with ⟨_ | a, _ | err⟩
  · simp
  · simp only [Prod.mk.injEq, reduceCtorEq, false_and, and_false, exists_false, false_and,
      iff_false]
    split_ifs <;> (try split) <;> simp
  · by_cases hr : a.readyReplicas = 1
    · rcases unschedulableNodes with _ | nodes
      · simp [hr, Except.map, ← listUnschedulableNodes_eq_error (e := e)]
        split <;> simp_all
      · simp [hr]
    · simp [hr]
  · simp only [Prod.mk.injEq, reduceCtorEq, and_false, false_and, exists_false, false_and,
      iff_false]
    split_ifs <;> (try split) <;> simp

theorem createOrUpdateAffinityAssistant_cluster_ok (r : Reconciler) (c : Cluster) (n : String)
    (pr : PipelineRun) (claimTemplates : List PersistentVolumeClaim)
    (claims : List PersistentVolumeClaimVolumeSource) (unschedulableNodes : Option (List String)) :
    ∃ o, createOrUpdateAffinityAssistant r c.client n pr claimTemplates claims
      unschedulableNodes = .ok o := by
  rcases hres : createOrUpdateAffinityAssistant r c.client n pr claimTemplates claims
    unschedulableNodes with e | o
  · obtain ⟨_, _, hl⟩ := createOrUpdateAffinityAssistant_eq_error.mp hres
    simp [Cluster.client] at hl
  · exact ⟨o, rfl⟩

theorem createOrUpdateAffinityAssistant_cluster_absent (r : Reconciler) (c : Cluster) (n : String)
    (pr : PipelineRun) (claimTemplates : List PersistentVolumeClaim)
    (claims : List PersistentVolumeClaimVolumeSource) (unschedulableNodes : Option (List String))
    (aaBehavior : AffinityAssistantBehavior) (hb : r.getAffinityAssistantBehavior = .ok aaBehavior)
    (h : c.statefulSets pr.namespace n = none) :
    createOrUpdateAffinityAssistant r c.client n pr claimTemplates claims unschedulableNodes =
      .ok ⟨[.getStatefulSet pr.namespace n, .createStatefulSet pr.namespace
        (affinityAssistantStatefulSet r aaBehavior n pr claimTemplates claims r.nopImage
          r.defaultAAPodTemplate).1], [],
        (affinityAssistantStatefulSet r aaBehavior n pr claimTemplates claims r.nopImage
          r.defaultAAPodTemplate).2⟩ := by
  simp [createOrUpdateAffinityAssistant, Cluster.client, h, hb, ApiError.isNotFound]

theorem createOrUpdateAffinityAssistant_cluster_step (c : Cluster)
    (h : createOrUpdateAffinityAssistant r c.client n pr claimTemplates claims
      unschedulableNodes = .ok o) :
    ((o.requests.foldl Cluster.apply c).statefulSets = c.statefulSets ∧
      createdStatefulSets o.requests = [] ∧ o.pipelineRun = pr) ∨
    (∃ aaBehavior, r.getAffinityAssistantBehavior = .ok aaBehavior ∧
      c.statefulSets pr.namespace n = none ∧
      o.requests.foldl Cluster.apply c = c.createStatefulSet pr.namespace
        (affinityAssistantStatefulSet r aaBehavior n pr claimTemplates claims r.nopImage
          r.defaultAAPodTemplate).1 ∧
      createdStatefulSets o.requests = [(affinityAssistantStatefulSet r aaBehavior n pr
        claimTemplates claims r.nopImage r.defaultAAPodTemplate).1] ∧
      o.pipelineRun = (affinityAssistantStatefulSet r aaBehavior n pr claimTemplates claims
        r.nopImage r.defaultAAPodTemplate).2) := by
  rcases createOrUpdateAffinityAssistant_cases h with ⟨hw, hpr⟩ | ⟨aaBehavior, err, hget, _, hb, hreq, hpr⟩
  · exact .inl ⟨Cluster.foldl_apply_statefulSets hw c, createdStatefulSets_eq_nil hw, hpr⟩
  · have habsent : c.statefulSets pr.namespace n = none := by
      cases ha : c.statefulSets pr.namespace n <;> simp_all [Cluster.client]
    refine .inr ⟨aaBehavior, hb, habsent, ?_, ?_, hpr⟩
    · rw [hreq]; rfl
    · rw [hreq]; rfl

end

end AffinityAssistant
