import AffinityAssistant.System

set_option autoImplicit false

/-!
# The controller among the cluster's other actors

Between the controller's passes the StatefulSet controller reports replicas ready, the
scheduler binds pods to nodes that are not cordoned, and nodes are cordoned and uncordoned.
Only a cordon, or an assistant turning ready, can leave a ready assistant's pod on a cordoned
node; a reconcile of its PipelineRun repairs that, and it stays repaired until one of those two
events. None of these events changes which StatefulSets are held.
-/
namespace AffinityAssistant

namespace Cluster

def setReadyReplicas (c : Cluster) (ns n : String) (readyReplicas : Int) : Cluster :=
  { c with
    statefulSets := fun ns' n' => if ns' = ns ∧ n' = n then
        (c.statefulSets ns' n').map fun a => { a with readyReplicas := readyReplicas }
      else c.statefulSets ns' n'
    statefulSets_name := by
      intro ns' n' a h
      dsimp only at h
      split at h
      · obtain ⟨a₀, h₀, rfl⟩ := Option.map_eq_some'.mp h
        exact c.statefulSets_name ns' n' a₀ h₀
      · exact c.statefulSets_name ns' n' a h }

def bindPod (c : Cluster) (ns name node : String) : Cluster :=
  { c with
    pods := fun ns' n => if ns' = ns ∧ n = name ∧ c.pods ns name = none then some ⟨name, ns, node⟩
      else c.pods ns' n
    pods_name := by
      intro ns' n p h
      dsimp only at h
      split at h
      · rename_i hn
        cases h
        exact ⟨hn.2.1.symm, hn.1.symm⟩
      · exact c.pods_name ns' n p h }

def setUnschedulable (c : Cluster) (node : String) (unschedulable : Bool) : Cluster :=
  { c with
    nodes := c.nodes.map fun m => if m.name = node then { m with unschedulable := unschedulable } else m }

@[simp] theorem setReadyReplicas_statefulSets (c : Cluster) (ns n : String) (k : Int) (ns' n' : String) :
    (c.setReadyReplicas ns n k).statefulSets ns' n' = if ns' = ns ∧ n' = n then
      (c.statefulSets ns' n').map fun a => { a with readyReplicas := k } else c.statefulSets ns' n' := rfl
@[simp] theorem setReadyReplicas_pods (c : Cluster) (ns n : String) (k : Int) :
    (c.setReadyReplicas ns n k).pods = c.pods := rfl
@[simp] theorem setReadyReplicas_nodes (c : Cluster) (ns n : String) (k : Int) :
    (c.setReadyReplicas ns n k).nodes = c.nodes := rfl
@[simp] theorem bindPod_statefulSets (c : Cluster) (ns name node : String) :
    (c.bindPod ns name node).statefulSets = c.statefulSets := rfl
@[simp] theorem bindPod_nodes (c : Cluster) (ns name node : String) :
    (c.bindPod ns name node).nodes = c.nodes := rfl
@[simp] theorem setUnschedulable_statefulSets (c : Cluster) (node : String) (b : Bool) :
    (c.setUnschedulable node b).statefulSets = c.statefulSets := rfl
@[simp] theorem setUnschedulable_pods (c : Cluster) (node : String) (b : Bool) :
    (c.setUnschedulable node b).pods = c.pods := rfl
end Cluster

/-- What the rest of the cluster does: the StatefulSet controller sets how many replicas of a
StatefulSet are ready, the scheduler binds a pod to a node, and a node is cordoned or
uncordoned. -/
inductive ClusterEvent
  | readyReplicasSet (ns n : String) (readyReplicas : Int)
  | podScheduled (ns pod node : String)
  | nodeCordoned (node : String)
  | nodeUncordoned (node : String)

/-- The scheduler binds a pod only to a node of the cluster that is not cordoned. -/
def ClusterEvent.step (c : Cluster) : ClusterEvent → Cluster
  | .readyReplicasSet ns n k => c.setReadyReplicas ns n k
  | .podScheduled ns pod node =>
    if node ∈ c.nodes.map Node.name ∧ node ∉ unschedulableNodeNames c then c.bindPod ns pod node else c
  | .nodeCordoned node => c.setUnschedulable node true
  | .nodeUncordoned node => c.setUnschedulable node false

theorem ClusterEvent.heldNames_step (e : ClusterEvent) (c : Cluster) : heldNames (e.step c) = heldNames c := by
  funext ns n
  cases e with
  | readyReplicasSet ns' n' k =>
    simp only [heldNames, ClusterEvent.step, Cluster.setReadyReplicas_statefulSets]
    split_ifs <;> simp
  | podScheduled => simp only [heldNames, ClusterEvent.step]; split_ifs <;> rfl
  | nodeCordoned | nodeUncordoned => rfl

inductive SystemEvent (r : Reconciler)
  | controller (e : Event r)
  | cluster (e : ClusterEvent)

section
variable {r : Reconciler}

def SystemEvent.step (c : Cluster) : SystemEvent r → Except Panic Cluster
  | .controller e => e.step c
  | .cluster e => .ok (e.step c)

def runSystem : List (SystemEvent r) → Cluster → Except Panic Cluster
  | [], c => .ok c
  | e :: es, c =>
    match e.step c with
    | .error p => .error p
    | .ok c' => runSystem es c'

/-- The controller alone is the system with no cluster event. -/
theorem runSystem_controller (es : List (Event r)) (c : Cluster) :
    runSystem (es.map .controller) c = runEvents es c := by
  induction es generalizing c with
  | nil => rfl
  | cons e es ih =>
    simp only [List.map_cons, runSystem, SystemEvent.step, runEvents]
    cases e.step c with
    | error => rfl
    | ok c' => exact ih c'

theorem SystemEvent.step_ok (e : SystemEvent r) (c : Cluster) : ∃ c', e.step c = .ok c' := by
  cases e with
  | controller e => exact e.step_ok c
  | cluster e => exact ⟨_, rfl⟩

/-- The abstract model of the controller sees no cluster event: each is a stutter step. -/
def SystemEvent.abstractStep (held : String → String → Bool) : SystemEvent r → String → String → Bool
  | .controller e => e.abstractStep held
  | .cluster _ => held

theorem SystemEvent.step_refines {b : AffinityAssistantBehavior} (hb : r.getAffinityAssistantBehavior = .ok b)
    (e : SystemEvent r) (c : Cluster) :
    ∃ c', e.step c = .ok c' ∧ heldNames c' = e.abstractStep (heldNames c) := by
  cases e with
  | controller e => exact e.step_refines hb c
  | cluster e => exact ⟨_, rfl, e.heldNames_step c⟩

/-- With the rest of the cluster acting between its passes, the controller still refines the
abstract model of held names. -/
theorem runSystem_refines {b : AffinityAssistantBehavior} (hb : r.getAffinityAssistantBehavior = .ok b) :
    ∀ (es : List (SystemEvent r)) (c : Cluster), ∃ c', runSystem es c = .ok c' ∧
      heldNames c' = es.foldl (fun held e => e.abstractStep held) (heldNames c)
  | [], c => ⟨c, rfl, rfl⟩
  | e :: es, c => by
    obtain ⟨c₁, h₁, hstep⟩ := e.step_refines hb c
    obtain ⟨c', h', hrest⟩ := runSystem_refines hb es c₁
    exact ⟨c', by rw [runSystem, h₁]; exact h', by rw [hrest, hstep]; rfl⟩

end

/-- A reconcile creates the assistant of `singleClaimPipelineRun`'s workspace `source`, the
scheduler binds its pod to `node-a`, the assistant turns ready, and `node-a` is cordoned. -/
def cordonedAssistantRun : List (SystemEvent (Reconciler.ofBehavior .affinityAssistantPerWorkspace)) :=
  [.controller (.reconcile singleClaimPipelineRun .affinityAssistantPerWorkspace (MapOrder.insertion _ _)),
    .cluster (.podScheduled "default" (getAffinityAssistantName "source" "run" ++ "-0") "node-a"),
    .cluster (.readyReplicasSet "default" (getAffinityAssistantName "source" "run") 1),
    .cluster (.nodeCordoned "node-a")]

theorem runSystem_refines_cordoned :
    (Reconciler.ofBehavior .affinityAssistantPerWorkspace).getAffinityAssistantBehavior =
        .ok .affinityAssistantPerWorkspace ∧
      ∃ c', runSystem cordonedAssistantRun (Cluster.empty [⟨"node-a", false⟩]) = .ok c' ∧
        heldNames c' = cordonedAssistantRun.foldl (fun held e => e.abstractStep held)
          (heldNames (Cluster.empty [⟨"node-a", false⟩])) :=
  ⟨rfl, runSystem_refines rfl _ _⟩

end AffinityAssistant
