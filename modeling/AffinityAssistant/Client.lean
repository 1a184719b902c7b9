import AffinityAssistant.StatefulSet

set_option autoImplicit false

/-!
# The API server

The file talks to the cluster through `KubeClientSet` and the PVC handler. A `Client` is
the server's answer to every call: a read answers Go's pair of a possibly nil object and
a possibly nil error, so that a caller can be seen reading the object of a failed call.
A `Server` answers from a state that the calls move. `Cluster` is the healthy server: it
answers from the objects it holds, and it holds each object under its own name.
-/
namespace AffinityAssistant

inductive Request
  | getStatefulSet (ns name : String)
  | createStatefulSet (ns : String) (statefulSet : StatefulSet)
  | deleteStatefulSet (ns name : String)
  | listNodes (fieldSelector : String)
  | getPod (ns name : String)
  | deletePod (ns name : String)
  | createPVCsForWorkspaces (workspaces : List WorkspaceBinding) (owner : OwnerReference)
      (ns : String)
  deriving DecidableEq, Repr

structure Client where
  getStatefulSet : String → String → Option StatefulSet × Option ApiError
  createStatefulSet : String → StatefulSet → Option ApiError
  deleteStatefulSet : String → String → Option ApiError
  listNodes : String → Option (List Node) × Option ApiError
  getPod : String → String → Option Pod × Option ApiError
  deletePod : String → String → Option ApiError
  createPVCsForWorkspaces : List WorkspaceBinding → OwnerReference → String → Option ApiError

structure Server (σ : Type) where
  client : σ → Client
  apply : σ → Request → σ

def unschedulableFieldSelector : String := "spec.unschedulable=true"

/-- The objects of a cluster by namespace and name; PVCs are left to the PVC handler. -/
structure Cluster where
  statefulSets : String → String → Option StatefulSet
  pods : String → String → Option Pod
  nodes : List Node
  statefulSets_name : ∀ ns n a, statefulSets ns n = some a → a.name = n
  pods_name : ∀ ns n p, pods ns n = some p → p.name = n ∧ p.namespace = ns

namespace Cluster

def empty (nodes : List Node) : Cluster :=
  ⟨fun _ _ => none, fun _ _ => none, nodes, (fun _ _ _ h => nomatch h), (fun _ _ _ h => nomatch h)⟩

def createStatefulSet (c : Cluster) (ns : String) (a : StatefulSet) : Cluster :=
  { c with
    statefulSets := fun ns' n => if ns' = ns ∧ n = a.name ∧ c.statefulSets ns a.name = none then
      some a else c.statefulSets ns' n
    statefulSets_name := by
      intro ns' n b h
      dsimp only at h
      split at h
      · rename_i hn; cases h; exact hn.2.1.symm
      · exact c.statefulSets_name ns' n b h }

def deleteStatefulSet (c : Cluster) (ns name : String) : Cluster :=
  { c with
    statefulSets := fun ns' n => if ns' = ns ∧ n = name then none else c.statefulSets ns' n
    statefulSets_name := by
      intro ns' n b h
      dsimp only at h
      split at h
      · cases h
      · exact c.statefulSets_name ns' n b h }

def deletePod (c : Cluster) (ns name : String) : Cluster :=
  { c with
    pods := fun ns' n => if ns' = ns ∧ n = name then none else c.pods ns' n
    pods_name := by
      intro ns' n p h
      dsimp only at h
      split at h
      · cases h
      · exact c.pods_name ns' n p h }

def client (c : Cluster) : Client where
  getStatefulSet ns name := match c.statefulSets ns name with
    | some a => (some a, none)
    | none => (none, some (.notFound name))
  createStatefulSet ns a := if (c.statefulSets ns a.name).isSome then some (.alreadyExists a.name)
    else none
  deleteStatefulSet ns name := if (c.statefulSets ns name).isSome then none
    else some (.notFound name)
  listNodes sel := (some (if sel = unschedulableFieldSelector then c.nodes.filter (·.unschedulable)
    else c.nodes), none)
  getPod ns name := match c.pods ns name with
    | some p => (some p, none)
    | none => (none, some (.notFound name))
  deletePod ns name := if (c.pods ns name).isSome then none else some (.notFound name)
  createPVCsForWorkspaces _ _ _ := none

def apply (c : Cluster) : Request → Cluster
  | .createStatefulSet ns a => c.createStatefulSet ns a
  | .deleteStatefulSet ns name => c.deleteStatefulSet ns name
  | .deletePod ns name => c.deletePod ns name
  | _ => c

def server : Server Cluster := ⟨client, apply⟩

@[simp] theorem server_client : server.client = client := rfl
@[simp] theorem server_apply : server.apply = apply := rfl

@[simp] theorem createStatefulSet_statefulSets (c : Cluster) (ns : String) (a : StatefulSet)
    (ns' n : String) : (c.createStatefulSet ns a).statefulSets ns' n =
      if ns' = ns ∧ n = a.name ∧ c.statefulSets ns a.name = none then some a
      else c.statefulSets ns' n := rfl

theorem createStatefulSet_isSome (c : Cluster) (ns : String) (a : StatefulSet) {ns' n : String}
    (h : (c.statefulSets ns' n).isSome) : ((c.createStatefulSet ns a).statefulSets ns' n).isSome := by
  rw [createStatefulSet_statefulSets]
  split_ifs
  · rfl
  · exact h

@[simp] theorem deleteStatefulSet_statefulSets (c : Cluster) (ns name ns' n : String) :
    (c.deleteStatefulSet ns name).statefulSets ns' n =
      if ns' = ns ∧ n = name then none else c.statefulSets ns' n := rfl

theorem apply_pods (c : Cluster) (q : Request) (ns name : String) :
    (c.apply q).pods ns name = if q = .deletePod ns name then none else c.pods ns name := by
  cases q with
  | deletePod ns' name' =>
    by_cases h : ns = ns' ∧ name = name'
    · obtain ⟨rfl, rfl⟩ := h; simp [apply, deletePod]
    · simp only [apply, deletePod, if_neg h, Request.deletePod.injEq]
      rw [if_neg fun h' => h ⟨h'.1.symm, h'.2.symm⟩]
  | _ => rfl

theorem foldl_apply_pods (reqs : List Request) (c : Cluster) (ns name : String) :
    (reqs.foldl apply c).pods ns name =
      if Request.deletePod ns name ∈ reqs then none else c.pods ns name := by
  induction reqs generalizing c with
  | nil => rfl
  | cons q reqs ih =>
    rw [List.foldl_cons, ih, apply_pods]
    by_cases hq : q = .deletePod ns name
    · subst hq; simp
    · simp only [hq, if_false, List.mem_cons, Ne.symm hq, false_or]

end Cluster

def Request.writesStatefulSet : Request → Bool
  | .createStatefulSet _ _ | .deleteStatefulSet _ _ => true
  | _ => false

def createdStatefulSets : List Request → List StatefulSet
  | [] => []
  | .createStatefulSet _ a :: reqs => a :: createdStatefulSets reqs
  | _ :: reqs => createdStatefulSets reqs

@[simp] theorem createdStatefulSets_append (xs ys : List Request) :
    createdStatefulSets (xs ++ ys) = createdStatefulSets xs ++ createdStatefulSets ys := by
  induction xs with
  | nil => rfl
  | cons x xs ih =>
    cases x with
    | createStatefulSet _ a => exact congrArg (a :: ·) ih
    | _ => exact ih

theorem createdStatefulSets_eq_nil {reqs : List Request}
    (h : ∀ q ∈ reqs, q.writesStatefulSet = false) : createdStatefulSets reqs = [] := by
  induction reqs with
  | nil => rfl
  | cons q reqs ih =>
    have hq := h q (List.mem_cons_self _ _)
    have hrest := ih fun q' hq' => h q' (List.mem_cons_of_mem _ hq')
    cases q <;> (try cases hq) <;> exact hrest

theorem Cluster.foldl_apply_statefulSets {reqs : List Request}
    (h : ∀ q ∈ reqs, q.writesStatefulSet = false) (c : Cluster) :
    (reqs.foldl Cluster.apply c).statefulSets = c.statefulSets := by
  induction reqs generalizing c with
  | nil => rfl
  | cons q reqs ih =>
    have hq := h q (List.mem_cons_self _ _)
    rw [List.foldl_cons, ih (fun q' hq' => h q' (List.mem_cons_of_mem _ hq'))]
    cases q <;> (try cases hq) <;> rfl

end AffinityAssistant
