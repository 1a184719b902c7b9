import AffinityAssistant.Repair

set_option autoImplicit false

/-!
# The controller over many PipelineRuns

The reconciler calls `createOrUpdateAffinityAssistantsAndPVCs` on every pass over a running
PipelineRun and `cleanupAffinityAssistants` once a PipelineRun is done, for any number of
PipelineRuns in any interleaving. On the healthy cluster no such sequence panics; every
StatefulSet it leaves was there before or is the assistant of a PipelineRun it reconciled;
a StatefulSet that was there is removed only by a cleanup that names it and is never
changed; and in per-workspace mode cleaning up every reconciled PipelineRun leaves no
assistant behind. With the behaviour readable the controller refines an abstract model that
keeps only the held names: a reconcile adds the PipelineRun's desired assistants and a cleanup
removes its per-workspace names.
-/
namespace AffinityAssistant

/-- One thing the controller does: a reconcile pass over a PipelineRun, with the behaviour it
read and the order Go ranged over its maps, or the cleanup of a finished PipelineRun. -/
inductive Event (r : Reconciler)
  | reconcile (pr : PipelineRun) (aaBehavior : AffinityAssistantBehavior) (order : MapOrder r pr)
  | cleanup (pr : PipelineRun)

section
variable {r : Reconciler}

def Event.step (c : Cluster) : Event r → Except Panic Cluster
  | .reconcile pr aaBehavior order =>
    (createOrUpdateAffinityAssistantsAndPVCs r Cluster.server c pr aaBehavior order).map Result.state
  | .cleanup pr => .ok (cleanupAffinityAssistants r Cluster.server c pr).state

def runEvents : List (Event r) → Cluster → Except Panic Cluster
  | [], c => .ok c
  | e :: es, c =>
    match e.step c with
    | .error p => .error p
    | .ok c' => runEvents es c'

theorem runEvents_append (es₁ es₂ : List (Event r)) (c : Cluster) :
    runEvents (es₁ ++ es₂) c = match runEvents es₁ c with
      | .error p => .error p
      | .ok c' => runEvents es₂ c' := by
  induction es₁ generalizing c with
  | nil => rfl
  | cons e es₁ ih =>
    simp only [List.cons_append, runEvents]
    cases e.step c with
    | error => rfl
    | ok c' => exact ih c'

@[elab_as_elim]
theorem runEvents_induction (P : Cluster → Prop) {es : List (Event r)}
    (step : ∀ e ∈ es, ∀ c c', P c → e.step c = .ok c' → P c') :
    ∀ {c c'}, runEvents es c = .ok c' → P c → P c' := by
  induction es with
  | nil => intro c c' h hc; cases h; exact hc
  | cons e es ih =>
    intro c c' h hc
    unfold runEvents at h
    split at h
    · cases h
    · rename_i c₁ he
      exact ih (fun e' he' => step e' (List.mem_cons_of_mem _ he')) h
        (step e (List.mem_cons_self _ _) c c₁ hc he)

theorem cleanupLoop_pods_nodes (pr : PipelineRun) :
    ∀ (ws : List WorkspaceBinding) (p : Progress Cluster),
      (cleanupLoop Cluster.server pr ws p).state.pods = p.state.pods ∧
        (cleanupLoop Cluster.server pr ws p).state.nodes = p.state.nodes
  | [], _ => ⟨rfl, rfl⟩
  | w :: ws, p => by
    unfold cleanupLoop
    split_ifs
    exacts [cleanupLoop_pods_nodes pr ws _, cleanupLoop_pods_nodes pr ws p]

theorem cleanupAffinityAssistants_statefulSets_eq (s : Cluster) (pr : PipelineRun) (ns n : String) :
    (cleanupAffinityAssistants r Cluster.server s pr).state.statefulSets ns n =
      if r.disableAffinityAssistant = false ∧ ns = pr.namespace ∧ n ∈ perWorkspaceNames pr then none
      else s.statefulSets ns n := by
  cases hflag : r.disableAffinityAssistant
  · simp only [cleanupAffinityAssistants_statefulSets r s pr hflag, true_and]
  · simp [cleanupAffinityAssistants, hflag]

theorem cleanupAffinityAssistants_pods_nodes (s : Cluster) (pr : PipelineRun) :
    (cleanupAffinityAssistants r Cluster.server s pr).state.pods = s.pods ∧
      (cleanupAffinityAssistants r Cluster.server s pr).state.nodes = s.nodes := by
  unfold cleanupAffinityAssistants
  split_ifs
  exacts [⟨rfl, rfl⟩, cleanupLoop_pods_nodes pr pr.workspaces _]

theorem Event.step_reconcile {pr : PipelineRun} {aaBehavior : AffinityAssistantBehavior}
    {order : MapOrder r pr} {c c' : Cluster} {res : Result Cluster}
    (hres : createOrUpdateAffinityAssistantsAndPVCs r Cluster.server c pr aaBehavior order = .ok res)
    (h : (Event.reconcile pr aaBehavior order).step c = .ok c') : c' = res.state := by
  rw [Event.step, hres] at h
  exact (Except.ok.inj h).symm

theorem Event.step_ok (e : Event r) (c : Cluster) : ∃ c', e.step c = .ok c' := by
  cases e with
  | reconcile pr aaBehavior order =>
    obtain ⟨_, _, -, -, hres⟩ := createOrUpdateAffinityAssistantsAndPVCs_run r c pr aaBehavior order
    exact ⟨_, by rw [Event.step, hres]; rfl⟩
  | cleanup pr => exact ⟨_, rfl⟩

/-- Everything one event does to a StatefulSet: it leaves it as it was, a cleanup that names
it removes it, or a reconcile whose call has its name adds it, as that PipelineRun's
assistant, where it was missing. -/
theorem Event.step_statefulSets {e : Event r} {c c' : Cluster} (h : e.step c = .ok c') (ns n : String) :
    c'.statefulSets ns n = c.statefulSets ns n ∨
      (c'.statefulSets ns n = none ∧ ∃ pr, e = .cleanup pr ∧ ns = pr.namespace ∧
        n ∈ perWorkspaceNames pr) ∨
      (c.statefulSets ns n = none ∧ ∃ pr aaBehavior order, e = .reconcile pr aaBehavior order ∧
        ns = pr.namespace ∧ n ∈ (invocations r pr aaBehavior order).map Invocation.affinityAssistantName ∧
        ∃ a, c'.statefulSets ns n = some a ∧ AssistantOf pr n a) := by
  cases e with
  | reconcile pr aaBehavior order =>
    obtain ⟨res, hres, hadd⟩ := createOrUpdateAffinityAssistantsAndPVCs_statefulSets_added r c pr
      aaBehavior order
    obtain rfl := Event.step_reconcile hres h
    rcases hadd ns n with heq | ⟨hns, hn, habs, hassistant⟩
    · exact .inl heq
    · exact .inr (.inr ⟨habs, pr, aaBehavior, order, rfl, hns, hn, hassistant⟩)
  | cleanup pr =>
    cases h
    rw [cleanupAffinityAssistants_statefulSets_eq]
    split_ifs with hc
    · exact .inr (.inl ⟨rfl, pr, rfl, hc.2⟩)
    · exact .inl rfl

def Event.pipelineRun : Event r → PipelineRun
  | .reconcile pr _ _ => pr
  | .cleanup pr => pr

theorem Event.step_other_namespace {e : Event r} {c c' : Cluster} (h : e.step c = .ok c') {ns : String}
    (hns : ns ≠ e.pipelineRun.namespace) :
    c'.statefulSets ns = c.statefulSets ns ∧ c'.pods ns = c.pods ns := by
  cases e with
  | reconcile pr aaBehavior order =>
    obtain ⟨res, hres, hother⟩ := createOrUpdateAffinityAssistantsAndPVCs_other_namespace r c pr
      aaBehavior order
    obtain rfl := Event.step_reconcile hres h
    exact hother ns hns
  | cleanup pr =>
    cases h
    exact ⟨funext fun n => by rw [cleanupAffinityAssistants_statefulSets_eq, if_neg fun hc => hns hc.2.1],
      congrFun (cleanupAffinityAssistants_pods_nodes c pr).1 ns⟩

theorem runEvents_ok : ∀ (es : List (Event r)) (c : Cluster), ∃ c', runEvents es c = .ok c'
  | [], c => ⟨c, rfl⟩
  | e :: es, c => by
    obtain ⟨c₁, h₁⟩ := e.step_ok c
    obtain ⟨c', h'⟩ := runEvents_ok es c₁
    exact ⟨c', by rw [runEvents, h₁]; exact h'⟩

theorem runEvents_assistants_of {es : List (Event r)} {c c' : Cluster} (h : runEvents es c = .ok c') :
    ∀ ns n a, c'.statefulSets ns n = some a →
      c.statefulSets ns n = some a ∨ ∃ pr aaBehavior order, Event.reconcile pr aaBehavior order ∈ es ∧
        ns = pr.namespace ∧ n ∈ (invocations r pr aaBehavior order).map Invocation.affinityAssistantName ∧
        AssistantOf pr n a := by
  refine runEvents_induction _ ?_ h ?_
  · intro e he c₁ c₂ hc₁ hstep ns n a ha
    rcases e.step_statefulSets hstep ns n with
      heq | ⟨hnone, -⟩ | ⟨-, pr, b, order, rfl, hns, hn, a', ha', hassistant⟩
    · exact hc₁ ns n a (heq ▸ ha)
    · rw [hnone] at ha; cases ha
    · obtain rfl : a' = a := Option.some.inj (ha'.symm.trans ha)
      exact .inr ⟨pr, b, order, he, hns, hn, hassistant⟩
  · exact fun _ _ _ ha => .inl ha

/-- Every StatefulSet left after any interleaving of reconciles and cleanups was there
before, or is the assistant of a PipelineRun reconciled along the way: in its namespace,
under the name of one of its calls, and controlled by it. -/
theorem runEvents_assistants (es : List (Event r)) (c : Cluster) :
    ∃ c', runEvents es c = .ok c' ∧ ∀ ns n a, c'.statefulSets ns n = some a →
      c.statefulSets ns n = some a ∨ ∃ pr aaBehavior order, Event.reconcile pr aaBehavior order ∈ es ∧
        ns = pr.namespace ∧ n ∈ (invocations r pr aaBehavior order).map Invocation.affinityAssistantName ∧
        AssistantOf pr n a :=
  let ⟨c', h⟩ := runEvents_ok es c
  ⟨c', h, runEvents_assistants_of h⟩

/-- A StatefulSet that was there before any interleaving of reconciles and cleanups is there
after it, unchanged, unless one of its cleanups names it: a reconcile never updates or
deletes a StatefulSet. -/
theorem runEvents_statefulSet_kept (es : List (Event r)) (c : Cluster) :
    ∃ c', runEvents es c = .ok c' ∧ ∀ ns n a, c.statefulSets ns n = some a →
      (∀ pr, Event.cleanup pr ∈ es → ¬ (ns = pr.namespace ∧ n ∈ perWorkspaceNames pr)) →
      c'.statefulSets ns n = some a := by
  obtain ⟨c', h⟩ := runEvents_ok es c
  refine ⟨c', h, fun ns n a ha hclean => runEvents_induction _ ?_ h ha⟩
  intro e he c₁ c₂ hc₁ hstep
  rcases e.step_statefulSets hstep ns n with heq | ⟨-, pr, rfl, hc⟩ | ⟨habs, -⟩
  · rw [heq, hc₁]
  · exact absurd hc (hclean pr he)
  · rw [hc₁] at habs; cases habs

theorem runEvents_cleanups_of_some (hflag : r.disableAffinityAssistant = false) :
    ∀ (prs : List PipelineRun) {c₁ c' : Cluster}, runEvents (prs.map (@Event.cleanup r)) c₁ = .ok c' →
      ∀ {ns n a}, c'.statefulSets ns n = some a →
        c₁.statefulSets ns n = some a ∧ ∀ pr ∈ prs, ¬ (ns = pr.namespace ∧ n ∈ perWorkspaceNames pr)
  | [], _, _, h, _, _, _, ha => by cases h; exact ⟨ha, by simp⟩
  | pr :: prs, c₁, c', h, ns, n, a, ha => by
    obtain ⟨h₁, hrest⟩ := runEvents_cleanups_of_some hflag prs
      (show runEvents (prs.map (@Event.cleanup r)) (cleanupAffinityAssistants r Cluster.server c₁ pr).state =
        .ok c' from h) ha
    rw [cleanupAffinityAssistants_statefulSets r c₁ pr hflag] at h₁
    split_ifs at h₁ with hc
    exact ⟨h₁, List.forall_mem_cons.mpr ⟨hc, hrest⟩⟩

/-- In per-workspace mode (or with the behaviour disabled), once every reconciled PipelineRun
is cleaned up no StatefulSet is left that was not there before. -/
theorem runEvents_cleanup_leaves_nothing (hflag : r.disableAffinityAssistant = false)
    (es : List (Event r)) (prs : List PipelineRun)
    (hmode : ∀ pr aaBehavior order, Event.reconcile pr aaBehavior order ∈ es →
      aaBehavior = .affinityAssistantPerWorkspace ∨ aaBehavior = .affinityAssistantDisabled)
    (hcleaned : ∀ pr aaBehavior order, Event.reconcile pr aaBehavior order ∈ es → pr ∈ prs)
    (c : Cluster) :
    ∃ c', runEvents (es ++ prs.map Event.cleanup) c = .ok c' ∧
      ∀ ns n a, c'.statefulSets ns n = some a → c.statefulSets ns n = some a := by
  obtain ⟨c₁, h₁⟩ := runEvents_ok es c
  obtain ⟨c', h'⟩ := runEvents_ok (prs.map Event.cleanup) c₁
  refine ⟨c', by rw [runEvents_append, h₁]; exact h', fun ns n a ha => ?_⟩
  obtain ⟨ha₁, hclean⟩ := runEvents_cleanups_of_some hflag prs h' ha
  rcases runEvents_assistants_of h₁ ns n a ha₁ with h | ⟨pr, b, order, he, hns, hn, -⟩
  · exact h
  · exact absurd ⟨hns, invocation_name_perWorkspace (hmode pr b order he) hn⟩
      (hclean pr (hcleaned pr b order he))

theorem runEvents_other_namespace (es : List (Event r)) (c : Cluster) :
    ∃ c', runEvents es c = .ok c' ∧ ∀ ns, (∀ e ∈ es, ns ≠ (Event.pipelineRun e).namespace) →
      c'.statefulSets ns = c.statefulSets ns ∧ c'.pods ns = c.pods ns := by
  obtain ⟨c', h⟩ := runEvents_ok es c
  refine ⟨c', h, fun ns hns => runEvents_induction _ ?_ h ⟨rfl, rfl⟩⟩
  intro e he c₁ c₂ ⟨hss, hpods⟩ hstep
  obtain ⟨hss', hpods'⟩ := e.step_other_namespace hstep (hns e he)
  exact ⟨hss'.trans hss, hpods'.trans hpods⟩

def singleReconcile : List (Event (Reconciler.ofBehavior .affinityAssistantPerWorkspace)) :=
  [.reconcile singleClaimPipelineRun .affinityAssistantPerWorkspace (MapOrder.insertion _ _)]

theorem runEvents_cleanup_leaves_nothing_single :
    (Reconciler.ofBehavior .affinityAssistantPerWorkspace).disableAffinityAssistant = false ∧
      (∀ pr aaBehavior order, Event.reconcile pr aaBehavior order ∈ singleReconcile →
        aaBehavior = .affinityAssistantPerWorkspace ∨ aaBehavior = .affinityAssistantDisabled) ∧
      (∀ pr aaBehavior order, Event.reconcile pr aaBehavior order ∈ singleReconcile →
        pr ∈ [singleClaimPipelineRun]) ∧
      ∃ c', runEvents (singleReconcile ++ [singleClaimPipelineRun].map Event.cleanup) (Cluster.empty []) =
          .ok c' ∧ ∀ ns n a, c'.statefulSets ns n = some a → (Cluster.empty []).statefulSets ns n = some a := by
  have hmem : ∀ pr aaBehavior order, Event.reconcile pr aaBehavior order ∈ singleReconcile →
      pr = singleClaimPipelineRun ∧ aaBehavior = .affinityAssistantPerWorkspace := by
    intro pr aaBehavior order h
    simp only [singleReconcile, List.mem_singleton, Event.reconcile.injEq] at h
    exact ⟨h.1, h.2.1⟩
  have hmode := fun pr aaBehavior order h =>
    (Or.inl (hmem pr aaBehavior order h).2 : _ ∨ aaBehavior = .affinityAssistantDisabled)
  have hcleaned := fun pr aaBehavior order h =>
    (List.mem_singleton.mpr (hmem pr aaBehavior order h).1 : pr ∈ [singleClaimPipelineRun])
  exact ⟨rfl, hmode, hcleaned,
    runEvents_cleanup_leaves_nothing rfl _ _ hmode hcleaned (Cluster.empty [])⟩

def heldNames (c : Cluster) : String → String → Bool := fun ns n => (c.statefulSets ns n).isSome

/-- What an event is for, on the held names alone: a reconcile adds the PipelineRun's desired
assistants in its namespace, and a cleanup, unless the feature is disabled, removes its
per-workspace names there. -/
def Event.abstractStep (held : String → String → Bool) : Event r → String → String → Bool
  | .reconcile pr aaBehavior _ => fun ns n =>
    held ns n || decide (ns = pr.namespace ∧ n ∈ desiredAssistantNames pr aaBehavior)
  | .cleanup pr => fun ns n =>
    held ns n && !decide (r.disableAffinityAssistant = false ∧ ns = pr.namespace ∧ n ∈ perWorkspaceNames pr)

theorem Event.step_refines {b : AffinityAssistantBehavior} (hb : r.getAffinityAssistantBehavior = .ok b)
    (e : Event r) (c : Cluster) :
    ∃ c', e.step c = .ok c' ∧ heldNames c' = e.abstractStep (heldNames c) := by
  cases e with
  | reconcile pr aaBehavior order =>
    obtain ⟨res, hres, hiff⟩ := createOrUpdateAffinityAssistantsAndPVCs_held_iff r c pr aaBehavior order hb
    refine ⟨res.state, by rw [Event.step, hres]; rfl, funext fun ns => funext fun n => ?_⟩
    exact Bool.eq_iff_iff.mpr (by simpa [heldNames, Event.abstractStep] using hiff ns n)
  | cleanup pr =>
    refine ⟨_, rfl, funext fun ns => funext fun n => ?_⟩
    simp only [heldNames, Event.abstractStep, cleanupAffinityAssistants_statefulSets_eq]
    by_cases hc : r.disableAffinityAssistant = false ∧ ns = pr.namespace ∧ n ∈ perWorkspaceNames pr <;>
      simp [hc]

/-- The controller refines the abstract model: after any interleaving of reconciles and
cleanups on the healthy cluster, with the behaviour readable, the cluster holds exactly the
names the abstract model computes from the names it held at the start. -/
theorem runEvents_refines {b : AffinityAssistantBehavior} (hb : r.getAffinityAssistantBehavior = .ok b) :
    ∀ (es : List (Event r)) (c : Cluster), ∃ c', runEvents es c = .ok c' ∧
      heldNames c' = es.foldl (fun held e => e.abstractStep held) (heldNames c)
  | [], c => ⟨c, rfl, rfl⟩
  | e :: es, c => by
    obtain ⟨c₁, h₁, hstep⟩ := e.step_refines hb c
    obtain ⟨c', h', hrest⟩ := runEvents_refines hb es c₁
    exact ⟨c', by rw [runEvents, h₁]; exact h', by rw [hrest, hstep]; rfl⟩

theorem runEvents_refines_single :
    (Reconciler.ofBehavior .affinityAssistantPerWorkspace).getAffinityAssistantBehavior =
        .ok .affinityAssistantPerWorkspace ∧
      ∃ c', runEvents singleReconcile (Cluster.empty []) = .ok c' ∧
        heldNames c' = singleReconcile.foldl (fun held e => e.abstractStep held) (heldNames (Cluster.empty [])) :=
  ⟨rfl, runEvents_refines rfl _ _⟩

end

end AffinityAssistant
