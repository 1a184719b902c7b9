import AffinityAssistant.Creation

set_option autoImplicit false

namespace AffinityAssistant

def mergeStep (aaBehavior : AffinityAssistantBehavior) (pr : PipelineRun) : PipelineRun :=
  (getAssistantAffinityMergedWithPodTemplateAffinity pr aaBehavior).2

def builtAffinity (aaBehavior : AffinityAssistantBehavior) (pr : PipelineRun) (j : Nat) : Affinity :=
  (getAssistantAffinityMergedWithPodTemplateAffinity ((mergeStep aaBehavior)^[j] pr) aaBehavior).1

theorem podTemplateAffinity_mergeStep (aaBehavior : AffinityAssistantBehavior) (pr : PipelineRun) :
    podTemplateAffinity (mergeStep aaBehavior pr) = (podTemplateAffinity pr).map (addRepelTerm aaBehavior) := by
  unfold mergeStep getAssistantAffinityMergedWithPodTemplateAffinity
  rw [podTemplateAffinity_setPodTemplateAffinity]
  cases podTemplateAffinity pr <;> rfl

theorem podTemplateAffinity_mergeStep_iterate (aaBehavior : AffinityAssistantBehavior)
    (pr : PipelineRun) (j : Nat) :
    podTemplateAffinity ((mergeStep aaBehavior)^[j] pr) =
      (podTemplateAffinity pr).map (addRepelTerm aaBehavior)^[j] := by
  induction j with
  | zero => simp
  | succ j ih =>
    rw [Function.iterate_succ_apply', podTemplateAffinity_mergeStep, ih, Option.map_map,
      ← Function.iterate_succ']

theorem mergeStep_iterate_eq (aaBehavior : AffinityAssistantBehavior) (pr : PipelineRun) (j : Nat) :
    (mergeStep aaBehavior)^[j] pr = { pr with podTemplate := ((mergeStep aaBehavior)^[j] pr).podTemplate } := by
  induction j with
  | zero => rfl
  | succ j ih =>
    rw [Function.iterate_succ_apply']
    generalize (mergeStep aaBehavior)^[j] pr = x at ih ⊢
    rw [mergeStep, getAssistantAffinityMergedWithPodTemplateAffinity, setPodTemplateAffinity_eq]
    generalize (setPodTemplateAffinity x _).podTemplate = t
    rw [ih]

theorem builtAffinity_eq (aaBehavior : AffinityAssistantBehavior) (pr : PipelineRun) (j : Nat) :
    builtAffinity aaBehavior pr j =
      addRepelTerm aaBehavior
        (((podTemplateAffinity pr).map (addRepelTerm aaBehavior)^[j]).getD emptyAffinity) := by
  rw [builtAffinity, getAssistantAffinityMergedWithPodTemplateAffinity,
    podTemplateAffinity_mergeStep_iterate]

section
variable {σ : Type} {r : Reconciler} {srv : Server σ}

structure MergedRun (aaBehavior : AffinityAssistantBehavior) (pr₀ : PipelineRun) (p : Progress σ) :
    Prop where
  pipelineRun_eq :
    p.pipelineRun = (mergeStep aaBehavior)^[(createdStatefulSets p.requests).length] pr₀
  affinities : (createdStatefulSets p.requests).map (fun a => a.templateSpec.affinity) =
    (List.range (createdStatefulSets p.requests).length).map fun j => some (builtAffinity aaBehavior pr₀ j)

theorem runInvocations_mergedRun {aaBehavior : AffinityAssistantBehavior} {pr₀ : PipelineRun}
    (hb : r.getAffinityAssistantBehavior = .ok aaBehavior) {is : List Invocation}
    {p q : Progress σ} (h : runInvocations r srv is p = .ok q) (hp : MergedRun aaBehavior pr₀ p) :
    MergedRun aaBehavior pr₀ q := by
  refine runInvocations_induction (MergedRun aaBehavior pr₀) ?_ h hp
  intro i _ p' o ⟨hpr, haff⟩ ho
  rcases createOrUpdateAffinityAssistant_cases ho with ⟨hw, hpr'⟩ | ⟨b, _, _, _, hb', hreq, hpr'⟩
  · constructor <;> simp only [Progress.after_requests, Progress.after_pipelineRun,
      createdStatefulSets_append, createdStatefulSets_eq_nil hw, List.append_nil, hpr']
    exacts [hpr, haff]
  · obtain rfl : b = aaBehavior := by rw [hb] at hb'; exact (Except.ok.inj hb').symm
    have hcreated : createdStatefulSets o.requests =
        [(affinityAssistantStatefulSet r b i.affinityAssistantName p'.pipelineRun i.claimTemplates
          i.claims r.nopImage r.defaultAAPodTemplate).1] := by rw [hreq]; rfl
    constructor <;> simp only [Progress.after_requests, Progress.after_pipelineRun,
      createdStatefulSets_append, hcreated, List.length_append, List.length_singleton]
    · rw [hpr', affinityAssistantStatefulSet_pipelineRun, Function.iterate_succ_apply', ← hpr]
      rfl
    · rw [List.map_append, haff, List.range_succ, List.map_append, hpr]
      rfl

/-- A whole reconcile, on any server and in any map order, with the behaviour `aaBehavior`
the builds read: the `j`-th StatefulSet it builds has the original pod-template affinity
(or the empty one) with `j + 1` repelling terms, and the PipelineRun it leaves has that
affinity with one term per build, all else as it was. -/
theorem createOrUpdateAffinityAssistantsAndPVCs_affinities (s : σ) (pr : PipelineRun)
    (aaBehavior : AffinityAssistantBehavior) (order : MapOrder r pr) {b : AffinityAssistantBehavior}
    (hb : r.getAffinityAssistantBehavior = .ok b) {res : Result σ}
    (h : createOrUpdateAffinityAssistantsAndPVCs r srv s pr aaBehavior order = .ok res) :
    (createdStatefulSets res.requests).map (fun a => a.templateSpec.affinity) =
      (List.range (createdStatefulSets res.requests).length).map (fun j => some (addRepelTerm b
        (((podTemplateAffinity pr).map (addRepelTerm b)^[j]).getD emptyAffinity))) ∧
    podTemplateAffinity res.pipelineRun =
      (podTemplateAffinity pr).map (addRepelTerm b)^[(createdStatefulSets res.requests).length] ∧
    res.pipelineRun = { pr with podTemplate := res.pipelineRun.podTemplate } := by
  have hrun : MergedRun b pr ⟨res.state, res.pipelineRun, res.requests, []⟩ := by
    have hcreate : ∀ s' requests, createAffinityAssistants r srv pr aaBehavior order s' requests =
        .ok res → createdStatefulSets requests = [] →
        MergedRun b pr ⟨res.state, res.pipelineRun, res.requests, []⟩ := by
      intro s' requests hc hnil
      obtain ⟨q, hq, rfl⟩ := createAffinityAssistants_eq_ok.mp hc
      have hq' : MergedRun b pr q := runInvocations_mergedRun hb hq ⟨by simp [hnil], by simp [hnil]⟩
      exact ⟨hq'.pipelineRun_eq, hq'.affinities⟩
    unfold createOrUpdateAffinityAssistantsAndPVCs at h
    split_ifs at h
    · split at h
      · cases h; exact ⟨rfl, rfl⟩
      · exact hcreate _ _ h rfl
    · exact hcreate _ _ h rfl
  obtain ⟨hpr, haff⟩ := hrun
  refine ⟨?_, ?_, ?_⟩
  · simpa only [builtAffinity_eq] using haff
  · rw [show res.pipelineRun = _ from hpr, podTemplateAffinity_mergeStep_iterate]
  · rw [show res.pipelineRun = _ from hpr, mergeStep_iterate_eq]

end

def affinityRun : PipelineRun :=
  ⟨"run", "default", "run-uid", [],
    [⟨"source", some ⟨"source-claim", false⟩, none⟩, ⟨"cache", some ⟨"cache-claim", false⟩, none⟩],
    some ⟨[], [], [], some emptyAffinity⟩⟩

/-- One reconcile of `affinityRun` in per-workspace mode writes the repelling terms into the
run's own pod template, and its second StatefulSet carries two preferred repelling terms. -/
theorem createOrUpdateAffinityAssistantsAndPVCs_mutates_podTemplate :
    ∃ res, createOrUpdateAffinityAssistantsAndPVCs
        (Reconciler.ofBehavior .affinityAssistantPerWorkspace) Cluster.server (Cluster.empty [])
        affinityRun .affinityAssistantPerWorkspace (MapOrder.insertion _ _) = .ok res ∧
      podTemplateAffinity res.pipelineRun ≠ podTemplateAffinity affinityRun ∧
      (createdStatefulSets res.requests).map (fun a => (a.templateSpec.affinity.bind
        Affinity.podAntiAffinity).map fun anti =>
          anti.preferredDuringSchedulingIgnoredDuringExecution.length) = [some 1, some 2] := by
  have hinv : invocations (Reconciler.ofBehavior .affinityAssistantPerWorkspace) affinityRun
      .affinityAssistantPerWorkspace (MapOrder.insertion _ _) =
      [⟨getAffinityAssistantName "source" "run", [], [⟨"source-claim", false⟩]⟩,
        ⟨getAffinityAssistantName "cache" "run", [], [⟨"cache-claim", false⟩]⟩] := rfl
  obtain ⟨res, hres, -, -, hcreated⟩ := createOrUpdateAffinityAssistantsAndPVCs_fresh
    (Reconciler.ofBehavior .affinityAssistantPerWorkspace) (Cluster.empty []) affinityRun _
    (MapOrder.insertion _ _) rfl
    (by simpa [hinv] using getAffinityAssistantName_source_ne_cache) (fun _ _ => rfl)
  have hlen : (createdStatefulSets res.requests).length = 2 := by
    simpa [hinv] using congrArg List.length hcreated
  obtain ⟨haff, hpt, -⟩ := createOrUpdateAffinityAssistantsAndPVCs_affinities (Cluster.empty [])
    affinityRun _ (MapOrder.insertion _ _) rfl hres
  refine ⟨res, hres, by rw [hpt, hlen]; decide, ?_⟩
  have hterms := congrArg (List.map fun o => (Option.bind o Affinity.podAntiAffinity).map fun anti =>
    anti.preferredDuringSchedulingIgnoredDuringExecution.length) haff
  rw [List.map_map, hlen] at hterms
  exact hterms.trans (by decide)

end AffinityAssistant
