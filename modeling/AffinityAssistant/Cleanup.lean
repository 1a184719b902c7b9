import AffinityAssistant.Creation

set_option autoImplicit false

namespace AffinityAssistant

theorem invocation_name_of_mode (r : Reconciler) (pr : PipelineRun) (order : MapOrder r pr)
    (aaBehavior : AffinityAssistantBehavior) (n : String)
    (h : n ∈ (invocations r pr aaBehavior order).map Invocation.affinityAssistantName) :
    (aaBehavior = .affinityAssistantPerWorkspace → n ∈ perWorkspaceNames pr) ∧
      (aaBehavior = .affinityAssistantPerPipelineRun ∨
        aaBehavior = .affinityAssistantPerPipelineRunWithIsolation →
        n = getAffinityAssistantName "" pr.name) := by
  cases aaBehavior with
  | affinityAssistantPerWorkspace =>
    refine ⟨fun _ => ?_, fun h' => by simp at h'⟩
    have := ((perWorkspace_invocations_perm r pr order).map Invocation.affinityAssistantName).mem_iff.mp h
    simpa [perWorkspaceNames, perWorkspaceInvocation, Function.comp_def] using this
  | affinityAssistantPerPipelineRun | affinityAssistantPerPipelineRunWithIsolation =>
    refine ⟨fun h' => by simp at h', fun _ => ?_⟩
    simp only [invocations] at h
    split_ifs at h <;> simp_all
  | affinityAssistantDisabled => simp [invocations] at h

theorem cleanupAffinityAssistants_created_eq_none_iff {r : Reconciler} {c : Cluster} {pr : PipelineRun}
    {aaBehavior : AffinityAssistantBehavior} {order : MapOrder r pr} {res : Result Cluster}
    {names : List String}
    (hres : createOrUpdateAffinityAssistantsAndPVCs r Cluster.server c pr aaBehavior order = .ok res)
    (hrun : HealthyRun pr.namespace names c res.state res.pipelineRun res.requests)
    (hflag : r.disableAffinityAssistant = false) (a : StatefulSet)
    (ha : a ∈ createdStatefulSets res.requests) :
    (cleanupAffinityAssistants r Cluster.server res.state res.pipelineRun).state.statefulSets
      pr.namespace a.name = none ↔ a.name ∈ perWorkspaceNames pr := by
  obtain ⟨hname, hns, hws⟩ := createOrUpdateAffinityAssistantsAndPVCs_pipelineRun hres
  have hnames : perWorkspaceNames res.pipelineRun = perWorkspaceNames pr := by
    simp only [perWorkspaceNames, volumeWorkspaces, hname, hws]
  rw [cleanupAffinityAssistants_statefulSets r _ _ hflag, hns, hnames]
  have hheld := hrun.created_held a ha
  by_cases hmem : a.name ∈ perWorkspaceNames pr
  · simp [hmem]
  · simpa [hmem, Option.isSome_iff_ne_none] using hheld

/-- Cleanup after a reconcile, on the healthy cluster with the feature on: a StatefulSet the
reconcile created is gone exactly when it has a per-workspace name. Per-workspace mode
creates only such names; the per-PipelineRun modes create only the run's own name
`GetAffinityAssistantName("", pr.Name)`, which cleanup does not delete unless it happens to
equal a per-workspace name. -/
theorem cleanupAffinityAssistants_after_createOrUpdate (r : Reconciler) (c : Cluster)
    (pr : PipelineRun) (aaBehavior : AffinityAssistantBehavior) (order : MapOrder r pr)
    (hflag : r.disableAffinityAssistant = false) :
    ∃ res, createOrUpdateAffinityAssistantsAndPVCs r Cluster.server c pr aaBehavior order = .ok res ∧
      ∀ a ∈ createdStatefulSets res.requests,
        ((cleanupAffinityAssistants r Cluster.server res.state res.pipelineRun).state.statefulSets
          pr.namespace a.name = none ↔ a.name ∈ perWorkspaceNames pr) ∧
        (aaBehavior = .affinityAssistantPerWorkspace → a.name ∈ perWorkspaceNames pr) ∧
        (aaBehavior = .affinityAssistantPerPipelineRun ∨
          aaBehavior = .affinityAssistantPerPipelineRunWithIsolation →
          a.name = getAffinityAssistantName "" pr.name) := by
  obtain ⟨res, hres, hrun⟩ := createOrUpdateAffinityAssistantsAndPVCs_healthyRun r c pr aaBehavior order
  exact ⟨res, hres, fun a ha => ⟨cleanupAffinityAssistants_created_eq_none_iff hres hrun hflag a ha,
    invocation_name_of_mode r pr order aaBehavior _ (hrun.created_named a ha)⟩⟩

theorem cleanupAffinityAssistants_after_createOrUpdate_single :
    (Reconciler.ofBehavior .affinityAssistantPerWorkspace).disableAffinityAssistant = false ∧
      ∃ res, createOrUpdateAffinityAssistantsAndPVCs (Reconciler.ofBehavior .affinityAssistantPerWorkspace)
          Cluster.server (Cluster.empty []) singleClaimPipelineRun .affinityAssistantPerWorkspace
          (MapOrder.insertion _ _) = .ok res ∧
        ∀ a ∈ createdStatefulSets res.requests,
          ((cleanupAffinityAssistants (Reconciler.ofBehavior .affinityAssistantPerWorkspace)
              Cluster.server res.state res.pipelineRun).state.statefulSets
            singleClaimPipelineRun.namespace a.name = none ↔
              a.name ∈ perWorkspaceNames singleClaimPipelineRun) ∧
          (AffinityAssistantBehavior.affinityAssistantPerWorkspace = .affinityAssistantPerWorkspace →
            a.name ∈ perWorkspaceNames singleClaimPipelineRun) ∧
          (AffinityAssistantBehavior.affinityAssistantPerWorkspace = .affinityAssistantPerPipelineRun ∨
            AffinityAssistantBehavior.affinityAssistantPerWorkspace =
              .affinityAssistantPerPipelineRunWithIsolation →
            a.name = getAffinityAssistantName "" singleClaimPipelineRun.name) :=
  ⟨rfl, cleanupAffinityAssistants_after_createOrUpdate _ _ _ _ _ rfl⟩

theorem getAffinityAssistantName_run_ne_source :
    getAffinityAssistantName "" "run" ≠ getAffinityAssistantName "source" "run" := by
  rw [Ne, getAffinityAssistantName_eq_iff, hashPrefix_sourcerun]
  unfold hashPrefix
  set_option maxRecDepth 20000 in decide

/-- In per-PipelineRun mode the run's assistant survives the cleanup of its PipelineRun. -/
theorem cleanupAffinityAssistants_keeps_perPipelineRun_assistant :
    ∃ res, createOrUpdateAffinityAssistantsAndPVCs
        (Reconciler.ofBehavior .affinityAssistantPerPipelineRun) Cluster.server (Cluster.empty [])
        singleClaimPipelineRun .affinityAssistantPerPipelineRun (MapOrder.insertion _ _) = .ok res ∧
      ∃ a ∈ createdStatefulSets res.requests,
        (cleanupAffinityAssistants (Reconciler.ofBehavior .affinityAssistantPerPipelineRun)
          Cluster.server res.state res.pipelineRun).state.statefulSets "default" a.name ≠ none := by
  have hinv : invocations (Reconciler.ofBehavior .affinityAssistantPerPipelineRun) singleClaimPipelineRun
      .affinityAssistantPerPipelineRun (MapOrder.insertion _ _) =
      [⟨getAffinityAssistantName "" "run", [], [⟨"source-claim", false⟩]⟩] := rfl
  obtain ⟨res, hres, -, hrun, hcreated⟩ := createOrUpdateAffinityAssistantsAndPVCs_fresh
    (Reconciler.ofBehavior .affinityAssistantPerPipelineRun) (Cluster.empty []) singleClaimPipelineRun
    _ (MapOrder.insertion _ _) rfl (by rw [hinv]; exact List.nodup_singleton _) (fun _ _ => rfl)
  have hmem : Invocation.volumes ⟨getAffinityAssistantName "" "run", [], [⟨"source-claim", false⟩]⟩ ∈
      (createdStatefulSets res.requests).map statefulSetVolumes := by
    rw [hcreated, hinv]
    exact List.mem_singleton_self _
  obtain ⟨a, ha, he⟩ := List.mem_map.mp hmem
  refine ⟨res, hres, a, ha, fun hnone => ?_⟩
  have hname : a.name = getAffinityAssistantName "" "run" := congrArg Prod.fst he
  have hrun' := (cleanupAffinityAssistants_created_eq_none_iff hres hrun rfl a ha).mp hnone
  simp [perWorkspaceNames, volumeWorkspaces, singleClaimPipelineRun, hasClaim, hname,
    getAffinityAssistantName_run_ne_source] at hrun'

end AffinityAssistant
