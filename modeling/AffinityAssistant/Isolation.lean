import AffinityAssistant.Cleanup

set_option autoImplicit false

namespace AffinityAssistant

theorem createOrUpdateAffinityAssistantsAndPVCs_adopts (r : Reconciler) (c : Cluster)
    (pr : PipelineRun) (aaBehavior : AffinityAssistantBehavior) (order : MapOrder r pr)
    (hheld : ∀ i ∈ invocations r pr aaBehavior order,
      (c.statefulSets pr.namespace i.affinityAssistantName).isSome) :
    ∃ res, createOrUpdateAffinityAssistantsAndPVCs r Cluster.server c pr aaBehavior order = .ok res ∧
      createdStatefulSets res.requests = [] := by
  obtain ⟨res, hres, hrun⟩ := createOrUpdateAffinityAssistantsAndPVCs_healthyRun r c pr aaBehavior order
  refine ⟨res, hres, List.eq_nil_iff_forall_not_mem.mpr fun a ha => ?_⟩
  obtain ⟨i, hi, hname⟩ := List.mem_map.mp (hrun.created_named a ha)
  have hnew := hrun.created_new a ha
  rw [← hname] at hnew
  simpa [hnew] using hheld i hi

theorem cleanupAffinityAssistants_deletes_of_append (r : Reconciler) (s : Cluster)
    (p q : PipelineRun) (x : String) (w : WorkspaceBinding)
    (hflag : r.disableAffinityAssistant = false) (hw : w ∈ volumeWorkspaces q)
    (happ : x ++ p.name = w.name ++ q.name) :
    (cleanupAffinityAssistants r Cluster.server s q).state.statefulSets q.namespace
      (getAffinityAssistantName x p.name) = none := by
  rw [cleanupAffinityAssistants_statefulSets r s q hflag, if_pos]
  exact ⟨rfl, List.mem_map.mpr ⟨w, hw, (getAffinityAssistantName_of_append_eq happ).symm⟩⟩

def buildRun : PipelineRun :=
  ⟨"build-x", "default", "build-x-uid", [], [⟨"cache", some ⟨"cache-claim", false⟩, none⟩], none⟩

def uildRun : PipelineRun :=
  ⟨"uild-x", "default", "uild-x-uid", [], [⟨"cacheb", some ⟨"cacheb-claim", false⟩, none⟩], none⟩

/-- Two runs with different names in one namespace, in per-workspace mode: the assistant
the reconcile of `build-x` creates is adopted by the reconcile of `uild-x`, which creates
nothing, and deleted by the cleanup of `uild-x`. -/
theorem reconcile_and_cleanup_cross_pipelineRuns :
    buildRun.name ≠ uildRun.name ∧ buildRun.namespace = uildRun.namespace ∧
      ∃ res, createOrUpdateAffinityAssistantsAndPVCs
          (Reconciler.ofBehavior .affinityAssistantPerWorkspace) Cluster.server (Cluster.empty [])
          buildRun .affinityAssistantPerWorkspace (MapOrder.insertion _ _) = .ok res ∧
        ∃ a ∈ createdStatefulSets res.requests, (res.state.statefulSets "default" a.name).isSome ∧
          (∃ res', createOrUpdateAffinityAssistantsAndPVCs
              (Reconciler.ofBehavior .affinityAssistantPerWorkspace) Cluster.server res.state
              uildRun .affinityAssistantPerWorkspace (MapOrder.insertion _ _) = .ok res' ∧
            createdStatefulSets res'.requests = []) ∧
          (cleanupAffinityAssistants (Reconciler.ofBehavior .affinityAssistantPerWorkspace)
            Cluster.server res.state uildRun).state.statefulSets "default" a.name = none := by
  have hinv : invocations (Reconciler.ofBehavior .affinityAssistantPerWorkspace) buildRun
      .affinityAssistantPerWorkspace (MapOrder.insertion _ _) =
      [⟨getAffinityAssistantName "cache" "build-x", [], [⟨"cache-claim", false⟩]⟩] := rfl
  have happ : "cache" ++ buildRun.name = "cacheb" ++ uildRun.name := by decide
  obtain ⟨res, hres, -, hrun, hcreated⟩ := createOrUpdateAffinityAssistantsAndPVCs_fresh
    (Reconciler.ofBehavior .affinityAssistantPerWorkspace) (Cluster.empty []) buildRun
    _ (MapOrder.insertion _ _) rfl (by rw [hinv]; exact List.nodup_singleton _) (fun _ _ => rfl)
  obtain ⟨a, ha, hname⟩ := exists_created_of_volumes hcreated (by rw [hinv]; exact List.mem_singleton_self _)
  replace hname : a.name = getAffinityAssistantName "cache" buildRun.name := hname
  have hheld : (res.state.statefulSets "default" a.name).isSome := hrun.created_held a ha
  refine ⟨by decide, rfl, res, hres, a, ha, hheld, ?_, ?_⟩
  · refine createOrUpdateAffinityAssistantsAndPVCs_adopts _ _ _ _ _ fun i hi => ?_
    obtain rfl : i = ⟨getAffinityAssistantName "cacheb" "uild-x", [], [⟨"cacheb-claim", false⟩]⟩ :=
      List.mem_singleton.mp hi
    rwa [hname, getAffinityAssistantName_of_append_eq happ] at hheld
  · rw [hname]
    exact cleanupAffinityAssistants_deletes_of_append _ _ buildRun uildRun "cache" _ rfl
      (List.mem_singleton_self _) happ

end AffinityAssistant
