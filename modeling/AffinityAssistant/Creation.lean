import AffinityAssistant.Runs

set_option autoImplicit false

namespace AffinityAssistant

def workspaceVolumeClaim (r : Reconciler) (pr : PipelineRun) (w : WorkspaceBinding) :
    PersistentVolumeClaimVolumeSource :=
  match w.persistentVolumeClaim, w.volumeClaimTemplate with
  | some claim, _ => claim
  | none, some t => ⟨r.getPVCNameWithoutAffinityAssistant t.name w (newControllerRef pr), false⟩
  | none, none => ⟨"", false⟩

def perWorkspaceInvocation (r : Reconciler) (pr : PipelineRun) (w : WorkspaceBinding) :
    Invocation :=
  ⟨getAffinityAssistantName w.name pr.name, [], [workspaceVolumeClaim r pr w]⟩

def affinityAssistantNames (pr : PipelineRun) : List String :=
  getAffinityAssistantName "" pr.name :: perWorkspaceNames pr

/-- The two map loops call once per workspace with a claim or template, in some order. -/
theorem perWorkspace_invocations_perm (r : Reconciler) (pr : PipelineRun) (order : MapOrder r pr) :
    (invocations r pr .affinityAssistantPerWorkspace order).Perm
      ((volumeWorkspaces pr).map (perWorkspaceInvocation r pr)) := by
  refine ((order.claimOrder_perm.map _).append (order.claimTemplateOrder_perm.map _)).trans ?_
  unfold claimToWorkspace claimTemplatesToWorkspace volumeWorkspaces perWorkspaceInvocation
  induction pr.workspaces with
  | nil => rfl
  | cons w ws ih =>
    rcases w with ⟨name, _ | claim, _ | t⟩
    · simpa [workspaceClaimTemplate, hasClaim] using ih
    · simpa [workspaceClaimTemplate, hasClaim, workspaceVolumeClaim] using
        List.perm_middle.trans (ih.cons _)
    all_goals
      simp only [workspaceClaimTemplate, hasClaim, workspaceVolumeClaim, List.filterMap_cons,
        Option.map_some', List.map_cons, Option.isSome_some, Bool.true_or, List.filter_cons_of_pos,
        List.cons_append]
      exact ih.cons _

theorem perPipelineRun_condition (r : Reconciler) (pr : PipelineRun) :
    (!(workspaceClaims pr).isEmpty || !(workspaceClaimTemplates r pr).isEmpty) =
      !(volumeWorkspaces pr).isEmpty := by
  unfold workspaceClaims workspaceClaimTemplates volumeWorkspaces
  induction pr.workspaces with
  | nil => rfl
  | cons w ws ih =>
    rcases w with ⟨name, _ | claim, _ | t⟩ <;> simp_all [workspaceClaimTemplate, hasClaim]

theorem createOrUpdateAffinityAssistantsAndPVCs_fresh (r : Reconciler) (c : Cluster)
    (pr : PipelineRun) (aaBehavior : AffinityAssistantBehavior) (order : MapOrder r pr)
    (hb : r.getAffinityAssistantBehavior = .ok aaBehavior)
    (hnodup : ((invocations r pr aaBehavior order).map Invocation.affinityAssistantName).Nodup)
    (hfresh : ∀ i ∈ invocations r pr aaBehavior order,
      c.statefulSets pr.namespace i.affinityAssistantName = none) :
    ∃ res, createOrUpdateAffinityAssistantsAndPVCs r Cluster.server c pr aaBehavior order =
        .ok res ∧ res.err = none ∧
      HealthyRun pr.namespace ((invocations r pr aaBehavior order).map
        Invocation.affinityAssistantName) c res.state res.pipelineRun res.requests ∧
      (createdStatefulSets res.requests).map statefulSetVolumes =
        (invocations r pr aaBehavior order).map Invocation.volumes := by
  obtain ⟨requests, hrequests, heq⟩ := createOrUpdateAffinityAssistantsAndPVCs_cluster_pvcs r c pr
    aaBehavior order
  obtain ⟨res, hres, hrun⟩ := createOrUpdateAffinityAssistantsAndPVCs_healthyRun r c pr aaBehavior order
  obtain ⟨q, hq, herrs, hcreated⟩ :=
    runInvocations_cluster_fresh hb _ ⟨c, pr, requests, []⟩ hnodup hfresh
  obtain ⟨q', hq', rfl⟩ := createAffinityAssistants_eq_ok.mp (heq ▸ hres)
  obtain rfl := Except.ok.inj (hq'.symm.trans hq)
  exact ⟨_, hres, by simp [herrs, newAggregate], hrun, by simpa [hrequests] using hcreated⟩

theorem exists_created_of_volumes {requests : List Request} {is : List Invocation} {i : Invocation}
    (h : (createdStatefulSets requests).map statefulSetVolumes = is.map Invocation.volumes)
    (hi : i ∈ is) : ∃ a ∈ createdStatefulSets requests, a.name = i.affinityAssistantName := by
  have hmem : i.volumes ∈ (createdStatefulSets requests).map statefulSetVolumes :=
    h ▸ List.mem_map_of_mem _ hi
  obtain ⟨a, ha, he⟩ := List.mem_map.mp hmem
  exact ⟨a, ha, congrArg Prod.fst he⟩

theorem createOrUpdateAffinityAssistantsAndPVCs_perWorkspace_created {r : Reconciler} {c : Cluster}
    {pr : PipelineRun} {order : MapOrder r pr}
    (hb : r.getAffinityAssistantBehavior = .ok .affinityAssistantPerWorkspace)
    (hfresh : ∀ n ∈ perWorkspaceNames pr, c.statefulSets pr.namespace n = none)
    (hnames : (perWorkspaceNames pr).Nodup) {res : Result Cluster}
    (hres : createOrUpdateAffinityAssistantsAndPVCs r Cluster.server c pr .affinityAssistantPerWorkspace
      order = .ok res) :
    ((createdStatefulSets res.requests).map statefulSetVolumes).Perm
      ((volumeWorkspaces pr).map fun w => (getAffinityAssistantName w.name pr.name, [],
        [⟨"workspace-0", workspaceVolumeClaim r pr w⟩])) := by
  have hperm := perWorkspace_invocations_perm r pr order
  have hnames' : (perWorkspaceNames pr).Perm
      (((volumeWorkspaces pr).map (perWorkspaceInvocation r pr)).map Invocation.affinityAssistantName) := by
    simp [perWorkspaceNames, perWorkspaceInvocation, Function.comp_def]
  obtain ⟨res', hres', -, -, hcreated⟩ := createOrUpdateAffinityAssistantsAndPVCs_fresh r c pr _ order hb
    ((hperm.map _).nodup_iff.mpr (hnames'.nodup_iff.mp hnames))
    (fun i hi => hfresh _ (hnames'.mem_iff.mpr (List.mem_map_of_mem _ (hperm.mem_iff.mp hi))))
  obtain rfl := Except.ok.inj (hres.symm.trans hres')
  rw [hcreated]
  simpa [Invocation.volumes, perWorkspaceInvocation, claimVolumes, Function.comp_def] using
    hperm.map Invocation.volumes

theorem createOrUpdateAffinityAssistantsAndPVCs_perPipelineRun_created {r : Reconciler} {c : Cluster}
    {pr : PipelineRun} {aaBehavior : AffinityAssistantBehavior} {order : MapOrder r pr}
    (hb : r.getAffinityAssistantBehavior = .ok aaBehavior)
    (hmode : aaBehavior = .affinityAssistantPerPipelineRun ∨
      aaBehavior = .affinityAssistantPerPipelineRunWithIsolation)
    (hfresh : c.statefulSets pr.namespace (getAffinityAssistantName "" pr.name) = none)
    {res : Result Cluster}
    (hres : createOrUpdateAffinityAssistantsAndPVCs r Cluster.server c pr aaBehavior order = .ok res) :
    (createdStatefulSets res.requests).map statefulSetVolumes =
      if volumeWorkspaces pr = [] then [] else
        [(getAffinityAssistantName "" pr.name, workspaceClaimTemplates r pr,
          claimVolumes 0 (workspaceClaims pr))] := by
  have hinv : invocations r pr aaBehavior order = if volumeWorkspaces pr = [] then [] else
      [⟨getAffinityAssistantName "" pr.name, workspaceClaimTemplates r pr, workspaceClaims pr⟩] := by
    rcases hmode with rfl | rfl <;> simp only [invocations, perPipelineRun_condition] <;>
      by_cases hv : volumeWorkspaces pr = [] <;> simp [hv, List.isEmpty_iff]
  obtain ⟨res', hres', -, -, hcreated⟩ := createOrUpdateAffinityAssistantsAndPVCs_fresh r c pr _ order hb
    (by rw [hinv]; split_ifs <;> simp) (by rw [hinv]; split_ifs <;> simp [hfresh])
  obtain rfl := Except.ok.inj (hres.symm.trans hres')
  rw [hcreated, hinv]
  split_ifs <;> rfl

/-- A reconcile on the healthy cluster holding none of the run's assistants. In per-workspace
mode, when the per-workspace names are distinct, it creates one StatefulSet per workspace with a
claim or a claim template; in the per-PipelineRun modes one for the whole run, when there is any
such workspace. -/
theorem createOrUpdateAffinityAssistantsAndPVCs_statefulSets (r : Reconciler) (c : Cluster)
    (pr : PipelineRun) (aaBehavior : AffinityAssistantBehavior) (order : MapOrder r pr)
    (hb : r.getAffinityAssistantBehavior = .ok aaBehavior)
    (hfresh : ∀ n ∈ affinityAssistantNames pr, c.statefulSets pr.namespace n = none) :
    ∃ res, createOrUpdateAffinityAssistantsAndPVCs r Cluster.server c pr aaBehavior order =
        .ok res ∧ res.err = none ∧
      (aaBehavior = .affinityAssistantPerWorkspace → (perWorkspaceNames pr).Nodup →
        ((createdStatefulSets res.requests).map statefulSetVolumes).Perm
          ((volumeWorkspaces pr).map fun w => (getAffinityAssistantName w.name pr.name, [],
            [⟨"workspace-0", workspaceVolumeClaim r pr w⟩]))) ∧
      (aaBehavior = .affinityAssistantPerPipelineRun ∨
          aaBehavior = .affinityAssistantPerPipelineRunWithIsolation →
        (createdStatefulSets res.requests).map statefulSetVolumes =
          if volumeWorkspaces pr = [] then [] else
            [(getAffinityAssistantName "" pr.name, workspaceClaimTemplates r pr,
              claimVolumes 0 (workspaceClaims pr))]) := by
  obtain ⟨res, hres, -⟩ := createOrUpdateAffinityAssistantsAndPVCs_healthyRun r c pr aaBehavior order
  refine ⟨res, hres, createOrUpdateAffinityAssistantsAndPVCs_cluster_err_eq_none hb hres, ?_,
    fun hmode => createOrUpdateAffinityAssistantsAndPVCs_perPipelineRun_created hb hmode
      (hfresh _ (List.mem_cons_self _ _)) hres⟩
  rintro rfl hnames
  exact createOrUpdateAffinityAssistantsAndPVCs_perWorkspace_created hb
    (fun n hn => hfresh n (List.mem_cons_of_mem _ hn)) hnames hres

def singleClaimPipelineRun : PipelineRun :=
  ⟨"run", "default", "run-uid", [], [⟨"source", some ⟨"source-claim", false⟩, none⟩], none⟩

theorem hashPrefix_sourcerun : hashPrefix ("source" ++ "run") = "2efd1ef638" := by
  unfold hashPrefix
  set_option maxRecDepth 20000 in decide

theorem getAffinityAssistantName_source_ne_cache :
    getAffinityAssistantName "source" "run" ≠ getAffinityAssistantName "cache" "run" := by
  rw [Ne, getAffinityAssistantName_eq_iff, hashPrefix_sourcerun]
  unfold hashPrefix
  set_option maxRecDepth 20000 in decide

def claimAndTemplatePipelineRun : PipelineRun :=
  ⟨"run", "default", "run-uid", [], [⟨"source", some ⟨"source-claim", false⟩, none⟩,
    ⟨"cache", none, some ⟨"cache", ["ReadWriteOnce"], "1Gi"⟩⟩], none⟩

theorem createOrUpdateAffinityAssistantsAndPVCs_statefulSets_two :
    (Reconciler.ofBehavior .affinityAssistantPerWorkspace).getAffinityAssistantBehavior =
        .ok .affinityAssistantPerWorkspace ∧
      (∀ n ∈ affinityAssistantNames claimAndTemplatePipelineRun,
        (Cluster.empty []).statefulSets claimAndTemplatePipelineRun.namespace n = none) ∧
      (perWorkspaceNames claimAndTemplatePipelineRun).Nodup ∧
      ∃ res, createOrUpdateAffinityAssistantsAndPVCs (Reconciler.ofBehavior .affinityAssistantPerWorkspace)
          Cluster.server (Cluster.empty []) claimAndTemplatePipelineRun .affinityAssistantPerWorkspace
          (MapOrder.insertion _ _) = .ok res ∧ res.err = none ∧
        (AffinityAssistantBehavior.affinityAssistantPerWorkspace = .affinityAssistantPerWorkspace →
          (perWorkspaceNames claimAndTemplatePipelineRun).Nodup →
          ((createdStatefulSets res.requests).map statefulSetVolumes).Perm
            ((volumeWorkspaces claimAndTemplatePipelineRun).map fun w =>
              (getAffinityAssistantName w.name claimAndTemplatePipelineRun.name, [],
                [⟨"workspace-0", workspaceVolumeClaim (Reconciler.ofBehavior .affinityAssistantPerWorkspace)
                  claimAndTemplatePipelineRun w⟩]))) ∧
        (AffinityAssistantBehavior.affinityAssistantPerWorkspace = .affinityAssistantPerPipelineRun ∨
            AffinityAssistantBehavior.affinityAssistantPerWorkspace =
              .affinityAssistantPerPipelineRunWithIsolation →
          (createdStatefulSets res.requests).map statefulSetVolumes =
            if volumeWorkspaces claimAndTemplatePipelineRun = [] then [] else
              [(getAffinityAssistantName "" claimAndTemplatePipelineRun.name,
                workspaceClaimTemplates (Reconciler.ofBehavior .affinityAssistantPerWorkspace)
                  claimAndTemplatePipelineRun, claimVolumes 0 (workspaceClaims claimAndTemplatePipelineRun))]) :=
  ⟨rfl, fun _ _ => rfl,
    show [getAffinityAssistantName "source" "run", getAffinityAssistantName "cache" "run"].Nodup from
      List.nodup_cons.mpr ⟨by simpa using getAffinityAssistantName_source_ne_cache, List.nodup_singleton _⟩,
    createOrUpdateAffinityAssistantsAndPVCs_statefulSets _ _ _ _ _ rfl (fun _ _ => rfl)⟩

/-- `sha256("wsd2543run")` and `sha256("ws1887a5run")` both begin `9250366255`. -/
theorem getAffinityAssistantName_collision :
    getAffinityAssistantName "wsd2543" "run" = getAffinityAssistantName "ws1887a5" "run" := by
  rw [getAffinityAssistantName_eq_iff]
  unfold hashPrefix
  set_option maxRecDepth 20000 in decide

def collidingPipelineRun : PipelineRun :=
  ⟨"run", "default", "run-uid", [],
    [⟨"wsd2543", some ⟨"claim-a", false⟩, none⟩, ⟨"ws1887a5", some ⟨"claim-b", false⟩, none⟩], none⟩

/-- Distinct workspace names are not enough: the two workspaces of `collidingPipelineRun`
get one StatefulSet between them. -/
theorem createOrUpdateAffinityAssistantsAndPVCs_name_collision :
    (collidingPipelineRun.workspaces.map WorkspaceBinding.name).Nodup ∧
      (volumeWorkspaces collidingPipelineRun).length = 2 ∧
      ∃ res, createOrUpdateAffinityAssistantsAndPVCs
          (Reconciler.ofBehavior .affinityAssistantPerWorkspace) Cluster.server (Cluster.empty [])
          collidingPipelineRun .affinityAssistantPerWorkspace (MapOrder.insertion _ _) = .ok res ∧
        (createdStatefulSets res.requests).length ≤ 1 := by
  refine ⟨by decide, rfl, ?_⟩
  obtain ⟨res, hres, hrun⟩ := createOrUpdateAffinityAssistantsAndPVCs_healthyRun
    (Reconciler.ofBehavior .affinityAssistantPerWorkspace) (Cluster.empty []) collidingPipelineRun
    .affinityAssistantPerWorkspace (MapOrder.insertion _ _)
  refine ⟨res, hres, ?_⟩
  have hnames : ∀ a ∈ createdStatefulSets res.requests,
      a.name ∈ [getAffinityAssistantName "wsd2543" "run"] := by
    intro a ha
    have := hrun.created_named a ha
    simp only [invocations, MapOrder.insertion, claimToWorkspace, claimTemplatesToWorkspace,
      collidingPipelineRun, workspaceClaimTemplate, List.filterMap_cons, List.filterMap_nil,
      Option.map_some', Option.map_none', List.map_cons, List.map_nil, List.nil_append,
      List.mem_cons, List.not_mem_nil, or_false] at this
    simpa [getAffinityAssistantName_collision] using this
  have hsub := List.subperm_of_subset hrun.created_nodup
    (fun n hn => by obtain ⟨a, ha, rfl⟩ := List.mem_map.mp hn; exact hnames a ha)
  simpa using hsub.length_le

end AffinityAssistant
