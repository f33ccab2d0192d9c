import AnimaAgent.Web.JobViews

namespace AnimaAgent

namespace JobTimelineIndex

variable {α : Type} (index : JobTimelineIndex)

theorem foldl_see (jobId : α → String) (items : List α)
    : items.foldl (fun index item => index.see (jobId item)) index
        = { index with
            orderedIds := (items.map jobId).foldl Distinct.see index.orderedIds } := by
  induction items generalizing index with
  | nil => rfl
  | cons item items ih => exact ih (index.see (jobId item))

theorem eventsOf_group (event : RuntimeTimelineEvent) (jobId : String)
    : (index.group event).eventsOf jobId
        = index.eventsOf jobId ++ [event].filter (fun event => event.messageId == jobId) := by
  unfold group eventsOf
  by_cases hjob : jobId = event.messageId
  . subst hjob
    rw [AList.lookup_insert, List.filter_cons, if_pos (beq_self_eq_true _)]
    rfl
  . have hne : ¬(event.messageId == jobId) = true := fun h => hjob (beq_iff_eq.mp h).symm
    rw [AList.lookup_insert_ne hjob, List.filter_cons, if_neg hne, List.filter_nil,
      List.append_nil]

theorem foldl_group (events : List RuntimeTimelineEvent)
    : let grouped :=
        events.foldl (fun index event => (index.see event.messageId).group event) index
      grouped.orderedIds
          = (events.map RuntimeTimelineEvent.messageId).foldl Distinct.see index.orderedIds
        ∧ ∀ jobId, grouped.eventsOf jobId
            = index.eventsOf jobId ++ events.filter (fun event => event.messageId == jobId) := by
  induction events generalizing index with
  | nil => exact ⟨rfl, fun _ => (List.append_nil _).symm⟩
  | cons event events ih =>
    obtain ⟨hids, hevents⟩ := ih ((index.see event.messageId).group event)
    refine ⟨hids, ?_⟩
    intro jobId
    rw [List.foldl_cons, hevents, eventsOf_group, List.append_assoc, ← List.filter_append]
    rfl

end JobTimelineIndex

namespace JobSources

variable {δ : Type} (sources : JobSources) (derive : JobEvidence → δ) (now : UInt64)

/-- The jobs that the sources know of; one that several of them know of is listed several times. -/
def jobIds : List String :=
  sources.store.acceptedJobs.map AcceptedJob.jobId
    ++ (RuntimeStateSnapshot.values sources.snapshot.runs).map RunRecord.jobId
    ++ sources.timeline.map RuntimeTimelineEvent.messageId

def jobEvents (jobId : String) : List RuntimeTimelineEvent :=
  sources.timeline.filter (fun event => event.messageId == jobId)

def startedAtMs (jobId : String) : UInt64 :=
  sources.deriveStartedAtMs now jobId (sources.jobEvents jobId)

/-- As many jobs are shown as fit, the newest first, and none that is left out has started later. -/
structure ShowsRecent : Prop where
  count : (sources.buildJobViewsWithProjection derive now).length
    = min sources.jobIds.toFinset.card maxJobViews
  known : ∀ view ∈ sources.buildJobViewsWithProjection derive now,
    view.jobId ∈ sources.jobIds ∧ view.startedAtMs = sources.startedAtMs now view.jobId
  ordered : (sources.buildJobViewsWithProjection derive now).Pairwise
    (fun view view' => view'.startedAtMs ≤ view.startedAtMs)
  recent : ∀ jobId ∈ sources.jobIds,
    jobId ∉ (sources.buildJobViewsWithProjection derive now).map JobView.jobId
      → ∀ view ∈ sources.buildJobViewsWithProjection derive now,
        sources.startedAtMs now jobId ≤ view.startedAtMs

theorem buildJobTimelineIndex_spec
    : sources.buildJobTimelineIndex.orderedIds = sources.jobIds.foldl Distinct.see []
        ∧ ∀ jobId, sources.buildJobTimelineIndex.eventsOf jobId = sources.jobEvents jobId := by
  unfold buildJobTimelineIndex
  dsimp only
  rw [JobTimelineIndex.foldl_see, JobTimelineIndex.foldl_see]
  obtain ⟨hids, hevents⟩ := JobTimelineIndex.foldl_group _ sources.timeline
  rw [hids]
  unfold jobIds
  rw [List.foldl_append, List.foldl_append]
  refine ⟨rfl, ?_⟩
  intro jobId
  rw [hevents]
  rfl

theorem builtJobViews_eq
    : sources.builtJobViews derive now
        = (sources.jobIds.foldl Distinct.see []).map
          (fun jobId => sources.buildJobView now jobId (sources.jobEvents jobId) derive) := by
  obtain ⟨hids, hevents⟩ := sources.buildJobTimelineIndex_spec
  unfold builtJobViews
  dsimp only
  rw [hids]
  exact List.map_congr_left (fun jobId _ => by rw [hevents])

@[simp]
theorem jobId_attachOrchestration (jobs : List (JobView δ)) (job : JobView δ)
    : (attachOrchestration jobs job sources).jobId = job.jobId := by
  unfold attachOrchestration
  split
  . rfl
  . rfl

@[simp]
theorem startedAtMs_attachOrchestration (jobs : List (JobView δ)) (job : JobView δ)
    : (attachOrchestration jobs job sources).startedAtMs = job.startedAtMs := by
  unfold attachOrchestration
  split
  . rfl
  . rfl

theorem sortedJobViews_perm
    : ((sources.sortedJobViews derive now).map (fun view => (view.jobId, view.startedAtMs))).Perm
        ((sources.jobIds.foldl Distinct.see []).map
          (fun jobId => (jobId, sources.startedAtMs now jobId))) := by
  unfold sortedJobViews
  dsimp only
  refine ((Newest.sorted_perm _ _).map _).trans ?_
  rw [List.map_map, builtJobViews_eq, List.map_map]
  refine List.Perm.of_eq (List.map_congr_left ?_)
  intro jobId _
  simp only [Function.comp_apply, jobId_attachOrchestration, startedAtMs_attachOrchestration]
  rfl

theorem pairwise_sortedJobViews
    : (sources.sortedJobViews derive now).Pairwise
        (fun view view' => view'.startedAtMs.toNat ≤ view.startedAtMs.toNat) := by
  exact Newest.pairwise_sorted _ _

theorem buildJobViewsWithProjection_eq
    : sources.buildJobViewsWithProjection derive now
        = Newest.keep maxJobViews (sources.sortedJobViews derive now) := by
  unfold buildJobViewsWithProjection Newest.keep
  dsimp only
  split
  . rfl
  . next h => rw [Nat.sub_eq_zero_of_le (Nat.not_lt.mp h), List.drop_zero]

theorem length_sortedJobViews
    : (sources.sortedJobViews derive now).length = sources.jobIds.toFinset.card := by
  have hlength := (sources.sortedJobViews_perm derive now).length_eq
  rw [List.length_map, List.length_map, Distinct.length_foldl_see] at hlength
  exact hlength

theorem exists_sorted_iff {jobId : String} {startedAtMs : UInt64}
    : (∃ view ∈ sources.sortedJobViews derive now,
          view.jobId = jobId ∧ view.startedAtMs = startedAtMs)
        ↔ jobId ∈ sources.jobIds ∧ sources.startedAtMs now jobId = startedAtMs := by
  have hmem := (sources.sortedJobViews_perm derive now).mem_iff (a := (jobId, startedAtMs))
  simpa [Distinct.mem_foldl_see] using hmem

theorem nodup_jobId_sortedJobViews
    : ((sources.sortedJobViews derive now).map JobView.jobId).Nodup := by
  have hids := ((sources.sortedJobViews_perm derive now).map Prod.fst)
  rw [List.map_map, List.map_map] at hids
  refine (List.Perm.nodup_iff hids).mpr ?_
  have hself : (Prod.fst ∘ fun jobId => (jobId, sources.startedAtMs now jobId)) = id := rfl
  rw [hself, List.map_id]
  exact Distinct.nodup_foldl_see List.nodup_nil sources.jobIds

theorem mem_cut_iff {view : JobView δ} (hmem : view ∈ sources.sortedJobViews derive now)
    : view ∈ Newest.cut maxJobViews (sources.sortedJobViews derive now)
        ↔ view.jobId ∉ (sources.buildJobViewsWithProjection derive now).map JobView.jobId := by
  have hparts := Newest.cut_append_keep maxJobViews (sources.sortedJobViews derive now)
  have hnodup := sources.nodup_jobId_sortedJobViews derive now
  rw [buildJobViewsWithProjection_eq]
  rw [← hparts, List.map_append, List.nodup_append] at hnodup
  rw [← hparts, List.mem_append] at hmem
  constructor
  . intro hcut hkeep
    exact hnodup.2.2 _ (List.mem_map_of_mem hcut) _ hkeep rfl
  . intro hkeep
    exact hmem.resolve_right (fun h => hkeep (List.mem_map_of_mem h))

theorem showsRecent_iff_forall_cut
    : sources.ShowsRecent derive now
        ↔ ∀ cut ∈ Newest.cut maxJobViews (sources.sortedJobViews derive now),
          ∀ view ∈ Newest.keep maxJobViews (sources.sortedJobViews derive now),
            cut.startedAtMs.toNat ≤ view.startedAtMs.toNat := by
  have hshown := sources.buildJobViewsWithProjection_eq derive now
  have hcut : ∀ {view}, view ∈ Newest.cut maxJobViews (sources.sortedJobViews derive now)
      → view ∈ sources.sortedJobViews derive now := List.mem_of_mem_take
  have hkeep : ∀ {view}, view ∈ Newest.keep maxJobViews (sources.sortedJobViews derive now)
      → view ∈ sources.sortedJobViews derive now := List.mem_of_mem_drop
  constructor
  . intro h cut hmem view hview
    obtain ⟨hjob, hstarted⟩ := (sources.exists_sorted_iff derive now).mp ⟨cut, hcut hmem, rfl, rfl⟩
    have hle := h.recent cut.jobId hjob ((sources.mem_cut_iff derive now (hcut hmem)).mp hmem) view
      (hshown ▸ hview)
    rw [hstarted] at hle
    exact UInt64.le_iff_toNat_le.mp hle
  . intro h
    constructor
    . rw [hshown, Newest.length_keep, length_sortedJobViews]
    . intro view hmem
      rw [hshown] at hmem
      obtain ⟨hjob, hstarted⟩ :=
        (sources.exists_sorted_iff derive now).mp ⟨view, hkeep hmem, rfl, rfl⟩
      exact ⟨hjob, hstarted.symm⟩
    . rw [hshown]
      refine ((sources.pairwise_sortedJobViews derive now).sublist
        (Newest.keep_sublist maxJobViews _)).imp ?_
      exact UInt64.le_iff_toNat_le.mpr
    . intro jobId hjob hnot view hview
      obtain ⟨cut, hmem, rfl, hstarted⟩ := (sources.exists_sorted_iff derive now).mpr ⟨hjob, rfl⟩
      have hmemCut := (sources.mem_cut_iff derive now hmem).mpr hnot
      rw [hshown] at hview
      rw [← hstarted]
      exact UInt64.le_iff_toNat_le.mpr (h cut hmemCut view hview)

theorem forall_cut_le_iff
    : (∀ cut ∈ Newest.cut maxJobViews (sources.sortedJobViews derive now),
          ∀ view ∈ Newest.keep maxJobViews (sources.sortedJobViews derive now),
            cut.startedAtMs.toNat ≤ view.startedAtMs.toNat)
        ↔ sources.jobIds.toFinset.card ≤ maxJobViews
          ∨ ∀ jobId ∈ sources.jobIds, ∀ jobId' ∈ sources.jobIds,
              sources.startedAtMs now jobId = sources.startedAtMs now jobId' := by
  rw [Newest.forall_cut_le_iff _ _ (by decide) (sources.pairwise_sortedJobViews derive now),
    length_sortedJobViews]
  refine or_congr Iff.rfl ?_
  constructor
  . intro h jobId hjob jobId' hjob'
    obtain ⟨view, hmem, rfl, hstarted⟩ := (sources.exists_sorted_iff derive now).mpr ⟨hjob, rfl⟩
    obtain ⟨view', hmem', rfl, hstarted'⟩ :=
      (sources.exists_sorted_iff derive now).mpr ⟨hjob', rfl⟩
    rw [← hstarted, ← hstarted']
    exact UInt64.toNat_inj.mp (h view hmem view' hmem')
  . intro h view hmem view' hmem'
    obtain ⟨hjob, hstarted⟩ := (sources.exists_sorted_iff derive now).mp ⟨view, hmem, rfl, rfl⟩
    obtain ⟨hjob', hstarted'⟩ := (sources.exists_sorted_iff derive now).mp ⟨view', hmem', rfl, rfl⟩
    rw [← hstarted, ← hstarted', h _ hjob _ hjob']

theorem showsRecent_iff
    : sources.ShowsRecent derive now
        ↔ sources.jobIds.toFinset.card ≤ maxJobViews
          ∨ ∀ jobId ∈ sources.jobIds, ∀ jobId' ∈ sources.jobIds,
              sources.startedAtMs now jobId = sources.startedAtMs now jobId' := by
  rw [showsRecent_iff_forall_cut, forall_cut_le_iff]

end JobSources

section ManyJobs

def numberedJobId (i : Nat) : String :=
  String.ofList (List.replicate i 'a')

theorem numberedJobId_injective : Function.Injective numberedJobId := by
  intro i j h
  have hlength := congrArg (fun name => name.toList.length) h
  simpa [numberedJobId] using hlength

def numberedJob (i : Nat) : AcceptedJob where
  jobId := numberedJobId i
  traceId := numberedJobId i
  messageId := numberedJobId i
  kind := .main
  parentJobId := none
  channel := "web"
  chatId := some "chat_1"
  senderId := "web-user"
  userContent := "hello"
  acceptedAtMs := .ofNat i

def oneJobMore : JobSources where
  timeline := []
  summaries := []
  failures := []
  workers := []
  store :=
    { accepted :=
        { entries := (List.range (maxJobViews + 1)).map (fun i => (numberedJobId i, numberedJob i))
          nodup := by
            rw [List.map_map]
            exact List.nodup_range.map numberedJobId_injective }
      reviews := .empty }
  snapshot := {}
  projection := {}

theorem jobIds_oneJobMore
    : oneJobMore.jobIds = (List.range (maxJobViews + 1)).map numberedJobId := by
  unfold JobSources.jobIds JobStore.acceptedJobs IndexMap.values oneJobMore
  dsimp only
  rw [List.map_map, List.map_map, List.map_nil, List.append_nil]
  exact List.append_nil _

theorem startedAtMs_oneJobMore {i : Nat} (hi : i < maxJobViews + 1) (now : UInt64)
    : oneJobMore.startedAtMs now (numberedJobId i) = .ofNat i := by
  have hjob : oneJobMore.store.acceptedJob (numberedJobId i) = some (numberedJob i) :=
    IndexMap.get_eq_some_iff.mpr (List.mem_map.mpr ⟨i, List.mem_range.mpr hi, rfl⟩)
  unfold JobSources.startedAtMs JobSources.deriveStartedAtMs
  rw [hjob]
  rfl

theorem oneJobMore_not_showsRecent : ¬oneJobMore.ShowsRecent (fun _ => ()) 0 := by
  rw [JobSources.showsRecent_iff_forall_cut, JobSources.forall_cut_le_iff, jobIds_oneJobMore]
  rintro (hcard | hall)
  . rw [List.toFinset_card_of_nodup (List.nodup_range.map numberedJobId_injective),
      List.length_map, List.length_range] at hcard
    exact absurd hcard (by decide)
  . have hfirst := hall (numberedJobId 0) (List.mem_map_of_mem (by decide)) (numberedJobId 1)
      (List.mem_map_of_mem (by decide))
    rw [startedAtMs_oneJobMore (by decide), startedAtMs_oneJobMore (by decide)] at hfirst
    exact absurd hfirst (by decide)

end ManyJobs

end AnimaAgent
