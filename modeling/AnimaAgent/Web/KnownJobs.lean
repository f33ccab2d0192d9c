import AnimaAgent.Web.RecentJobs
import AnimaAgent.Web.Server

namespace AnimaAgent

def JobView.jobRefs {δ : Type} (view : JobView δ) : List String :=
  [view.jobId, view.traceId, view.messageId] ++ view.parentJobId.toList
    ++ view.worker.toList.flatMap (fun worker => [worker.traceId, worker.taskId])
    ++ view.orchestration.toList.flatMap OrchestrationView.childJobIds

theorem JobView.mem_jobRefs {δ : Type} {view : JobView δ} {ref : String}
    : ref ∈ view.jobRefs
        ↔ (ref = view.jobId ∨ ref = view.traceId ∨ ref = view.messageId)
          ∨ view.parentJobId = some ref
          ∨ (∃ worker, view.worker = some worker ∧ (ref = worker.traceId ∨ ref = worker.taskId))
          ∨ ∃ orchestration, view.orchestration = some orchestration
            ∧ ref ∈ orchestration.childJobIds := by
  simp [jobRefs, or_assoc]

theorem childJobIds_deriveOrchestrationView {δ : Type} {job : JobView δ} {sources : JobSources}
    {children : List String} {orchestration : OrchestrationView}
    (h : deriveOrchestrationView job sources children = some orchestration)
    : orchestration.childJobIds = children := by
  unfold deriveOrchestrationView at h
  obtain h | ⟨_, h⟩ := Option.or_eq_some_iff.mp h
  . obtain h | ⟨_, h⟩ := Option.or_eq_some_iff.mp h
    . obtain ⟨_, _, rfl⟩ := Option.map_eq_some_iff.mp h
      rfl
    . obtain ⟨_, _, rfl⟩ := Option.map_eq_some_iff.mp h
      rfl
  . obtain ⟨_, h⟩ := Option.ite_none_right_eq_some.mp h
    cases h
    rfl

theorem RuntimeStateSnapshot.mem_tasksForJob {snapshot : RuntimeStateSnapshot} {jobId : String}
    {task : TaskRecord} (hmem : task ∈ snapshot.tasksForJob jobId)
    : ∃ run, snapshot.runByJobId jobId = some run ∧ task ∈ values snapshot.tasks
        ∧ task.runId = run.runId := by
  unfold tasksForJob at hmem
  split at hmem
  . next run hrun =>
    obtain ⟨hmem, hrunId⟩ := List.mem_filter.mp (List.mem_mergeSort.mp hmem)
    exact ⟨run, hrun, hmem, beq_iff_eq.mp hrunId⟩
  . cases hmem

namespace WebServer

variable (server : WebServer) {chatId : String}

def jobViews {δ : Type} (derive : JobEvidence → δ) (now : UInt64) : List (JobView δ) :=
  server.sources.buildJobViewsWithProjection derive now

def NamedBeside (jobId ref : String) : Prop :=
  (∃ event ∈ server.timeline, event.messageId = jobId
      ∧ (event.traceId = ref ∨ event.payload.stringAt "parent_job_id" = some ref))
    ∨ ∃ worker ∈ server.workers, ∃ task, worker.currentTask = some task
      ∧ currentTaskMatches jobId task = true ∧ (task.traceId = ref ∨ task.taskId = ref)

variable {server} (h : server.Consistent) {jobId : String}

include h

namespace Consistent

theorem jobOf_iff {msg : InboundMessage} (hmem : msg ∈ server.messages)
    : server.JobOf chatId msg.id ↔ msg.chatId = some chatId := by
  constructor
  . rintro ⟨other, hother, hid, hchat⟩
    cases List.inj_on_of_nodup_map h.messages hother hmem hid
    exact hchat
  . exact fun hchat => ⟨msg, hmem, rfl, hchat⟩

theorem jobOf_run_iff {runId : String} {run : RunRecord}
    (hrun : server.snapshot.runs.lookup runId = some run)
    : server.JobOf chatId run.jobId ↔ run.chatId = some chatId := by
  obtain ⟨_, _, _, msg, hmem, hid, hchat⟩ := h.runs runId run hrun
  rw [← hid, ← hchat]
  exact h.jobOf_iff hmem

theorem jobOf_accepted_iff {job : AcceptedJob} (hjob : server.jobs.acceptedJob jobId = some job)
    : server.JobOf chatId jobId ↔ job.chatId = some chatId := by
  obtain ⟨_, _, _, _, msg, hmem, hid, hchat⟩ := h.accepted jobId job hjob
  rw [← hid, ← hchat]
  exact h.jobOf_iff hmem

theorem runsOfJobs : server.snapshot.RunsOfJobs := by
  exact fun runId run hrun => (h.runs runId run hrun).1

theorem jobOf_of_inSession (hin : server.snapshot.InSession chatId (runtimeRunId jobId))
    : server.JobOf chatId jobId := by
  obtain ⟨run, hrun, hchat⟩ := RuntimeStateSnapshot.mem_sessionRunIds.mp hin
  rw [runtimeRunId_inj.mp (h.runs _ run hrun).1]
  exact (h.jobOf_run_iff hrun).mpr hchat

theorem runByJobId_eq_some {run : RunRecord} (hrun : server.snapshot.runByJobId jobId = some run)
    : server.snapshot.runs.lookup (runtimeRunId jobId) = some run ∧ run.jobId = jobId
        ∧ run.runId = runtimeRunId jobId ∧ run.traceId = jobId := by
  obtain ⟨runId, hindex, hlookup⟩ := Option.bind_eq_some_iff.mp hrun
  have hid := h.index jobId runId hindex
  obtain ⟨hjob, hrunId, htrace, _⟩ := h.runs runId run hlookup
  have hjob := runtimeRunId_inj.mp (hid.symm.trans hjob)
  rw [← hjob] at hrunId htrace
  exact ⟨hid ▸ hlookup, hjob.symm, hrunId, htrace⟩

theorem parentJobIdByTrace_eq (traceId : String)
    : server.jobs.parentJobIdByTrace traceId = none := by
  have hnone : server.jobs.acceptedJobs.find?
      (fun job => job.traceId == traceId && job.parentJobId.isSome) = none := by
    rw [List.find?_eq_none]
    intro job hmem
    obtain ⟨jobId, hjob⟩ := IndexMap.mem_values_iff.mp hmem
    rw [(h.accepted jobId job hjob).2.2.2.1, Option.isSome_none, Bool.and_false]
    exact Bool.false_ne_true
  unfold JobStore.parentJobIdByTrace
  rw [hnone]
  rfl

theorem runtimeParentJobId_eq_some {parentJobId : String}
    (hparent : server.sources.runtimeParentJobId jobId = some parentJobId)
    : parentJobId = jobId := by
  obtain ⟨task, hmem, htask⟩ := List.exists_of_findSome?_eq_some hparent
  obtain ⟨run, hrun, hmem, hrunId⟩ := RuntimeStateSnapshot.mem_tasksForJob hmem
  obtain ⟨taskId, hlookup⟩ := RuntimeStateSnapshot.mem_values_iff.mp hmem
  obtain ⟨htaskRun, hparents⟩ := h.tasks taskId task hlookup
  rw [htask] at hparents
  have hself := Option.some.inj (hparents.resolve_left (Option.some_ne_none _))
  rw [(h.runByJobId_eq_some hrun).2.2.1, htaskRun] at hrunId
  exact hself.trans (runtimeRunId_inj.mp hrunId)

theorem deriveJobHierarchy_eq_some {events : List RuntimeTimelineEvent} {traceId parentJobId : String}
    (hparent : (server.sources.deriveJobHierarchy jobId events traceId).2 = some parentJobId)
    : parentJobId = jobId
        ∨ ∃ event ∈ events, event.payload.stringAt "parent_job_id" = some parentJobId := by
  unfold JobSources.deriveJobHierarchy at hparent
  dsimp only at hparent
  split at hparent
  . next named heq =>
    cases hparent
    obtain hruntime | ⟨_, hevent⟩ := Option.or_eq_some_iff.mp heq
    . exact .inl (h.runtimeParentJobId_eq_some (Option.eq_some_of_filter_eq_some hruntime))
    . have hevent := Option.eq_some_of_filter_eq_some hevent
      obtain ⟨event, hmem, hevent⟩ := List.exists_of_findSome?_eq_some hevent
      exact .inr ⟨event, List.mem_reverse.mp hmem, hevent⟩
  . split at hparent
    . next job hjob =>
      rw [(h.accepted jobId job hjob).2.2.2.1] at hparent
      cases hparent
    . have hnone : server.sources.store.parentJobIdByTrace traceId = none :=
        h.parentJobIdByTrace_eq traceId
      rw [hnone] at hparent
      cases hparent

section View

variable {δ : Type} (derive : JobEvidence → δ) (now : UInt64)

theorem deriveTraceId_jobEvents
    : server.sources.deriveTraceId jobId (server.sources.jobEvents jobId) = jobId
        ∨ ∃ event ∈ server.sources.jobEvents jobId,
          server.sources.deriveTraceId jobId (server.sources.jobEvents jobId) = event.traceId := by
  unfold JobSources.deriveTraceId
  cases hrun : server.sources.snapshot.runByJobId jobId with
  | some run => exact .inl (h.runByJobId_eq_some hrun).2.2.2
  | none =>
    cases hevents : server.sources.jobEvents jobId with
    | cons event events => exact .inr ⟨event, List.mem_cons_self .., rfl⟩
    | nil =>
      cases hjob : server.sources.store.acceptedJob jobId with
      | some job => exact .inl (h.accepted jobId job hjob).2.1
      | none => exact .inl rfl

omit h in
theorem mem_jobEvents {event : RuntimeTimelineEvent}
    (hmem : event ∈ server.sources.jobEvents jobId)
    : event ∈ server.timeline ∧ event.messageId = jobId := by
  obtain ⟨hmem, hjob⟩ := List.mem_filter.mp hmem
  exact ⟨hmem, beq_iff_eq.mp hjob⟩

theorem messageId_buildJobView
    : (server.sources.buildJobView now jobId (server.sources.jobEvents jobId) derive).messageId
        = jobId := by
  unfold JobSources.buildJobView
  dsimp only
  cases hevents : server.sources.jobEvents jobId with
  | cons event events =>
    exact (mem_jobEvents (hevents ▸ List.mem_cons_self ..)).2
  | nil =>
    cases hjob : server.sources.store.acceptedJob jobId with
    | some job => exact (h.accepted jobId job hjob).2.2.1
    | none => rfl

theorem chatId_buildJobView
    (hchat : (server.sources.buildJobView now jobId (server.sources.jobEvents jobId) derive).chatId
      = some chatId)
    : server.JobOf chatId jobId ∨ ∃ event ∈ server.timeline, event.chatId = some chatId := by
  obtain hrun | ⟨_, hchat⟩ := Option.or_eq_some_iff.mp hchat
  . obtain ⟨run, hrun, hchat⟩ := Option.bind_eq_some_iff.mp hrun
    obtain ⟨hlookup, hjob, _⟩ := h.runByJobId_eq_some hrun
    exact .inl (hjob ▸ (h.jobOf_run_iff hlookup).mpr hchat)
  . obtain hevent | ⟨_, haccepted⟩ := Option.or_eq_some_iff.mp hchat
    . obtain ⟨event, hhead, hchat⟩ := Option.bind_eq_some_iff.mp hevent
      exact .inr ⟨event, (mem_jobEvents (List.mem_of_head? hhead)).1, hchat⟩
    . obtain ⟨job, hjob, hchat⟩ := Option.bind_eq_some_iff.mp haccepted
      exact .inl ((h.jobOf_accepted_iff hjob).mpr hchat)

omit h in
theorem matchWorker_eq_some {workers : List WorkerStatus} {view : WorkerTaskView}
    (hmatch : matchWorker now jobId workers = some view)
    : ∃ worker ∈ workers, ∃ task, worker.currentTask = some task
        ∧ currentTaskMatches jobId task = true
        ∧ view.traceId = task.traceId ∧ view.taskId = task.taskId := by
  obtain ⟨worker, hmem, hworker⟩ := List.exists_of_findSome?_eq_some hmatch
  obtain ⟨task, htask, rfl⟩ := Option.map_eq_some_iff.mp hworker
  obtain ⟨htask, hmatches⟩ := Option.filter_eq_some_iff.mp htask
  exact ⟨worker, hmem, task, htask, hmatches, rfl, rfl⟩

omit h in
theorem exists_of_mem_jobViews {view : JobView δ} (hmem : view ∈ server.jobViews derive now)
    : ∃ jobId ∈ server.sources.jobIds, ∃ orchestration,
        view = { server.sources.buildJobView now jobId (server.sources.jobEvents jobId) derive with
            orchestration }
          ∧ ∀ summary, orchestration = some summary
            → ∀ child ∈ summary.childJobIds, child ∈ server.sources.jobIds := by
  have hbuilt := server.sources.builtJobViews_eq derive now
  have hknown : ∀ job ∈ server.sources.builtJobViews derive now,
      ∃ jobId ∈ server.sources.jobIds,
        job = server.sources.buildJobView now jobId (server.sources.jobEvents jobId) derive := by
    intro job hmem
    rw [hbuilt] at hmem
    obtain ⟨jobId, hjob, rfl⟩ := List.mem_map.mp hmem
    obtain hjob | hjob := Distinct.mem_foldl_see.mp hjob
    . cases hjob
    . exact ⟨jobId, hjob, rfl⟩
  unfold jobViews at hmem
  rw [JobSources.buildJobViewsWithProjection_eq] at hmem
  have hmem := (Newest.mem_sorted _).mp (List.mem_of_mem_drop hmem)
  obtain ⟨job, hjob, rfl⟩ := List.mem_map.mp hmem
  obtain ⟨jobId, hjobId, rfl⟩ := hknown job hjob
  refine ⟨jobId, hjobId, ?_⟩
  unfold attachOrchestration
  split
  . refine ⟨_, rfl, ?_⟩
    intro summary hsummary child hchild
    rw [childJobIds_deriveOrchestrationView hsummary] at hchild
    obtain ⟨other, hother, rfl⟩ := List.mem_map.mp hchild
    obtain ⟨otherId, hotherId, rfl⟩ := hknown other (List.mem_filter.mp hother).1
    exact hotherId
  . refine ⟨none, rfl, ?_⟩
    intro summary hsummary
    cases hsummary

theorem jobRefs_of_mem_jobViews {view : JobView δ} (hmem : view ∈ server.jobViews derive now)
    {ref : String} (href : ref ∈ view.jobRefs)
    : ref ∈ server.sources.jobIds
        ∨ ∃ jobId ∈ server.sources.jobIds, server.NamedBeside jobId ref := by
  obtain ⟨jobId, hjob, orchestration, rfl, hchildren⟩ := exists_of_mem_jobViews derive now hmem
  have hself : ref = jobId → ref ∈ server.sources.jobIds := fun heq => heq ▸ hjob
  obtain (href | href | href) | hparent | ⟨worker, hworker, hnamed⟩ | ⟨summary, hsummary, hchild⟩ :=
    JobView.mem_jobRefs.mp href
  . exact .inl (hself href)
  . obtain htrace | ⟨event, hevent, htrace⟩ := @deriveTraceId_jobEvents server h jobId
    . exact .inl (hself (href.trans htrace))
    . obtain ⟨hmem, hmessage⟩ := mem_jobEvents hevent
      exact .inr ⟨jobId, hjob, .inl ⟨event, hmem, hmessage, .inl (href.trans htrace).symm⟩⟩
  . exact .inl (hself (href.trans (h.messageId_buildJobView derive now)))
  . obtain hparent | ⟨event, hevent, hnamed⟩ := h.deriveJobHierarchy_eq_some hparent
    . exact .inl (hself hparent)
    . obtain ⟨hmem, hmessage⟩ := mem_jobEvents hevent
      exact .inr ⟨jobId, hjob, .inl ⟨event, hmem, hmessage, .inr hnamed⟩⟩
  . obtain ⟨status, hmem, task, htask, hmatches, htrace, hid⟩ := matchWorker_eq_some now hworker
    refine .inr ⟨jobId, hjob, .inr ⟨status, hmem, task, htask, hmatches, ?_⟩⟩
    exact hnamed.imp (fun h => (h.trans htrace).symm) (fun h => (h.trans hid).symm)
  . exact .inl (hchildren summary hsummary ref hchild)

theorem chatId_of_mem_jobViews {view : JobView δ} (hmem : view ∈ server.jobViews derive now)
    (hchat : view.chatId = some chatId)
    : (∃ jobId ∈ server.sources.jobIds, server.JobOf chatId jobId)
        ∨ ∃ event ∈ server.timeline, event.chatId = some chatId := by
  obtain ⟨jobId, hjob, orchestration, rfl, _⟩ := exists_of_mem_jobViews derive now hmem
  exact (h.chatId_buildJobView derive now hchat).imp_left (fun hof => ⟨jobId, hjob, hof⟩)

end View

end Consistent

end WebServer

end AnimaAgent
