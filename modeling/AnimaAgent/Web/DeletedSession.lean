import AnimaAgent.Web.KnownJobs
import AnimaAgent.Web.PurgedJobs

namespace AnimaAgent

namespace JobSources

variable {δ : Type} {sources other : JobSources} {jobId : String}

structure SameJob (sources other : JobSources) (jobId : String) : Prop where
  summaries : other.summaries = sources.summaries
  failures : other.failures = sources.failures
  workers : other.workers = sources.workers
  accepted : other.store.acceptedJob jobId = sources.store.acceptedJob jobId
  review : other.store.reviewFor jobId = sources.store.reviewFor jobId
  parents : ∀ traceId,
    other.store.parentJobIdByTrace traceId = sources.store.parentJobIdByTrace traceId
  run : other.snapshot.runByJobId jobId = sources.snapshot.runByJobId jobId
  tasks : other.snapshot.tasksForJob jobId = sources.snapshot.tasksForJob jobId
  plans : ∀ children, other.snapshot.orchestrationFromTasks jobId children
    = sources.snapshot.orchestrationFromTasks jobId children
  transcribed : (sources.snapshot.runByJobId jobId).bind other.transcribedContent
    = (sources.snapshot.runByJobId jobId).bind sources.transcribedContent
  projection : sources.projection.SameJob other.projection jobId

section SameJob

variable (h : sources.SameJob other jobId) (now : UInt64) (events : List RuntimeTimelineEvent)

include h

theorem SameJob.deriveStartedAtMs
    : other.deriveStartedAtMs now jobId events = sources.deriveStartedAtMs now jobId events := by
  unfold JobSources.deriveStartedAtMs
  rw [h.run, h.accepted]

theorem SameJob.deriveUpdatedAtMs
    : other.deriveUpdatedAtMs now jobId events = sources.deriveUpdatedAtMs now jobId events := by
  unfold JobSources.deriveUpdatedAtMs
  rw [h.run, h.workers, h.deriveStartedAtMs]

theorem SameJob.deriveTraceId
    : other.deriveTraceId jobId events = sources.deriveTraceId jobId events := by
  unfold JobSources.deriveTraceId
  rw [h.run, h.accepted]

theorem SameJob.deriveJobHierarchy (traceId : String)
    : other.deriveJobHierarchy jobId events traceId
        = sources.deriveJobHierarchy jobId events traceId := by
  unfold JobSources.deriveJobHierarchy runtimeParentJobId
  rw [h.tasks, h.accepted, h.parents]

theorem SameJob.deriveUserContent
    : other.deriveUserContent jobId events = sources.deriveUserContent jobId events := by
  unfold JobSources.deriveUserContent
  rw [h.accepted, h.run, h.transcribed]

theorem SameJob.evidence
    : other.evidence now jobId events = sources.evidence now jobId events := by
  unfold JobSources.evidence
  rw [h.summaries, h.failures, h.review, h.workers, h.run, h.projection.executionSummaries,
    h.projection.failures, h.projection.pendingQuestions, h.projection.toolStates,
    h.projection.jobStatuses, h.deriveUpdatedAtMs]

theorem SameJob.buildJobView (derive : JobEvidence → δ)
    : other.buildJobView now jobId events derive = sources.buildJobView now jobId events derive := by
  unfold JobSources.buildJobView
  dsimp only
  rw [h.run, h.accepted, h.deriveTraceId, h.deriveJobHierarchy, h.deriveStartedAtMs,
    h.deriveUserContent, h.deriveUpdatedAtMs, h.workers, h.review, h.projection.pendingQuestions,
    h.evidence]

theorem SameJob.deriveOrchestrationView {view : JobView δ} (hjob : view.jobId = jobId)
    (children : List String)
    : AnimaAgent.deriveOrchestrationView view other children
        = AnimaAgent.deriveOrchestrationView view sources children := by
  unfold AnimaAgent.deriveOrchestrationView
  rw [hjob, h.projection.orchestration, h.plans]

end SameJob

end JobSources

namespace WebServer

variable (server : WebServer) (chatId : String)

def purged : WebServer :=
  { server with
    snapshot := server.snapshot.purgeSession chatId
    jobs := server.jobs.removeByChatId chatId }

section Job

variable {server} {chatId} (h : server.Consistent)

theorem deleteSession_eq {runs : Nat} (h : (server.snapshot.sessionRunIds chatId).length = runs + 1)
    : server.deleteSession chatId = (.deleted chatId (runs + 1), server.purged chatId) := by
  unfold deleteSession
  dsimp only
  rw [h]
  exact if_neg (Nat.succ_ne_zero runs)

theorem eq_purged_of_deleted {runs : Nat} {after : WebServer}
    (hdeleted : server.deleteSession chatId = (.deleted chatId runs, after))
    : after = server.purged chatId := by
  unfold deleteSession at hdeleted
  dsimp only at hdeleted
  split at hdeleted
  . cases hdeleted
  . cases hdeleted
    rfl

include h

theorem Consistent.purged : (server.purged chatId).Consistent := by
  exact (h.loaded (loadedFrom_purgeSession server.snapshot chatId)).removeByChatId chatId

variable {jobId : String} (hother : ¬server.JobOf chatId jobId)

include hother

theorem Consistent.notMem_removed
    : jobId ∉ (server.jobs.accepted.entries.filter
        (fun entry => entry.2.chatId == some chatId)).map Prod.fst := by
  intro hmem
  obtain ⟨entry, hentry, rfl⟩ := List.mem_map.mp hmem
  obtain ⟨hentry, hchat⟩ := List.mem_filter.mp hentry
  have hjob : server.jobs.acceptedJob entry.1 = some entry.2 := IndexMap.get_eq_some_iff.mpr hentry
  exact hother ((h.jobOf_accepted_iff hjob).mpr (beq_iff_eq.mp hchat))

theorem Consistent.acceptedJob_purged
    : (server.purged chatId).jobs.acceptedJob jobId = server.jobs.acceptedJob jobId := by
  have hget := IndexMap.get_foldl_shiftRemove
    ((server.jobs.accepted.entries.filter (fun entry => entry.2.chatId == some chatId)).map Prod.fst)
    server.jobs.accepted jobId
  exact hget.trans (if_neg (h.notMem_removed hother))

theorem Consistent.reviewFor_purged
    : (server.purged chatId).jobs.reviewFor jobId = server.jobs.reviewFor jobId := by
  have hget := IndexMap.get_foldl_shiftRemove
    ((server.jobs.accepted.entries.filter (fun entry => entry.2.chatId == some chatId)).map Prod.fst)
    server.jobs.reviews jobId
  exact hget.trans (if_neg (h.notMem_removed hother))

theorem Consistent.not_inSession
    : ¬server.snapshot.InSession chatId (runtimeRunId jobId) := by
  exact fun hin => hother (h.jobOf_of_inSession hin)

theorem Consistent.runByJobId_purged
    : (server.snapshot.purgeSession chatId).runByJobId jobId = server.snapshot.runByJobId jobId := by
  have hnot := h.not_inSession hother
  have hindex : (server.snapshot.purgeSession chatId).index.runIdsByJobId.lookup jobId
      = server.snapshot.index.runIdsByJobId.lookup jobId := by
    refine lookup_keep_of ?_
    intro runId hrunId
    rw [h.index jobId runId hrunId]
    exact decide_eq_true hnot
  unfold RuntimeStateSnapshot.runByJobId
  rw [hindex]
  apply Option.bind_congr
  intro runId hrunId
  rw [h.index jobId runId hrunId]
  exact RuntimeStateSnapshot.lookup_runs_purgeSession hnot

theorem Consistent.tasksForJob_purged
    : (server.snapshot.purgeSession chatId).tasksForJob jobId
        = server.snapshot.tasksForJob jobId := by
  have hnot := h.not_inSession hother
  unfold RuntimeStateSnapshot.tasksForJob
  rw [h.runByJobId_purged hother]
  cases hrun : server.snapshot.runByJobId jobId with
  | none => rfl
  | some run =>
    rw [← (h.runByJobId_eq_some hrun).2.2.1] at hnot
    exact RuntimeStateSnapshot.tasksForRun_purgeSession hnot

theorem Consistent.transcribed_purged
    : (server.snapshot.runByJobId jobId).bind (server.purged chatId).sources.transcribedContent
        = (server.snapshot.runByJobId jobId).bind server.sources.transcribedContent := by
  apply Option.bind_congr
  intro run hrun
  have hnot := h.not_inSession hother
  rw [← (h.runByJobId_eq_some hrun).2.2.1] at hnot
  unfold JobSources.transcribedContent
  congr 1
  change (server.snapshot.transcript.filter
    (fun message => decide (message.runId ∉ server.snapshot.sessionRunIds chatId))).find? _ = _
  rw [← List.head?_filter, List.filter_filter, ← List.head?_filter]
  congr 1
  apply List.filter_congr
  intro message _
  refine Bool.and_eq_left_iff_imp.mpr ?_
  intro hmessage
  exact RuntimeStateSnapshot.decide_of_runId_beq hnot (Bool.and_eq_true_iff.mp hmessage).1

variable (hseparate : server.snapshot.Separate chatId)

include hseparate

theorem Consistent.orchestrationFromTasks_purged (children : List String)
    : (server.snapshot.purgeSession chatId).orchestrationFromTasks jobId children
        = server.snapshot.orchestrationFromTasks jobId children := by
  unfold RuntimeStateSnapshot.orchestrationFromTasks
  rw [h.tasksForJob_purged hother]
  cases hplan : (server.snapshot.tasksForJob jobId).findSome? TaskRecord.planId with
  | none => rfl
  | some planId =>
    obtain ⟨task, hmem, hplanId⟩ := List.exists_of_findSome?_eq_some hplan
    obtain ⟨run, hrun, hmem, hrunId⟩ := RuntimeStateSnapshot.mem_tasksForJob hmem
    have hnot := h.not_inSession hother
    rw [← (h.runByJobId_eq_some hrun).2.2.1] at hnot
    have htasks := RuntimeStateSnapshot.tasksForPlan_purgeSession hnot hseparate hmem hrunId
    rw [hplanId, Option.getD_some] at htasks
    unfold RuntimeStateSnapshot.subtasksForPlan
    dsimp only [Option.map_some]
    rw [htasks]

theorem Consistent.sameJob_purged
    : server.sources.SameJob (server.purged chatId).sources jobId := by
  have hnot := h.not_inSession hother
  constructor
  . rfl
  . rfl
  . rfl
  . exact h.acceptedJob_purged hother
  . exact h.reviewFor_purged hother
  . exact fun traceId => (h.purged.parentJobIdByTrace_eq traceId).trans
      (h.parentJobIdByTrace_eq traceId).symm
  . exact h.runByJobId_purged hother
  . exact h.tasksForJob_purged hother
  . exact h.orchestrationFromTasks_purged hother hseparate
  . exact h.transcribed_purged hother
  . refine h.runsOfJobs.sameJob h.purged.runsOfJobs
      (RuntimeStateSnapshot.lookup_runs_purgeSession hnot) ?_
    intro run hrun
    obtain ⟨hjob, hrunId, _⟩ := h.runs _ run hrun
    have hjob := runtimeRunId_inj.mp hjob
    refine RuntimeStateSnapshot.sameShown_purgeSession hseparate hrun ?_ ?_
    . exact fun hchat => hother (hjob ▸ (h.jobOf_run_iff hrun).mpr hchat)
    . rwa [hrunId, ← hjob]

end Job

variable {δ : Type} (derive : JobEvidence → δ) (now : UInt64)

/-- What the deletion does not clean, or not undo, has nothing to do with the session. -/
structure Forgotten : Prop where
  events : ∀ event ∈ server.timeline, event.chatId ≠ some chatId
    ∧ ¬server.JobOf chatId event.messageId ∧ ¬server.JobOf chatId event.traceId
    ∧ ∀ parentJobId, event.payload.stringAt "parent_job_id" = some parentJobId
      → ¬server.JobOf chatId parentJobId
  workers : ∀ worker ∈ server.workers, ∀ task, worker.currentTask = some task
    → ∀ jobId ∈ server.sources.jobIds, ¬server.JobOf chatId jobId
      → currentTaskMatches jobId task = true
      → ¬server.JobOf chatId task.traceId ∧ ¬server.JobOf chatId task.taskId
  separate : server.snapshot.Separate chatId
  /-- No job of another session is left out of the list of jobs, or none of the session is in it. -/
  shown : (∀ view ∈ Newest.cut maxJobViews (server.sources.sortedJobViews derive now),
      server.JobOf chatId view.jobId)
    ∨ ∀ view ∈ server.jobViews derive now, ¬server.JobOf chatId view.jobId

/-- Nothing that is shown mentions the session, and what is shown of the other ones is the same. -/
structure Erased (after : WebServer) : Prop where
  jobs : ∀ view ∈ after.jobViews derive now, view.chatId ≠ some chatId
    ∧ ∀ jobId ∈ view.jobRefs, ¬server.JobOf chatId jobId
  otherJobs : after.jobViews derive now
    = (server.jobViews derive now).filter (fun view => decide (¬server.JobOf chatId view.jobId))
  sessions : ∀ item ∈ after.snapshot.buildSessionsSnapshot,
    item.sessionId ≠ chatId ∧ item.chatId ≠ chatId
  otherSessions : ∀ item : SessionListItem, item.sessionId ≠ chatId
    → (item ∈ after.snapshot.buildSessionsSnapshot ↔ item ∈ server.snapshot.buildSessionsSnapshot)
  history : after.snapshot.buildSessionHistory chatId = none
  otherHistories : ∀ sessionId, sessionId ≠ chatId
    → after.snapshot.buildSessionHistory sessionId = server.snapshot.buildSessionHistory sessionId
  histories : ∀ sessionId items, after.snapshot.buildSessionHistory sessionId = some items
    → ∀ item ∈ items, ∀ jobId, server.JobOf chatId jobId
      → item.raw.stringAt "run_id" ≠ some (runtimeRunId jobId)

section Views

variable {server} {chatId} {derive} {now} (h : server.Consistent)
  (hforgotten : server.Forgotten chatId derive now)

include h hforgotten

theorem jobIds_purged
    : (server.purged chatId).sources.jobIds
        = server.sources.jobIds.filter (fun jobId => decide (¬server.JobOf chatId jobId)) := by
  unfold JobSources.jobIds
  rw [List.filter_append, List.filter_append]
  congr 1
  . congr 1
    . have hvalues : (server.purged chatId).jobs.acceptedJobs
          = server.jobs.acceptedJobs.filter (fun job => !(job.chatId == some chatId)) := by
        change List.map Prod.snd _ = (server.jobs.accepted.entries.map Prod.snd).filter _
        rw [List.filter_map]
        exact congrArg (List.map Prod.snd)
          (IndexMap.entries_remove server.jobs.accepted (fun job => job.chatId == some chatId))
      change (server.purged chatId).jobs.acceptedJobs.map _ = (server.jobs.acceptedJobs.map _).filter _
      rw [hvalues, List.filter_map]
      congr 1
      apply List.filter_congr
      intro job hmem
      obtain ⟨jobId, hjob⟩ := IndexMap.mem_values_iff.mp hmem
      have hiff := @Consistent.jobOf_accepted_iff server chatId h jobId job hjob
      rw [← (h.accepted jobId job hjob).1] at hiff
      rw [Function.comp_apply, beq_eq_decide, ← decide_not]
      exact decide_eq_decide.mpr (not_congr hiff.symm)
    . change (RuntimeStateSnapshot.values (server.snapshot.purgeSession chatId).runs).map _
        = ((RuntimeStateSnapshot.values server.snapshot.runs).map _).filter _
      rw [RuntimeStateSnapshot.values_runs_purgeSession, List.filter_map]
      congr 1
      apply List.filter_congr
      intro run hmem
      obtain ⟨runId, hrun⟩ := RuntimeStateSnapshot.mem_values_iff.mp hmem
      exact decide_eq_decide.mpr (not_congr (h.jobOf_run_iff hrun).symm)
  . refine (List.filter_eq_self.mpr ?_).symm
    intro jobId hmem
    obtain ⟨event, hevent, rfl⟩ := List.mem_map.mp hmem
    exact decide_eq_true (hforgotten.events event hevent).2.1

theorem builtJobViews_purged
    : (server.purged chatId).sources.builtJobViews derive now
        = (server.sources.builtJobViews derive now).filter
          (fun view => decide (¬server.JobOf chatId view.jobId)) := by
  have hseen := Distinct.foldl_see_filter
    (fun jobId => decide (¬server.JobOf chatId jobId)) [] server.sources.jobIds
  rw [List.filter_nil] at hseen
  rw [JobSources.builtJobViews_eq, JobSources.builtJobViews_eq, jobIds_purged h hforgotten, hseen,
    List.filter_map]
  apply List.map_congr_left
  intro jobId hmem
  have hother := of_decide_eq_true (List.mem_filter.mp hmem).2
  exact (h.sameJob_purged hother hforgotten.separate).buildJobView now _ derive

theorem childJobIds_purged {jobId : String} (hother : ¬server.JobOf chatId jobId)
    : childJobIds ((server.purged chatId).sources.builtJobViews derive now) jobId
        = childJobIds (server.sources.builtJobViews derive now) jobId := by
  unfold childJobIds
  rw [builtJobViews_purged h hforgotten, List.filter_filter]
  congr 1
  apply List.filter_congr
  intro view hmem
  refine Bool.and_eq_left_iff_imp.mpr ?_
  intro hparent
  have hparent := beq_iff_eq.mp hparent
  rw [JobSources.builtJobViews_eq] at hmem
  obtain ⟨childId, _, rfl⟩ := List.mem_map.mp hmem
  apply decide_eq_true
  obtain heq | ⟨event, hevent, _⟩ := h.deriveJobHierarchy_eq_some hparent
  . exact heq ▸ hother
  . obtain ⟨hevent, hmessage⟩ := Consistent.mem_jobEvents hevent
    exact hmessage ▸ (hforgotten.events event hevent).2.1

theorem attachOrchestration_purged {view : JobView δ} (hother : ¬server.JobOf chatId view.jobId)
    : attachOrchestration ((server.purged chatId).sources.builtJobViews derive now) view
          (server.purged chatId).sources
        = attachOrchestration (server.sources.builtJobViews derive now) view server.sources := by
  unfold attachOrchestration
  rw [childJobIds_purged h hforgotten hother,
    (h.sameJob_purged hother hforgotten.separate).deriveOrchestrationView rfl]

theorem sortedJobViews_purged
    : (server.purged chatId).sources.sortedJobViews derive now
        = (server.sources.sortedJobViews derive now).filter
          (fun view => decide (¬server.JobOf chatId view.jobId)) := by
  unfold JobSources.sortedJobViews
  dsimp only
  rw [← Newest.sorted_filter, List.filter_map]
  congr 1
  have hattached : ∀ view ∈ (server.purged chatId).sources.builtJobViews derive now,
      attachOrchestration ((server.purged chatId).sources.builtJobViews derive now) view
          (server.purged chatId).sources
        = attachOrchestration (server.sources.builtJobViews derive now) view server.sources := by
    intro view hmem
    rw [builtJobViews_purged h hforgotten] at hmem
    exact attachOrchestration_purged h hforgotten (of_decide_eq_true (List.mem_filter.mp hmem).2)
  rw [List.map_congr_left hattached, builtJobViews_purged h hforgotten]
  congr 1
  apply List.filter_congr
  intro view _
  rw [Function.comp_apply, JobSources.jobId_attachOrchestration]

theorem jobViews_purged
    : (server.purged chatId).jobViews derive now
        = (server.jobViews derive now).filter
          (fun view => decide (¬server.JobOf chatId view.jobId)) := by
  unfold jobViews
  rw [JobSources.buildJobViewsWithProjection_eq, JobSources.buildJobViewsWithProjection_eq,
    sortedJobViews_purged h hforgotten]
  refine (Newest.keep_filter_iff maxJobViews _).mpr ?_
  refine hforgotten.shown.imp ?_ ?_
  . exact fun hcut view hmem => decide_eq_false (not_not.mpr (hcut view hmem))
  . intro hkept view hmem
    rw [← JobSources.buildJobViewsWithProjection_eq] at hmem
    exact decide_eq_true (hkept view hmem)

omit h in
theorem not_jobOf_of_namedBeside {jobId ref : String} (hjob : jobId ∈ server.sources.jobIds)
    (hother : ¬server.JobOf chatId jobId) (hnamed : server.NamedBeside jobId ref)
    : ¬server.JobOf chatId ref := by
  obtain ⟨event, hevent, _, hnamed⟩ | ⟨worker, hworker, task, htask, hmatches, hnamed⟩ := hnamed
  . obtain ⟨_, _, htrace, hparent⟩ := hforgotten.events event hevent
    obtain rfl | hnamed := hnamed
    . exact htrace
    . exact hparent ref hnamed
  . obtain ⟨htrace, htaskId⟩ :=
      hforgotten.workers worker hworker task htask jobId hjob hother hmatches
    obtain rfl | rfl := hnamed
    . exact htrace
    . exact htaskId

theorem jobs_purged {view : JobView δ} (hmem : view ∈ (server.purged chatId).jobViews derive now)
    : view.chatId ≠ some chatId ∧ ∀ jobId ∈ view.jobRefs, ¬server.JobOf chatId jobId := by
  have hleft : ∀ jobId ∈ (server.purged chatId).sources.jobIds,
      jobId ∈ server.sources.jobIds ∧ ¬server.JobOf chatId jobId := by
    intro jobId hjob
    rw [jobIds_purged h hforgotten] at hjob
    obtain ⟨hjob, hother⟩ := List.mem_filter.mp hjob
    exact ⟨hjob, of_decide_eq_true hother⟩
  constructor
  . intro hchat
    obtain ⟨jobId, hjob, hof⟩ | ⟨event, hevent, hchat⟩ :=
      h.purged.chatId_of_mem_jobViews derive now hmem hchat
    . exact (hleft jobId hjob).2 hof
    . exact (hforgotten.events event hevent).1 hchat
  . intro ref href
    obtain hjob | ⟨jobId, hjob, hnamed⟩ := h.purged.jobRefs_of_mem_jobViews derive now hmem href
    . exact (hleft ref hjob).2
    . exact not_jobOf_of_namedBeside hforgotten (hleft jobId hjob).1 (hleft jobId hjob).2 hnamed

omit hforgotten in
theorem histories_purged {sessionId : String} {items : List SessionHistoryItem}
    (hitems : (server.snapshot.purgeSession chatId).buildSessionHistory sessionId = some items)
    {item : SessionHistoryItem} (hmem : item ∈ items) {jobId : String}
    (hof : server.JobOf chatId jobId)
    : item.raw.stringAt "run_id" ≠ some (runtimeRunId jobId) := by
  unfold RuntimeStateSnapshot.buildSessionHistory at hitems
  obtain ⟨_, heq⟩ := Option.ite_none_right_eq_some.mp hitems
  cases heq
  obtain ⟨message, hmessage, rfl⟩ := List.mem_map.mp hmem
  obtain ⟨_, hsession⟩ := List.mem_filter.mp hmessage
  obtain ⟨run, hrun, _⟩ := Option.bind_eq_some_iff.mp (beq_iff_eq.mp hsession)
  have hraw : message.toHistoryItem.raw.stringAt "run_id" = some message.runId := rfl
  rw [hraw]
  intro heq
  rw [Option.some.inj heq] at hrun
  have hjob := runtimeRunId_inj.mp (h.purged.runs _ run hrun).1
  have hchat := (h.purged.jobOf_run_iff hrun).mp (hjob ▸ hof)
  have hleft := RuntimeStateSnapshot.mem_values_iff.mpr ⟨_, hrun⟩
  rw [RuntimeStateSnapshot.values_runs_purgeSession] at hleft
  exact of_decide_eq_true (List.mem_filter.mp hleft).2 hchat

theorem erased_purged : server.Erased chatId derive now (server.purged chatId) := by
  constructor
  . exact fun view hmem => jobs_purged h hforgotten hmem
  . exact jobViews_purged h hforgotten
  . intro item hmem
    have hne := (RuntimeStateSnapshot.mem_buildSessionsSnapshot_purgeSession.mp hmem).2
    have hget := RuntimeStateSnapshot.mem_buildSessionsSnapshot.mp hmem
    refine ⟨hne, ?_⟩
    rwa [(RuntimeStateSnapshot.isFor_of_get hget).2]
  . intro item hne
    exact RuntimeStateSnapshot.mem_buildSessionsSnapshot_purgeSession.trans (and_iff_left hne)
  . exact RuntimeStateSnapshot.buildSessionHistory_purgeSession_self
  . exact fun sessionId hne => RuntimeStateSnapshot.buildSessionHistory_purgeSession hne
  . exact fun sessionId items hitems item hmem jobId hof => histories_purged h hitems hmem hof

end Views

/--
In every state that is reached, the deletion of a session that succeeds leaves nothing of it and the
other sessions as they are, if the timeline has forgotten it.
-/
theorem erased_of_run {actions : List WebAction} {server after : WebServer}
    (hrun : Runs.run step {} actions = some server) {chatId : String} {runs : Nat}
    (hdeleted : server.deleteSession chatId = (.deleted chatId runs, after))
    {derive : JobEvidence → δ} {now : UInt64} (hforgotten : server.Forgotten chatId derive now)
    : server.Erased chatId derive now after := by
  rw [eq_purged_of_deleted hdeleted]
  exact erased_purged (consistent_of_run hrun) hforgotten

section Posted

def postedRequest (chatId : String) : SendMessageRequest where
  content := "hello"
  sessionId := some chatId

def postedRun (jobId chatId : String) : RunRecord where
  runId := runtimeRunId jobId
  traceId := jobId
  jobId := jobId
  chatId := some chatId
  channel := "web"
  status := .running
  currentTurnId := none
  latestError := none
  createdAtMs := 0
  updatedAtMs := 0
  completedAtMs := none

def post (jobId chatId : String) : List WebAction :=
  [ .sendMessage (postedRequest chatId) jobId 0,
    .append (.runUpserted (postedRun jobId chatId)) ]

def posted (jobId chatId : String) : WebServer :=
  { server.arrive ((postedRequest chatId).message jobId) with
    snapshot := server.snapshot.perform (.append (.runUpserted (postedRun jobId chatId)))
    jobs := server.jobs.registerAcceptedJob ((postedRequest chatId).acceptedJob jobId 0) }

theorem run_post {jobId chatId : String} (h : server.knows jobId = false)
    : Runs.run step server (post jobId chatId) = some (server.posted jobId chatId) := by
  have hsent : server.step (.sendMessage (postedRequest chatId) jobId 0)
      = some { server.arrive ((postedRequest chatId).message jobId) with
        jobs := server.jobs.registerAcceptedJob ((postedRequest chatId).acceptedJob jobId 0) } :=
    if_neg (by rw [h]; exact Bool.false_ne_true)
  unfold post
  rw [Runs.run_cons_of_some _ hsent]
  refine Runs.run_cons_of_some _ (if_pos ⟨rfl, rfl, (postedRequest chatId).message jobId, ?_, rfl, rfl⟩)
  exact List.mem_append_right _ (List.mem_singleton_self _)

theorem cut_sortedJobViews_eq_nil (h : server.sources.jobIds.length ≤ maxJobViews)
    : Newest.cut maxJobViews (server.sources.sortedJobViews derive now) = [] := by
  apply Newest.cut_eq_nil
  rw [JobSources.length_sortedJobViews]
  exact (List.toFinset_card_le _).trans h

def messageReceived (jobId chatId : String) : RuntimeTimelineEvent where
  event := "message_received"
  traceId := jobId
  messageId := jobId
  channel := "web"
  chatId := some chatId
  senderId := "web-user"
  recordedAtMs := 0
  payload := .object []

/-- The job of the deleted session is still shown, since the timeline has an event of it. -/
theorem messageReceived_not_erased
    : ∃ server after,
        Runs.run step {}
            (post "job_1" "chat_1" ++ [.recordTimeline (messageReceived "job_1" "chat_1")])
          = some server
        ∧ server.deleteSession "chat_1" = (.deleted "chat_1" 1, after)
        ∧ ¬server.Erased "chat_1" (fun _ => ()) 0 after := by
  let server : WebServer :=
    { posted {} "job_1" "chat_1" with timeline := [messageReceived "job_1" "chat_1"] }
  have hrun : Runs.run step {}
      (post "job_1" "chat_1" ++ [.recordTimeline (messageReceived "job_1" "chat_1")])
        = some server := by
    rw [Runs.run_append, run_post {} rfl]
    rfl
  have hlength : (server.snapshot.sessionRunIds "chat_1").length = 1 := by
    decide +kernel
  have hshown : ((server.purged "chat_1").jobViews (fun _ => ()) 0).any
      (fun view => decide (server.JobOf "chat_1" view.jobId)) = true := by
    decide +kernel
  refine ⟨server, server.purged "chat_1", hrun, deleteSession_eq hlength, ?_⟩
  intro herased
  obtain ⟨view, hmem, hof⟩ := List.any_eq_true.mp hshown
  exact (herased.jobs view hmem).2 view.jobId (List.mem_cons_self ..) (of_decide_eq_true hof)

def postedTwice : WebServer :=
  (posted {} "job_1" "chat_1").posted "job_2" "chat_2"

theorem run_postedTwice
    : Runs.run step {} (post "job_1" "chat_1" ++ post "job_2" "chat_2") = some postedTwice := by
  rw [Runs.run_append, run_post {} rfl, Option.bind_some]
  exact run_post _ (by decide +kernel)

theorem forgotten_postedTwice : postedTwice.Forgotten "chat_1" (fun _ => ()) 0 := by
  constructor
  . intro event hmem
    cases hmem
  . intro worker hmem
    cases hmem
  . constructor
    . intro runId run turnId turn _ _ _ hturn
      cases hturn
    . intro id task taskId task' htask
      cases htask
    . intro id suspension invocation hsuspension
      cases hsuspension
  . left
    rw [cut_sortedJobViews_eq_nil _ _ _ (by decide +kernel)]
    intro view hmem
    cases hmem

theorem erased_of_run_postedTwice
    : postedTwice.deleteSession "chat_1" = (.deleted "chat_1" 1, postedTwice.purged "chat_1")
        ∧ postedTwice.Erased "chat_1" (fun _ => ()) 0 (postedTwice.purged "chat_1") := by
  have hlength : (postedTwice.snapshot.sessionRunIds "chat_1").length = 1 := by
    decide +kernel
  have hdeleted := deleteSession_eq hlength
  exact ⟨hdeleted, erased_of_run run_postedTwice hdeleted forgotten_postedTwice⟩

end Posted

end WebServer

end AnimaAgent
