import AnimaAgent.Web.JobViews
import AnimaAgent.Web.PurgedSessions
import AnimaAgent.Web.SendMessage

namespace AnimaAgent

def RuntimeStateSnapshot.LoadedFrom (saved loaded : RuntimeStateSnapshot) : Prop :=
  (∀ entry ∈ loaded.runs.entries, entry ∈ saved.runs.entries)
    ∧ (∀ entry ∈ loaded.tasks.entries, entry ∈ saved.tasks.entries)
    ∧ ∀ entry ∈ loaded.index.runIdsByJobId.entries, entry ∈ saved.index.runIdsByJobId.entries

instance (saved loaded : RuntimeStateSnapshot) : Decidable (saved.LoadedFrom loaded) :=
  inferInstanceAs (Decidable (_ ∧ _ ∧ _))

/-- A run is written for a message, with its identifier and chat; a task has no other parent than its job. -/
def RuntimeDomainEvent.WrittenFor (messages : List InboundMessage) : RuntimeDomainEvent → Prop
  | .runUpserted run =>
    run.runId = runtimeRunId run.jobId ∧ run.traceId = run.jobId
      ∧ ∃ msg ∈ messages, msg.id = run.jobId ∧ msg.chatId = run.chatId
  | .taskUpserted task =>
    task.runId = runtimeRunId task.jobId
      ∧ (task.parentJobId = none ∨ task.parentJobId = some task.jobId)
  | _ => True

instance (messages : List InboundMessage) : DecidablePred (RuntimeDomainEvent.WrittenFor messages)
  | .runUpserted _ => inferInstanceAs (Decidable (_ ∧ _ ∧ _))
  | .taskUpserted _ => inferInstanceAs (Decidable (_ ∧ _))
  | .turnUpserted _ | .suspensionUpserted _ | .toolInvocationUpserted _ | .requirementUpserted _
  | .messageAppended _ | .projectionHintRecorded .. => inferInstanceAs (Decidable True)

structure WebServer where
  messages : List InboundMessage := []
  snapshot : RuntimeStateSnapshot := {}
  jobs : JobStore := .new
  timeline : List RuntimeTimelineEvent := []
  summaries : List ExecutionSummary := []
  lastFailure : Option RuntimeFailureSnapshot := none
  workers : List WorkerStatus := []

inductive DeleteSessionResponse where
  | notFound (error sessionId : String)
  | deleted (sessionId : String) (deletedRuns : Nat)
  deriving DecidableEq

inductive WebAction where
  | sendMessage (req : SendMessageRequest) (uuid : String) (now : UInt64)
  | receive (msg : InboundMessage)
  | append (event : RuntimeDomainEvent)
  | recordTimeline (event : RuntimeTimelineEvent)
  | recordSummary (summary : ExecutionSummary)
  | recordFailure (failure : RuntimeFailureSnapshot)
  | work (workers : List WorkerStatus)
  | reviewJob (jobId : String) (input : JobReviewInput) (now : UInt64)
  | renameSession (sessionId title : String)
  | deleteSession (sessionId : String)
  | restart (loaded : RuntimeStateSnapshot)

namespace WebServer

variable (server : WebServer)

def knows (id : String) : Bool :=
  server.messages.any (fun msg => msg.id == id)

def arrive (msg : InboundMessage) : WebServer :=
  { server with messages := server.messages ++ [msg] }

def deleteSession (sessionId : String) : DeleteSessionResponse × WebServer :=
  let deletedRuns := (server.snapshot.sessionRunIds sessionId).length
  let server := { server with snapshot := server.snapshot.perform (.deleteSession sessionId) }
  if deletedRuns = 0 then
    (.notFound "session not found" sessionId, server)
  else
    (.deleted sessionId deletedRuns,
      { server with jobs := server.jobs.removeByChatId sessionId })

def step : WebAction → Option WebServer
  | .sendMessage req uuid now =>
    if server.knows uuid then
      none
    else
      some { server.arrive (req.message uuid) with
        jobs := server.jobs.registerAcceptedJob (req.acceptedJob uuid now) }
  | .receive msg => if server.knows msg.id then none else some (server.arrive msg)
  | .append event =>
    if event.WrittenFor server.messages then
      some { server with snapshot := server.snapshot.perform (.append event) }
    else
      none
  | .recordTimeline event =>
    some { server with timeline := AnimaAgent.recordTimeline server.timeline event }
  | .recordSummary summary =>
    some { server with summaries := AnimaAgent.recordSummary server.summaries summary }
  | .recordFailure failure => some { server with lastFailure := some failure }
  | .work workers => some { server with workers }
  | .reviewJob jobId input now =>
    some { server with jobs := (server.jobs.recordReview jobId input now).2 }
  | .renameSession sessionId title =>
    some { server with snapshot := server.snapshot.perform (.setSessionTitle sessionId title) }
  | .deleteSession sessionId => some (server.deleteSession sessionId).2
  | .restart loaded =>
    if server.snapshot.LoadedFrom loaded then
      some { messages := server.messages, snapshot := loaded }
    else
      none

def sources : JobSources where
  timeline := server.timeline
  summaries := server.summaries
  failures := server.lastFailure.toList
  workers := server.workers
  store := server.jobs
  snapshot := server.snapshot
  projection := server.snapshot.buildJobProjection

variable (chatId : String)

def JobOf (jobId : String) : Prop :=
  ∃ msg ∈ server.messages, msg.id = jobId ∧ msg.chatId = some chatId

instance (jobId : String) : Decidable (server.JobOf chatId jobId) :=
  inferInstanceAs (Decidable (∃ msg ∈ _, _))

structure Consistent : Prop where
  messages : (server.messages.map InboundMessage.id).Nodup
  runs : ∀ runId run, server.snapshot.runs.lookup runId = some run
    → runId = runtimeRunId run.jobId ∧ run.runId = runtimeRunId run.jobId ∧ run.traceId = run.jobId
      ∧ ∃ msg ∈ server.messages, msg.id = run.jobId ∧ msg.chatId = run.chatId
  index : ∀ jobId runId, server.snapshot.index.runIdsByJobId.lookup jobId = some runId
    → runId = runtimeRunId jobId
  tasks : ∀ taskId task, server.snapshot.tasks.lookup taskId = some task
    → task.runId = runtimeRunId task.jobId
      ∧ (task.parentJobId = none ∨ task.parentJobId = some task.jobId)
  accepted : ∀ jobId job, server.jobs.acceptedJob jobId = some job
    → job.jobId = jobId ∧ job.traceId = jobId ∧ job.messageId = jobId ∧ job.parentJobId = none
      ∧ ∃ msg ∈ server.messages, msg.id = jobId ∧ msg.chatId = job.chatId

section Consistent

theorem consistent_empty : Consistent {} := by
  constructor
  . exact List.nodup_nil
  . intro runId run h
    cases h
  . intro jobId runId h
    cases h
  . intro taskId task h
    cases h
  . intro jobId job h
    cases h

theorem exists_lookup_enterTurn {snapshot : RuntimeStateSnapshot} {turn : TurnRecord}
    {runId : String} {run : RunRecord} (h : (snapshot.enterTurn turn).lookup runId = some run)
    : ∃ before, snapshot.runs.lookup runId = some before
        ∧ run = { before with
          currentTurnId := run.currentTurnId, updatedAtMs := run.updatedAtMs } := by
  unfold RuntimeStateSnapshot.enterTurn at h
  cases hrun : snapshot.runs.lookup turn.runId with
  | none =>
    rw [hrun] at h
    exact ⟨run, h, rfl⟩
  | some before =>
    rw [hrun] at h
    by_cases hid : runId = turn.runId
    . subst hid
      cases h.symm.trans (AList.lookup_insert _)
      exact ⟨before, hrun, rfl⟩
    . exact ⟨run, (AList.lookup_insert_ne hid).symm.trans h, rfl⟩

variable {server} {chatId} (h : server.Consistent)

include h

theorem Consistent.arrive {msg : InboundMessage} (hfresh : server.knows msg.id = false)
    : (server.arrive msg).Consistent := by
  have hmono : ∀ {p : InboundMessage → Prop}, (∃ msg ∈ server.messages, p msg)
      → ∃ other ∈ server.messages ++ [msg], p other :=
    fun ⟨other, hmem, hp⟩ => ⟨other, List.mem_append_left _ hmem, hp⟩
  constructor
  . change ((server.messages ++ [msg]).map InboundMessage.id).Nodup
    rw [List.map_append]
    refine List.Nodup.append h.messages (List.nodup_singleton _) ?_
    intro id hmem hid
    obtain ⟨other, hother, rfl⟩ := List.mem_map.mp hmem
    have hne := List.any_eq_false.mp hfresh other hother
    exact hne (beq_iff_eq.mpr (List.mem_singleton.mp hid))
  . intro runId run hrun
    obtain ⟨hid, hrunId, htrace, hmsg⟩ := h.runs runId run hrun
    exact ⟨hid, hrunId, htrace, hmono hmsg⟩
  . exact h.index
  . exact h.tasks
  . intro jobId job hjob
    obtain ⟨hid, htrace, hmessage, hparent, hmsg⟩ := h.accepted jobId job hjob
    exact ⟨hid, htrace, hmessage, hparent, hmono hmsg⟩

theorem Consistent.registerAcceptedJob {req : SendMessageRequest} {uuid : String}
    (hmem : req.message uuid ∈ server.messages) (now : UInt64)
    : Consistent { server with
        jobs := server.jobs.registerAcceptedJob (req.acceptedJob uuid now) } := by
  refine { h with accepted := ?_ }
  intro jobId job hjob
  change (server.jobs.accepted.insert uuid (req.acceptedJob uuid now)).get jobId = some job at hjob
  rw [IndexMap.get_insert_eq] at hjob
  split at hjob
  . next heq =>
    cases hjob
    exact ⟨heq.symm, heq.symm, heq.symm, rfl, req.message uuid, hmem, heq.symm, rfl⟩
  . exact h.accepted jobId job hjob

theorem Consistent.append {event : RuntimeDomainEvent}
    (hwritten : event.WrittenFor server.messages)
    : Consistent { server with snapshot := server.snapshot.perform (.append event) } := by
  cases event with
  | runUpserted run =>
    refine { h with runs := ?_, index := ?_ }
    . intro runId other hlookup
      change (server.snapshot.runs.insert run.runId run).lookup runId = some other at hlookup
      by_cases hid : runId = run.runId
      . subst hid
        rw [AList.lookup_insert] at hlookup
        cases hlookup
        exact ⟨hwritten.1, hwritten⟩
      . exact h.runs runId other ((AList.lookup_insert_ne hid).symm.trans hlookup)
    . intro jobId runId hlookup
      change (server.snapshot.index.runIdsByJobId.insert run.jobId run.runId).lookup jobId
        = some runId at hlookup
      by_cases hjob : jobId = run.jobId
      . subst hjob
        rw [AList.lookup_insert] at hlookup
        cases hlookup
        exact hwritten.1
      . exact h.index jobId runId ((AList.lookup_insert_ne hjob).symm.trans hlookup)
  | turnUpserted turn =>
    refine { h with runs := ?_ }
    intro runId run hlookup
    obtain ⟨before, hbefore, heq⟩ := exists_lookup_enterTurn hlookup
    rw [heq]
    exact h.runs runId before hbefore
  | taskUpserted task =>
    refine { h with index := ?_, tasks := ?_ }
    . intro jobId runId hlookup
      change (server.snapshot.index.addTask task).runIdsByJobId.lookup jobId = some runId at hlookup
      rw [RuntimeTaskIndex.runIdsByJobId_addTask] at hlookup
      exact h.index jobId runId hlookup
    . intro taskId other hlookup
      change (server.snapshot.tasks.insert task.taskId task).lookup taskId = some other at hlookup
      by_cases hid : taskId = task.taskId
      . subst hid
        rw [AList.lookup_insert] at hlookup
        cases hlookup
        exact hwritten
      . exact h.tasks taskId other ((AList.lookup_insert_ne hid).symm.trans hlookup)
  | suspensionUpserted suspension =>
    refine { h with index := ?_ }
    intro jobId runId hlookup
    change (server.snapshot.index.addSuspension suspension).runIdsByJobId.lookup jobId
      = some runId at hlookup
    rw [RuntimeTaskIndex.runIdsByJobId_addSuspension] at hlookup
    exact h.index jobId runId hlookup
  | _ => exact { h with }

theorem Consistent.loaded {loaded : RuntimeStateSnapshot}
    (hloaded : server.snapshot.LoadedFrom loaded)
    : Consistent { server with snapshot := loaded } := by
  obtain ⟨hruns, htasks, hindex⟩ := hloaded
  have hlookup : ∀ {ρ : Type} {saved loaded : AList (fun _ : String => ρ)},
      (∀ entry ∈ loaded.entries, entry ∈ saved.entries)
        → ∀ {id : String} {record : ρ}, loaded.lookup id = some record
          → saved.lookup id = some record :=
    fun hsub _ _ h => AList.mem_lookup_iff.mpr (hsub _ (AList.mem_lookup_iff.mp h))
  exact { h with
    runs := fun runId run hrun => h.runs runId run (hlookup hruns hrun)
    index := fun jobId runId hid => h.index jobId runId (hlookup hindex hid)
    tasks := fun taskId task htask => h.tasks taskId task (hlookup htasks htask) }

omit h in
theorem loadedFrom_purgeSession (snapshot : RuntimeStateSnapshot) (chatId : String)
    : snapshot.LoadedFrom (snapshot.purgeSession chatId) := by
  exact ⟨fun _ hmem => (List.mem_filter.mp hmem).1, fun _ hmem => (List.mem_filter.mp hmem).1,
    fun _ hmem => (List.mem_filter.mp hmem).1⟩

theorem Consistent.removeByChatId (chatId : String)
    : Consistent { server with jobs := server.jobs.removeByChatId chatId } := by
  refine { h with accepted := ?_ }
  intro jobId job hjob
  unfold JobStore.removeByChatId JobStore.acceptedJob at hjob
  dsimp only at hjob
  rw [IndexMap.get_foldl_shiftRemove] at hjob
  exact h.accepted jobId job (Option.ite_none_left_eq_some.mp hjob).2

theorem Consistent.deleteSession (sessionId : String)
    : (server.deleteSession sessionId).2.Consistent := by
  have hpurged := h.loaded (loadedFrom_purgeSession server.snapshot sessionId)
  unfold WebServer.deleteSession
  dsimp only
  split
  . exact hpurged
  . exact hpurged.removeByChatId sessionId

theorem Consistent.step {action : WebAction} {after : WebServer}
    (hstep : server.step action = some after)
    : after.Consistent := by
  cases action with
  | sendMessage req uuid now =>
    obtain ⟨hknown, heq⟩ := Option.ite_none_left_eq_some.mp hstep
    cases heq
    have hfresh : server.knows (req.message uuid).id = false := Bool.not_eq_true _ ▸ hknown
    have harrived := h.arrive hfresh
    exact harrived.registerAcceptedJob (List.mem_append_right _ (List.mem_singleton_self _)) now
  | receive msg =>
    obtain ⟨hknown, heq⟩ := Option.ite_none_left_eq_some.mp hstep
    cases heq
    exact h.arrive (Bool.not_eq_true _ ▸ hknown)
  | append event =>
    obtain ⟨hwritten, heq⟩ := Option.ite_none_right_eq_some.mp hstep
    cases heq
    exact h.append hwritten
  | deleteSession sessionId =>
    cases hstep
    exact h.deleteSession sessionId
  | restart loaded =>
    obtain ⟨hloaded, heq⟩ := Option.ite_none_right_eq_some.mp hstep
    cases heq
    refine { h.loaded hloaded with accepted := ?_ }
    intro jobId job hjob
    cases hjob
  | _ =>
    cases hstep
    exact { h with }

omit h in
theorem consistent_of_run {actions : List WebAction}
    (hrun : Runs.run WebServer.step {} actions = some server)
    : server.Consistent := by
  refine Runs.Always.run_eq_some (Runs.always_of_forall_step ?_ actions consistent_empty) hrun
  exact fun _ _ _ h hstep => h.step hstep

end Consistent

end WebServer

end AnimaAgent
