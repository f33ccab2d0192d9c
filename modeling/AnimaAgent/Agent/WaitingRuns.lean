import AnimaAgent.Agent.AnsweredOnce
import AnimaAgent.Agent.RecordWrites
import AnimaAgent.Agent.SuspensionLife

namespace AnimaAgent

namespace RuntimeStateSnapshot

def Ended (snapshot : RuntimeStateSnapshot) (jobId : String) : Prop :=
  ∀ run, snapshot.runs.lookup (runtimeRunId jobId) = some run
    → run.status = .completed ∨ run.status = .failed

def Running (snapshot : RuntimeStateSnapshot) (jobId : String) : Prop :=
  ∃ run, snapshot.runs.lookup (runtimeRunId jobId) = some run ∧ run.status = .running

def InvocationKnown (snapshot : RuntimeStateSnapshot) (invocationId : Option String)
    (payload : Value)
    : Prop :=
  ∃ record, invocationId.bind snapshot.toolInvocations.lookup = some record
    ∧ (record.toolUseId.or ((payload.get "tool_use_id").bind Value.asStr)).isSome

def Resumable (snapshot : RuntimeStateSnapshot) (record : SuspensionRecord) : Prop :=
  rebuiltSourceKind record = .toolPermission
    → snapshot.InvocationKnown record.invocationId record.rawPayload

def Answerable (snapshot : RuntimeStateSnapshot) (kind : SuspensionKind)
    (invocationId : Option String) (question : PendingQuestion)
    : Prop :=
  kind = .toolPermission
      ∨ (question.rawQuestion.get "type").bind Value.asStr = some "tool_permission"
    → snapshot.InvocationKnown invocationId question.rawQuestion

def WaitsAt (snapshot : RuntimeStateSnapshot) (jobId id : String) : Prop :=
  ∃ record, snapshot.ActiveIn (runtimeRunId jobId) id record ∧ snapshot.Resumable record

def Waits (snapshot : RuntimeStateSnapshot) (jobId : String) : Prop :=
  ∃ id, snapshot.WaitsAt jobId id

def WaitsBeside (snapshot : RuntimeStateSnapshot) (jobId other : String) : Prop :=
  ∃ id, id ≠ other ∧ snapshot.WaitsAt jobId id

def SettledBeside (snapshot : RuntimeStateSnapshot) (jobId questionId : String) : Prop :=
  snapshot.Ended jobId ∨ snapshot.WaitsBeside jobId (runtimeSuspensionId questionId)

def Attended (snapshot : RuntimeStateSnapshot) (jobId : String) : Prop :=
  snapshot.Ended jobId ∨ snapshot.Waits jobId

structure Traceable (snapshot : RuntimeStateSnapshot) : Prop where
  consistent : snapshot.Consistent
  indexed : ∀ questionId,
    (snapshot.suspensions.lookup (runtimeSuspensionId questionId)).isSome
      → snapshot.Indexed questionId
  job : ∀ jobId run, snapshot.runs.lookup (runtimeRunId jobId) = some run
    → run.jobId = jobId ∧ snapshot.Known jobId

theorem traceable_empty : Traceable {} := by
  refine ⟨consistent_empty, ?_, ?_⟩
  . intro questionId h
    cases h
  . intro jobId run h
    cases h

section Traceable

variable {snapshot : RuntimeStateSnapshot} (h : Traceable snapshot)

theorem job_upsertRun (now : UInt64) (inbound : InboundMessage) (status : RunStatus)
    (turnId : Option String) {jobId : String} {run : RunRecord}
    (hjob : ∀ jobId run, snapshot.runs.lookup (runtimeRunId jobId) = some run
      → run.jobId = jobId ∧ snapshot.Known jobId)
    (hrun : (snapshot.upsertRun now inbound status turnId).runs.lookup (runtimeRunId jobId)
      = some run)
    : run.jobId = jobId ∧ (snapshot.upsertRun now inbound status turnId).Known jobId := by
  change (snapshot.runs.insert (runtimeRunId inbound.id) _).lookup _ = some run at hrun
  by_cases heq : jobId = inbound.id
  . subst heq
    rw [AList.lookup_insert] at hrun
    cases hrun
    refine ⟨rfl, ?_⟩
    change ((snapshot.index.runIdsByJobId.insert inbound.id _).lookup inbound.id).isSome
    rw [AList.lookup_insert]
    rfl
  . rw [AList.lookup_insert_ne (mt runtimeRunId_inj.mp heq)] at hrun
    obtain ⟨hrunJob, hknown⟩ := hjob jobId run hrun
    exact ⟨hrunJob, known_upsertRun now inbound hknown status turnId⟩

theorem job_upsertTurn (now : UInt64) (inbound : InboundMessage) (source : String)
    (status : TurnStatus) {jobId : String} {run : RunRecord}
    (hjob : ∀ jobId run, snapshot.runs.lookup (runtimeRunId jobId) = some run
      → run.jobId = jobId ∧ snapshot.Known jobId)
    (hrun : (snapshot.upsertTurn now inbound source status).runs.lookup (runtimeRunId jobId)
      = some run)
    : run.jobId = jobId ∧ (snapshot.upsertTurn now inbound source status).Known jobId := by
  refine job_upsertRun now inbound .running _ ?_ hrun
  intro other run' hentered
  change (snapshot.enterTurn _).lookup (runtimeRunId other) = some run' at hentered
  unfold enterTurn at hentered
  split at hentered
  . exact hjob other run' hentered
  . next run'' hrun'' =>
    change (snapshot.runs.insert (runtimeRunId inbound.id) _).lookup _ = some run' at hentered
    by_cases heq : other = inbound.id
    . subst heq
      rw [AList.lookup_insert] at hentered
      cases hentered
      exact hjob inbound.id run'' hrun''
    . rw [AList.lookup_insert_ne (mt runtimeRunId_inj.mp heq)] at hentered
      exact hjob other run' hentered

include h

theorem Traceable.apply (upsert : RuntimeUpsert) : Traceable (snapshot.apply upsert) := by
  constructor
  . exact h.consistent.apply upsert
  . intro questionId hsome
    cases upsert with
    | suspension now inbound question taskId invocationId kind status =>
      by_cases heq : questionId = question.questionId
      . subst heq
        change (RuntimeTaskIndex.addSuspension _ _).suspensionIdsByQuestionId.lookup _ = _
        rw [RuntimeTaskIndex.suspensionIdsByQuestionId_addSuspension _ rfl]
        exact AList.lookup_insert ..
      . change ((snapshot.suspensions.insert (runtimeSuspensionId question.questionId) _).lookup
          (runtimeSuspensionId questionId)).isSome at hsome
        rw [AList.lookup_insert_ne (mt runtimeSuspensionId_inj.mp heq)] at hsome
        exact (h.indexed questionId hsome).apply _
    | _ => exact (h.indexed questionId hsome).apply _
  . intro jobId run hrun
    cases upsert with
    | turn now inbound source status => exact job_upsertTurn now inbound source status h.job hrun
    | turnOfRun now inbound source status runStatus =>
      refine job_upsertRun now inbound runStatus _ ?_ hrun
      exact fun _ _ => job_upsertTurn now inbound source status h.job
    | _ =>
      obtain ⟨hrunJob, hknown⟩ := h.job jobId run hrun
      exact ⟨hrunJob, hknown.apply _⟩

theorem Traceable.wrote {later : RuntimeStateSnapshot} (hwrote : Wrote .any snapshot later)
    : Traceable later := by
  exact hwrote.keeps (fun _ upsert _ hbefore => hbefore.apply upsert) h

end Traceable

theorem Known.wrote {snapshot later : RuntimeStateSnapshot} {jobId : String}
    (h : snapshot.Known jobId) (hwrote : Wrote .any snapshot later)
    : later.Known jobId := by
  exact @Wrote.keeps .any _ _ (fun reached => reached.Known jobId)
    (fun _ upsert _ hbefore => hbefore.apply upsert) hwrote h

section Frame

variable {a b : RuntimeStateSnapshot} {jobId : String}

theorem waitsAt_congr {id : String}
    (hsuspension : b.suspensions.lookup id = a.suspensions.lookup id)
    (hinvocations : b.toolInvocations = a.toolInvocations)
    : b.WaitsAt jobId id ↔ a.WaitsAt jobId id := by
  unfold WaitsAt ActiveIn Resumable InvocationKnown
  rw [hsuspension, hinvocations]

theorem waits_of_turn (h : Wrote .turn a b) : b.Waits jobId ↔ a.Waits jobId := by
  obtain ⟨hsuspensions, hinvocations⟩ := h.suspensions_eq
  refine exists_congr (fun id => waitsAt_congr ?_ hinvocations)
  rw [hsuspensions]

theorem waitsBeside_of_turn (h : Wrote .turn a b) (other : String)
    : b.WaitsBeside jobId other ↔ a.WaitsBeside jobId other := by
  obtain ⟨hsuspensions, hinvocations⟩ := h.suspensions_eq
  refine exists_congr (fun id => and_congr_right (fun _ => waitsAt_congr ?_ hinvocations))
  rw [hsuspensions]

theorem answerable_of_turn (h : Wrote .turn a b) (kind : SuspensionKind)
    (invocationId : Option String) (question : PendingQuestion)
    : b.Answerable kind invocationId question ↔ a.Answerable kind invocationId question := by
  unfold Answerable InvocationKnown
  rw [h.suspensions_eq.2]

theorem ended_of_note (h : Wrote .note a b) : b.Ended jobId ↔ a.Ended jobId := by
  unfold Ended
  rw [h.runs_eq]

theorem attended_of_note (h : Wrote .note a b) : b.Attended jobId ↔ a.Attended jobId := by
  exact or_congr (ended_of_note h) (waits_of_turn h.toTurn)

theorem Running.not_ended (h : a.Running jobId) : ¬a.Ended jobId := by
  obtain ⟨run, hrun, hstatus⟩ := h
  intro hended
  have hend := hended run hrun
  rw [hstatus] at hend
  rcases hend with hend | hend
  . cases hend
  . cases hend

theorem Running.attended_iff (h : a.Running jobId) : a.Attended jobId ↔ a.Waits jobId := by
  exact or_iff_right h.not_ended

theorem running_turn (now : UInt64) (inbound : InboundMessage) (source : String)
    (status : TurnStatus)
    : (a.apply (.turn now inbound source status)).Running inbound.id := by
  exact ⟨_, AList.lookup_insert .., rfl⟩

theorem lookup_runs_turn_ne (now : UInt64) {inbound : InboundMessage} (source : String)
    (status : TurnStatus) (h : jobId ≠ inbound.id)
    : (a.apply (.turn now inbound source status)).runs.lookup (runtimeRunId jobId)
        = a.runs.lookup (runtimeRunId jobId) := by
  have hne := mt runtimeRunId_inj.mp h
  change ((a.enterTurn _).insert (runtimeRunId inbound.id) _).lookup _ = _
  rw [AList.lookup_insert_ne hne]
  unfold enterTurn
  split
  . rfl
  . exact AList.lookup_insert_ne hne

theorem Running.turn (h : a.Running jobId) (hwrote : Wrote .turn a b) : b.Running jobId := by
  refine @Wrote.keeps .turn _ _ (fun snapshot => snapshot.Running jobId) ?_ hwrote h
  intro snapshot upsert hallowed hrunning
  cases upsert with
  | turn now inbound source status =>
    by_cases heq : jobId = inbound.id
    . subst heq
      exact running_turn ..
    . obtain ⟨run, hrun, hstatus⟩ := hrunning
      exact ⟨run, (lookup_runs_turn_ne now source status heq).trans hrun, hstatus⟩
  | turnOfRun => cases hallowed
  | suspension => cases hallowed
  | toolInvocation => cases hallowed
  | _ => exact hrunning

theorem lookup_turnOfRun (now : UInt64) (inbound : InboundMessage) (source : String)
    (status : TurnStatus) (runStatus : RunStatus)
    : ∃ run, (a.apply (.turnOfRun now inbound source status runStatus)).runs.lookup
          (runtimeRunId inbound.id) = some run
        ∧ run.status = runStatus := by
  exact ⟨_, AList.lookup_insert .., rfl⟩

theorem ended_turnOfRun (now : UInt64) (inbound : InboundMessage) (source : String)
    (status : TurnStatus)
    : (a.apply (.turnOfRun now inbound source status .completed)).Ended inbound.id := by
  obtain ⟨run, hrun, hstatus⟩ := a.lookup_turnOfRun now inbound source status .completed
  intro run' hrun'
  cases hrun.symm.trans hrun'
  exact .inl hstatus

structure ResolvesQuestion (questionId : String) (a b : RuntimeStateSnapshot) : Prop where
  runs : b.runs = a.runs
  toolInvocations : b.toolInvocations = a.toolInvocations
  others : ∀ id, id ≠ runtimeSuspensionId questionId
    → b.suspensions.lookup id = a.suspensions.lookup id
  resolved : ∃ record, b.suspensions.lookup (runtimeSuspensionId questionId) = some record
    ∧ record.status = .resolved

section ResolvesQuestion

variable {questionId : String}

theorem ResolvesQuestion.note {c : RuntimeStateSnapshot} (h : ResolvesQuestion questionId a b)
    (hwrote : Wrote .note b c)
    : ResolvesQuestion questionId a c := by
  obtain ⟨hsuspensions, hinvocations⟩ := hwrote.toTurn.suspensions_eq
  refine ⟨hwrote.runs_eq.trans h.runs, hinvocations.trans h.toolInvocations, ?_, ?_⟩
  . rw [hsuspensions]
    exact h.others
  . rw [hsuspensions]
    exact h.resolved

theorem resolves_apply (now : UInt64) (inbound : InboundMessage) {pending : PendingQuestion}
    (taskId invocationId : Option String) (kind : SuspensionKind)
    : ResolvesQuestion pending.questionId a
        (a.apply (.suspension now inbound pending taskId invocationId kind .resolved)) := by
  exact ⟨rfl, rfl, fun _ hne => AList.lookup_insert_ne hne, _, AList.lookup_insert .., rfl⟩

theorem ResolvesQuestion.status (h : ResolvesQuestion questionId a b)
    : (b.suspensions.lookup (runtimeSuspensionId questionId)).map SuspensionRecord.status
        = some .resolved := by
  obtain ⟨record, hlookup, hresolved⟩ := h.resolved
  rw [hlookup, Option.map_some, hresolved]

theorem ResolvesQuestion.attended_iff (h : ResolvesQuestion questionId a b)
    : b.Attended jobId ↔ a.SettledBeside jobId questionId := by
  have hended : b.Ended jobId ↔ a.Ended jobId := by
    unfold Ended
    rw [h.runs]
  refine or_congr hended ⟨?_, ?_⟩
  . rintro ⟨id, record, hactive, hresumable⟩
    have hne : id ≠ runtimeSuspensionId questionId := by
      rintro rfl
      obtain ⟨record', hlookup, hresolved⟩ := h.resolved
      cases hlookup.symm.trans hactive.1
      cases hresolved.symm.trans hactive.2.2
    exact ⟨id, hne, (waitsAt_congr (h.others id hne) h.toolInvocations).mp
      ⟨record, hactive, hresumable⟩⟩
  . rintro ⟨id, hne, hwaits⟩
    exact ⟨id, (waitsAt_congr (h.others id hne) h.toolInvocations).mpr hwaits⟩

end ResolvesQuestion

end Frame

section Asked

variable {snapshot : RuntimeStateSnapshot} (now : UInt64) (inbound : InboundMessage)
  (question : PendingQuestion) (taskId invocationId : Option String) (kind : SuspensionKind)

theorem rebuiltSourceKind_suspensionRecord_iff (status : SuspensionStatus)
    : rebuiltSourceKind
          (snapshot.suspensionRecord now inbound question taskId invocationId kind status)
          = .toolPermission
        ↔ kind = .toolPermission
          ∨ (question.rawQuestion.get "type").bind Value.asStr = some "tool_permission" := by
  have htype : (rawPayload inbound question).get "type" = question.rawQuestion.get "type" :=
    get_rawPayload_of_notMem inbound question (by decide)
  unfold rebuiltSourceKind suspensionRecord
  dsimp only
  rw [htype]
  split
  . next h => exact iff_of_true rfl h
  . next h =>
    refine iff_of_false ?_ h
    split
    . intro hkind
      cases hkind
    . intro hkind
      cases hkind

theorem resumable_suspensionRecord_iff (after : RuntimeStateSnapshot) (status : SuspensionStatus)
    : after.Resumable
          (snapshot.suspensionRecord now inbound question taskId invocationId kind status)
        ↔ after.Answerable kind invocationId question := by
  have huse : (rawPayload inbound question).get "tool_use_id"
      = question.rawQuestion.get "tool_use_id" :=
    get_rawPayload_of_notMem inbound question (by decide)
  have hknown : after.InvocationKnown invocationId (rawPayload inbound question)
      ↔ after.InvocationKnown invocationId question.rawQuestion := by
    unfold InvocationKnown
    rw [huse]
  exact imp_congr
    (rebuiltSourceKind_suspensionRecord_iff now inbound question taskId invocationId kind status)
    hknown

theorem waitsAt_suspension_ne (status : SuspensionStatus) (jobId : String) {id : String}
    (h : id ≠ runtimeSuspensionId question.questionId)
    : (snapshot.apply (.suspension now inbound question taskId invocationId kind status)).WaitsAt
          jobId id
        ↔ snapshot.WaitsAt jobId id := by
  apply waitsAt_congr
  . exact AList.lookup_insert_ne h
  . rfl

theorem waits_suspension_iff
    : (snapshot.apply (.suspension now inbound question taskId invocationId kind .active)).Waits
          inbound.id
        ↔ snapshot.Answerable kind invocationId question
          ∨ snapshot.WaitsBeside inbound.id (runtimeSuspensionId question.questionId) := by
  constructor
  . rintro ⟨id, record, hactive, hresumable⟩
    by_cases heq : id = runtimeSuspensionId question.questionId
    . subst heq
      have hlookup := (AList.lookup_insert ..).symm.trans hactive.1
      cases hlookup
      exact .inl ((resumable_suspensionRecord_iff ..).mp hresumable)
    . exact .inr ⟨id, heq, (waitsAt_suspension_ne now inbound question taskId invocationId kind _ _
        heq).mp ⟨record, hactive, hresumable⟩⟩
  . rintro (hanswerable | ⟨id, hne, hwaits⟩)
    . exact ⟨_, _, ⟨AList.lookup_insert .., rfl, rfl⟩,
        (resumable_suspensionRecord_iff ..).mpr hanswerable⟩
    . exact ⟨id, (waitsAt_suspension_ne now inbound question taskId invocationId kind _ _
        hne).mpr hwaits⟩

end Asked

section Invocation

variable {snapshot : RuntimeStateSnapshot} {questionId : String} {record : SuspensionRecord}
  {runId : String}

theorem suspensionOf_eq (hindexed : snapshot.Indexed questionId)
    (hactive : snapshot.ActiveIn runId (runtimeSuspensionId questionId) record)
    : (snapshot.suspensionOf questionId).filter (fun record => record.status = .active)
        = some record := by
  unfold suspensionOf
  rw [hindexed, Option.bind_some, hactive.1]
  exact Option.filter_some_pos (decide_eq_true hactive.2.2)

theorem rebuildToolInvocation_isSome_iff (hindexed : snapshot.Indexed questionId)
    (hactive : snapshot.ActiveIn runId (runtimeSuspensionId questionId) record)
    (hrun : (snapshot.runs.lookup runId).isSome)
    : (snapshot.rebuildToolInvocation questionId).isSome
        ↔ snapshot.InvocationKnown record.invocationId record.rawPayload := by
  obtain ⟨run, hrun⟩ := Option.isSome_iff_exists.mp hrun
  unfold rebuildToolInvocation InvocationKnown
  rw [suspensionOf_eq hindexed hactive]
  simp only [Option.bind_eq_bind, Option.bind_some]
  cases record.invocationId with
  | none => simp
  | some invocationId =>
    simp only [Option.bind_some]
    cases snapshot.toolInvocations.lookup invocationId with
    | none => simp
    | some invocation =>
      simp only [Option.bind_some]
      rw [hactive.2.1, hrun, Option.bind_some]
      simp only [Option.some.injEq, exists_eq_left']
      cases invocation.toolUseId.or ((record.rawPayload.get "tool_use_id").bind Value.asStr) with
      | none => exact Iff.rfl
      | some toolUseId => exact Iff.rfl

theorem jobId_rebuildToolInvocation {suspended : SuspendedToolInvocationState} {run : RunRecord}
    (hindexed : snapshot.Indexed questionId)
    (hactive : snapshot.ActiveIn runId (runtimeSuspensionId questionId) record)
    (hrun : snapshot.runs.lookup runId = some run)
    (h : snapshot.rebuildToolInvocation questionId = some suspended)
    : suspended.inbound.id = run.jobId := by
  unfold rebuildToolInvocation at h
  rw [suspensionOf_eq hindexed hactive] at h
  simp only [Option.bind_eq_bind, Option.bind_some, Option.bind_eq_some_iff] at h
  obtain ⟨_, _, _, _, run', hrun', _, _, hsuspended⟩ := h
  rw [hactive.2.1, hrun] at hrun'
  cases hrun'
  cases hsuspended
  rfl

end Invocation

end RuntimeStateSnapshot

open RuntimeStateSnapshot

namespace SuspensionCoordinator

variable (now : UInt64) (coordinator : SuspensionCoordinator)

def askedInvocation (question : PendingQuestion) : Option String :=
  (question.rawQuestion.get "invocation_id").bind Value.asStr

theorem waits_storeQuestion_iff (jobId : String) {question : PendingQuestion}
    {inbound : InboundMessage} (hinbound : question.inbound = some inbound)
    : (coordinator.storeQuestion now jobId question).runtimeState.Waits inbound.id
        ↔ coordinator.runtimeState.Answerable question.sourceKind.suspensionKind
            (askedInvocation question) question
          ∨ coordinator.runtimeState.WaitsBeside inbound.id
            (runtimeSuspensionId question.questionId) := by
  unfold storeQuestion
  dsimp only
  rw [hinbound]
  exact waits_suspension_iff ..

theorem waitsAt_storeToolInvocation (questionId : String) (state : SuspendedToolInvocationState)
    : (coordinator.storeToolInvocation now questionId state).runtimeState.WaitsAt state.inbound.id
        (runtimeSuspensionId questionId) := by
  refine ⟨_, ⟨AList.lookup_insert .., rfl, rfl⟩, (resumable_suspensionRecord_iff ..).mpr ?_⟩
  intro _
  have huse : ((toolPermissionPayload state).get "tool_use_id").bind Value.asStr
      = some state.suspension.suspendedTool.toolUseId := by
    unfold toolPermissionPayload
    simp
  refine ⟨_, AList.lookup_insert .., ?_⟩
  change (Option.or _ (((toolPermissionPayload state).get "tool_use_id").bind Value.asStr)).isSome
  rw [huse, Option.isSome_or]
  exact Bool.or_true _

theorem waitsAt_clearToolInvocation {jobId id questionId : String}
    (hne : id ≠ runtimeSuspensionId questionId)
    (h : coordinator.runtimeState.WaitsAt jobId id)
    : (coordinator.clearToolInvocation now questionId).runtimeState.WaitsAt jobId id := by
  unfold clearToolInvocation
  dsimp only
  split
  . exact h
  . exact (waitsAt_suspension_ne _ _ _ _ _ _ _ _ hne).mpr h

theorem waits_resuspendToolPermissionContinuation {nextQuestionId : String} (jobId : String)
    {pending : PendingQuestion} (hnext : nextQuestionId ≠ pending.questionId)
    (suspended : SuspendedToolInvocationState) (nextSuspension : AgenticLoopSuspension)
    : (coordinator.resuspendToolPermissionContinuation now nextQuestionId jobId pending suspended
        nextSuspension).runtimeState.Waits suspended.inbound.id := by
  refine ⟨runtimeSuspensionId nextQuestionId, ?_⟩
  apply waitsAt_clearToolInvocation _ _ (mt runtimeSuspensionId_inj.mp hnext)
  exact waitsAt_storeToolInvocation ..

theorem ended_finishToolPermissionContinuation (order : List String) (jobId : String)
    (pending : PendingQuestion) (suspended : SuspendedToolInvocationState)
    (loopResult : AgenticLoopResult)
    : (coordinator.finishToolPermissionContinuation now order jobId pending suspended
        loopResult).runtimeState.Ended suspended.inbound.id := by
  exact (ended_of_note ((Wrote.refl _ _).apply (.task ..) rfl)).mpr
    (ended_turnOfRun now suspended.inbound _ _)

theorem waits_registerPlanApproval (uuid : String) (inbound : InboundMessage)
    (opencodeSessionId : String) (format : PlanFormat) (proposal : PlanProposal)
    : (coordinator.registerPlanApproval now uuid inbound.id inbound opencodeSessionId format
        proposal).runtimeState.Waits inbound.id := by
  rw [registerPlanApproval_eq]
  refine (coordinator.waits_storeQuestion_iff now inbound.id rfl).mpr (.inl ?_)
  rintro (hkind | htype)
  . cases hkind
  . change (Value.get "type" (.object _)).bind Value.asStr = _ at htype
    simp at htype

theorem waits_registerSubtaskBlocked (uuid : String) (inbound : InboundMessage)
    (opencodeSessionId : String) (reason : SubtaskBlockedReason)
    : (coordinator.registerSubtaskBlocked now uuid inbound.id inbound opencodeSessionId
        reason).runtimeState.Waits inbound.id := by
  rw [registerSubtaskBlocked_eq]
  refine (coordinator.waits_storeQuestion_iff now inbound.id rfl).mpr (.inl ?_)
  rintro (hkind | htype)
  . cases hkind
  . cases reason with
    | _ =>
      change (Value.get "type" (.object _)).bind Value.asStr = _ at htype
      simp at htype

end SuspensionCoordinator

theorem SuspensionCoordinator.suspendedFor_eq_ok_iff {coordinator : SuspensionCoordinator}
    {pending : PendingQuestion} {suspended : SuspendedToolInvocationState}
    (hindexed : coordinator.runtimeState.Indexed pending.questionId)
    : (coordinator.suspendedFor pending).1 = .ok suspended
        ↔ coordinator.runtimeState.rebuildToolInvocation pending.questionId = some suspended := by
  unfold suspendedFor toolInvocationState
  rw [hindexed, Option.isSome_some, if_pos rfl]
  cases coordinator.runtimeState.rebuildToolInvocation pending.questionId with
  | none =>
    refine iff_of_false ?_ ?_
    . intro h
      cases h
    . intro h
      cases h
  | some found =>
    dsimp only
    rw [Except.ok.injEq, Option.some.injEq]

namespace CoreAgent

variable (agent : CoreAgent)

theorem acceptQuestionAnswer_cases (state : AgentState) (order : List String) (jobId : String)
    (answer : QuestionAnswerInput)
    : (∃ error accepted, agent.acceptQuestionAnswer state order jobId answer
            = (.error error, accepted)
          ∧ accepted.runtimeState = state.runtimeState)
        ∨ ∃ question inbound accepted, agent.acceptQuestionAnswer state order jobId answer
            = (.ok (question.answered answer (truncatePreview answer.answer 120), inbound), accepted)
          ∧ (state.toSuspensionCoordinator.questionState order jobId true).1 = some question
          ∧ question.questionId = answer.questionId
          ∧ (question.sourceKind = .toolPermission
            → accepted.runtimeState = state.runtimeState)
          ∧ (question.sourceKind ≠ .toolPermission
            → ResolvesQuestion answer.questionId state.runtimeState accepted.runtimeState) := by
  have hstate := state.toSuspensionCoordinator.runtimeState_questionState order jobId true
  unfold acceptQuestionAnswer SuspensionCoordinator.submitAnswer
  cases hread : state.toSuspensionCoordinator.questionState order jobId true with
  | mk found coordinator =>
    rw [hread] at hstate
    dsimp only at hstate
    cases found with
    | none => exact .inl ⟨_, _, rfl, hstate⟩
    | some question =>
      dsimp only
      rcases coordinator.acceptAnswer_spec agent.now jobId answer
          (truncatePreview answer.answer 120) question with
        ⟨error, after, haccept, hafter⟩ | ⟨after, haccept, hid, htool, hother⟩
      . rw [haccept]
        exact .inl ⟨_, _, rfl, hafter.trans hstate⟩
      . rw [haccept]
        dsimp only
        cases hinbound : (question.answered answer (truncatePreview answer.answer 120)).inbound with
        | none =>
          unfold SuspensionCoordinator.acceptAnswer at haccept
          rw [if_neg (not_not.mpr hid)] at haccept
          dsimp only at haccept
          rw [show question.inbound = none from hinbound] at haccept
          cases haccept
        | some inbound =>
          refine .inr ⟨question, inbound, _, rfl, rfl, hid, ?_, ?_⟩
          . exact fun hkind => (htool hkind).trans hstate
          . intro hkind
            obtain ⟨inbound', taskId, kind, description, hafter⟩ := hother hkind
            change ResolvesQuestion _ _ after.runtimeState
            rw [hafter, hstate]
            have hresolves := @resolves_apply state.runtimeState agent.now inbound'
              (question.answered answer (truncatePreview answer.answer 120)) taskId none kind
            rw [show (question.answered answer (truncatePreview answer.answer 120)).questionId
              = answer.questionId from hid] at hresolves
            exact hresolves.note ((Wrote.refl _ _).apply (.task ..) rfl)

theorem prepareToolPermissionResume_cases (coordinator : SuspensionCoordinator)
    (jobId : String) (pending : PendingQuestion) (uuid answer : String)
    : let prepared := agent.prepareToolPermissionResume coordinator jobId pending uuid answer
      (∃ error, prepared.outcome = .error error
          ∧ prepared.coordinator.runtimeState = coordinator.runtimeState)
        ∨ ∃ preparation, prepared.outcome = .ok preparation
          ∧ (coordinator.suspendedFor pending).1 = .ok preparation.suspended
          ∧ ResolvesQuestion pending.questionId coordinator.runtimeState
            prepared.coordinator.runtimeState := by
  have hstate := coordinator.runtimeState_suspendedFor pending
  unfold prepareToolPermissionResume
  cases hfound : coordinator.suspendedFor pending with
  | mk found fetched =>
    rw [hfound] at hstate
    dsimp only at hstate
    cases found with
    | error error => exact .inl ⟨_, rfl, hstate⟩
    | ok suspended =>
      dsimp only
      cases (agent.resumeAnswered suspended uuid answer).outcome with
      | error error => exact .inl ⟨_, rfl, hstate⟩
      | ok resumedMessages =>
        refine .inr ⟨_, rfl, rfl, ?_⟩
        change ResolvesQuestion _ _
          (fetched.resolveToolPermission agent.now jobId pending suspended).runtimeState
        rw [← hstate]
        exact (resolves_apply ..).note ((Wrote.refl _ _).apply (.task ..) rfl)

theorem prepareToolPermissionResume_of_denied {coordinator : SuspensionCoordinator}
    (jobId : String) {pending : PendingQuestion} (uuid : String) {answer : String}
    {suspended : SuspendedToolInvocationState}
    (h : (coordinator.suspendedFor pending).1 = .ok suspended) (hdenied : isAllow answer = false)
    : ∃ preparation,
        (agent.prepareToolPermissionResume coordinator jobId pending uuid answer).outcome
          = .ok preparation := by
  unfold prepareToolPermissionResume
  cases hfound : coordinator.suspendedFor pending with
  | mk found fetched =>
    rw [hfound] at h
    dsimp only at h
    subst h
    dsimp only
    unfold resumeAnswered
    rw [hdenied]
    exact ⟨_, rfl⟩

theorem wrote_continueSubmittedQuestionAnswer {state : AgentState} {format : PlanFormat}
    {uuid jobId : String} {latestSummaryStatus : Option String} {inbound : InboundMessage}
    {pending : PendingQuestion} {answer : QuestionAnswerInput}
    (h : pending.sourceKind ≠ .toolPermission)
    : Wrote .note state.runtimeState
        (agent.continueSubmittedQuestionAnswer state format uuid jobId latestSummaryStatus inbound
          pending answer).2.runtimeState := by
  unfold continueSubmittedQuestionAnswer
  cases hkind : pending.sourceKind with
  | upstreamQuestion => exact state.wrote_ensureRequirement ..
  | subtaskBlocked => exact state.wrote_ensureRequirement ..
  | toolPermission => exact absurd hkind h
  | planApproval => exact .refl _ _

theorem resolves_continueSubmittedQuestionAnswer {state : AgentState} (format : PlanFormat)
    (uuid jobId : String) (latestSummaryStatus : Option String) (inbound : InboundMessage)
    {pending : PendingQuestion} {answer : QuestionAnswerInput}
    {suspended : SuspendedToolInvocationState} (hkind : pending.sourceKind = .toolPermission)
    (hfound : (state.toSuspensionCoordinator.suspendedFor pending).1 = .ok suspended)
    (hdenied : isAllow (Text.trim answer.answer) = false)
    : ResolvesQuestion pending.questionId state.runtimeState
        (agent.continueSubmittedQuestionAnswer state format uuid jobId latestSummaryStatus inbound
          pending answer).2.runtimeState := by
  obtain ⟨preparation, hprepared⟩ :=
    agent.prepareToolPermissionResume_of_denied jobId uuid hfound hdenied
  unfold continueSubmittedQuestionAnswer
  rw [hkind]
  dsimp only
  rcases agent.prepareToolPermissionResume_cases state.toSuspensionCoordinator jobId pending uuid
      (Text.trim answer.answer) with ⟨error, herror, _⟩ | ⟨_, _, _, hresolves⟩
  . cases hprepared.symm.trans herror
  . exact hresolves

theorem submitQuestionAnswer_cases (state : AgentState) (format : PlanFormat)
    (order : List String) (uuid jobId : String) (latestSummaryStatus : Option String)
    (answer : QuestionAnswerInput)
    : let submitted := agent.submitQuestionAnswer state format order uuid jobId
          latestSummaryStatus answer
      submitted.2.runtimeState.suspensions = state.runtimeState.suspensions
        ∨ ∃ question, (state.toSuspensionCoordinator.questionState order jobId true).1
            = some question
          ∧ question.questionId = answer.questionId
          ∧ ResolvesQuestion answer.questionId state.runtimeState submitted.2.runtimeState
          ∧ (question.sourceKind = .toolPermission
            → state.runtimeState.Indexed answer.questionId
            → (state.runtimeState.rebuildToolInvocation answer.questionId).isSome) := by
  dsimp only
  rcases agent.acceptQuestionAnswer_cases state order jobId answer with
    ⟨error, accepted, haccept, hsame⟩ |
    ⟨question, inbound, accepted, haccept, hread, hid, htool, hother⟩
  . rw [agent.submitQuestionAnswer_of_error format uuid latestSummaryStatus haccept]
    left
    dsimp only
    rw [hsame]
  . rw [agent.submitQuestionAnswer_of_ok format uuid latestSummaryStatus haccept]
    dsimp only
    by_cases hkind : question.sourceKind = .toolPermission
    . have hsame := htool hkind
      unfold continueSubmittedQuestionAnswer
      rw [show (question.answered answer _).sourceKind = .toolPermission from hkind]
      dsimp only
      rcases agent.prepareToolPermissionResume_cases accepted.toSuspensionCoordinator jobId
          (question.answered answer (truncatePreview answer.answer 120)) uuid
          (Text.trim answer.answer) with
        ⟨error, _, hprepared⟩ | ⟨preparation, _, hfound, hresolves⟩
      . left
        rw [hprepared, hsame]
      . have hpending : (question.answered answer
            (truncatePreview answer.answer 120)).questionId = answer.questionId := hid
        rw [hpending, hsame] at hresolves
        refine .inr ⟨question, hread, hid, hresolves, ?_⟩
        intro _ hindexed
        rw [← hsame, ← hpending] at hindexed ⊢
        rw [(SuspensionCoordinator.suspendedFor_eq_ok_iff hindexed).mp hfound]
        rfl
    . refine .inr ⟨question, hread, hid, ?_, fun htool => absurd htool hkind⟩
      exact (hother hkind).note (agent.wrote_continueSubmittedQuestionAnswer hkind)

end CoreAgent

def AgentState.AnswerResolves (jobId id : String) (state : AgentState) : Prop :=
  ∀ (agent : CoreAgent) (format : PlanFormat), ∃ order uuid answer,
    order.Perm state.runtimeState.suspensions.keys
      ∧ ((agent.submitQuestionAnswer state format order uuid jobId none answer
        ).2.runtimeState.suspensions.lookup id).map SuspensionRecord.status = some .resolved

def denial (questionId : String) : QuestionAnswerInput where
  questionId := questionId
  source := "user"
  answerType := "text"
  answer := "deny"

theorem isAllow_denial (questionId : String)
    : isAllow (Text.trim (denial questionId).answer) = false := by
  change isAllow (Text.trim "deny") = false
  decide +kernel

section AnswerResolves

variable {state : AgentState} {jobId id : String} {record : SuspensionRecord}
  (h : Traceable state.runtimeState)

include h

theorem resumable_of_answerResolves
    (hactive : state.runtimeState.ActiveIn (runtimeRunId jobId) id record)
    {run : RunRecord} (hrun : state.runtimeState.runs.lookup (runtimeRunId jobId) = some run)
    (hanswers : state.AnswerResolves jobId id)
    : state.runtimeState.Resumable record := by
  obtain ⟨order, uuid, answer, _, hstatus⟩ := hanswers CoreAgent.idle AskedQuestion.noPlans
  obtain ⟨questionId, hquestion, rfl⟩ := h.consistent.questionId id record hactive.1
  have hindexed : state.runtimeState.Indexed questionId := by
    apply h.indexed
    rw [hactive.1]
    rfl
  -- the record is written over with the answer, so that its question is the one that is answered
  have hwritten : ∀ snapshot : RuntimeStateSnapshot,
      (snapshot.suspensions.lookup (runtimeSuspensionId questionId)).map SuspensionRecord.status
        = some .resolved
      → snapshot.suspensions.lookup (runtimeSuspensionId questionId)
        ≠ state.runtimeState.suspensions.lookup (runtimeSuspensionId questionId) := by
    intro snapshot hresolved hsame
    rw [hsame, hactive.1, Option.map_some, hactive.2.2] at hresolved
    cases hresolved
  rcases CoreAgent.idle.submitQuestionAnswer_cases state AskedQuestion.noPlans order uuid jobId none
      answer with hsame | ⟨question, hread, hid, hresolves, hfound⟩
  . exact absurd (congrArg (AList.lookup (runtimeSuspensionId questionId)) hsame)
      (hwritten _ hstatus)
  . have heq : questionId = answer.questionId := by
      by_contra hne
      exact hwritten _ hstatus (hresolves.others _ (mt runtimeSuspensionId_inj.mp hne))
    subst heq
    obtain ⟨run', record', hactive', hrebuilt⟩ :=
      h.consistent.activeIn_of_questionState (h.job jobId run hrun).2 hread
    rw [hid] at hactive'
    cases hactive.1.symm.trans hactive'.1
    intro htool
    have hkind : question.sourceKind = .toolPermission := by
      rw [hrebuilt]
      exact htool
    refine (rebuildToolInvocation_isSome_iff hindexed hactive ?_).mp (hfound hkind hindexed)
    rw [hrun]
    rfl

theorem answerResolves_of_resumable
    (hactive : state.runtimeState.ActiveIn (runtimeRunId jobId) id record)
    {run : RunRecord} (hrun : state.runtimeState.runs.lookup (runtimeRunId jobId) = some run)
    (hresumable : state.runtimeState.Resumable record)
    : state.AnswerResolves jobId id := by
  intro agent format
  obtain ⟨questionId, hquestion, rfl⟩ := h.consistent.questionId id record hactive.1
  have hindexed : state.runtimeState.Indexed questionId := by
    apply h.indexed
    rw [hactive.1]
    rfl
  obtain ⟨order, horder, hfind⟩ := exists_order hactive
  refine ⟨order, "", denial questionId, horder, ?_⟩
  have hread : (state.toSuspensionCoordinator.questionState order jobId true).1
      = some (questionOf jobId run questionId record) := by
    rw [AskedQuestion.questionState_of_known (h.job jobId run hrun).2,
      rebuildQuestion_eq h.consistent order jobId hrun, hfind, Option.bind_some, hquestion]
    rfl
  rcases agent.acceptQuestionAnswer_cases state order jobId (denial questionId) with
    ⟨error, accepted, haccept, _⟩ | ⟨question, inbound, accepted, haccept, hread', _, htool, hother⟩
  . have hid : (questionOf jobId run questionId record).questionId
        = (denial questionId).questionId := rfl
    obtain ⟨accepted', haccept', _⟩ := agent.acceptQuestionAnswer_eq_ok hread hid rfl
    cases haccept'.symm.trans haccept
  . cases hread.symm.trans hread'
    rw [agent.submitQuestionAnswer_of_ok format "" none haccept]
    dsimp only
    generalize hpending : (questionOf jobId run questionId record).answered (denial questionId)
      (truncatePreview (denial questionId).answer 120) = pending
    have hid : pending.questionId = questionId := by
      rw [← hpending]
      rfl
    have hsource : pending.sourceKind = rebuiltSourceKind record := by
      rw [← hpending]
      rfl
    by_cases hkind : rebuiltSourceKind record = .toolPermission
    . have hrebuilt := (rebuildToolInvocation_isSome_iff hindexed hactive (by rw [hrun]; rfl)).mpr
        (hresumable hkind)
      obtain ⟨suspended, hsuspended⟩ := Option.isSome_iff_exists.mp hrebuilt
      rw [← htool hkind, ← hid] at hindexed hsuspended
      have hfound := (SuspensionCoordinator.suspendedFor_eq_ok_iff hindexed).mpr hsuspended
      have hresolves := agent.resolves_continueSubmittedQuestionAnswer format "" jobId none inbound
        (hsource.trans hkind) hfound (isAllow_denial questionId)
      rw [hid] at hresolves
      exact hresolves.status
    . have hresolves := hother hkind
      rw [← hsource] at hkind
      exact (hresolves.note (agent.wrote_continueSubmittedQuestionAnswer hkind)).status

end AnswerResolves

def AgentState.NotStranded (jobId : String) (state : AgentState) : Prop :=
  state.runtimeState.Ended jobId
    ∨ ∃ id record, state.runtimeState.ActiveIn (runtimeRunId jobId) id record
      ∧ state.AnswerResolves jobId id

theorem AgentState.notStranded_iff {state : AgentState} (h : Traceable state.runtimeState)
    (jobId : String)
    : state.NotStranded jobId ↔ state.runtimeState.Attended jobId := by
  unfold NotStranded Attended Waits WaitsAt
  cases hrun : state.runtimeState.runs.lookup (runtimeRunId jobId) with
  | none =>
    have hended : state.runtimeState.Ended jobId := by
      intro run hlookup
      cases hrun.symm.trans hlookup
    exact iff_of_true (.inl hended) (.inl hended)
  | some run =>
    refine or_congr_right (exists_congr (fun id => exists_congr (fun record => ?_)))
    refine and_congr_right (fun hactive => ⟨?_, ?_⟩)
    . exact resumable_of_answerResolves h hactive hrun
    . exact answerResolves_of_resumable h hactive hrun

end AnimaAgent
