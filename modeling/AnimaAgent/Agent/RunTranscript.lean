import AnimaAgent.Agent.CallLimit

/-!
This module contains when the transcript of a run has the messages of its loops once and in their order.
A loop that waits for the user is appended as a whole, so that this is lost with the first permission
that the user is asked for.
-/

namespace AnimaAgent

namespace RuntimeStateSnapshot

theorem transcribed_congr {a b : RuntimeStateSnapshot} (h : a.transcript = b.transcript)
    (inbound : InboundMessage)
    : a.transcribed inbound = b.transcribed inbound := by
  unfold transcribed
  rw [h]

theorem transcribed_appendTranscriptMessages (now : UInt64) (other inbound : InboundMessage)
    (messages : List InternalMsg) (snapshot : RuntimeStateSnapshot)
    : (snapshot.appendTranscriptMessages now other messages).transcribed inbound
        = snapshot.transcribed inbound ++ if other.id = inbound.id then messages else [] := by
  induction messages generalizing snapshot with
  | nil => rw [ite_self, List.append_nil]; rfl
  | cons message rest ih =>
    have hfirst : (snapshot.appendTranscriptMessage now other message).transcribed inbound
        = snapshot.transcribed inbound ++ if other.id = inbound.id then [message] else [] := by
      unfold transcribed appendTranscriptMessage reduceEvent
      dsimp only
      rw [List.filter_append, List.map_append]
      congr 1
      by_cases h : other.id = inbound.id
      . rw [if_pos h, List.filter_cons_of_pos (by simp [h])]
        rfl
      . have hne : runtimeRunId other.id ≠ runtimeRunId inbound.id := mt runtimeRunId_inj.mp h
        rw [if_neg h, List.filter_cons_of_neg (by simp [hne])]
        rfl
    refine (ih _).trans ?_
    rw [hfirst]
    split
    . rw [List.append_assoc]
      rfl
    . rw [List.append_nil]

end RuntimeStateSnapshot

section Transcript

variable (now : UInt64) (coordinator : SuspensionCoordinator)

namespace SuspensionCoordinator

theorem transcript_clearQuestion (order : List String) (jobId : String)
    : (coordinator.clearQuestion now order jobId).runtimeState.transcript
        = coordinator.runtimeState.transcript := by
  unfold clearQuestion
  dsimp only
  split
  . rfl
  . split
    . rfl
    . rfl

theorem transcript_clearToolInvocation (questionId : String)
    : (coordinator.clearToolInvocation now questionId).runtimeState.transcript
        = coordinator.runtimeState.transcript := by
  unfold clearToolInvocation
  dsimp only
  split
  . rfl
  . rfl

theorem transcript_submitAnswer (order : List String) (jobId : String)
    (answer : QuestionAnswerInput) (answerSummary : String)
    : (coordinator.submitAnswer now order jobId answer answerSummary).2.runtimeState.transcript
        = coordinator.runtimeState.transcript := by
  unfold submitAnswer
  have hstate := coordinator.runtimeState_questionState order jobId true
  cases hquestion : coordinator.questionState order jobId true with
  | mk found read =>
    rw [hquestion] at hstate
    rw [← hstate]
    cases found with
    | none => rfl
    | some pending =>
      dsimp only
      unfold acceptAnswer
      split
      . rfl
      . dsimp only
        split
        . rfl
        . split
          . rfl
          . rfl

variable {now coordinator}

theorem transcribed_askToolPermission (source jobId questionId : String)
    (state : SuspendedToolInvocationState) (inbound : InboundMessage)
    : (coordinator.askToolPermission now source jobId questionId state).runtimeState.transcribed
          inbound
        = coordinator.runtimeState.transcribed inbound
          ++ if state.inbound.id = inbound.id then state.suspension.messages else [] := by
  rw [← RuntimeStateSnapshot.transcribed_appendTranscriptMessages now]
  exact RuntimeStateSnapshot.transcribed_congr rfl inbound

end SuspensionCoordinator

namespace CoreAgent

variable (agent : CoreAgent)

theorem transcript_prepareToolPermissionResume (jobId : String) (pending : PendingQuestion)
    (uuid answer : String)
    : (agent.prepareToolPermissionResume coordinator jobId pending uuid answer
          ).coordinator.runtimeState.transcript
        = coordinator.runtimeState.transcript := by
  have hread := congrArg RuntimeStateSnapshot.transcript
    (coordinator.runtimeState_suspendedFor pending)
  unfold prepareToolPermissionResume
  cases hsuspended : coordinator.suspendedFor pending with
  | mk found read =>
    rw [hsuspended] at hread
    cases found with
    | error error => exact hread
    | ok suspended =>
      dsimp only
      split
      . exact hread
      . exact hread

theorem transcribed_handleToolPermissionContinuationOutcome (order : List String)
    (nextQuestionId jobId : String) (pending : PendingQuestion)
    (suspended : SuspendedToolInvocationState) (outcome : AgenticLoopOutcome)
    (inbound : InboundMessage)
    : (agent.handleToolPermissionContinuationOutcome coordinator order nextQuestionId jobId pending
          suspended outcome).runtimeState.transcribed inbound
        = coordinator.runtimeState.transcribed inbound
          ++ if suspended.inbound.id = inbound.id then outcome.messages else [] := by
  unfold handleToolPermissionContinuationOutcome
  cases outcome with
  | completed loopResult =>
    rw [← RuntimeStateSnapshot.transcribed_appendTranscriptMessages agent.now]
    apply RuntimeStateSnapshot.transcribed_congr
    refine (SuspensionCoordinator.transcript_clearToolInvocation ..).trans ?_
    exact SuspensionCoordinator.transcript_clearQuestion ..
  | suspended nextSuspension =>
    refine (RuntimeStateSnapshot.transcribed_congr
      (SuspensionCoordinator.transcript_clearToolInvocation ..) inbound).trans ?_
    exact SuspensionCoordinator.transcribed_askToolPermission ..

variable (inbound : InboundMessage)

theorem transcribed_finalizeCompletedAgenticLoopRun (taskId : String)
    (loopResult : AgenticLoopResult)
    : (agent.finalizeCompletedAgenticLoopRun coordinator inbound taskId loopResult
          ).2.runtimeState.transcribed inbound
        = coordinator.runtimeState.transcribed inbound ++ skipInitialUser loopResult.messages := by
  refine (RuntimeStateSnapshot.transcribed_appendTranscriptMessages ..).trans ?_
  rw [if_pos rfl]

def completedMessages (outcome : Except AgenticLoopError AgenticLoopOutcome)
    : List InternalMsg :=
  match outcome with
  | .ok (.completed result) => result.messages
  | _ => []

def planAppended (autoApprove : Bool) (dispatch : String → Option TaskResult)
    (outcome : Except AgenticLoopError AgenticLoopOutcome)
    : List InternalMsg :=
  match outcome with
  | .ok (.completed result) =>
    if dispatch result.finalText = none then skipInitialUser result.messages else []
  | .ok (.suspended suspension) => if autoApprove then [] else suspension.messages
  | .error _ => []

theorem transcribed_runAgenticLoopForPlan (autoApprove : Bool)
    (dispatch : String → Option TaskResult) (taskId questionId opencodeSessionId : String)
    : (agent.runAgenticLoopForPlan coordinator inbound autoApprove dispatch taskId questionId
          opencodeSessionId).coordinator.runtimeState.transcribed inbound
        = coordinator.runtimeState.transcribed inbound
          ++ planAppended autoApprove dispatch
            ((agent.loopEnv (agent.loopConfig inbound opencodeSessionId)).runAgenticLoop
              [initialMsg inbound]).outcome := by
  unfold runAgenticLoopForPlan planAppended
  generalize (agent.loopEnv (agent.loopConfig inbound opencodeSessionId)).runAgenticLoop
    [initialMsg inbound] = loop
  dsimp only
  cases loop.outcome with
  | error error => exact (List.append_nil _).symm
  | ok outcome =>
    cases outcome with
    | completed loopResult =>
      dsimp only
      cases dispatch loopResult.finalText with
      | some result => exact (List.append_nil _).symm
      | none => exact transcribed_finalizeCompletedAgenticLoopRun _ _ _ taskId _
    | suspended suspension =>
      dsimp only
      cases autoApprove with
      | true => exact (List.append_nil _).symm
      | false =>
        refine (SuspensionCoordinator.transcribed_askToolPermission ..).trans ?_
        rw [if_pos rfl]
        rfl

theorem transcribed_autoResumeSuspendedTool (uuid taskId : String)
    (suspension : AgenticLoopSuspension) (config : AgenticLoopConfig)
    : (agent.autoResumeSuspendedTool coordinator inbound uuid taskId suspension config
          ).coordinator.runtimeState.transcribed inbound
        = coordinator.runtimeState.transcribed inbound
          ++ skipInitialUser (completedMessages
            (JobRun.approvedLoop agent uuid config suspension).outcome) := by
  unfold autoResumeSuspendedTool JobRun.approvedLoop
  rw [Traced.outcome_bind]
  dsimp only
  cases ((agent.loopEnv config).resumeSuspendedToolInvocation uuid suspension true).outcome with
  | error error => exact (List.append_nil _).symm
  | ok messages =>
    dsimp only
    change _ = _ ++ skipInitialUser (completedMessages
      ((agent.loopEnv config).continueAgenticLoop messages suspension.iterations
        suspension.compactCount).outcome)
    generalize (agent.loopEnv config).continueAgenticLoop messages suspension.iterations
      suspension.compactCount = loop
    cases loop.outcome with
    | error error => exact (List.append_nil _).symm
    | ok outcome =>
      cases outcome with
      | completed loopResult => exact transcribed_finalizeCompletedAgenticLoopRun _ _ _ taskId _
      | suspended nextSuspension => exact (List.append_nil _).symm

theorem transcribed_runAgenticLoopForFollowup (uuid taskId opencodeSessionId : String)
    (followupPrompt : String)
    : (agent.runAgenticLoopForFollowup coordinator inbound uuid taskId opencodeSessionId
          followupPrompt).coordinator.runtimeState.transcribed inbound
        = coordinator.runtimeState.transcribed inbound
          ++ skipInitialUser (completedMessages
            ((agent.loopEnv (agent.loopConfig inbound opencodeSessionId)).runAgenticLoop
              [followupMessage uuid followupPrompt]).outcome) := by
  unfold runAgenticLoopForFollowup
  generalize (agent.loopEnv (agent.loopConfig inbound opencodeSessionId)).runAgenticLoop
    [followupMessage uuid followupPrompt] = loop
  dsimp only
  cases loop.outcome with
  | error error => exact (List.append_nil _).symm
  | ok outcome =>
    cases outcome with
    | completed loopResult => exact transcribed_finalizeCompletedAgenticLoopRun _ _ _ taskId _
    | suspended suspension => exact (List.append_nil _).symm

end CoreAgent

end Transcript

def InternalMsg.withoutId (msg : InternalMsg) : InternalMsg :=
  { msg with messageId := "" }

namespace JobRun

variable (job : JobRun)

/-- The transcript has what the loops have recorded, once and in the same order. -/
def Transcribed : Prop :=
  (job.coordinator.runtimeState.transcribed job.inbound).map InternalMsg.withoutId
    = job.recorded.map InternalMsg.withoutId

/--
The first loop waits for no user, is not executed as a plan and fails at its first request if at all,
a loop that is approved does not fail, an answer resumes no loop that has messages or fails, and no
loop follows up.
-/
def TranscribesOnce : CoreAgent × JobAction → Prop
  | (agent, .start autoApprove dispatch _ _ opencodeSessionId) =>
    match (job.firstLoop agent opencodeSessionId).outcome with
    | .ok (.completed result) => dispatch result.finalText = none
    | .ok (.suspended _) => autoApprove = true
    | .error _ => callCount (job.firstLoop agent opencodeSessionId).events ≤ 1
  | (agent, .autoResume uuid _) => ∀ config suspension error,
    job.approving = some (config, suspension)
      → (approvedLoop agent uuid config suspension).outcome ≠ .error error
  | (agent, .answer order uuid _ answer) => ∀ pending coordinator preparation,
    job.acceptPermission agent order answer = (some pending, coordinator)
      → job.resumedLoop agent coordinator pending uuid (Text.trim answer.answer) = some preparation
      → preparation.suspended.suspension.messages = []
        ∧ ∀ error, (agent.continueResumed preparation).outcome ≠ .error error
  | (_, .followUp ..) => False
  | _ => True

structure Looped : Prop where
  new : job.phase = .new → job.recorded = [] ∧ job.approving = none
  approving : ∀ config suspension, job.approving = some (config, suspension)
    → config.compact = none ∧ NoAssistantToolUseId suspension.messages
      ∧ ∃ added, added ≠ [] ∧ suspension.messages = CoreAgent.initialMsg job.inbound :: added

theorem noAssistantToolUseId_initialMsg (inbound : InboundMessage)
    : NoAssistantToolUseId [CoreAgent.initialMsg inbound] := by
  intro msg hmem _
  rw [List.mem_singleton.mp hmem]
  rfl

variable {job}

theorem firstLoop_messages {agent : CoreAgent} {opencodeSessionId : String}
    {outcome : AgenticLoopOutcome}
    (h : (job.firstLoop agent opencodeSessionId).outcome = .ok outcome)
    : ∃ added, added ≠ [] ∧ NoAssistantToolUseId outcome.messages
        ∧ outcome.messages = CoreAgent.initialMsg job.inbound :: added := by
  have hno := noAssistantToolUseId_initialMsg job.inbound
  obtain ⟨added, hadded, hhistory, hmessages⟩ :=
    LoopEnv.runAgenticLoop_adds _ rfl hno (Nat.zero_lt_succ 9) h
  refine ⟨added, hadded, ?_, hmessages⟩
  rw [hmessages]
  exact hno.append (LoopMsg.noAssistantToolUseId hhistory)

theorem resumed_noAssistantToolUseId {messages : List InternalMsg}
    (h : NoAssistantToolUseId messages) {toolUseId : String} {result : InternalMsg}
    (hresult : IsResultMsg toolUseId result)
    : NoAssistantToolUseId (messages ++ [result]) := by
  refine h.append ?_
  intro msg hmem hrole
  rw [List.mem_singleton.mp hmem, hresult.role] at hrole
  cases hrole

theorem approvedLoop_messages {agent : CoreAgent} {uuid : String} {config : AgenticLoopConfig}
    {suspension : AgenticLoopSuspension} {outcome : AgenticLoopOutcome}
    (hcompact : config.compact = none) (hno : NoAssistantToolUseId suspension.messages)
    (h : (approvedLoop agent uuid config suspension).outcome = .ok outcome)
    : NoAssistantToolUseId outcome.messages
        ∧ ∃ added, outcome.messages = suspension.messages ++ added := by
  obtain ⟨messages, hmessages, houtcome⟩ := Traced.outcome_bind_eq_ok.mp h
  obtain ⟨result, rfl, hresult⟩ := LoopEnv.resume_eq_ok _ hmessages
  have hresumed := resumed_noAssistantToolUseId hno hresult
  obtain ⟨added, hhistory, hall⟩ :=
    LoopEnv.continueAgenticLoop_adds (agent.loopEnv config) hcompact hresumed houtcome
  constructor
  . rw [hall]
    exact hresumed.append (LoopMsg.noAssistantToolUseId hhistory)
  . exact ⟨[result] ++ added, by rw [hall, List.append_assoc]⟩

theorem firstLoop_failed {agent : CoreAgent} {opencodeSessionId : String} {error : AgenticLoopError}
    (h : (job.firstLoop agent opencodeSessionId).outcome = .error error)
    : (recordedMessages [CoreAgent.initialMsg job.inbound]
          (job.firstLoop agent opencodeSessionId)).tail = []
        ↔ callCount (job.firstLoop agent opencodeSessionId).events ≤ 1 := by
  obtain ⟨added, hlast, hadded⟩ := LoopEnv.iterate_failed_adds
    (agent.loopEnv (agent.loopConfig job.inbound opencodeSessionId)) rfl
    (noAssistantToolUseId_initialMsg job.inbound) _ h
  rw [recordedMessages_of_error h hlast]
  exact hadded

theorem approvedLoop_failed {agent : CoreAgent} {uuid : String} {config : AgenticLoopConfig}
    {suspension : AgenticLoopSuspension} {error : AgenticLoopError}
    (hcompact : config.compact = none) (hno : NoAssistantToolUseId suspension.messages)
    (h : (approvedLoop agent uuid config suspension).outcome = .error error)
    : suspension.messages
        <+: recordedMessages suspension.messages (approvedLoop agent uuid config suspension) := by
  have hnone : ((agent.loopEnv config).resumeSuspendedToolInvocation uuid suspension
      true).events.filterMap LoopEvent.requested? = [] := by
    apply List.eq_nil_of_length_eq_zero
    rw [← callCount_eq_length]
    exact LoopEnv.callCount_resumeSuspendedToolInvocation ..
  unfold recordedMessages
  rw [h]
  unfold approvedLoop at h ⊢
  dsimp only
  cases hresumed : ((agent.loopEnv config).resumeSuspendedToolInvocation uuid suspension
      true).outcome with
  | error error' =>
    rw [Traced.events_bind_of_error _ hresumed, hnone]
    exact List.prefix_refl _
  | ok messages =>
    rw [Traced.outcome_bind_of_ok _ hresumed] at h
    rw [Traced.events_bind_of_ok _ hresumed, List.filterMap_append, hnone, List.nil_append]
    obtain ⟨result, rfl, hresult⟩ := LoopEnv.resume_eq_ok _ hresumed
    obtain ⟨added, hlast, _⟩ := LoopEnv.iterate_failed_adds (agent.loopEnv config) hcompact
      (resumed_noAssistantToolUseId hno hresult) _ h
    unfold LoopEnv.continueAgenticLoop
    rw [hlast]
    exact ⟨[result] ++ added, (List.append_assoc ..).symm⟩

theorem resumedLoop_eq_some {agent : CoreAgent} {coordinator : SuspensionCoordinator}
    {pending : PendingQuestion} {uuid answer : String}
    {preparation : ToolPermissionResumePreparation}
    (h : job.resumedLoop agent coordinator pending uuid answer = some preparation)
    : ∃ result, preparation.resumedMessages = preparation.suspended.suspension.messages ++ [result]
        := by
  unfold resumedLoop CoreAgent.prepareToolPermissionResume at h
  split at h
  . cases h
  . next hprepared =>
    split at h
    . cases h
      split at hprepared
      . cases hprepared
      . dsimp only at hprepared
        split at hprepared
        . cases hprepared
        . next hresumed =>
          cases hprepared
          obtain ⟨result, hmessages, _⟩ := LoopEnv.resume_eq_ok _ hresumed
          exact ⟨result, hmessages⟩
    . cases h

theorem continueResumed_recorded {agent : CoreAgent} {preparation : ToolPermissionResumePreparation}
    {result : InternalMsg}
    (hresumed : preparation.resumedMessages = preparation.suspended.suspension.messages ++ [result])
    {error : AgenticLoopError} (h : (agent.continueResumed preparation).outcome = .error error)
    : preparation.suspended.suspension.messages.length
        < (recordedMessages preparation.resumedMessages (agent.continueResumed preparation)).length
        := by
  obtain ⟨messages, hlast, hle⟩ := LoopEnv.iterate_failed (agent.loopEnv preparation.config) _ _ h
  rw [recordedMessages_of_error h hlast]
  rw [hresumed, List.length_append] at hle
  exact hle

theorem continueResumed_messages_ne_nil {agent : CoreAgent}
    {preparation : ToolPermissionResumePreparation} {result : InternalMsg}
    (hresumed : preparation.resumedMessages = preparation.suspended.suspension.messages ++ [result])
    {outcome : AgenticLoopOutcome} (h : (agent.continueResumed preparation).outcome = .ok outcome)
    : outcome.messages ≠ [] := by
  refine LoopEnv.continueAgenticLoop_messages_ne_nil _ ?_ _ _ outcome h
  rw [hresumed]
  exact List.append_ne_nil_of_right_ne_nil _ (List.cons_ne_nil _ _)

def resumeAppended (outcome : Except AgenticLoopError AgenticLoopOutcome) : List InternalMsg :=
  match outcome with
  | .ok outcome => outcome.messages
  | .error _ => []

theorem transcribed_resume (agent : CoreAgent) (coordinator : SuspensionCoordinator)
    (order : List String) (uuid nextQuestionId answer : String) (pending : PendingQuestion)
    : (job.resume agent coordinator order uuid nextQuestionId answer pending
          ).coordinator.runtimeState.transcribed job.inbound
        = coordinator.runtimeState.transcribed job.inbound
          ++ match job.resumedLoop agent coordinator pending uuid answer with
            | some preparation => resumeAppended (agent.continueResumed preparation).outcome
            | none => [] := by
  have hprepared := RuntimeStateSnapshot.transcribed_congr
    (@CoreAgent.transcript_prepareToolPermissionResume coordinator agent job.inbound.id pending uuid
      answer) job.inbound
  unfold resume CoreAgent.resumeSuspendedToolPermission resumedLoop
  dsimp only
  cases (agent.prepareToolPermissionResume coordinator job.inbound.id pending uuid answer).outcome
    with
  | error error =>
    dsimp only
    rw [hprepared, List.append_nil]
  | ok preparation =>
    dsimp only
    by_cases hjob : preparation.suspended.inbound.id = job.inbound.id
    . rw [if_pos hjob]
      dsimp only
      unfold resumeAppended
      cases (agent.continueResumed preparation).outcome with
      | error error =>
        dsimp only
        rw [hprepared, List.append_nil]
      | ok outcome =>
        dsimp only
        rw [agent.transcribed_handleToolPermissionContinuationOutcome, hprepared, if_pos hjob]
    . rw [if_neg hjob, List.append_nil]
      cases (agent.continueResumed preparation).outcome with
      | error error => exact hprepared
      | ok outcome =>
        dsimp only
        rw [agent.transcribed_handleToolPermissionContinuationOutcome, hprepared, if_neg hjob,
          List.append_nil]

theorem transcribed_acceptPermission (job : JobRun) (agent : CoreAgent) (order : List String)
    (answer : QuestionAnswerInput)
    : (job.acceptPermission agent order answer).2.runtimeState.transcribed job.inbound
        = job.coordinator.runtimeState.transcribed job.inbound := by
  have htranscript := job.coordinator.transcript_submitAnswer agent.now order job.inbound.id answer
    (truncatePreview answer.answer 120)
  unfold acceptPermission
  cases hsubmit : job.coordinator.submitAnswer agent.now order job.inbound.id answer
      (truncatePreview answer.answer 120) with
  | mk result coordinator =>
    rw [hsubmit] at htranscript
    cases result with
    | error error => exact RuntimeStateSnapshot.transcribed_congr htranscript job.inbound
    | ok pending => exact RuntimeStateSnapshot.transcribed_congr htranscript job.inbound

theorem Transcribed.iff_of_append {job job' : JobRun} (h : job.Transcribed)
    (appended added : List InternalMsg)
    (htranscribed : job'.coordinator.runtimeState.transcribed job'.inbound
      = job.coordinator.runtimeState.transcribed job.inbound ++ appended)
    (hrecorded : job'.recorded = job.recorded ++ added)
    : job'.Transcribed ↔ appended.map InternalMsg.withoutId = added.map InternalMsg.withoutId := by
  unfold Transcribed at h ⊢
  rw [htranscribed, hrecorded, List.map_append, List.map_append, h]
  exact List.append_right_inj _

theorem map_withoutId_ne_of_length {as bs : List InternalMsg} (h : as.length ≠ bs.length)
    : as.map InternalMsg.withoutId ≠ bs.map InternalMsg.withoutId := by
  intro heq
  apply h
  have := congrArg List.length heq
  rw [List.length_map, List.length_map] at this
  exact this

theorem start_transcribed_iff {agent : CoreAgent} (h : job.Transcribed) (autoApprove : Bool)
    (dispatch : String → Option TaskResult) (taskId questionId opencodeSessionId : String)
    : (job.start agent autoApprove dispatch taskId questionId opencodeSessionId).Transcribed
        ↔ job.TranscribesOnce
          (agent, .start autoApprove dispatch taskId questionId opencodeSessionId) := by
  rw [h.iff_of_append _ _ (agent.transcribed_runAgenticLoopForPlan ..) rfl]
  unfold TranscribesOnce
  dsimp only
  change (CoreAgent.planAppended autoApprove dispatch
      (job.firstLoop agent opencodeSessionId).outcome).map _ = _ ↔ _
  have hmessages := @firstLoop_messages job agent opencodeSessionId
  have hfailed := @firstLoop_failed job agent opencodeSessionId
  unfold laterMessages
  cases hloop : (job.firstLoop agent opencodeSessionId).outcome with
  | error error =>
    dsimp only
    rw [← hfailed hloop]
    change [] = List.map _ _ ↔ _
    rw [eq_comm, List.map_eq_nil_iff]
  | ok outcome =>
    obtain ⟨added, hadded, _, hall⟩ := hmessages hloop
    unfold CoreAgent.planAppended
    rw [recordedMessages_of_ok hloop, hall, List.tail_cons]
    cases outcome with
    | completed result =>
      change result.messages = _ at hall
      dsimp only
      rw [hall, show CoreAgent.skipInitialUser (CoreAgent.initialMsg job.inbound :: added) = added
        from rfl]
      by_cases hdispatch : dispatch result.finalText = none
      . rw [if_pos hdispatch]
        exact iff_of_true rfl hdispatch
      . rw [if_neg hdispatch]
        refine iff_of_false (map_withoutId_ne_of_length ?_) hdispatch
        exact fun hlength => hadded (List.length_eq_zero_iff.mp hlength.symm)
    | suspended suspension =>
      change suspension.messages = _ at hall
      cases autoApprove with
      | true => exact iff_of_true rfl rfl
      | false =>
        refine iff_of_false (map_withoutId_ne_of_length ?_) Bool.false_ne_true
        dsimp only
        rw [if_neg Bool.false_ne_true, hall, List.length_cons]
        omega

theorem autoResume_transcribed_iff {agent : CoreAgent} (hlooped : job.Looped) (h : job.Transcribed)
    {config : AgenticLoopConfig} {suspension : AgenticLoopSuspension}
    (happroving : job.approving = some (config, suspension)) (uuid taskId : String)
    : (job.autoResume agent config suspension uuid taskId).Transcribed
        ↔ job.TranscribesOnce (agent, .autoResume uuid taskId) := by
  obtain ⟨hcompact, hno, first, hne, hfirst⟩ := hlooped.approving config suspension happroving
  rw [h.iff_of_append _ _ (agent.transcribed_autoResumeSuspendedTool ..) rfl]
  unfold TranscribesOnce laterMessages
  dsimp only
  cases hloop : (approvedLoop agent uuid config suspension).outcome with
  | error error =>
    refine iff_of_false (map_withoutId_ne_of_length ?_)
      (fun hguard => hguard config suspension error happroving hloop)
    have hle := (approvedLoop_failed hcompact hno hloop).length_le
    have hpos := List.length_pos_iff.mpr hne
    rw [hfirst, List.length_cons] at hle
    change 0 ≠ List.length (List.tail _)
    rw [List.length_tail]
    rw [hfirst]
    omega
  | ok outcome =>
    refine iff_of_true ?_ ?_
    . obtain ⟨_, added, hall⟩ := approvedLoop_messages hcompact hno hloop
      cases outcome with
      | suspended nextSuspension => rfl
      | completed result =>
        change result.messages = _ at hall
        unfold CoreAgent.completedMessages
        dsimp only
        rw [recordedMessages_of_ok hloop]
        change _ = List.map _ result.messages.tail
        rw [hall, hfirst]
        rfl
    . intro config' suspension' error happroving' hloop'
      rw [happroving] at happroving'
      cases happroving'
      rw [hloop] at hloop'
      cases hloop'

theorem resume_transcribed_iff {agent : CoreAgent} {coordinator : SuspensionCoordinator}
    (h : job.Transcribed)
    (haccepted : coordinator.runtimeState.transcribed job.inbound
      = job.coordinator.runtimeState.transcribed job.inbound)
    (order : List String) (uuid nextQuestionId answer : String) (pending : PendingQuestion)
    : (job.resume agent coordinator order uuid nextQuestionId answer pending).Transcribed
        ↔ ∀ preparation,
          job.resumedLoop agent coordinator pending uuid answer = some preparation
            → preparation.suspended.suspension.messages = []
              ∧ ∀ error, (agent.continueResumed preparation).outcome ≠ .error error := by
  have hresume := job.transcribed_resume agent coordinator order uuid nextQuestionId answer pending
  rw [haccepted] at hresume
  unfold resumeAppended at hresume
  cases hresumed : job.resumedLoop agent coordinator pending uuid answer with
  | none =>
    rw [hresumed] at hresume
    refine iff_of_true ?_ (by rintro preparation ⟨⟩)
    rw [h.iff_of_append _ [] hresume]
    unfold resume
    rw [hresumed, List.append_nil]
  | some preparation =>
    obtain ⟨result, hmessages⟩ := resumedLoop_eq_some hresumed
    rw [hresumed] at hresume
    rw [h.iff_of_append _ ((recordedMessages preparation.resumedMessages
      (agent.continueResumed preparation)).drop preparation.suspended.suspension.messages.length)
      hresume (by unfold resume; rw [hresumed])]
    have hguard : (∀ preparation', some preparation = some preparation'
        → preparation'.suspended.suspension.messages = []
          ∧ ∀ error, (agent.continueResumed preparation').outcome ≠ .error error)
        ↔ preparation.suspended.suspension.messages = []
          ∧ ∀ error, (agent.continueResumed preparation).outcome ≠ .error error := by
      constructor
      . exact fun hguard => hguard preparation rfl
      . rintro hguard preparation' ⟨⟩
        exact hguard
    rw [hguard]
    cases hloop : (agent.continueResumed preparation).outcome with
    | error error =>
      refine iff_of_false (map_withoutId_ne_of_length ?_) (fun hguard => hguard.2 error rfl)
      have hlt := continueResumed_recorded hmessages hloop
      dsimp only
      rw [hloop, List.length_drop]
      change 0 ≠ _
      omega
    | ok outcome =>
      have hpos := List.length_pos_iff.mpr (continueResumed_messages_ne_nil hmessages hloop)
      dsimp only
      rw [recordedMessages_of_ok hloop, hloop]
      constructor
      . intro heq
        refine ⟨?_, by rintro error ⟨⟩⟩
        by_contra hsuspension
        refine map_withoutId_ne_of_length ?_ heq
        have := List.length_pos_iff.mpr hsuspension
        dsimp only
        rw [List.length_drop]
        omega
      . rintro ⟨hsuspension, _⟩
        rw [hsuspension]
        rfl

theorem answer_transcribed_iff {agent : CoreAgent} (h : job.Transcribed) (order : List String)
    (uuid nextQuestionId : String) (answer : QuestionAnswerInput)
    : (job.answer agent order uuid nextQuestionId answer).Transcribed
        ↔ job.TranscribesOnce (agent, .answer order uuid nextQuestionId answer) := by
  have haccepted := job.transcribed_acceptPermission agent order answer
  unfold JobRun.answer TranscribesOnce
  dsimp only
  cases haccept : job.acceptPermission agent order answer with
  | mk found coordinator =>
    rw [haccept] at haccepted
    dsimp only at haccepted ⊢
    cases found with
    | none =>
      refine iff_of_true ?_ (by rintro pending coordinator' preparation ⟨⟩)
      unfold Transcribed at h ⊢
      dsimp only
      rw [haccepted]
      exact h
    | some pending =>
      dsimp only
      rw [resume_transcribed_iff h haccepted]
      constructor
      . rintro hguard pending' coordinator' preparation ⟨⟩
        exact hguard preparation
      . exact fun hguard preparation => hguard pending coordinator preparation rfl

theorem followUp_not_transcribed {agent : CoreAgent} (h : job.Transcribed)
    (uuid taskId opencodeSessionId followupPrompt : String)
    : ¬(job.followUp agent uuid taskId opencodeSessionId followupPrompt).Transcribed := by
  rw [h.iff_of_append _ _ (agent.transcribed_runAgenticLoopForFollowup ..) rfl]
  change (CoreAgent.skipInitialUser (CoreAgent.completedMessages
    (job.followupLoop agent uuid opencodeSessionId followupPrompt).outcome)).map _ ≠ _
  have hno : NoAssistantToolUseId [followupMessage uuid followupPrompt] := by
    intro msg hmem _
    rw [List.mem_singleton.mp hmem]
    rfl
  apply map_withoutId_ne_of_length
  cases hloop : (job.followupLoop agent uuid opencodeSessionId followupPrompt).outcome with
  | error error =>
    obtain ⟨added, hlast, _⟩ := LoopEnv.iterate_failed_adds
      (agent.loopEnv (agent.loopConfig job.inbound opencodeSessionId)) rfl hno _ hloop
    rw [recordedMessages_of_error hloop hlast]
    exact Nat.zero_ne_add_one _
  | ok outcome =>
    obtain ⟨added, _, _, hall⟩ := LoopEnv.runAgenticLoop_adds _ rfl hno (Nat.zero_lt_succ 9) hloop
    rw [recordedMessages_of_ok hloop, hall]
    cases outcome with
    | suspended suspension => exact Nat.zero_ne_add_one _
    | completed result =>
      change result.messages = _ :: added at hall
      unfold CoreAgent.completedMessages
      dsimp only
      rw [hall, show CoreAgent.skipInitialUser (followupMessage uuid followupPrompt :: added)
        = added from rfl]
      exact (Nat.lt_succ_self _).ne

theorem jobStep_transcribed_iff {job job' : JobRun} (hlooped : job.Looped) (h : job.Transcribed)
    {action : CoreAgent × JobAction} (hstep : jobStep job action = some job')
    : job'.Transcribed ↔ job.TranscribesOnce action := by
  obtain ⟨agent, action⟩ := action
  have hcases := jobStep_eq_some hstep
  cases action with
  | receive uuid =>
    obtain ⟨hphase, rfl⟩ := hcases
    refine iff_of_true ?_ trivial
    obtain ⟨hnone, _⟩ := hlooped.new hphase
    unfold Transcribed at h ⊢
    rw [hnone, List.map_nil, List.map_eq_nil_iff] at h
    unfold receive
    dsimp only
    refine (congrArg (List.map _)
      (RuntimeStateSnapshot.transcribed_appendTranscriptMessages ..)).trans ?_
    rw [if_pos rfl]
    change ((job.coordinator.runtimeState.transcribed job.inbound) ++ _).map _ = _
    rw [h]
    rfl
  | start autoApprove dispatch taskId questionId opencodeSessionId =>
    obtain ⟨_, rfl⟩ := hcases
    exact start_transcribed_iff h autoApprove dispatch taskId questionId opencodeSessionId
  | autoResume uuid taskId =>
    obtain ⟨config, suspension, happroving, rfl⟩ := hcases
    exact autoResume_transcribed_iff hlooped h happroving uuid taskId
  | answer order uuid nextQuestionId answer =>
    obtain ⟨_, rfl⟩ := hcases
    exact answer_transcribed_iff h order uuid nextQuestionId answer
  | followUp uuid taskId opencodeSessionId followupPrompt =>
    obtain ⟨_, rfl⟩ := hcases
    exact iff_of_false (followUp_not_transcribed h uuid taskId opencodeSessionId followupPrompt) id
  | note message =>
    obtain ⟨_, rfl⟩ := hcases
    refine iff_of_true ?_ trivial
    rw [h.iff_of_append [message] [message] ?_ rfl]
    exact (RuntimeStateSnapshot.transcribed_appendTranscriptMessages ..).trans
      (congrArg _ (if_pos rfl))
  | meanwhile coordinator =>
    obtain ⟨hsame, rfl⟩ := hcases
    refine iff_of_true ?_ trivial
    unfold Transcribed at h ⊢
    dsimp only
    rw [hsame]
    exact h

theorem looped_new (inbound : InboundMessage) : (JobRun.new inbound).Looped := by
  refine ⟨fun _ => ⟨rfl, rfl⟩, ?_⟩
  intro config suspension h
  cases h

theorem Looped.jobStep {job job' : JobRun} (h : job.Looped) {action : CoreAgent × JobAction}
    (hstep : jobStep job action = some job')
    : job'.Looped := by
  obtain ⟨agent, action⟩ := action
  have hcases := jobStep_eq_some hstep
  cases action with
  | receive uuid =>
    obtain ⟨_, rfl⟩ := hcases
    exact ⟨by rintro ⟨⟩, h.approving⟩
  | start autoApprove dispatch taskId questionId opencodeSessionId =>
    obtain ⟨_, rfl⟩ := hcases
    refine ⟨by rintro ⟨⟩, ?_⟩
    intro config suspension happroving
    unfold start returned at happroving
    dsimp only at happroving
    split at happroving
    . cases happroving
    . next hnext =>
      cases happroving
      obtain ⟨added, hne, hno, hall⟩ := firstLoop_messages (firstLoop_of_autoResume _ _ _ hnext)
      exact ⟨rfl, hno, added, hne, hall⟩
  | autoResume uuid taskId =>
    obtain ⟨config, suspension, happroving, rfl⟩ := hcases
    obtain ⟨hcompact, hno, first, hne, hfirst⟩ := h.approving config suspension happroving
    constructor
    . intro hnew
      rw [(h.new hnew).2] at happroving
      cases happroving
    . intro config' suspension' happroving'
      unfold autoResume returned at happroving'
      dsimp only at happroving'
      split at happroving'
      . cases happroving'
      . next hnext =>
        cases happroving'
        obtain ⟨hno', added, hall⟩ :=
          approvedLoop_messages hcompact hno (approvedLoop_of_autoResume _ _ hnext)
        refine ⟨hcompact, hno', first ++ added, List.append_ne_nil_of_left_ne_nil hne _, ?_⟩
        change suspension'.messages = _ at hall
        rw [hall, hfirst]
        rfl
  | answer order uuid nextQuestionId answer =>
    obtain ⟨hphase, rfl⟩ := hcases
    unfold JobRun.answer
    split
    . exact ⟨h.new, h.approving⟩
    . exact ⟨fun hnew => absurd (hphase.symm.trans hnew) (by decide), h.approving⟩
  | followUp uuid taskId opencodeSessionId followupPrompt =>
    obtain ⟨hphase, rfl⟩ := hcases
    exact ⟨fun hnew => absurd (hphase.symm.trans hnew) (by decide), h.approving⟩
  | note message =>
    obtain ⟨hphase, rfl⟩ := hcases
    exact ⟨fun hnew => absurd hnew hphase, h.approving⟩
  | meanwhile coordinator =>
    obtain ⟨_, rfl⟩ := hcases
    exact ⟨h.new, h.approving⟩

/--
The transcript of a run has the messages of its loops once and in their order, all along the run,
exactly if every step of the run transcribes once.
-/
theorem always_transcribed_iff (inbound : InboundMessage)
    (actions : List (CoreAgent × JobAction))
    : Runs.Always AnimaAgent.jobStep Transcribed (JobRun.new inbound) actions
        ↔ Runs.Guarded AnimaAgent.jobStep TranscribesOnce (JobRun.new inbound) actions := by
  refine Runs.always_iff_guarded Looped (fun _ => True) ?_ (looped_new inbound) rfl
    (fun _ _ => trivial)
  intro job action job' hlooped _ h hstep
  exact ⟨hlooped.jobStep hstep, jobStep_transcribed_iff hlooped h hstep⟩

def askedUser : List (CoreAgent × JobAction) :=
  [(.asking, .receive "m_1"), (.asking, .start false (fun _ => none) "t_1" "q_1" "session_1")]

/-- The first message is transcribed a second time when the loop is suspended. -/
theorem askedUser_not_transcribed
    : ¬Runs.Always AnimaAgent.jobStep Transcribed
        (JobRun.new RuntimeStateSnapshot.firstMessage) askedUser := by
  have hlengths : (Runs.run AnimaAgent.jobStep (JobRun.new RuntimeStateSnapshot.firstMessage)
      askedUser).map (fun job =>
        ((job.coordinator.runtimeState.transcribed job.inbound).length, job.recorded.length))
      = some (3, 2) := by
    decide +kernel
  obtain ⟨job, hrun, hlengths⟩ := Option.map_eq_some_iff.mp hlengths
  intro halways
  have htranscribed := congrArg List.length (halways.run_eq_some hrun)
  rw [List.length_map, List.length_map] at htranscribed
  obtain ⟨hthree, htwo⟩ := Prod.mk.inj hlengths
  omega

end JobRun

end AnimaAgent
