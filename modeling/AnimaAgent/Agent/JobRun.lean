import AnimaAgent.Agent.InitialExecution
import AnimaAgent.Execution.HandedBack
import AnimaAgent.Library.Runs

namespace AnimaAgent

def RuntimeStateSnapshot.transcribed (snapshot : RuntimeStateSnapshot) (inbound : InboundMessage)
    : List InternalMsg :=
  (snapshot.transcript.filter (fun record => record.runId == runtimeRunId inbound.id)).map
    MessageRecord.toInternal

inductive JobPhase where
  | new
  | received
  | started
  deriving DecidableEq, Repr

structure JobRun where
  inbound : InboundMessage
  coordinator : SuspensionCoordinator
  phase : JobPhase
  approving : Option (AgenticLoopConfig × AgenticLoopSuspension)
  providerCalls : Nat
  recorded : List InternalMsg

/-- What happens to a job; the identifiers are the ones that are drawn. -/
inductive JobAction where
  | receive (uuid : String)
  | start (autoApprove : Bool) (dispatch : String → Option TaskResult)
    (taskId questionId opencodeSessionId : String)
  | autoResume (uuid taskId : String)
  /-- `order` is the order in which the suspensions are gone through. -/
  | answer (order : List String) (uuid nextQuestionId : String) (answer : QuestionAnswerInput)
  | followUp (uuid taskId opencodeSessionId followupPrompt : String)
  | note (message : InternalMsg)
  | meanwhile (coordinator : SuspensionCoordinator)

namespace JobRun

def new (inbound : InboundMessage) : JobRun where
  inbound := inbound
  coordinator := {}
  phase := .new
  approving := none
  providerCalls := 0
  recorded := []

variable (job : JobRun) (agent : CoreAgent)

def firstLoop (opencodeSessionId : String) : LoopM AgenticLoopOutcome :=
  (agent.loopEnv (agent.loopConfig job.inbound opencodeSessionId)).runAgenticLoop
    [CoreAgent.initialMsg job.inbound]

def followupLoop (uuid opencodeSessionId followupPrompt : String) : LoopM AgenticLoopOutcome :=
  (agent.loopEnv (agent.loopConfig job.inbound opencodeSessionId)).runAgenticLoop
    [followupMessage uuid followupPrompt]

def approvedLoop (uuid : String) (config : AgenticLoopConfig) (suspension : AgenticLoopSuspension)
    : LoopM AgenticLoopOutcome :=
  (agent.loopEnv config).resumeSuspendedToolInvocation uuid suspension true >>= fun messages =>
    (agent.loopEnv config).continueAgenticLoop messages suspension.iterations
      suspension.compactCount

def acceptPermission (order : List String) (answer : QuestionAnswerInput)
    : Option PendingQuestion × SuspensionCoordinator :=
  match job.coordinator.submitAnswer agent.now order job.inbound.id answer
      (truncatePreview answer.answer 120) with
  | (.ok pending, coordinator) =>
    (if pending.sourceKind = .toolPermission then some pending else none, coordinator)
  | (.error _, coordinator) => (none, coordinator)

def resumedLoop (coordinator : SuspensionCoordinator) (pending : PendingQuestion)
    (uuid answer : String)
    : Option ToolPermissionResumePreparation :=
  match (agent.prepareToolPermissionResume coordinator job.inbound.id pending uuid answer).outcome
      with
  | .error _ => none
  | .ok preparation =>
    if preparation.suspended.inbound.id = job.inbound.id then some preparation else none

def returned (run : LoopRun) (config : AgenticLoopConfig) (messages : List InternalMsg) : JobRun :=
  { job with
    coordinator := run.coordinator
    approving := match run.next with
      | .taskResult _ => none
      | .autoResume suspension => some (config, suspension)
    providerCalls := job.providerCalls + callCount run.events
    recorded := job.recorded ++ messages }

def laterMessages (autoApprove : Bool) (initial : List InternalMsg)
    (loop : LoopM AgenticLoopOutcome)
    : List InternalMsg :=
  match loop.outcome, autoApprove with
  | .ok (.suspended _), true => []
  | _, _ => (recordedMessages initial loop).tail

def receive (uuid : String) : JobRun :=
  let coordinator :=
    (job.coordinator.upsert (.turn agent.now job.inbound "initial" .running)).upsert
      (.task agent.now job.inbound .main .running "processing inbound message" none)
  let message := { CoreAgent.initialMsg job.inbound with messageId := uuid }
  { job with
    coordinator := coordinator.appendTranscriptMessages agent.now job.inbound [message]
    phase := .received
    recorded := [CoreAgent.initialMsg job.inbound] }

def start (autoApprove : Bool) (dispatch : String → Option TaskResult)
    (taskId questionId opencodeSessionId : String)
    : JobRun :=
  { job with phase := .started }.returned
    (agent.runAgenticLoopForPlan job.coordinator job.inbound autoApprove dispatch taskId questionId
      opencodeSessionId)
    (agent.loopConfig job.inbound opencodeSessionId)
    (laterMessages autoApprove [CoreAgent.initialMsg job.inbound]
      (job.firstLoop agent opencodeSessionId))

def autoResume (config : AgenticLoopConfig) (suspension : AgenticLoopSuspension)
    (uuid taskId : String)
    : JobRun :=
  job.returned
    (agent.autoResumeSuspendedTool job.coordinator job.inbound uuid taskId suspension config) config
    (laterMessages true suspension.messages (approvedLoop agent uuid config suspension))

def resume (coordinator : SuspensionCoordinator) (order : List String)
    (uuid nextQuestionId answer : String) (pending : PendingQuestion)
    : JobRun :=
  let run :=
    agent.resumeSuspendedToolPermission coordinator order nextQuestionId job.inbound.id pending
      uuid answer
  { job with
    coordinator := run.coordinator
    providerCalls := job.providerCalls + callCount run.events
    recorded :=
      match job.resumedLoop agent coordinator pending uuid answer with
      | some preparation =>
        -- what the loop has recorded since it was suspended
        job.recorded ++ (recordedMessages preparation.resumedMessages
          (agent.continueResumed preparation)).drop preparation.suspended.suspension.messages.length
      | none => job.recorded }

def answer (order : List String) (uuid nextQuestionId : String) (answer : QuestionAnswerInput)
    : JobRun :=
  match job.acceptPermission agent order answer with
  | (none, coordinator) => { job with coordinator }
  | (some pending, coordinator) =>
    job.resume agent coordinator order uuid nextQuestionId (Text.trim answer.answer) pending

def followUp (uuid taskId opencodeSessionId followupPrompt : String) : JobRun :=
  { job with
    coordinator :=
      (agent.runAgenticLoopForFollowup job.coordinator job.inbound uuid taskId opencodeSessionId
        followupPrompt).coordinator
    recorded := job.recorded ++ recordedMessages [followupMessage uuid followupPrompt]
      (job.followupLoop agent uuid opencodeSessionId followupPrompt) }

def note (message : InternalMsg) : JobRun :=
  { job with
    coordinator := job.coordinator.appendTranscriptMessages agent.now job.inbound [message]
    recorded := job.recorded ++ [message] }

end JobRun

section Loops

variable (agent : CoreAgent) (job : JobRun) (coordinator : SuspensionCoordinator)

theorem runAgenticLoopForPlan_events (autoApprove : Bool) (dispatch : String → Option TaskResult)
    (taskId questionId opencodeSessionId : String)
    : (agent.runAgenticLoopForPlan coordinator job.inbound autoApprove dispatch taskId questionId
          opencodeSessionId).events
        = (job.firstLoop agent opencodeSessionId).events := by
  unfold CoreAgent.runAgenticLoopForPlan
  dsimp only
  split
  . split
    . rfl
    . rfl
  . split
    . rfl
    . rfl
  . rfl

theorem firstLoop_of_autoResume {autoApprove : Bool} {dispatch : String → Option TaskResult}
    {taskId questionId opencodeSessionId : String} {suspension : AgenticLoopSuspension}
    (h : (agent.runAgenticLoopForPlan coordinator job.inbound autoApprove dispatch taskId questionId
      opencodeSessionId).next = .autoResume suspension)
    : (job.firstLoop agent opencodeSessionId).outcome = .ok (.suspended suspension) := by
  unfold CoreAgent.runAgenticLoopForPlan at h
  dsimp only at h
  split at h
  . split at h
    . cases h
    . cases h
  . next houtcome =>
    split at h
    . cases h
      exact houtcome
    . cases h
  . cases h

theorem autoResumeSuspendedTool_events (inbound : InboundMessage) (uuid taskId : String)
    (suspension : AgenticLoopSuspension) (config : AgenticLoopConfig)
    : (agent.autoResumeSuspendedTool coordinator inbound uuid taskId suspension config).events
        = (JobRun.approvedLoop agent uuid config suspension).events := by
  unfold CoreAgent.autoResumeSuspendedTool JobRun.approvedLoop
  rw [Traced.events_bind]
  dsimp only
  cases ((agent.loopEnv config).resumeSuspendedToolInvocation uuid suspension true).outcome with
  | error error => exact (List.append_nil _).symm
  | ok messages =>
    dsimp only
    split
    . rfl
    . rfl
    . rfl

theorem approvedLoop_of_autoResume {inbound : InboundMessage} {uuid taskId : String}
    {suspension next : AgenticLoopSuspension} {config : AgenticLoopConfig}
    (h : (agent.autoResumeSuspendedTool coordinator inbound uuid taskId suspension config).next
      = .autoResume next)
    : (JobRun.approvedLoop agent uuid config suspension).outcome = .ok (.suspended next) := by
  unfold CoreAgent.autoResumeSuspendedTool at h
  dsimp only at h
  split at h
  . cases h
  . next messages hmessages =>
    refine Traced.outcome_bind_eq_ok.mpr ⟨messages, hmessages, ?_⟩
    split at h
    . cases h
    . next houtcome =>
      cases h
      exact houtcome
    . cases h

end Loops

def jobStep (job : JobRun) : CoreAgent × JobAction → Option JobRun
  | (agent, .receive uuid) => if job.phase = .new then some (job.receive agent uuid) else none
  | (agent, .start autoApprove dispatch taskId questionId opencodeSessionId) =>
    if job.phase = .received then
      some (job.start agent autoApprove dispatch taskId questionId opencodeSessionId)
    else
      none
  | (agent, .autoResume uuid taskId) =>
    job.approving.map (fun (config, suspension) =>
      job.autoResume agent config suspension uuid taskId)
  | (agent, .answer order uuid nextQuestionId answer) =>
    if job.phase = .started then
      some (job.answer agent order uuid nextQuestionId answer)
    else
      none
  | (agent, .followUp uuid taskId opencodeSessionId followupPrompt) =>
    if job.phase = .started then
      some (job.followUp agent uuid taskId opencodeSessionId followupPrompt)
    else
      none
  | (agent, .note message) => if job.phase = .new then none else some (job.note agent message)
  | (_, .meanwhile coordinator) =>
    if coordinator.runtimeState.transcribed job.inbound
        = job.coordinator.runtimeState.transcribed job.inbound then
      some { job with coordinator }
    else
      none

theorem jobStep_eq_some {job job' : JobRun} {agent : CoreAgent} {action : JobAction}
    (h : jobStep job (agent, action) = some job')
    : match action with
      | .receive uuid => job.phase = .new ∧ job' = job.receive agent uuid
      | .start autoApprove dispatch taskId questionId opencodeSessionId =>
        job.phase = .received
          ∧ job' = job.start agent autoApprove dispatch taskId questionId opencodeSessionId
      | .autoResume uuid taskId => ∃ config suspension,
        job.approving = some (config, suspension)
          ∧ job' = job.autoResume agent config suspension uuid taskId
      | .answer order uuid nextQuestionId answer =>
        job.phase = .started ∧ job' = job.answer agent order uuid nextQuestionId answer
      | .followUp uuid taskId opencodeSessionId followupPrompt =>
        job.phase = .started ∧ job' = job.followUp agent uuid taskId opencodeSessionId followupPrompt
      | .note message => job.phase ≠ .new ∧ job' = job.note agent message
      | .meanwhile coordinator =>
        coordinator.runtimeState.transcribed job.inbound
            = job.coordinator.runtimeState.transcribed job.inbound
          ∧ job' = { job with coordinator } := by
  cases action with
  | autoResume uuid taskId =>
    obtain ⟨⟨config, suspension⟩, happroving, rfl⟩ := Option.map_eq_some_iff.mp h
    exact ⟨config, suspension, happroving, rfl⟩
  | note message =>
    unfold jobStep at h
    dsimp only at h
    split at h
    . cases h
    . next hphase =>
      cases h
      exact ⟨hphase, rfl⟩
  | _ =>
    unfold jobStep at h
    dsimp only at h
    split at h
    . next henabled =>
      cases h
      exact ⟨henabled, rfl⟩
    . cases h

end AnimaAgent
