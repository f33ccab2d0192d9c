import AnimaAgent.Agent.InboundPipeline
import Mathlib.Logic.Relation

namespace AnimaAgent

inductive WriteKind where
  | note
  | turn
  | any
  deriving DecidableEq

def WriteKind.allows : WriteKind → RuntimeUpsert → Bool
  | note, .turn .. => false
  | any, _ => true
  | _, .turnOfRun .. => false
  | _, .suspension .. => false
  | _, .toolInvocation .. => false
  | _, _ => true

def Wrote (kind : WriteKind) : RuntimeStateSnapshot → RuntimeStateSnapshot → Prop :=
  Relation.ReflTransGen (fun before after =>
    ∃ upsert, kind.allows upsert = true ∧ after = before.apply upsert)

namespace Wrote

variable {kind kind' : WriteKind} {a b c : RuntimeStateSnapshot}

theorem refl (kind : WriteKind) (a : RuntimeStateSnapshot) : Wrote kind a a := by
  exact Relation.ReflTransGen.refl

theorem trans (hab : Wrote kind a b) (hbc : Wrote kind b c) : Wrote kind a c := by
  exact Relation.ReflTransGen.trans hab hbc

theorem apply (h : Wrote kind a b) (upsert : RuntimeUpsert) (hallowed : kind.allows upsert = true)
    : Wrote kind a (b.apply upsert) := by
  exact Relation.ReflTransGen.tail h ⟨upsert, hallowed, rfl⟩

theorem mono (h : Wrote kind a b)
    (hallowed : ∀ upsert, kind.allows upsert = true → kind'.allows upsert = true)
    : Wrote kind' a b := by
  induction h with
  | refl => exact .refl _ _
  | tail _ hstep ih =>
    obtain ⟨upsert, hupsert, rfl⟩ := hstep
    exact ih.apply upsert (hallowed upsert hupsert)

theorem toAny (h : Wrote kind a b) : Wrote .any a b := by
  exact h.mono (fun _ _ => rfl)

theorem toTurn (h : Wrote .note a b) : Wrote .turn a b := by
  refine h.mono ?_
  intro upsert hnote
  cases upsert with
  | turnOfRun => cases hnote
  | suspension => cases hnote
  | toolInvocation => cases hnote
  | _ => rfl

theorem keeps {P : RuntimeStateSnapshot → Prop}
    (hkeeps : ∀ snapshot upsert, kind.allows upsert = true → P snapshot → P (snapshot.apply upsert))
    (h : Wrote kind a b) (ha : P a)
    : P b := by
  induction h with
  | refl => exact ha
  | tail _ hstep ih =>
    obtain ⟨upsert, hupsert, rfl⟩ := hstep
    exact hkeeps _ upsert hupsert ih

theorem runs_eq (h : Wrote .note a b) : b.runs = a.runs := by
  refine @keeps .note _ _ (fun snapshot => snapshot.runs = a.runs) ?_ h rfl
  intro snapshot upsert hnote hruns
  cases upsert with
  | turn => cases hnote
  | turnOfRun => cases hnote
  | suspension => cases hnote
  | toolInvocation => cases hnote
  | _ => exact hruns

theorem suspensions_eq (h : Wrote .turn a b)
    : b.suspensions = a.suspensions ∧ b.toolInvocations = a.toolInvocations := by
  refine @keeps .turn _ _ (fun snapshot => snapshot.suspensions = a.suspensions
    ∧ snapshot.toolInvocations = a.toolInvocations) ?_ h ⟨rfl, rfl⟩
  intro snapshot upsert hleaves hsame
  cases upsert with
  | suspension => cases hleaves
  | toolInvocation => cases hleaves
  | _ => exact hsame

end Wrote

namespace SuspensionCoordinator

variable (now : UInt64) (coordinator : SuspensionCoordinator)

theorem wrote_storeQuestion (jobId : String) (question : PendingQuestion)
    : Wrote .any coordinator.runtimeState
        (coordinator.storeQuestion now jobId question).runtimeState := by
  unfold storeQuestion
  dsimp only
  cases question.inbound with
  | none => exact .refl _ _
  | some inbound =>
    exact ((Wrote.refl _ _).apply (.task ..) rfl).apply (.suspension ..) rfl

theorem wrote_storeToolInvocation (questionId : String) (state : SuspendedToolInvocationState)
    : Wrote .any coordinator.runtimeState
        (coordinator.storeToolInvocation now questionId state).runtimeState := by
  exact (((Wrote.refl _ _).apply (.task ..) rfl).apply (.suspension ..) rfl).apply
    (.toolInvocation ..) rfl

theorem wrote_clearQuestion (order : List String) (jobId : String)
    : Wrote .any coordinator.runtimeState
        (coordinator.clearQuestion now order jobId).runtimeState := by
  unfold clearQuestion
  dsimp only
  split
  . exact .refl _ _
  . split
    . exact .refl _ _
    . exact ((Wrote.refl _ _).apply (.task ..) rfl).apply (.suspension ..) rfl

theorem wrote_clearToolInvocation (questionId : String)
    : Wrote .any coordinator.runtimeState
        (coordinator.clearToolInvocation now questionId).runtimeState := by
  unfold clearToolInvocation
  dsimp only
  split
  . exact .refl _ _
  . exact (Wrote.refl _ _).apply (.suspension ..) rfl

theorem wrote_appendTranscriptMessages (inbound : InboundMessage) (messages : List InternalMsg)
    : Wrote .note coordinator.runtimeState
        (coordinator.appendTranscriptMessages now inbound messages).runtimeState := by
  unfold appendTranscriptMessages RuntimeStateSnapshot.appendTranscriptMessages
  dsimp only
  generalize coordinator.runtimeState = snapshot
  induction messages generalizing snapshot with
  | nil => exact .refl _ _
  | cons message messages ih =>
    exact ((Wrote.refl _ _).apply (.message now inbound message) rfl).trans (ih _)

theorem wrote_askToolPermission (source jobId questionId : String)
    (state : SuspendedToolInvocationState)
    : Wrote .any coordinator.runtimeState
        (coordinator.askToolPermission now source jobId questionId state).runtimeState := by
  unfold askToolPermission
  dsimp only
  exact ((wrote_appendTranscriptMessages ..).toAny.trans (wrote_storeQuestion ..)).trans
    (wrote_storeToolInvocation ..)

theorem wrote_resolveQuestion (jobId : String) (pending : PendingQuestion)
    (inbound : InboundMessage)
    : Wrote .any coordinator.runtimeState
        (coordinator.resolveQuestion now jobId pending inbound).runtimeState := by
  exact ((Wrote.refl _ _).apply (.suspension ..) rfl).apply (.task ..) rfl

theorem wrote_resolveToolPermission (jobId : String) (pending : PendingQuestion)
    (suspended : SuspendedToolInvocationState)
    : Wrote .any coordinator.runtimeState
        (coordinator.resolveToolPermission now jobId pending suspended).runtimeState := by
  exact ((Wrote.refl _ _).apply (.suspension ..) rfl).apply (.task ..) rfl

theorem wrote_acceptAnswer (jobId : String) (answer : QuestionAnswerInput)
    (answerSummary : String) (pending : PendingQuestion)
    : Wrote .any coordinator.runtimeState
        (coordinator.acceptAnswer now jobId answer answerSummary pending).2.runtimeState := by
  unfold acceptAnswer
  split
  . exact .refl _ _
  . dsimp only
    split
    . exact .refl _ _
    . split
      . exact .refl _ _
      . exact wrote_resolveQuestion ..

theorem wrote_submitAnswer (order : List String) (jobId : String) (answer : QuestionAnswerInput)
    (answerSummary : String)
    : Wrote .any coordinator.runtimeState
        (coordinator.submitAnswer now order jobId answer answerSummary).2.runtimeState := by
  have hstate := coordinator.runtimeState_questionState order jobId true
  unfold submitAnswer
  cases hread : coordinator.questionState order jobId true with
  | mk found read =>
    rw [hread] at hstate
    rw [← hstate]
    cases found with
    | none => exact .refl _ _
    | some pending => exact wrote_acceptAnswer ..

end SuspensionCoordinator

namespace AgentState

variable (now : UInt64) (state : AgentState) (inbound : InboundMessage)

theorem wrote_upsert {kind : WriteKind} (upsert : RuntimeUpsert)
    (hallowed : kind.allows upsert = true)
    : Wrote kind state.runtimeState (state.upsert upsert).runtimeState := by
  exact (Wrote.refl _ _).apply upsert hallowed

theorem runtimeState_requirementState (jobId : String) (hydrateCache : Bool)
    : (state.requirementState jobId hydrateCache).2.runtimeState = state.runtimeState := by
  unfold requirementState
  split
  . split
    . rfl
    . rfl
  . rfl

theorem wrote_upsertRuntimeRequirement (progress : RequirementProgressState)
    (status : RequirementStatus)
    : Wrote .note state.runtimeState
        (state.upsertRuntimeRequirement now inbound progress status).runtimeState := by
  exact state.wrote_upsert _ rfl

theorem wrote_ensureRequirement (defaultMaxRounds : Nat)
    : Wrote .note state.runtimeState
        (state.ensureRequirement now inbound defaultMaxRounds).2.runtimeState := by
  unfold ensureRequirement
  dsimp only
  refine Wrote.trans ?_ (wrote_upsertRuntimeRequirement ..)
  refine Wrote.trans ?_ (wrote_upsert _ _ rfl)
  rw [runtimeState_requirementState]
  exact .refl _ _

theorem wrote_updateRequirement (jobId : String) (attemptedRounds : Nat)
    (lastResultFingerprint lastReason : Option String)
    : Wrote .note state.runtimeState
        (state.updateRequirement now jobId attemptedRounds lastResultFingerprint
          lastReason).runtimeState := by
  have hread := state.runtimeState_requirementState jobId true
  unfold updateRequirement
  cases hprogress : state.requirementState jobId true with
  | mk progress read =>
    rw [hprogress] at hread
    dsimp only at hread
    cases progress with
    | none =>
      dsimp only
      rw [hread]
      exact .refl _ _
    | some progress =>
      dsimp only
      split
      . refine Wrote.trans ?_ (wrote_upsertRuntimeRequirement ..)
        rw [hread]
        exact .refl _ _
      . rw [hread]
        exact .refl _ _

end AgentState

namespace CoreAgent

variable {agent : CoreAgent} {coordinator : SuspensionCoordinator} {inbound : InboundMessage}

section Loops

variable {env : InitialEnvironment} {state executed : ExecutionState}
  {outcome : InitialExecutionOutcome}

theorem wrote_finalizeCompletedAgenticLoopRun (taskId : String) (loopResult : AgenticLoopResult)
    : Wrote .note coordinator.runtimeState
        (agent.finalizeCompletedAgenticLoopRun coordinator inbound taskId
          loopResult).2.runtimeState := by
  exact coordinator.wrote_appendTranscriptMessages ..

theorem wrote_runAgenticLoopForFollowup (uuid taskId opencodeSessionId followupPrompt : String)
    : Wrote .note coordinator.runtimeState
        (agent.runAgenticLoopForFollowup coordinator inbound uuid taskId opencodeSessionId
          followupPrompt).coordinator.runtimeState := by
  unfold runAgenticLoopForFollowup
  dsimp only
  split
  . exact wrote_finalizeCompletedAgenticLoopRun taskId _
  . exact .refl _ _
  . exact .refl _ _

theorem wrote_runAgenticLoopForPlan (autoApprove : Bool) (dispatch : String → Option TaskResult)
    (taskId questionId opencodeSessionId : String)
    : Wrote .any coordinator.runtimeState
        (agent.runAgenticLoopForPlan coordinator inbound autoApprove dispatch taskId questionId
          opencodeSessionId).coordinator.runtimeState := by
  unfold runAgenticLoopForPlan
  dsimp only
  split
  . split
    . exact .refl _ _
    . exact (wrote_finalizeCompletedAgenticLoopRun taskId _).toAny
  . split
    . exact .refl _ _
    . exact coordinator.wrote_askToolPermission ..
  . exact .refl _ _

theorem wrote_autoResumeSuspendedTool (uuid taskId : String) (suspension : AgenticLoopSuspension)
    (config : AgenticLoopConfig)
    : Wrote .any coordinator.runtimeState
        (agent.autoResumeSuspendedTool coordinator inbound uuid taskId suspension
          config).coordinator.runtimeState := by
  unfold autoResumeSuspendedTool
  dsimp only
  split
  . exact .refl _ _
  . split
    . exact (wrote_finalizeCompletedAgenticLoopRun taskId _).toAny
    . exact .refl _ _
    . exact .refl _ _

theorem wrote_autoResumeSuspendedTools {config : AgenticLoopConfig}
    {approvals : List (CoreAgent × String × String)} {next : LoopReturn} {result : TaskResult}
    {resumed : SuspensionCoordinator}
    (h : autoResumeSuspendedTools inbound config approvals next coordinator
      = some (result, resumed))
    : Wrote .any coordinator.runtimeState resumed.runtimeState := by
  induction approvals generalizing next coordinator with
  | nil =>
    cases next with
    | taskResult =>
      cases h
      exact .refl _ _
    | autoResume => cases h
  | cons approval rest ih =>
    cases next with
    | taskResult =>
      cases h
      exact .refl _ _
    | autoResume suspension => exact (wrote_autoResumeSuspendedTool ..).trans (ih h)

def ChangesOnSuccess (coordinator : SuspensionCoordinator) (run : LoopRun) : Prop :=
  run.coordinator = coordinator
    ∨ ∃ result, run.next = .taskResult result ∧ result.status = "success"

theorem changesOnSuccess_runAgenticLoopForPlan (autoApprove : Bool)
    (dispatch : String → Option TaskResult) (taskId questionId opencodeSessionId : String)
    : ChangesOnSuccess coordinator
        (agent.runAgenticLoopForPlan coordinator inbound autoApprove dispatch taskId questionId
          opencodeSessionId) := by
  unfold runAgenticLoopForPlan
  dsimp only
  split
  . split
    . exact .inl rfl
    . exact .inr ⟨_, rfl, rfl⟩
  . split
    . exact .inl rfl
    . exact .inr ⟨_, rfl, rfl⟩
  . exact .inl rfl

theorem changesOnSuccess_autoResumeSuspendedTool (uuid taskId : String)
    (suspension : AgenticLoopSuspension) (config : AgenticLoopConfig)
    : ChangesOnSuccess coordinator
        (agent.autoResumeSuspendedTool coordinator inbound uuid taskId suspension config) := by
  unfold autoResumeSuspendedTool
  dsimp only
  split
  . exact .inl rfl
  . split
    . exact .inr ⟨_, rfl, rfl⟩
    . exact .inl rfl
    . exact .inl rfl

theorem autoResumeSuspendedTools_of_failed {config : AgenticLoopConfig}
    {approvals : List (CoreAgent × String × String)} {run : LoopRun} {result : TaskResult}
    {resumed : SuspensionCoordinator} (hrun : ChangesOnSuccess coordinator run)
    (h : autoResumeSuspendedTools inbound config approvals run.next run.coordinator
      = some (result, resumed))
    (hfailed : result.status ≠ "success")
    : resumed = coordinator := by
  rcases hrun with hsame | ⟨succeeded, hnext, hsuccess⟩
  . rw [hsame] at h
    induction approvals generalizing run with
    | nil =>
      cases hnext : run.next with
      | taskResult =>
        rw [hnext] at h
        cases h
        rfl
      | autoResume =>
        rw [hnext] at h
        cases h
    | cons approval rest ih =>
      cases hnext : run.next with
      | taskResult =>
        rw [hnext] at h
        cases h
        rfl
      | autoResume suspension =>
        rw [hnext] at h
        have hresumed : ChangesOnSuccess coordinator (approval.1.autoResumeSuspendedTool coordinator
            inbound approval.2.1 approval.2.2 suspension config) :=
          changesOnSuccess_autoResumeSuspendedTool ..
        rcases hresumed with hsame' | ⟨succeeded, hnext', hsuccess⟩
        . change autoResumeSuspendedTools inbound config rest
            (autoResumeSuspendedTool _ coordinator inbound _ _ suspension config).next
            (autoResumeSuspendedTool _ coordinator inbound _ _ suspension config).coordinator = _ at h
          rw [hsame'] at h
          exact ih h hsame'
        . change autoResumeSuspendedTools inbound config rest
            (autoResumeSuspendedTool _ coordinator inbound _ _ suspension config).next _ = _ at h
          rw [hnext', autoResumeSuspendedTools_taskResult] at h
          cases h
          exact absurd hsuccess hfailed
  . rw [hnext, autoResumeSuspendedTools_taskResult] at h
    cases h
    exact absurd hsuccess hfailed

theorem wrote_executeInitialPlan {opencodeSessionId : String} {result : TaskResult}
    {executed : SuspensionCoordinator}
    (h : agent.executeInitialPlan coordinator inbound env opencodeSessionId
      = some (result, executed))
    : Wrote .any coordinator.runtimeState executed.runtimeState := by
  unfold executeInitialPlan at h
  split at h
  . cases h
    exact .refl _ _
  . exact (wrote_runAgenticLoopForPlan ..).trans (wrote_autoResumeSuspendedTools h)

theorem executeInitialPlan_of_failed {opencodeSessionId : String} {result : TaskResult}
    {executed : SuspensionCoordinator}
    (h : agent.executeInitialPlan coordinator inbound env opencodeSessionId
      = some (result, executed))
    (hfailed : result.status ≠ "success")
    : executed = coordinator := by
  unfold executeInitialPlan at h
  split at h
  . cases h
    rfl
  . exact autoResumeSuspendedTools_of_failed (changesOnSuccess_runAgenticLoopForPlan ..) h hfailed

theorem executeInitialMessagePlan_cases {plan : ExecutionPlan} {opencodeSessionId : String}
    (h : agent.executeInitialMessagePlan inbound env state plan opencodeSessionId
      = some (outcome, executed))
    : executed.coordinator = state.coordinator
        ∨ agent.executeInitialPlan state.coordinator inbound env opencodeSessionId
          = some (outcome.result, executed.coordinator) := by
  have huncached : agent.executeUncached inbound env state plan.planType opencodeSessionId
      = some (outcome, executed)
      → agent.executeInitialPlan state.coordinator inbound env opencodeSessionId
        = some (outcome.result, executed.coordinator) := by
    intro h
    obtain ⟨⟨result, coordinator⟩, hexecute, heq⟩ := Option.map_eq_some_iff.mp h
    cases heq
    exact hexecute
  have hundecomposed : agent.executeUndecomposed inbound env state plan.planType opencodeSessionId
      = some (outcome, executed)
      → executed.coordinator = state.coordinator
        ∨ agent.executeInitialPlan state.coordinator inbound env opencodeSessionId
          = some (outcome.result, executed.coordinator) := by
    intro h
    unfold executeUndecomposed at h
    dsimp only at h
    split at h
    . split at h
      . cases h
        exact .inl rfl
      . obtain ⟨⟨result, coordinator⟩, hexecute, heq⟩ := Option.map_eq_some_iff.mp h
        cases heq
        exact .inr hexecute
    . exact .inr (huncached h)
  unfold executeInitialMessagePlan at h
  split at h
  . split at h
    . cases h
      exact .inl rfl
    . exact hundecomposed h
  . split at h
    . exact hundecomposed h
    . exact .inr (huncached h)

theorem wrote_executeInitialMessagePlan {plan : ExecutionPlan} {opencodeSessionId : String}
    (h : agent.executeInitialMessagePlan inbound env state plan opencodeSessionId
      = some (outcome, executed))
    : Wrote .any state.coordinator.runtimeState executed.coordinator.runtimeState := by
  rcases executeInitialMessagePlan_cases h with hsame | hexecute
  . rw [hsame]
    exact .refl _ _
  . exact wrote_executeInitialPlan hexecute

theorem executeInitialMessagePlan_of_failed {plan : ExecutionPlan} {opencodeSessionId : String}
    (h : agent.executeInitialMessagePlan inbound env state plan opencodeSessionId
      = some (outcome, executed))
    (hfailed : outcome.result.status ≠ "success")
    : executed.coordinator = state.coordinator := by
  rcases executeInitialMessagePlan_cases h with hsame | hexecute
  . exact hsame
  . exact executeInitialPlan_of_failed hexecute hfailed

end Loops

section Calls

variable {state : AgentState}

theorem wrote_receivedState (env : InboundEnvironment)
    : Wrote .turn state.runtimeState (agent.receivedState inbound state env).runtimeState := by
  unfold receivedState
  dsimp only
  refine Wrote.trans ?_ (SuspensionCoordinator.wrote_appendTranscriptMessages ..).toTurn
  exact ((Wrote.refl _ _).apply (.turn ..) rfl).apply (.task ..) rfl

theorem wrote_acceptQuestionAnswer (order : List String) (jobId : String)
    (answer : QuestionAnswerInput)
    : Wrote .any state.runtimeState
        (agent.acceptQuestionAnswer state order jobId answer).2.runtimeState := by
  have hsubmitted := state.toSuspensionCoordinator.wrote_submitAnswer agent.now order jobId answer
    (truncatePreview answer.answer 120)
  unfold acceptQuestionAnswer
  dsimp only
  split
  . exact hsubmitted
  . split
    . exact hsubmitted
    . exact hsubmitted

theorem wrote_prepareToolPermissionResume (jobId : String) (pending : PendingQuestion)
    (uuid answer : String)
    : Wrote .any coordinator.runtimeState
        (agent.prepareToolPermissionResume coordinator jobId pending uuid
          answer).coordinator.runtimeState := by
  have hstate := coordinator.runtimeState_suspendedFor pending
  unfold prepareToolPermissionResume
  cases hfound : coordinator.suspendedFor pending with
  | mk found fetched =>
    rw [hfound] at hstate
    rw [← hstate]
    cases found with
    | error error => exact .refl _ _
    | ok suspended =>
      dsimp only
      split
      . exact .refl _ _
      . exact SuspensionCoordinator.wrote_resolveToolPermission ..

theorem wrote_continuationResult (env : AnswerEnvironment) (input : ContinuationInput)
    : Wrote .note state.runtimeState
        (agent.continuationResult inbound state env input).2.runtimeState := by
  cases input with
  | apiCall request => exact .refl _ _
  | loop opencodeSessionId messages => exact wrote_runAgenticLoopForFollowup ..

theorem wrote_handleToolPermissionContinuationOutcome (order : List String)
    (nextQuestionId jobId : String) (pending : PendingQuestion)
    (suspended : SuspendedToolInvocationState) (outcome : AgenticLoopOutcome)
    : Wrote .any coordinator.runtimeState
        (agent.handleToolPermissionContinuationOutcome coordinator order nextQuestionId jobId pending
          suspended outcome).runtimeState := by
  cases outcome with
  | completed loopResult =>
    have hcleared := ((coordinator.wrote_appendTranscriptMessages agent.now suspended.inbound
      loopResult.messages).toAny.trans (SuspensionCoordinator.wrote_clearQuestion agent.now _ order
      jobId)).trans (SuspensionCoordinator.wrote_clearToolInvocation agent.now _ pending.questionId)
    exact (hcleared.apply (.turnOfRun ..) rfl).apply (.task ..) rfl
  | suspended nextSuspension =>
    exact (coordinator.wrote_askToolPermission ..).trans
      (SuspensionCoordinator.wrote_clearToolInvocation ..)

end Calls

section Passes

variable {setup : EscalationSetup} {answers : UpstreamAnswers} {pass : UpstreamPass}
  {current : UpstreamRun} {state : AgentState} {plan : AgentFollowupPlan}
  {preparation : AgentFollowupPreparation}

theorem wrote_writeBack (state : AgentState) (progress : Option RequirementProgressState)
    (status : RequirementStatus)
    : Wrote .note state.runtimeState
        (match progress with
          | some progress => state.upsertRuntimeRequirement agent.now inbound progress status
          | none => state).runtimeState := by
  cases progress with
  | none => exact .refl _ _
  | some progress => exact state.wrote_upsertRuntimeRequirement ..

theorem wrote_completedState (order : List String) (label : String)
    : Wrote .any state.runtimeState (agent.completedState inbound order label state).runtimeState := by
  unfold completedState
  dsimp only
  refine Wrote.trans ?_ (wrote_writeBack ..).toAny
  refine Wrote.apply (Wrote.apply ?_ (.turnOfRun ..) rfl) (.task ..) rfl
  rw [← state.runtimeState_requirementState inbound.id false]
  exact SuspensionCoordinator.wrote_clearQuestion ..

theorem wrote_waitingState (label : String) (question : PendingQuestion)
    : Wrote .any state.runtimeState
        (agent.waitingState inbound label question state).runtimeState := by
  unfold waitingState
  dsimp only
  refine Wrote.trans ?_ (wrote_writeBack ..).toAny
  rw [AgentState.runtimeState_requirementState]
  exact ((SuspensionCoordinator.wrote_storeQuestion ..).apply (.turnOfRun ..) rfl).apply (.task ..) rfl

theorem wrote_evaluatedState
    : Wrote .turn state.runtimeState (agent.evaluatedState inbound pass state).runtimeState := by
  exact ((Wrote.refl _ _).apply (.turn ..) rfl).apply (.task ..) rfl

theorem wrote_prepareAgentFollowup
    : Wrote .turn state.runtimeState
        (agent.prepareAgentFollowup inbound plan state).2.runtimeState := by
  unfold prepareAgentFollowup
  dsimp only
  refine Wrote.trans ?_ (AgentState.wrote_upsertRuntimeRequirement ..).toTurn
  exact ((state.wrote_ensureRequirement ..).toTurn.apply (.turn ..) rfl).apply (.task ..) rfl

theorem wrote_exhaustedState
    : Wrote .turn state.runtimeState
        (agent.exhaustedState inbound plan preparation state).runtimeState := by
  unfold exhaustedState
  dsimp only
  refine Wrote.apply ?_ (.turn ..) rfl
  refine Wrote.trans ?_ (AgentState.wrote_upsertRuntimeRequirement ..).toTurn
  exact (state.wrote_updateRequirement ..).toTurn.apply (.task ..) rfl

theorem wrote_startedState
    : Wrote .note state.runtimeState
        (agent.startedState inbound plan preparation state).runtimeState := by
  exact (state.wrote_updateRequirement ..).apply (.task ..) rfl

theorem wrote_failedFollowupState (error : Option String)
    : Wrote .turn state.runtimeState
        (agent.failedFollowupState inbound error state).runtimeState := by
  exact ((Wrote.refl _ _).apply (.task ..) rfl).apply (.turn ..) rfl

theorem wrote_followupResult (current : UpstreamRun)
    : Wrote .note current.state.runtimeState
        (agent.followupResult inbound answers pass current plan).2.runtimeState := by
  unfold followupResult
  split
  . exact current.state.wrote_ensureRequirement ..
  . exact wrote_runAgenticLoopForFollowup ..

theorem wrote_handleFollowup (result : Except RuntimeError TaskResult)
    : Wrote .turn current.state.runtimeState
        (agent.handleFollowup inbound pass current result).state.runtimeState := by
  cases result with
  | error error => exact .refl _ _
  | ok result =>
    unfold handleFollowup
    dsimp only
    split
    . exact .refl _ _
    . exact wrote_failedFollowupState _

theorem wrote_executeScheduledFollowup (current : UpstreamRun)
    : Wrote .turn current.state.runtimeState
        (agent.executeScheduledFollowup inbound answers pass current plan
          preparation).state.runtimeState := by
  have hstarted : Wrote .note current.state.runtimeState
      (agent.startedState inbound plan preparation current.state).runtimeState :=
    wrote_startedState
  unfold executeScheduledFollowup
  dsimp only
  refine hstarted.toTurn.trans (Wrote.trans ?_ (wrote_handleFollowup _))
  exact (wrote_followupResult { current with
    state := agent.startedState inbound plan preparation current.state
    followups := current.followups ++ [preparation.fingerprint] }).toTurn

theorem wrote_scheduleAgentFollowup
    : Wrote .turn current.state.runtimeState
        (agent.scheduleAgentFollowup inbound answers pass current plan).state.runtimeState := by
  have hprepared : Wrote .turn current.state.runtimeState
      (agent.prepareAgentFollowup inbound plan current.state).2.runtimeState :=
    wrote_prepareAgentFollowup
  unfold scheduleAgentFollowup
  dsimp only
  split
  . exact hprepared.trans wrote_exhaustedState
  . exact hprepared.trans (wrote_executeScheduledFollowup (current.withState _))

def evaluatedRun (agent : CoreAgent) (inbound : InboundMessage) (answers : UpstreamAnswers)
    (pass : UpstreamPass) (current : UpstreamRun)
    : UpstreamRun :=
  current.withState (agent.evaluatedState inbound pass
    (agent.assemble inbound answers current pass.source.assemblyMode pass.opencodeSessionId
      pass.resolvedQuestion none).2)

theorem evaluateUpstreamResult_eq
    : agent.evaluateUpstreamResult inbound answers pass current
        = agent.dispatchUpstreamTurnPlan inbound answers pass
            (agent.evaluatedRun inbound answers pass current)
            (planTurnOutcome pass.resolvedQuestion.isSome
              (judgeRequirement agent.serde pass.result.result answers.verdict)) := by
  rfl

theorem wrote_evaluatedRun
    : Wrote .turn current.state.runtimeState
        (agent.evaluatedRun inbound answers pass current).state.runtimeState := by
  have hassembled : Wrote .note current.state.runtimeState
      (agent.assemble inbound answers current pass.source.assemblyMode pass.opencodeSessionId
        pass.resolvedQuestion none).2.runtimeState :=
    current.state.wrote_ensureRequirement ..
  exact hassembled.toTurn.trans wrote_evaluatedState

theorem wrote_appendSubtaskBlockedTranscript (reason : SubtaskBlockedReason) (autoResolved : Bool)
    : Wrote .note current.state.runtimeState
        (agent.appendSubtaskBlockedTranscript inbound current reason
          autoResolved).state.runtimeState := by
  exact AgentState.wrote_upsert _ _ rfl

theorem state_handleContinuation (opencodeSessionId : String)
    (result : Except RuntimeError TaskResult)
    : (handleContinuation pass current opencodeSessionId result).state = current.state := by
  cases result with
  | error error => rfl
  | ok result =>
    unfold handleContinuation
    dsimp only
    split
    . rfl
    . rfl

theorem wrote_continueWithAutoResolved (reason : SubtaskBlockedReason) (resolved : String)
    : Wrote .note current.state.runtimeState
        (agent.continueWithAutoResolved inbound answers pass current reason
          resolved).state.runtimeState := by
  unfold continueWithAutoResolved
  dsimp only
  rw [state_handleContinuation]
  exact current.state.wrote_ensureRequirement ..

theorem wrote_registerBlocked (reason : SubtaskBlockedReason)
    : Wrote .any current.state.runtimeState
        (agent.registerBlocked inbound answers pass current reason).state.runtimeState := by
  unfold registerBlocked
  dsimp only [UpstreamRun.withState, UpstreamRun.done]
  rw [SuspensionCoordinator.runtimeState_questionState,
    SuspensionCoordinator.registerSubtaskBlocked_eq]
  exact SuspensionCoordinator.wrote_storeQuestion ..

end Passes

end CoreAgent

end AnimaAgent
