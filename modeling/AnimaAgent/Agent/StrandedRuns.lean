import AnimaAgent.Agent.FollowupRounds
import AnimaAgent.Agent.WaitingRuns

namespace AnimaAgent

open RuntimeStateSnapshot

def Succeeded (answer : Except RuntimeError TaskResult) : Prop :=
  ∃ result, answer = .ok result ∧ result.status = "success"

theorem not_succeeded_error (error : RuntimeError) : ¬Succeeded (.error error) := by
  rintro ⟨result, h, _⟩
  cases h

theorem succeeded_ok_iff {result : TaskResult}
    : Succeeded (.ok result) ↔ result.status = "success" := by
  constructor
  . rintro ⟨_, h, hsuccess⟩
    cases h
    exact hsuccess
  . exact fun hsuccess => ⟨result, rfl, hsuccess⟩

def UpstreamPhase.isReturned : UpstreamPhase → Bool
  | handling _ => false
  | returned _ => true

namespace CoreAgent

variable (agent : CoreAgent) (setup : EscalationSetup) (inbound : InboundMessage)

def TakesUp (state : AgentState) (env : InboundEnvironment) : Prop :=
  ∃ session, agent.prepareInboundSession inbound env = .ok session
    ∧ AgentClassifier.classify inbound ≠ .direct
    ∧ (env.approvalMode = .supervised ∨ env.approvalMode = .manual
      ∨ ∀ outcome execution,
        agent.executeInitialMessagePlan inbound env.initial
            { coordinator :=
                (agent.receivedState inbound state env).toSuspensionCoordinator
              cache := env.cache }
            (AgentClassifier.buildPlan inbound env.planTaskId) session
          = some (outcome, execution)
        → outcome.result.status = "success")

def AnswerGoesOn (state : AgentState) (env : AnswerEnvironment) : AnswerContinuation → Prop
  | .upstream input => Succeeded (agent.continuationResult inbound state env input).1
  | .subtaskBlocked input => Succeeded (agent.continuationResult inbound state env input).1
  | .toolPermission prepared =>
    ∀ preparation, prepared.outcome = .ok preparation
      → ∃ outcome, (agent.continueResumed preparation).outcome = .ok outcome
  | .planRejected _ => False
  | .planApproved _ => True
  | .planNotRestored _ => False

def AnswerTakenUp (state : AgentState) (env : AnswerEnvironment) (jobId : String)
    (answer : QuestionAnswerInput)
    : Prop :=
  ∀ pending inbound accepted,
    agent.acceptQuestionAnswer state env.order jobId answer = (.ok (pending, inbound), accepted)
      → let continued := agent.continueSubmittedQuestionAnswer accepted env.format env.uuid jobId
          env.latestSummaryStatus inbound pending answer
        agent.AnswerGoesOn inbound continued.2 env continued.1

variable (answers : UpstreamAnswers) (pass : UpstreamPass) (run : UpstreamRun)

def resolvedBlocked (reason : SubtaskBlockedReason) : Option (UpstreamRun × String) :=
  match tryAutoResolveBlocked setup inbound reason with
  | some resolved => some (agent.appendSubtaskBlockedTranscript inbound run reason true, resolved)
  | none =>
    let asked :=
      { agent.appendSubtaskBlockedTranscript inbound run reason false with
        escalations := run.escalations + 1 }
    (agent.tryLlmResolveBlocked setup inbound run.escalations pass.opencodeSessionId reason).map
      (fun resolved => (agent.appendSubtaskBlockedTranscript inbound asked reason true, resolved))

def autoResolvedAnswer (reason : SubtaskBlockedReason) (resolved : String)
    : Except RuntimeError TaskResult :=
  let context := (agent.assemble inbound answers run .subtaskBlockedContinuation
    pass.opencodeSessionId none (some (autoResolvedPrompt reason resolved))).1
  answers.worker
    { traceId := inbound.id
      sessionId := context.metadata.opencodeSessionId
      content := context.promptText
      kind := .questionContinuation
      metadata := some (.object []) }

def FollowsUp (plan : AgentFollowupPlan) : Prop :=
  let (preparation, state) := agent.prepareAgentFollowup inbound plan run.state
  preparation.isExhausted = false
    ∧ Succeeded (agent.followupResult inbound answers pass
        { run with
          state := agent.startedState inbound plan preparation state
          followups := run.followups ++ [preparation.fingerprint] } plan).1

/--
The pass leads to another one, or it completes the job or asks a question that can be answered; or else
the job waits for something that the pass leaves alone.
-/
def PassGoesOn : Prop :=
  match blockedReasonOf pass.result with
  | some reason =>
    (∀ resolvedRun resolved,
        agent.resolvedBlocked setup inbound pass run reason = some (resolvedRun, resolved)
          → Succeeded (agent.autoResolvedAnswer inbound answers pass resolvedRun reason resolved))
      ∨ run.state.runtimeState.Attended inbound.id
  | none =>
    match planTurnOutcome pass.resolvedQuestion.isSome
      (judgeRequirement agent.serde pass.result.result answers.verdict) with
    | .complete _ => True
    | .askUserInput _ requirement =>
      let question := requirement.pendingQuestion
      run.state.runtimeState.Answerable question.sourceKind.suspensionKind
          (SuspensionCoordinator.askedInvocation question) question
        ∨ run.state.runtimeState.WaitsBeside inbound.id (runtimeSuspensionId question.questionId)
    | .scheduleFollowup plan =>
      agent.FollowsUp inbound answers pass (agent.evaluatedRun inbound answers pass run) plan
        ∨ run.state.runtimeState.Waits inbound.id

theorem handleBlocked_eq (reason : SubtaskBlockedReason)
    : agent.handleBlocked setup inbound answers pass run reason
        = match agent.resolvedBlocked setup inbound pass run reason with
          | some (resolvedRun, resolved) =>
            agent.continueWithAutoResolved inbound answers pass resolvedRun reason resolved
          | none =>
            agent.registerBlocked inbound answers pass
              { agent.appendSubtaskBlockedTranscript inbound run reason false with
                escalations := run.escalations + 1 } reason := by
  unfold handleBlocked resolvedBlocked
  cases tryAutoResolveBlocked setup inbound reason with
  | some resolved => rfl
  | none =>
    dsimp only [appendSubtaskBlockedTranscript, UpstreamRun.withState]
    cases agent.tryLlmResolveBlocked setup inbound run.escalations pass.opencodeSessionId reason with
    | some resolved => rfl
    | none => rfl

end CoreAgent

structure Leaves (jobId : String) (guard : Prop) (before : AgentState) (phase : UpstreamPhase)
    (after : AgentState)
    : Prop where
  wrote : Wrote .any before.runtimeState after.runtimeState
  attended : (phase.isReturned = true → after.runtimeState.Attended jobId) ↔ guard

section Leaves

variable {jobId : String} {guard : Prop} {before after : AgentState}

theorem leaves_handling {pass : UpstreamPass}
    (hwrote : Wrote .any before.runtimeState after.runtimeState) (hguard : guard)
    : Leaves jobId guard before (.handling pass) after := by
  refine ⟨hwrote, iff_of_true ?_ hguard⟩
  intro hreturned
  cases hreturned

theorem leaves_returned {outcome : Except AgentError (Option PendingQuestion)}
    (hwrote : Wrote .any before.runtimeState after.runtimeState)
    (hattended : after.runtimeState.Attended jobId ↔ guard)
    : Leaves jobId guard before (.returned outcome) after := by
  exact ⟨hwrote, ⟨fun h => hattended.mp (h rfl), fun h _ => hattended.mpr h⟩⟩

end Leaves

namespace CoreAgent

section Receive

variable {agent : CoreAgent} {inbound : InboundMessage} {state after : AgentState}
  {env : InboundEnvironment} {phase : UpstreamPhase}

theorem running_receivedState
    : (agent.receivedState inbound state env).runtimeState.Running inbound.id := by
  have hnotes : Wrote .note
      (state.runtimeState.apply (.turn agent.now inbound "initial" .running))
      (agent.receivedState inbound state env).runtimeState := by
    unfold receivedState
    dsimp only
    refine Wrote.trans ?_ (SuspensionCoordinator.wrote_appendTranscriptMessages ..)
    exact (Wrote.refl _ _).apply (.task ..) rfl
  exact (running_turn ..).turn hnotes.toTurn

theorem attended_receivedState_iff
    : (agent.receivedState inbound state env).runtimeState.Attended inbound.id
        ↔ state.runtimeState.Waits inbound.id := by
  exact running_receivedState.attended_iff.trans (waits_of_turn (wrote_receivedState env))

theorem finishSuccessfulInboundProcessing_eq (agent : CoreAgent) (inbound : InboundMessage)
    (state : AgentState) (env : InboundEnvironment) (opencodeSessionId : String)
    (result : TaskResult)
    : ∃ pass finished,
        agent.finishSuccessfulInboundProcessing inbound state env opencodeSessionId result
            = (.handling pass, finished)
          ∧ Wrote .note state.runtimeState finished.runtimeState := by
  exact ⟨_, _, rfl, state.wrote_ensureRequirement ..⟩

theorem leaves_processInboundMessageFlow
    (h : agent.processInboundMessageFlow inbound state env = some (phase, after))
    : Leaves inbound.id
        (agent.TakesUp inbound state env ∨ state.runtimeState.Waits inbound.id)
        (agent.receivedState inbound state env) phase after := by
  -- where the call stops, the run goes on with what it had waited for before
  have hstops : ¬agent.TakesUp inbound state env
      → ((agent.receivedState inbound state env).runtimeState.Attended inbound.id
        ↔ agent.TakesUp inbound state env ∨ state.runtimeState.Waits inbound.id) := by
    intro hnot
    rw [or_iff_right hnot]
    exact attended_receivedState_iff
  unfold processInboundMessageFlow at h
  dsimp only at h
  cases hsession : agent.prepareInboundSession inbound env with
  | error error =>
    -- the failure is reported, but the run stays as the message has left it
    rw [hsession] at h
    cases h
    refine leaves_returned (.refl _ _) (hstops ?_)
    rintro ⟨session, hok, _⟩
    cases hsession.symm.trans hok
  | ok session =>
    rw [hsession] at h
    dsimp only at h
    split at h
    . next hdirect =>
      -- a direct plan is answered at once, and its run is not completed either
      cases h
      refine leaves_returned (.refl _ _) (hstops ?_)
      rintro ⟨_, _, hclassified, _⟩
      exact hclassified
        ((AgentClassifier.buildPlan_planType_eq_direct_iff inbound env.planTaskId).mp hdirect)
    . next hdirect =>
      have hclassified : AgentClassifier.classify inbound ≠ .direct :=
        mt (AgentClassifier.buildPlan_planType_eq_direct_iff inbound env.planTaskId).mpr hdirect
      split at h
      . next hmode =>
        cases h
        have hwaits := (agent.receivedState inbound state
          env).toSuspensionCoordinator.waits_registerPlanApproval agent.now env.questionId inbound
            session env.format (.fromExecutionPlan env.proposalId
              (AgentClassifier.buildPlan inbound env.planTaskId))
        refine leaves_returned ?_
          (iff_of_true (.inr hwaits) (.inl ⟨session, hsession, hclassified, ?_⟩))
        . rw [SuspensionCoordinator.registerPlanApproval_eq]
          exact SuspensionCoordinator.wrote_storeQuestion ..
        . exact hmode.imp_right .inl
      . next hmode =>
        obtain ⟨⟨outcome, execution⟩, hexecute, heq⟩ := Option.map_eq_some_iff.mp h
        dsimp only at heq
        split at heq
        . next hsuccess =>
          obtain ⟨pass, finished, hfinish, hfinished⟩ :=
            finishSuccessfulInboundProcessing_eq agent inbound
              { agent.receivedState inbound state env with
                toSuspensionCoordinator := execution.coordinator } env session outcome.result
          rw [hfinish] at heq
          cases heq
          refine leaves_handling ?_ (.inl ⟨session, hsession, hclassified, .inr (.inr ?_)⟩)
          . exact (wrote_executeInitialMessagePlan hexecute).trans hfinished.toAny
          . intro outcome' execution' hexecute'
            cases hexecute.symm.trans hexecute'
            exact hsuccess
        . next hfailed =>
          -- an execution that fails has recorded nothing
          cases heq
          have hsame := executeInitialMessagePlan_of_failed hexecute hfailed
          dsimp only at hsame
          rw [hsame]
          refine leaves_returned (.refl _ _) (hstops ?_)
          rintro ⟨session', hsession', _, hgoes⟩
          cases hsession.symm.trans hsession'
          have hsupervised := fun heq => hmode (.inl heq)
          have hmanual := fun heq => hmode (.inr heq)
          exact hfailed (((hgoes.resolve_left hsupervised).resolve_left hmanual) _ _ hexecute)

end Receive

section Submit

variable {agent : CoreAgent} {state accepted after : AgentState} {env : AnswerEnvironment}
  {jobId : String} {answer : QuestionAnswerInput} {pending : PendingQuestion}
  {inbound : InboundMessage} {phase : UpstreamPhase}

theorem answerTakenUp_iff
    (haccept : agent.acceptQuestionAnswer state env.order jobId answer
      = (.ok (pending, inbound), accepted))
    : agent.AnswerTakenUp state env jobId answer
        ↔ (let continued := agent.continueSubmittedQuestionAnswer accepted env.format env.uuid jobId
            env.latestSummaryStatus inbound pending answer
          agent.AnswerGoesOn inbound continued.2 env continued.1) := by
  constructor
  . exact fun h => h pending inbound accepted haccept
  . intro h pending' inbound' accepted' haccept'
    cases haccept.symm.trans haccept'
    exact h

theorem planApprovalVerdict_cases (format : PlanFormat) (pending : PendingQuestion)
    (answer : String)
    : (∃ reason, planApprovalVerdict format pending answer = .planRejected reason)
        ∨ (∃ plan, planApprovalVerdict format pending answer = .planApproved plan)
        ∨ ∃ error, planApprovalVerdict format pending answer = .planNotRestored error := by
  unfold planApprovalVerdict
  dsimp only
  split
  . exact .inl ⟨_, rfl⟩
  . split
    . exact .inr (.inl ⟨_, rfl⟩)
    . exact .inr (.inr ⟨_, rfl⟩)

theorem leaves_continueAnswered {failure : String} {input : ContinuationInput}
    {current : AgentState}
    (hresolves : ResolvesQuestion answer.questionId state.runtimeState current.runtimeState)
    (hwrote : Wrote .any state.runtimeState current.runtimeState)
    (h : agent.continueAnswered inbound current env pending failure input = (phase, after))
    : Leaves jobId
        (Succeeded (agent.continuationResult inbound current env input).1
          ∨ state.runtimeState.SettledBeside jobId answer.questionId)
        state phase after := by
  have hnotes : Wrote .note current.runtimeState
      (agent.continuationResult inbound current env input).2.runtimeState :=
    wrote_continuationResult env input
  unfold continueAnswered at h
  cases hresult : agent.continuationResult inbound current env input with
  | mk result continued =>
    rw [hresult] at h hnotes
    dsimp only at h hnotes ⊢
    have hafter := hwrote.trans hnotes.toAny
    have hsettled : continued.runtimeState.Attended jobId
        ↔ state.runtimeState.SettledBeside jobId answer.questionId :=
      (hresolves.note hnotes).attended_iff
    cases result with
    | error error =>
      cases h
      refine leaves_returned hafter ?_
      rw [or_iff_right (not_succeeded_error error)]
      exact hsettled
    | ok result =>
      dsimp only at h
      split at h
      . next hsuccess =>
        cases h
        exact leaves_handling hafter (.inl (succeeded_ok_iff.mpr hsuccess))
      . next hfailed =>
        cases h
        refine leaves_returned hafter ?_
        rw [or_iff_right (mt succeeded_ok_iff.mp hfailed)]
        exact hsettled

theorem leaves_continueToolPermission {text : String}
    (hsame : accepted.runtimeState = state.runtimeState)
    (hid : pending.questionId = answer.questionId)
    (hjob : ∀ suspended, (accepted.toSuspensionCoordinator.suspendedFor pending).1 = .ok suspended
      → suspended.inbound.id = jobId)
    (hattended : state.runtimeState.Attended jobId)
    (hnext : env.nextQuestionId ≠ answer.questionId)
    {prepared : AgentRun ToolPermissionResumePreparation}
    (hprepared : agent.prepareToolPermissionResume accepted.toSuspensionCoordinator jobId pending
      env.uuid text = prepared)
    (h : agent.continueToolPermission
        { accepted with toSuspensionCoordinator := prepared.coordinator } env pending jobId prepared
      = (phase, after))
    : Leaves jobId
        ((∀ preparation, prepared.outcome = .ok preparation
            → ∃ outcome, (agent.continueResumed preparation).outcome = .ok outcome)
          ∨ state.runtimeState.SettledBeside jobId answer.questionId)
        state phase after := by
  have hcases := agent.prepareToolPermissionResume_cases accepted.toSuspensionCoordinator jobId
    pending env.uuid text
  rw [hprepared, hsame, hid] at hcases
  dsimp only at hcases
  unfold continueToolPermission at h
  rcases hcases with ⟨error, houtcome, hunchanged⟩ | ⟨preparation, houtcome, hfound, hresolves⟩
  . -- the tool has not been found, so that its question is still there to be answered
    rw [houtcome] at h ⊢
    cases h
    refine leaves_returned ?_ (iff_of_true ?_ (.inl ?_))
    . rw [hunchanged]
      exact .refl _ _
    . rw [hunchanged]
      exact hattended
    . intro preparation hok
      cases hok
  . have hwrote : Wrote .any state.runtimeState prepared.coordinator.runtimeState := by
      rw [← hsame, ← hprepared]
      exact wrote_prepareToolPermissionResume ..
    rw [houtcome] at h ⊢
    dsimp only at h
    cases hcontinued : (agent.continueResumed preparation).outcome with
    | error error =>
      -- the question is resolved, and the loop that it belongs to has come to an error
      rw [hcontinued] at h
      cases h
      refine leaves_returned hwrote ?_
      rw [or_iff_right]
      . exact hresolves.attended_iff
      . intro hgoes
        obtain ⟨outcome, hok⟩ := hgoes preparation rfl
        cases hcontinued.symm.trans hok
    | ok outcome =>
      rw [hcontinued] at h
      cases h
      have hsuspended := hjob preparation.suspended hfound
      refine leaves_returned (hwrote.trans (wrote_handleToolPermissionContinuationOutcome ..))
        (iff_of_true ?_ (.inl ?_))
      . subst hsuspended
        cases outcome with
        | completed loopResult =>
          exact .inl (SuspensionCoordinator.ended_finishToolPermissionContinuation _ _ _ _ _ _ _)
        | suspended nextSuspension =>
          rw [← hid] at hnext
          exact .inr
            (SuspensionCoordinator.waits_resuspendToolPermissionContinuation _ _ _ hnext ..)
      . intro preparation' hok
        cases hok
        exact ⟨outcome, hcontinued⟩

theorem jobId_suspendedFor (htraceable : Traceable state.runtimeState)
    (hknown : state.runtimeState.Known jobId) {order : List String} {question : PendingQuestion}
    (hread : (state.toSuspensionCoordinator.questionState order jobId true).1 = some question)
    (hsame : accepted.runtimeState = state.runtimeState)
    (hid : pending.questionId = question.questionId)
    {suspended : SuspendedToolInvocationState}
    (hfound : (accepted.toSuspensionCoordinator.suspendedFor pending).1 = .ok suspended)
    : suspended.inbound.id = jobId := by
  obtain ⟨run, record, hactive, _⟩ :=
    htraceable.consistent.activeIn_of_questionState hknown hread
  obtain ⟨run, hrun⟩ := Option.isSome_iff_exists.mp (htraceable.consistent.run jobId hknown)
  have hindexed : state.runtimeState.Indexed question.questionId := by
    apply htraceable.indexed
    rw [hactive.1]
    rfl
  rw [← hsame, ← hid] at hindexed hactive
  rw [← hsame] at hrun
  rw [SuspensionCoordinator.suspendedFor_eq_ok_iff hindexed] at hfound
  rw [jobId_rebuildToolInvocation hindexed hactive hrun hfound]
  rw [hsame] at hrun
  exact (htraceable.job jobId run hrun).1

theorem leaves_answerQuestion (htraceable : Traceable state.runtimeState)
    (hknown : state.runtimeState.Known jobId ∨ state.pendingQuestions.lookup jobId = none)
    (hattended : state.runtimeState.Attended jobId)
    (hnext : env.nextQuestionId ≠ answer.questionId)
    (h : agent.answerQuestion state env jobId answer = some (phase, after))
    : Leaves jobId
        (agent.AnswerTakenUp state env jobId answer
          ∨ state.runtimeState.SettledBeside jobId answer.questionId) state phase after := by
  have haccepted : Wrote .any state.runtimeState
      (agent.acceptQuestionAnswer state env.order jobId answer).2.runtimeState :=
    wrote_acceptQuestionAnswer env.order jobId answer
  unfold answerQuestion at h
  rcases agent.acceptQuestionAnswer_cases state env.order jobId answer with
    ⟨error, accepted, haccept, hsame⟩ |
    ⟨question, inbound, accepted, haccept, hread, hid, htool, hother⟩
  . rw [haccept] at h
    cases h
    refine leaves_returned ?_ (iff_of_true ?_ (.inl ?_))
    . rw [hsame]
      exact .refl _ _
    . rw [hsame]
      exact hattended
    . intro pending inbound accepted' haccept'
      cases haccept.symm.trans haccept'
  . rw [haccept] at h haccepted
    dsimp only at h haccepted
    rw [answerTakenUp_iff haccept]
    have hjob : state.runtimeState.Known jobId := by
      by_contra hunknown
      rw [SuspensionCoordinator.questionState_of_unknown hunknown,
        hknown.resolve_left hunknown] at hread
      cases hread
    generalize hpending : question.answered answer (truncatePreview answer.answer 120) = pending
      at h haccept ⊢
    have hsource : pending.sourceKind = question.sourceKind := by
      rw [← hpending]
      rfl
    have hpendingId : pending.questionId = question.questionId := by
      rw [← hpending]
      rfl
    unfold continueSubmittedQuestionAnswer at h ⊢
    cases hkind : question.sourceKind with
    | upstreamQuestion =>
      rw [hsource, hkind] at h ⊢
      have hnotes : Wrote .note accepted.runtimeState
          (agent.upstreamContext accepted env.latestSummaryStatus inbound
            pending).2.runtimeState :=
        accepted.wrote_ensureRequirement ..
      exact leaves_continueAnswered ((hother (by rw [hkind]; decide)).note hnotes)
        (haccepted.trans hnotes.toAny) (Option.some.inj h)
    | subtaskBlocked =>
      rw [hsource, hkind] at h ⊢
      have hnotes : Wrote .note accepted.runtimeState
          (agent.subtaskBlockedContext accepted env.latestSummaryStatus inbound pending
            answer).2.runtimeState :=
        accepted.wrote_ensureRequirement ..
      exact leaves_continueAnswered ((hother (by rw [hkind]; decide)).note hnotes)
        (haccepted.trans hnotes.toAny) (Option.some.inj h)
    | toolPermission =>
      rw [hsource, hkind] at h ⊢
      dsimp only at h ⊢
      have hsame := htool hkind
      refine leaves_continueToolPermission hsame (hpendingId.trans hid) ?_ hattended hnext rfl ?_
      . intro suspended hfound
        exact jobId_suspendedFor htraceable hjob hread hsame hpendingId hfound
      . exact Option.some.inj h
    | planApproval =>
      rw [hsource, hkind] at h ⊢
      dsimp only at h ⊢
      have hsettled : accepted.runtimeState.Attended jobId
          ↔ state.runtimeState.SettledBeside jobId answer.questionId :=
        (hother (by rw [hkind]; decide)).attended_iff
      rcases planApprovalVerdict_cases env.format pending answer.answer with
        ⟨reason, hverdict⟩ | ⟨plan, hverdict⟩ | ⟨error, hverdict⟩
      . rw [hverdict] at h ⊢
        cases h
        refine leaves_returned haccepted (hsettled.trans ?_)
        exact (or_iff_right id).symm
      . rw [hverdict] at h ⊢
        obtain ⟨⟨outcome, execution⟩, hexecute, heq⟩ := Option.map_eq_some_iff.mp h
        cases heq
        refine leaves_handling ?_ (.inl trivial)
        exact haccepted.trans (wrote_executeInitialMessagePlan hexecute)
      . rw [hverdict] at h ⊢
        cases h
        refine leaves_returned haccepted (hsettled.trans ?_)
        exact (or_iff_right id).symm

end Submit

section Pass

variable {agent : CoreAgent} {setup : EscalationSetup} {inbound : InboundMessage}
  {answers : UpstreamAnswers} {pass : UpstreamPass} {run : UpstreamRun}

theorem isReturned_ite_iff {p : Prop} [Decidable p] {going stopped : UpstreamRun}
    (hgoing : going.phase.isReturned = false) (hstopped : stopped.phase.isReturned = true)
    : (if p then going else stopped).phase.isReturned = true ↔ ¬p := by
  split
  . next hp =>
    rw [hgoing]
    exact iff_of_false Bool.false_ne_true (not_not.mpr hp)
  . next hp => exact iff_of_true hstopped hp

theorem isReturned_handleFollowup_iff {result : Except RuntimeError TaskResult}
    : (agent.handleFollowup inbound pass run result).phase.isReturned = true
        ↔ ¬Succeeded result := by
  cases result with
  | error error => exact iff_of_true rfl (not_succeeded_error error)
  | ok result =>
    rw [succeeded_ok_iff]
    exact isReturned_ite_iff rfl rfl

theorem isReturned_handleContinuation_iff {opencodeSessionId : String}
    {result : Except RuntimeError TaskResult}
    : (handleContinuation pass run opencodeSessionId result).phase.isReturned = true
        ↔ ¬Succeeded result := by
  cases result with
  | error error => exact iff_of_true rfl (not_succeeded_error error)
  | ok result =>
    rw [succeeded_ok_iff]
    exact isReturned_ite_iff rfl rfl

theorem isReturned_scheduleAgentFollowup_iff {plan : AgentFollowupPlan}
    : (agent.scheduleAgentFollowup inbound answers pass run plan).phase.isReturned = true
        ↔ ¬agent.FollowsUp inbound answers pass run plan := by
  unfold scheduleAgentFollowup FollowsUp
  dsimp only
  cases hexhausted : (agent.prepareAgentFollowup inbound plan run.state).1.isExhausted with
  | true =>
    rw [if_pos rfl]
    refine iff_of_true rfl ?_
    rintro ⟨h, _⟩
    cases h
  | false =>
    rw [if_neg Bool.false_ne_true]
    refine isReturned_handleFollowup_iff.trans (not_congr ?_)
    exact (and_iff_right rfl).symm

theorem running_evaluatedRun
    : (agent.evaluatedRun inbound answers pass run).state.runtimeState.Running inbound.id := by
  exact (running_turn ..).turn ((Wrote.refl _ _).apply (.task ..) rfl)

theorem leaves_scheduleAgentFollowup {plan : AgentFollowupPlan}
    (hrunning : run.state.runtimeState.Running inbound.id)
    : Leaves inbound.id
        (agent.FollowsUp inbound answers pass run plan ∨ run.state.runtimeState.Waits inbound.id)
        run.state (agent.scheduleAgentFollowup inbound answers pass run plan).phase
        (agent.scheduleAgentFollowup inbound answers pass run plan).state := by
  have hwrote : Wrote .turn run.state.runtimeState
      (agent.scheduleAgentFollowup inbound answers pass run plan).state.runtimeState :=
    wrote_scheduleAgentFollowup
  refine ⟨hwrote.toAny, ?_⟩
  rw [isReturned_scheduleAgentFollowup_iff, (hrunning.turn hwrote).attended_iff,
    waits_of_turn hwrote]
  exact imp_iff_or_not.trans (by rw [not_not, or_comm])

theorem ended_completedState (order : List String) (label : String) (state : AgentState)
    : (agent.completedState inbound order label state).runtimeState.Ended inbound.id := by
  unfold completedState
  dsimp only
  refine (ended_of_note (wrote_writeBack ..)).mpr ?_
  exact (ended_of_note ((Wrote.refl _ _).apply (.task ..) rfl)).mpr
    (ended_turnOfRun agent.now inbound _ _)

theorem attended_waitingState_iff {question : PendingQuestion} (label : String)
    (state : AgentState) (hinbound : question.inbound = some inbound)
    : (agent.waitingState inbound label question state).runtimeState.Attended inbound.id
        ↔ state.runtimeState.Answerable question.sourceKind.suspensionKind
            (SuspensionCoordinator.askedInvocation question) question
          ∨ state.runtimeState.WaitsBeside inbound.id
            (runtimeSuspensionId question.questionId) := by
  let stored := state.toSuspensionCoordinator.storeQuestion agent.now inbound.id question
  let asked := stored.runtimeState.apply (.turnOfRun agent.now inbound label .waiting .running)
  have hnotes : Wrote .note asked
      (agent.waitingState inbound label question state).runtimeState := by
    unfold waitingState
    dsimp only
    refine Wrote.trans ?_ (wrote_writeBack ..)
    rw [AgentState.runtimeState_requirementState]
    exact (Wrote.refl _ _).apply (.task ..) rfl
  have hrunning : asked.Running inbound.id := lookup_turnOfRun ..
  rw [attended_of_note hnotes, hrunning.attended_iff]
  exact state.toSuspensionCoordinator.waits_storeQuestion_iff agent.now inbound.id hinbound

theorem leaves_evaluateUpstreamResult (hblocked : blockedReasonOf pass.result = none)
    : Leaves inbound.id (agent.PassGoesOn setup inbound answers pass run) run.state
        (agent.evaluateUpstreamResult inbound answers pass run).phase
        (agent.evaluateUpstreamResult inbound answers pass run).state := by
  have hevaluated : Wrote .turn run.state.runtimeState
      (agent.evaluatedRun inbound answers pass run).state.runtimeState :=
    wrote_evaluatedRun
  have hrunning : (agent.evaluatedRun inbound answers pass run).state.runtimeState.Running
      inbound.id :=
    running_evaluatedRun
  rw [evaluateUpstreamResult_eq]
  unfold PassGoesOn
  rw [hblocked]
  dsimp only
  cases planTurnOutcome pass.resolvedQuestion.isSome
      (judgeRequirement agent.serde pass.result.result answers.verdict) with
  | complete shouldResolveQuestion =>
    refine leaves_returned (hevaluated.toAny.trans (wrote_completedState ..)) ?_
    exact iff_of_true (.inl (ended_completedState _ _ _)) trivial
  | askUserInput shouldResolveQuestion requirement =>
    refine leaves_returned (hevaluated.toAny.trans (wrote_waitingState ..)) ?_
    refine (attended_waitingState_iff _ _ rfl).trans ?_
    exact or_congr (answerable_of_turn hevaluated ..) (waitsBeside_of_turn hevaluated _)
  | scheduleFollowup plan =>
    have hleaves := @leaves_scheduleAgentFollowup agent inbound answers pass
      (agent.evaluatedRun inbound answers pass run) plan hrunning
    refine ⟨hevaluated.toAny.trans hleaves.wrote, hleaves.attended.trans ?_⟩
    rw [waits_of_turn hevaluated]

theorem wrote_resolvedBlocked {reason : SubtaskBlockedReason} {resolvedRun : UpstreamRun}
    {resolved : String}
    (h : agent.resolvedBlocked setup inbound pass run reason = some (resolvedRun, resolved))
    : Wrote .note run.state.runtimeState resolvedRun.state.runtimeState := by
  unfold resolvedBlocked at h
  split at h
  . cases h
    exact wrote_appendSubtaskBlockedTranscript ..
  . obtain ⟨_, _, heq⟩ := Option.map_eq_some_iff.mp h
    cases heq
    exact ((Wrote.refl _ _).apply (.message ..) rfl).apply (.message ..) rfl

theorem waits_registerBlocked (run : UpstreamRun) (reason : SubtaskBlockedReason)
    : (agent.registerBlocked inbound answers pass run reason).state.runtimeState.Waits
        inbound.id := by
  unfold registerBlocked
  dsimp only [UpstreamRun.withState, UpstreamRun.done]
  rw [SuspensionCoordinator.runtimeState_questionState]
  exact SuspensionCoordinator.waits_registerSubtaskBlocked ..

theorem leaves_handleBlocked {reason : SubtaskBlockedReason}
    (hblocked : blockedReasonOf pass.result = some reason)
    : Leaves inbound.id (agent.PassGoesOn setup inbound answers pass run) run.state
        (agent.handleBlocked setup inbound answers pass run reason).phase
        (agent.handleBlocked setup inbound answers pass run reason).state := by
  rw [handleBlocked_eq]
  unfold PassGoesOn
  rw [hblocked]
  dsimp only
  cases hresolved : agent.resolvedBlocked setup inbound pass run reason with
  | some found =>
    obtain ⟨resolvedRun, resolved⟩ := found
    dsimp only
    have hwrote : Wrote .note run.state.runtimeState
        (agent.continueWithAutoResolved inbound answers pass resolvedRun reason
          resolved).state.runtimeState :=
      (wrote_resolvedBlocked hresolved).trans (wrote_continueWithAutoResolved ..)
    have hreturned : (agent.continueWithAutoResolved inbound answers pass resolvedRun reason
          resolved).phase.isReturned = true
        ↔ ¬Succeeded
          (agent.autoResolvedAnswer inbound answers pass resolvedRun reason resolved) :=
      isReturned_handleContinuation_iff
    refine ⟨hwrote.toAny, ?_⟩
    rw [hreturned, attended_of_note hwrote]
    constructor
    . intro h
      by_cases hsucceeded :
          Succeeded (agent.autoResolvedAnswer inbound answers pass resolvedRun reason resolved)
      . left
        intro resolvedRun' resolved' heq
        cases heq
        exact hsucceeded
      . exact .inr (h hsucceeded)
    . rintro (hgoes | hattended) hfailed
      . exact absurd (hgoes resolvedRun resolved rfl) hfailed
      . exact hattended
  | none =>
    dsimp only
    have happended : Wrote .note run.state.runtimeState
        (agent.appendSubtaskBlockedTranscript inbound run reason false).state.runtimeState :=
      wrote_appendSubtaskBlockedTranscript ..
    refine leaves_returned (happended.toAny.trans (wrote_registerBlocked reason))
      (iff_of_true (.inr ?_) (.inl ?_))
    . exact waits_registerBlocked _ reason
    . intro resolvedRun resolved h
      cases h

theorem leaves_handleUpstreamResult
    : Leaves inbound.id (agent.PassGoesOn setup inbound answers pass run) run.state
        (agent.handleUpstreamResult setup inbound answers pass run).phase
        (agent.handleUpstreamResult setup inbound answers pass run).state := by
  unfold handleUpstreamResult
  cases hblocked : blockedReasonOf pass.result with
  | some reason => exact leaves_handleBlocked hblocked
  | none => exact leaves_evaluateUpstreamResult hblocked

end Pass

theorem answerQuestion_of_unknown (agent : CoreAgent) {state : AgentState} (env : AnswerEnvironment)
    {jobId : String} (answer : QuestionAnswerInput) (hunknown : ¬state.runtimeState.Known jobId)
    (hnone : state.pendingQuestions.lookup jobId = none)
    : agent.answerQuestion state env jobId answer
        = some (.returned (.error (.noPendingQuestion jobId)), state) := by
  unfold answerQuestion acceptQuestionAnswer SuspensionCoordinator.submitAnswer
  rw [SuspensionCoordinator.questionState_of_unknown hunknown, hnone]

end CoreAgent

/-- What happens to a job: the calls for it and their passes, and what is written for other jobs. -/
inductive CallAction where
  | receive (agent : CoreAgent) (inbound : InboundMessage) (env : InboundEnvironment)
  | submit (agent : CoreAgent) (env : AnswerEnvironment) (answer : QuestionAnswerInput)
  | handle (agent : CoreAgent) (setup : EscalationSetup) (inbound : InboundMessage)
    (answers : UpstreamAnswers)
  | write (upsert : RuntimeUpsert)

def RuntimeUpsert.isForOther (jobId : String) : RuntimeUpsert → Bool
  | turn _ inbound _ _ => inbound.id ≠ jobId
  | turnOfRun _ inbound _ _ _ => inbound.id ≠ jobId
  | suspension _ inbound _ _ _ _ _ => inbound.id ≠ jobId
  | toolInvocation inbound invocation _ => inbound.id ≠ jobId && invocation.toolUseId.isSome
  | _ => true

/-- The calls for one job come one after the other, and the identifiers that they draw are new. -/
def callStep (jobId : String) (current : UpstreamRun) : CallAction → Option UpstreamRun
  | .receive agent inbound env =>
    if current.phase.isReturned ∧ inbound.id = jobId then
      (agent.processInboundMessageFlow inbound current.state env).map
        (fun (phase, state) => { current with phase, state })
    else
      none
  | .submit agent env answer =>
    if current.phase.isReturned ∧ env.nextQuestionId ≠ answer.questionId then
      (agent.answerQuestion current.state env jobId answer).map
        (fun (phase, state) => { current with phase, state })
    else
      none
  | .handle agent setup inbound answers =>
    if inbound.id = jobId then agent.advance setup inbound current answers else none
  | .write upsert =>
    if upsert.isForOther jobId then
      some (current.withState (current.state.upsert upsert))
    else
      none

def UpstreamRun.NoneStranded (jobId : String) (current : UpstreamRun) : Prop :=
  current.phase.isReturned = true → current.state.NotStranded jobId

def RuntimeUpsert.Spares (jobId : String) (snapshot : RuntimeStateSnapshot) : RuntimeUpsert → Prop
  | suspension _ _ question _ _ _ _ => snapshot.SettledBeside jobId question.questionId
  | _ => True

def CallGoesOn (jobId : String) (current : UpstreamRun) : CallAction → Prop
  | .receive agent inbound env =>
    agent.TakesUp inbound current.state env ∨ current.state.runtimeState.Waits jobId
  | .submit agent env answer =>
    agent.AnswerTakenUp current.state env jobId answer
      ∨ current.state.runtimeState.SettledBeside jobId answer.questionId
  | .handle agent setup inbound answers =>
    ∀ pass, current.phase = .handling pass → agent.PassGoesOn setup inbound answers pass current
  | .write upsert =>
    current.phase.isReturned = true → upsert.Spares jobId current.state.runtimeState

structure UpstreamRun.Traced (jobId : String) (current : UpstreamRun) : Prop where
  traceable : Traceable current.state.runtimeState
  known : current.state.runtimeState.Known jobId
    ∨ current.state.pendingQuestions.lookup jobId = none ∧ current.phase.isReturned = true

namespace RuntimeStateSnapshot

variable {a : RuntimeStateSnapshot} {jobId : String}

theorem lookup_runs_turnOfRun_ne (now : UInt64) {inbound : InboundMessage} (source : String)
    (status : TurnStatus) (runStatus : RunStatus) (h : jobId ≠ inbound.id)
    : (a.apply (.turnOfRun now inbound source status runStatus)).runs.lookup (runtimeRunId jobId)
        = a.runs.lookup (runtimeRunId jobId) := by
  exact (AList.lookup_insert_ne (mt runtimeRunId_inj.mp h)).trans
    (lookup_runs_turn_ne now source status h)

theorem waits_suspension_other_iff (now : UInt64) {inbound : InboundMessage}
    (question : PendingQuestion) (taskId invocationId : Option String) (kind : SuspensionKind)
    (status : SuspensionStatus) (h : inbound.id ≠ jobId)
    : (a.apply (.suspension now inbound question taskId invocationId kind status)).Waits jobId
        ↔ a.WaitsBeside jobId (runtimeSuspensionId question.questionId) := by
  have hothers := fun id hne => @waitsAt_suspension_ne a now inbound question taskId invocationId
    kind status jobId id hne
  constructor
  . rintro ⟨id, hwaits⟩
    have hne : id ≠ runtimeSuspensionId question.questionId := by
      rintro rfl
      obtain ⟨record, ⟨hlookup, hrun, _⟩, _⟩ := hwaits
      cases (AList.lookup_insert ..).symm.trans hlookup
      exact h (runtimeRunId_inj.mp hrun)
    exact ⟨id, hne, (hothers id hne).mp hwaits⟩
  . rintro ⟨id, hne, hwaits⟩
    exact ⟨id, (hothers id hne).mpr hwaits⟩

theorem waitsAt_toolInvocation (inbound : InboundMessage) {invocation : ToolInvocationRecord}
    (inputPreview : Option String) (huse : invocation.toolUseId.isSome) {id : String}
    (h : a.WaitsAt jobId id)
    : (a.apply (.toolInvocation inbound invocation inputPreview)).WaitsAt jobId id := by
  obtain ⟨record, hactive, hresumable⟩ := h
  refine ⟨record, hactive, ?_⟩
  intro hkind
  obtain ⟨found, hfound, hsome⟩ := hresumable hkind
  obtain ⟨invocationId, hinvocation, hlookup⟩ := Option.bind_eq_some_iff.mp hfound
  unfold InvocationKnown
  rw [hinvocation, Option.bind_some]
  by_cases heq : invocationId = invocation.invocationId
  . subst heq
    refine ⟨_, AList.lookup_insert .., ?_⟩
    rw [Option.isSome_or]
    exact Bool.or_eq_true_iff.mpr (.inl huse)
  . exact ⟨found, (AList.lookup_insert_ne heq).trans hlookup, hsome⟩

theorem attended_apply_iff {upsert : RuntimeUpsert} (hother : upsert.isForOther jobId = true)
    (hattended : a.Attended jobId)
    : (a.apply upsert).Attended jobId ↔ upsert.Spares jobId a := by
  cases upsert with
  | turn now inbound source status =>
    have hne : jobId ≠ inbound.id := Ne.symm (of_decide_eq_true hother)
    refine iff_of_true (hattended.imp_left ?_) trivial
    intro hended run hrun
    exact hended run ((lookup_runs_turn_ne now source status hne).symm.trans hrun)
  | turnOfRun now inbound source status runStatus =>
    have hne : jobId ≠ inbound.id := Ne.symm (of_decide_eq_true hother)
    refine iff_of_true (hattended.imp_left ?_) trivial
    intro hended run hrun
    exact hended run ((lookup_runs_turnOfRun_ne now source status runStatus hne).symm.trans hrun)
  | suspension now inbound question taskId invocationId kind status =>
    exact or_congr_right (waits_suspension_other_iff now question taskId invocationId kind status
      (of_decide_eq_true hother))
  | toolInvocation inbound invocation inputPreview =>
    obtain ⟨_, huse⟩ := Bool.and_eq_true_iff.mp hother
    refine iff_of_true (hattended.imp_right ?_) trivial
    rintro ⟨id, hwaits⟩
    exact ⟨id, waitsAt_toolInvocation inbound inputPreview huse hwaits⟩
  | _ => exact iff_of_true hattended trivial

end RuntimeStateSnapshot

namespace UpstreamRun

variable {jobId : String} {current reached : UpstreamRun}

theorem noneStranded_iff (h : Traceable current.state.runtimeState)
    : current.NoneStranded jobId
        ↔ (current.phase.isReturned = true → current.state.runtimeState.Attended jobId) := by
  exact imp_congr_right (fun _ => AgentState.notStranded_iff h jobId)

theorem traced_of_leaves {guard : Prop} {before : AgentState}
    (hleaves : Leaves jobId guard before reached.phase reached.state)
    (htraceable : Traceable before.runtimeState) (hknown : before.runtimeState.Known jobId)
    : reached.Traced jobId ∧ (reached.NoneStranded jobId ↔ guard) := by
  have hreached := htraceable.wrote hleaves.wrote
  exact ⟨⟨hreached, .inl (hknown.wrote hleaves.wrote)⟩,
    (noneStranded_iff hreached).trans hleaves.attended⟩

section Step

variable (h : current.Traced jobId) (hnone : current.NoneStranded jobId)

include h

theorem Traced.receive {agent : CoreAgent} {inbound : InboundMessage} {env : InboundEnvironment}
    {phase : UpstreamPhase} {after : AgentState} (hjob : inbound.id = jobId)
    (hcall : agent.processInboundMessageFlow inbound current.state env = some (phase, after))
    : Traced jobId { current with phase, state := after }
        ∧ (NoneStranded jobId { current with phase, state := after }
          ↔ CallGoesOn jobId current (.receive agent inbound env)) := by
  subst hjob
  have hreceived : Traceable (agent.receivedState inbound current.state env).runtimeState :=
    h.traceable.wrote (CoreAgent.wrote_receivedState env).toAny
  obtain ⟨run, hrun, _⟩ := @CoreAgent.running_receivedState agent inbound current.state env
  exact traced_of_leaves (CoreAgent.leaves_processInboundMessageFlow hcall) hreceived
    (hreceived.job inbound.id run hrun).2

include hnone

theorem Traced.submit {agent : CoreAgent} {env : AnswerEnvironment} {answer : QuestionAnswerInput}
    {phase : UpstreamPhase} {after : AgentState} (hreturned : current.phase.isReturned = true)
    (hnext : env.nextQuestionId ≠ answer.questionId)
    (hcall : agent.answerQuestion current.state env jobId answer = some (phase, after))
    : Traced jobId { current with phase, state := after }
        ∧ (NoneStranded jobId { current with phase, state := after }
          ↔ CallGoesOn jobId current (.submit agent env answer)) := by
  have hattended := (noneStranded_iff h.traceable).mp hnone hreturned
  have hknown := h.known.imp_right And.left
  have hleaves := CoreAgent.leaves_answerQuestion h.traceable hknown hattended hnext hcall
  by_cases hjob : current.state.runtimeState.Known jobId
  . exact traced_of_leaves hleaves h.traceable hjob
  . have hmemory := hknown.resolve_left hjob
    rw [agent.answerQuestion_of_unknown env answer hjob hmemory] at hcall
    cases hcall
    refine ⟨⟨h.traceable, .inr ⟨hmemory, rfl⟩⟩, Iff.trans ?_ hleaves.attended⟩
    exact noneStranded_iff h.traceable

theorem Traced.write {upsert : RuntimeUpsert} (hother : upsert.isForOther jobId = true)
    : (current.withState (current.state.upsert upsert)).Traced jobId
        ∧ ((current.withState (current.state.upsert upsert)).NoneStranded jobId
          ↔ CallGoesOn jobId current (.write upsert)) := by
  have hreached := h.traceable.apply upsert
  refine ⟨⟨hreached, h.known.imp_left (fun hknown => hknown.apply upsert)⟩, ?_⟩
  refine (noneStranded_iff hreached).trans (forall_congr' (fun hreturned => ?_))
  exact attended_apply_iff hother ((noneStranded_iff h.traceable).mp hnone hreturned)

theorem Traced.callStep {action : CallAction}
    (hstep : AnimaAgent.callStep jobId current action = some reached)
    : reached.Traced jobId ∧ (reached.NoneStranded jobId ↔ CallGoesOn jobId current action) := by
  cases action with
  | receive agent inbound env =>
    obtain ⟨⟨_, hjob⟩, hmap⟩ := Option.ite_none_right_eq_some.mp hstep
    obtain ⟨⟨phase, after⟩, hcall, rfl⟩ := Option.map_eq_some_iff.mp hmap
    exact h.receive hjob hcall
  | submit agent env answer =>
    obtain ⟨⟨hreturned, hnext⟩, hmap⟩ := Option.ite_none_right_eq_some.mp hstep
    obtain ⟨⟨phase, after⟩, hcall, rfl⟩ := Option.map_eq_some_iff.mp hmap
    exact h.submit hnone hreturned hnext hcall
  | handle agent setup inbound answers =>
    obtain ⟨rfl, hadvance⟩ := Option.ite_none_right_eq_some.mp hstep
    obtain ⟨pass, hphase, rfl⟩ := CoreAgent.advance_eq_some hadvance
    have hknown : current.state.runtimeState.Known inbound.id := by
      refine h.known.resolve_right ?_
      rintro ⟨_, hreturned⟩
      rw [hphase] at hreturned
      cases hreturned
    obtain ⟨htraced, hiff⟩ := traced_of_leaves
      (@CoreAgent.leaves_handleUpstreamResult agent setup inbound answers pass current)
      h.traceable hknown
    refine ⟨htraced, hiff.trans ⟨?_, fun hgoes => hgoes pass hphase⟩⟩
    intro hgoes pass' hphase'
    cases hphase.symm.trans hphase'
    exact hgoes
  | write upsert =>
    obtain ⟨hother, heq⟩ := Option.ite_none_right_eq_some.mp hstep
    cases heq
    exact h.write hnone hother

end Step

theorem traced_fresh (jobId : String) : UpstreamRun.fresh.Traced jobId := by
  exact ⟨traceable_empty, .inr ⟨rfl, rfl⟩⟩

theorem noneStranded_fresh (jobId : String) : UpstreamRun.fresh.NoneStranded jobId := by
  intro _
  refine .inl ?_
  intro run hrun
  cases hrun

end UpstreamRun

open Runs in
theorem always_noneStranded_iff (jobId : String) (actions : List CallAction)
    : Always (callStep jobId) (UpstreamRun.NoneStranded jobId) UpstreamRun.fresh actions
        ↔ Guarded (callStep jobId) (CallGoesOn jobId) UpstreamRun.fresh actions := by
  refine always_iff_guarded (UpstreamRun.Traced jobId) (fun _ => True) ?_
    (UpstreamRun.traced_fresh jobId) (UpstreamRun.noneStranded_fresh jobId) (fun _ _ => trivial)
  intro current action reached htraced _ hnone hstep
  exact htraced.callStep hnone hstep

def refusedSession : InboundEnvironment where
  format := AskedQuestion.noPlans
  session := .error ⟨.sessionCreateFailed, .sessionCreate, "connection refused"⟩
  approvalMode := .auto
  initial :=
    { orchestration := .error .orchestrationNoDecomposition
      planInstance := CoreAgent.failedAgenticLoopTaskResult AskedQuestion.askingMessage "t_0" "none"
      autoApprove := false
      dispatch := fun _ => none
      taskId := "t_1"
      questionId := "q_1"
      approvals := [] }
  cache := LruCache.new none none
  latestSummaryStatus := none
  messageId := "msg_1"
  planTaskId := "t_2"
  proposalId := "proposal_1"
  questionId := "q_2"

/-- The run of a message that gets no session stays running, with nothing to wait for. -/
theorem not_always_noneStranded
    : ¬Runs.Always (callStep "job_1") (UpstreamRun.NoneStranded "job_1") UpstreamRun.fresh
        [.receive .idle AskedQuestion.askingMessage refusedSession] := by
  intro h
  let received :=
    CoreAgent.idle.receivedState AskedQuestion.askingMessage UpstreamRun.fresh.state refusedSession
  have hnone : UpstreamRun.NoneStranded "job_1"
      { UpstreamRun.fresh with phase := .returned (.ok none), state := received } :=
    h.2 _ rfl
  have hwrote : Wrote .turn UpstreamRun.fresh.state.runtimeState received.runtimeState :=
    CoreAgent.wrote_receivedState refusedSession
  have hreceived : Traceable received.runtimeState := traceable_empty.wrote hwrote.toAny
  have hattended := (UpstreamRun.noneStranded_iff hreceived).mp hnone rfl
  obtain ⟨_, _, ⟨hlookup, _⟩, _⟩ := CoreAgent.attended_receivedState_iff.mp hattended
  cases hlookup

end AnimaAgent
