import AnimaAgent.Agent.UpstreamResolution
import AnimaAgent.Library.Runs

namespace AnimaAgent

open Runs

def RuntimeUpsert.isRequirement : RuntimeUpsert → Bool
  | requirement _ => true
  | _ => false

theorem RuntimeStateSnapshot.requirements_apply (snapshot : RuntimeStateSnapshot)
    {upsert : RuntimeUpsert} (h : upsert.isRequirement = false)
    : (snapshot.apply upsert).requirements = snapshot.requirements := by
  cases upsert with
  | requirement record => cases h
  | turn => rfl
  | turnOfRun => rfl
  | task => rfl
  | suspension => rfl
  | toolInvocation => rfl
  | projectionHint => rfl
  | message => rfl

namespace SuspensionCoordinator

variable (now : UInt64) (coordinator : SuspensionCoordinator)

theorem requirements_storeQuestion (jobId : String) (question : PendingQuestion)
    : (coordinator.storeQuestion now jobId question).runtimeState.requirements
        = coordinator.runtimeState.requirements := by
  unfold storeQuestion
  cases question.inbound with
  | none => rfl
  | some inbound => rfl

theorem requirements_clearQuestion (order : List String) (jobId : String)
    : (coordinator.clearQuestion now order jobId).runtimeState.requirements
        = coordinator.runtimeState.requirements := by
  unfold clearQuestion
  dsimp only
  split
  . rfl
  . split
    . rfl
    . rfl

theorem requirements_appendTranscriptMessages (inbound : InboundMessage)
    (messages : List InternalMsg)
    : (coordinator.appendTranscriptMessages now inbound messages).runtimeState.requirements
        = coordinator.runtimeState.requirements := by
  unfold appendTranscriptMessages RuntimeStateSnapshot.appendTranscriptMessages
  dsimp only
  generalize coordinator.runtimeState = snapshot
  induction messages generalizing snapshot with
  | nil => rfl
  | cons message messages ih => exact ih _

end SuspensionCoordinator

structure RequirementProgressState.Counts (progress : RequirementProgressState)
    (followups : List String) : Prop where
  attemptedRounds : progress.attemptedRounds = followups.length
  maxRounds : progress.maxRounds = defaultMaxRequirementFollowupRounds
  lastResultFingerprint : progress.lastResultFingerprint = followups.getLast?

namespace AgentState

structure Tracks (jobId : String) (followups : List String) (state : AgentState) : Prop where
  unknown : state.runtimeState.rebuildRequirement jobId = none →
    state.requirementProgress.lookup jobId = none ∧ followups = []
  known : ∀ progress, state.runtimeState.rebuildRequirement jobId = some progress →
    progress.Counts followups

variable {now : UInt64} {jobId : String} {followups : List String} {state state' : AgentState}
  {inbound : InboundMessage} {progress : RequirementProgressState}

theorem rebuildRequirement_congr
    (h : state'.runtimeState.requirements = state.runtimeState.requirements) (jobId : String)
    : state'.runtimeState.rebuildRequirement jobId
        = state.runtimeState.rebuildRequirement jobId := by
  unfold RuntimeStateSnapshot.rebuildRequirement
  rw [h]

theorem Tracks.congr (h : state.Tracks jobId followups)
    (hrequirements : state'.runtimeState.requirements = state.runtimeState.requirements)
    (hprogress : state'.requirementProgress.lookup jobId = state.requirementProgress.lookup jobId)
    : state'.Tracks jobId followups := by
  have hrebuild := rebuildRequirement_congr hrequirements jobId
  constructor
  . rw [hrebuild, hprogress]
    exact h.unknown
  . rw [hrebuild]
    exact h.known

theorem Tracks.upsert (h : state.Tracks jobId followups) {upsert : RuntimeUpsert}
    (hother : upsert.isRequirement = false)
    : (state.upsert upsert).Tracks jobId followups := by
  exact h.congr (state.runtimeState.requirements_apply hother) rfl

theorem tracks_of_known (h : state.runtimeState.rebuildRequirement jobId = some progress)
    (hcounts : progress.Counts followups)
    : state.Tracks jobId followups := by
  constructor
  . intro hunknown
    rw [h] at hunknown
    cases hunknown
  . intro progress' hprogress'
    rw [h] at hprogress'
    cases hprogress'
    exact hcounts

theorem rebuildRequirement_upsertRuntimeRequirement (status : RequirementStatus)
    : (state.upsertRuntimeRequirement now inbound progress status).runtimeState.rebuildRequirement
          inbound.id
        = some progress := by
  unfold upsertRuntimeRequirement upsert RuntimeStateSnapshot.rebuildRequirement
    RuntimeStateSnapshot.apply
  dsimp only [reduceEvent, RuntimeStateSnapshot.requirementRecord]
  rw [AList.lookup_insert]
  rfl

theorem Tracks.requirementState_counts (h : state.Tracks jobId followups) {hydrateCache : Bool}
    (hread : (state.requirementState jobId hydrateCache).1 = some progress)
    : progress.Counts followups := by
  rw [requirementState_fst] at hread
  cases hrebuild : state.runtimeState.rebuildRequirement jobId with
  | some found =>
    rw [hrebuild] at hread
    cases hread
    exact h.known _ hrebuild
  | none =>
    rw [hrebuild, (h.unknown hrebuild).1] at hread
    cases hread

theorem requirementState_false (jobId : String)
    : (state.requirementState jobId false).2 = state := by
  unfold requirementState
  split
  . rfl
  . rfl

theorem Tracks.ensureRequirement (h : state.Tracks inbound.id followups) (now : UInt64)
    : (state.ensureRequirement now inbound defaultMaxRequirementFollowupRounds).1.Counts followups
        ∧ (state.ensureRequirement now inbound
            defaultMaxRequirementFollowupRounds).2.runtimeState.rebuildRequirement inbound.id
          = some (state.ensureRequirement now inbound defaultMaxRequirementFollowupRounds).1 := by
  unfold AgentState.ensureRequirement
  dsimp only
  refine ⟨?_, rebuildRequirement_upsertRuntimeRequirement _⟩
  cases hread : (state.requirementState inbound.id true).1 with
  | some progress => exact h.requirementState_counts hread
  | none =>
    rw [requirementState_fst, Option.or_eq_none_iff] at hread
    rw [(h.unknown hread.1).2]
    exact ⟨rfl, rfl, rfl⟩

theorem Tracks.assembleTurnContext (h : state.Tracks inbound.id followups) (now : UInt64)
    (latestSummaryStatus : Option String) (mode : ContextAssemblyMode) (opencodeSessionId : String)
    (pendingQuestion : Option PendingQuestion) (followupPrompt : Option String)
    : (state.assembleTurnContext now latestSummaryStatus inbound mode opencodeSessionId
        pendingQuestion followupPrompt).2.Tracks inbound.id followups := by
  obtain ⟨hcounts, hknown⟩ := h.ensureRequirement now
  exact tracks_of_known hknown hcounts

theorem rebuildRequirement_updateRequirement {run : RunRecord} (attemptedRounds : Nat)
    (lastResultFingerprint lastReason : Option String)
    (h : state.runtimeState.rebuildRequirement jobId = some progress)
    (hrun : state.runtimeState.runs.lookup (runtimeRunId jobId) = some run)
    : (state.updateRequirement now jobId attemptedRounds lastResultFingerprint
          lastReason).runtimeState.rebuildRequirement jobId
        = some { progress with attemptedRounds, lastResultFingerprint, lastReason } := by
  unfold updateRequirement requirementState rebuildInboundFromSnapshot
  rw [h]
  dsimp only
  rw [if_pos rfl]
  dsimp only
  rw [hrun]
  exact @rebuildRequirement_upsertRuntimeRequirement now _
    { id := jobId
      channel := run.channel
      senderId := ""
      chatId := run.chatId
      content := progress.originalUserRequest } _ _

end AgentState

structure UpstreamRun.Followed (jobId : String) (run : UpstreamRun) : Prop where
  tracks : run.state.Tracks jobId run.followups
  limited : run.followups.length ≤ defaultMaxRequirementFollowupRounds
  apart : run.followups.IsChain (fun earlier later => earlier ≠ later)

theorem UpstreamRun.Followed.withState {jobId : String} {run : UpstreamRun} (h : run.Followed jobId)
    {state : AgentState} (htracks : state.Tracks jobId run.followups)
    : (run.withState state).Followed jobId := by
  exact ⟨htracks, h.limited, h.apart⟩

namespace CoreAgent

variable {agent : CoreAgent} {setup : EscalationSetup} {inbound : InboundMessage}
  {answers : UpstreamAnswers} {pass : UpstreamPass} {current : UpstreamRun}
  {followups : List String} {state : AgentState}

structure Prepared (inbound : InboundMessage) (followups : List String) (plan : AgentFollowupPlan)
    (preparation : AgentFollowupPreparation) (state : AgentState) : Prop where
  counts : preparation.progress.Counts followups
  nextRound : preparation.nextRound = followups.length + 1
  fingerprint : preparation.fingerprint = plan.resultFingerprint
  known : state.runtimeState.rebuildRequirement inbound.id = some preparation.progress
  run : ∃ run, state.runtimeState.runs.lookup (runtimeRunId inbound.id) = some run

variable (agent) in
theorem prepared_prepareAgentFollowup (h : state.Tracks inbound.id followups)
    (plan : AgentFollowupPlan)
    : Prepared inbound followups plan (agent.prepareAgentFollowup inbound plan state).1
        (agent.prepareAgentFollowup inbound plan state).2 := by
  obtain ⟨hcounts, _⟩ := h.ensureRequirement agent.now
  constructor
  . exact hcounts
  . exact congrArg (· + 1) hcounts.attemptedRounds
  . rfl
  . exact AgentState.rebuildRequirement_upsertRuntimeRequirement _
  . -- the turn of the followup is written together with its run
    unfold prepareAgentFollowup
    exact ⟨_, AList.lookup_insert _⟩

section Prepared

variable {plan : AgentFollowupPlan} {preparation : AgentFollowupPreparation}

theorem Prepared.isExhausted_iff (h : Prepared inbound followups plan preparation state)
    : preparation.isExhausted = true
        ↔ defaultMaxRequirementFollowupRounds ≤ followups.length
          ∨ followups.getLast? = some plan.resultFingerprint := by
  unfold AgentFollowupPreparation.isExhausted
  rw [h.nextRound, h.counts.maxRounds, h.counts.lastResultFingerprint, h.fingerprint,
    Bool.or_eq_true, decide_eq_true_eq, beq_iff_eq]
  exact or_congr_left Nat.lt_succ_iff

theorem Prepared.exhaustedState (h : Prepared inbound followups plan preparation state)
    : (agent.exhaustedState inbound plan preparation state).Tracks inbound.id followups := by
  unfold CoreAgent.exhaustedState
  refine AgentState.Tracks.upsert ?_ rfl
  exact AgentState.tracks_of_known (AgentState.rebuildRequirement_upsertRuntimeRequirement _)
    h.counts

variable (agent) in
theorem Prepared.startedState (h : Prepared inbound followups plan preparation state)
    : (agent.startedState inbound plan preparation state).Tracks inbound.id
        (followups ++ [preparation.fingerprint]) := by
  obtain ⟨run, hrun⟩ := h.run
  unfold CoreAgent.startedState
  refine AgentState.Tracks.upsert ?_ rfl
  apply AgentState.tracks_of_known
    (AgentState.rebuildRequirement_updateRequirement _ _ _ h.known hrun)
  constructor
  . rw [h.nextRound, List.length_append]
    rfl
  . exact h.counts.maxRounds
  . rw [List.getLast?_concat]

end Prepared

theorem tracks_followupResult (h : current.state.Tracks inbound.id followups)
    (plan : AgentFollowupPlan)
    : (agent.followupResult inbound answers pass current plan).2.Tracks inbound.id followups := by
  unfold followupResult
  dsimp only
  split
  . exact h.assembleTurnContext agent.now answers.latestSummaryStatus .followup
      pass.opencodeSessionId none (some plan.followupPrompt)
  . refine h.congr ?_ rfl
    unfold runAgenticLoopForFollowup
    dsimp only
    split
    . exact SuspensionCoordinator.requirements_appendTranscriptMessages ..
    . rfl
    . rfl

theorem tracks_failedFollowupState (h : state.Tracks inbound.id followups) (error : Option String)
    : (agent.failedFollowupState inbound error state).Tracks inbound.id followups := by
  unfold failedFollowupState
  exact (h.upsert rfl).upsert rfl

variable (agent pass) in
theorem tracks_evaluatedState (h : state.Tracks inbound.id followups)
    : (agent.evaluatedState inbound pass state).Tracks inbound.id followups := by
  unfold evaluatedState
  exact (h.upsert rfl).upsert rfl

theorem tracks_writeBack {progress : RequirementProgressState} {before : AgentState}
    (hbefore : before.Tracks inbound.id followups)
    (hread : (before.requirementState inbound.id false).1 = some progress)
    (status : RequirementStatus)
    : (state.upsertRuntimeRequirement agent.now inbound progress status).Tracks inbound.id
        followups := by
  exact AgentState.tracks_of_known (AgentState.rebuildRequirement_upsertRuntimeRequirement status)
    (hbefore.requirementState_counts hread)

theorem tracks_clearRequirement (h : state.Tracks inbound.id followups)
    : (state.clearRequirement inbound.id).Tracks inbound.id followups := by
  constructor
  . intro hunknown
    exact ⟨AList.lookup_erase _ _, (h.unknown hunknown).2⟩
  . exact h.known

theorem tracks_completedState (h : state.Tracks inbound.id followups) (order : List String)
    (label : String)
    : (agent.completedState inbound order label state).Tracks inbound.id followups := by
  unfold completedState
  dsimp only
  split
  . exact tracks_writeBack h ‹_› .satisfied
  . refine AgentState.Tracks.upsert (AgentState.Tracks.upsert ?_ rfl) rfl
    apply tracks_clearRequirement
    rw [AgentState.requirementState_false]
    exact h.congr (SuspensionCoordinator.requirements_clearQuestion ..) rfl

theorem tracks_waitingState (h : state.Tracks inbound.id followups) (label : String)
    (question : PendingQuestion)
    : (agent.waitingState inbound label question state).Tracks inbound.id followups := by
  unfold waitingState
  dsimp only
  generalize hwritten : AgentState.upsert _ _ = written
  have htracks : written.Tracks inbound.id followups := by
    rw [← hwritten]
    refine AgentState.Tracks.upsert (AgentState.Tracks.upsert ?_ rfl) rfl
    exact h.congr (SuspensionCoordinator.requirements_storeQuestion ..) rfl
  split
  . exact tracks_writeBack htracks ‹_› .waitingUserInput
  . rw [AgentState.requirementState_false]
    exact htracks

theorem followed_continueWithAutoResolved (h : current.Followed inbound.id)
    (reason : SubtaskBlockedReason) (resolved : String)
    : (agent.continueWithAutoResolved inbound answers pass current reason resolved).Followed
        inbound.id := by
  have htracks := h.tracks.assembleTurnContext agent.now answers.latestSummaryStatus
    .subtaskBlockedContinuation pass.opencodeSessionId none
    (some (autoResolvedPrompt reason resolved))
  unfold continueWithAutoResolved handleContinuation
  dsimp only
  split
  . exact ⟨htracks, h.limited, h.apart⟩
  . split
    . exact ⟨htracks, h.limited, h.apart⟩
    . exact ⟨htracks, h.limited, h.apart⟩

theorem followed_registerBlocked (h : current.Followed inbound.id) (reason : SubtaskBlockedReason)
    : (agent.registerBlocked inbound answers pass current reason).Followed inbound.id := by
  unfold registerBlocked
  dsimp only
  refine ⟨h.tracks.congr ?_ rfl, h.limited, h.apart⟩
  change RuntimeStateSnapshot.requirements
    (SuspensionCoordinator.questionState _ answers.order inbound.id false).2.runtimeState = _
  rw [SuspensionCoordinator.runtimeState_questionState,
    SuspensionCoordinator.registerSubtaskBlocked_eq,
    SuspensionCoordinator.requirements_storeQuestion]

variable (agent) in
theorem followed_appendSubtaskBlockedTranscript (h : current.Followed inbound.id)
    (reason : SubtaskBlockedReason) (autoResolved : Bool)
    : (agent.appendSubtaskBlockedTranscript inbound current reason autoResolved).Followed
        inbound.id := by
  exact h.withState (h.tracks.upsert rfl)

theorem followed_handleBlocked (h : current.Followed inbound.id) (reason : SubtaskBlockedReason)
    : (agent.handleBlocked setup inbound answers pass current reason).Followed inbound.id := by
  unfold handleBlocked
  dsimp only
  split
  . apply followed_continueWithAutoResolved
    exact followed_appendSubtaskBlockedTranscript agent h reason true
  . have hasked := followed_appendSubtaskBlockedTranscript agent h reason false
    split
    . apply followed_continueWithAutoResolved
      apply followed_appendSubtaskBlockedTranscript
      exact ⟨hasked.tracks, hasked.limited, hasked.apart⟩
    . apply followed_registerBlocked
      exact ⟨hasked.tracks, hasked.limited, hasked.apart⟩

theorem followed_handleFollowup (h : current.Followed inbound.id)
    (result : Except RuntimeError TaskResult)
    : (agent.handleFollowup inbound pass current result).Followed inbound.id := by
  unfold handleFollowup
  split
  . exact ⟨h.tracks, h.limited, h.apart⟩
  . split
    . exact ⟨h.tracks, h.limited, h.apart⟩
    . exact ⟨tracks_failedFollowupState h.tracks _, h.limited, h.apart⟩

theorem followed_scheduleAgentFollowup (h : current.Followed inbound.id) (plan : AgentFollowupPlan)
    : (agent.scheduleAgentFollowup inbound answers pass current plan).Followed inbound.id := by
  have hprepared := prepared_prepareAgentFollowup agent h.tracks plan
  unfold scheduleAgentFollowup
  dsimp only
  split
  . exact ⟨hprepared.exhaustedState, h.limited, h.apart⟩
  . next hexhausted =>
    rw [hprepared.isExhausted_iff, not_or] at hexhausted
    obtain ⟨hleft, hother⟩ := hexhausted
    have hstarted := hprepared.startedState agent
    apply followed_handleFollowup
    refine ⟨tracks_followupResult hstarted plan, ?_, ?_⟩
    . change (current.followups ++ [_]).length ≤ defaultMaxRequirementFollowupRounds
      rw [List.length_append]
      exact Nat.not_le.mp hleft
    . change List.IsChain _ (current.followups ++ [_])
      rw [List.isChain_append, hprepared.fingerprint]
      refine ⟨h.apart, List.isChain_singleton _, ?_⟩
      intro earlier hearlier later hlater
      cases hlater
      intro hsame
      exact hother (hsame ▸ hearlier)

theorem followed_handleUpstreamResult (h : current.Followed inbound.id)
    : (agent.handleUpstreamResult setup inbound answers pass current).Followed inbound.id := by
  unfold handleUpstreamResult
  split
  . next reason _ => exact followed_handleBlocked h reason
  . have hassembled := h.tracks.assembleTurnContext agent.now answers.latestSummaryStatus
      pass.source.assemblyMode pass.opencodeSessionId pass.resolvedQuestion none
    have hevaluated := h.withState (tracks_evaluatedState agent pass hassembled)
    unfold evaluateUpstreamResult dispatchUpstreamTurnPlan
    dsimp only
    split
    . exact ⟨tracks_completedState hevaluated.tracks _ _, h.limited, h.apart⟩
    . exact ⟨tracks_waitingState hevaluated.tracks _ _, h.limited, h.apart⟩
    . next plan _ => exact followed_scheduleAgentFollowup hevaluated plan

structure Stops (pass : UpstreamPass) (reason : String) (before after : UpstreamRun) : Prop where
  followups : after.followups = before.followups
  reports : after.reports = before.reports ++ [.exhausted reason]
  phase : after.phase = .returned (.ok (pass.returns.getD pass.resolvedQuestion))

variable (agent answers pass) in
theorem stops_scheduleAgentFollowup (h : current.Followed inbound.id) {plan : AgentFollowupPlan}
    (hused : defaultMaxRequirementFollowupRounds ≤ current.followups.length
      ∨ current.followups.getLast? = some plan.resultFingerprint)
    : Stops pass plan.reason current
        (agent.scheduleAgentFollowup inbound answers pass current plan) := by
  have hprepared := prepared_prepareAgentFollowup agent h.tracks plan
  unfold scheduleAgentFollowup
  dsimp only
  rw [if_pos (hprepared.isExhausted_iff.mpr hused)]
  exact ⟨rfl, rfl, rfl⟩

theorem stops_handleUpstreamResult (h : current.Followed inbound.id)
    (hblocked : blockedReasonOf pass.result = none) {plan : AgentFollowupPlan}
    (hplan : judgeRequirement agent.serde pass.result.result answers.verdict
      = .needsAgentFollowup plan)
    (hused : defaultMaxRequirementFollowupRounds ≤ current.followups.length
      ∨ current.followups.getLast? = some plan.resultFingerprint)
    : Stops pass plan.reason current
        (agent.handleUpstreamResult setup inbound answers pass current) := by
  have hassembled := h.tracks.assembleTurnContext agent.now answers.latestSummaryStatus
    pass.source.assemblyMode pass.opencodeSessionId pass.resolvedQuestion none
  have hevaluated := h.withState (tracks_evaluatedState agent pass hassembled)
  have hstops := stops_scheduleAgentFollowup agent answers pass hevaluated hused
  unfold handleUpstreamResult evaluateUpstreamResult
  rw [hblocked, hplan]
  exact ⟨hstops.followups, hstops.reports, hstops.phase⟩

def StartsOn (fingerprint : String) (before after : UpstreamRun) : Prop :=
  after.followups = before.followups ∨ after.followups = before.followups ++ [fingerprint]

theorem followups_handleFollowup (result : Except RuntimeError TaskResult)
    : (agent.handleFollowup inbound pass current result).followups = current.followups := by
  unfold handleFollowup
  split
  . rfl
  . split
    . rfl
    . rfl

theorem followups_handleContinuation (opencodeSessionId : String)
    (result : Except RuntimeError TaskResult)
    : (handleContinuation pass current opencodeSessionId result).followups
        = current.followups := by
  unfold handleContinuation
  split
  . rfl
  . split
    . rfl
    . rfl

theorem followups_handleBlocked (reason : SubtaskBlockedReason)
    : (agent.handleBlocked setup inbound answers pass current reason).followups
        = current.followups := by
  unfold handleBlocked
  dsimp only
  split
  . exact followups_handleContinuation ..
  . split
    . exact followups_handleContinuation ..
    . rfl

theorem startsOn_handleUpstreamResult
    : StartsOn (fingerprintResult agent.serde pass.result.result) current
        (agent.handleUpstreamResult setup inbound answers pass current) := by
  unfold handleUpstreamResult
  split
  . exact .inl (followups_handleBlocked _)
  . unfold evaluateUpstreamResult judgeRequirement
    dsimp only
    cases answers.verdict with
    | satisfied => exact .inl rfl
    | needsUserInput requirement => exact .inl rfl
    | needsAgentFollowup reason missingRequirements followupPrompt =>
      unfold planTurnOutcome dispatchUpstreamTurnPlan scheduleAgentFollowup
      dsimp only
      split
      . exact .inl rfl
      . exact .inr (followups_handleFollowup _)

end CoreAgent

inductive RequirementAction where
  | call (pass : UpstreamPass)
  | handle (agent : CoreAgent) (setup : EscalationSetup) (inbound : InboundMessage)
    (answers : UpstreamAnswers)
  | assemble (agent : CoreAgent) (inbound : InboundMessage) (latestSummaryStatus : Option String)
    (mode : ContextAssemblyMode) (opencodeSessionId : String)
    (pendingQuestion : Option PendingQuestion) (followupPrompt : Option String)
  | restart
  | elsewhere (state : AgentState)

def AgentState.requirementOf (jobId : String) (state : AgentState)
    : Option RequirementProgressState × Option RequirementProgressState :=
  (state.runtimeState.rebuildRequirement jobId, state.requirementProgress.lookup jobId)

def requirementStep (jobId : String) (current : UpstreamRun) : RequirementAction → Option UpstreamRun
  | .call pass =>
    match current.phase with
    | .returned _ => some (current.goOn pass)
    | .handling _ => none
  | .handle agent setup inbound answers =>
    if inbound.id = jobId then agent.advance setup inbound current answers else none
  | .assemble agent inbound latestSummaryStatus mode opencodeSessionId pendingQuestion
      followupPrompt =>
    if inbound.id = jobId then
      some (current.withState (current.state.assembleTurnContext agent.now latestSummaryStatus
        inbound mode opencodeSessionId pendingQuestion followupPrompt).2)
    else
      none
  | .restart =>
    some { current with
      state := { runtimeState := current.state.runtimeState }
      phase := .returned (.ok none) }
  | .elsewhere state =>
    if state.requirementOf jobId = current.state.requirementOf jobId then
      some (current.withState state)
    else
      none

def UpstreamRun.fresh : UpstreamRun where
  state := {}
  phase := .returned (.ok none)

theorem UpstreamRun.followed_fresh (jobId : String) : UpstreamRun.fresh.Followed jobId := by
  refine ⟨⟨?_, ?_⟩, Nat.zero_le _, .nil⟩
  . intro _
    exact ⟨rfl, rfl⟩
  . intro progress hprogress
    cases hprogress

theorem UpstreamRun.Followed.requirementStep {jobId : String} {current reached : UpstreamRun}
    {action : RequirementAction} (h : current.Followed jobId)
    (hstep : AnimaAgent.requirementStep jobId current action = some reached)
    : reached.Followed jobId := by
  cases action with
  | call pass =>
    unfold AnimaAgent.requirementStep at hstep
    dsimp only at hstep
    split at hstep
    . cases hstep
      exact ⟨h.tracks, h.limited, h.apart⟩
    . cases hstep
  | handle agent setup inbound answers =>
    obtain ⟨rfl, hadvance⟩ := Option.ite_none_right_eq_some.mp hstep
    obtain ⟨pass, _, rfl⟩ := CoreAgent.advance_eq_some hadvance
    exact CoreAgent.followed_handleUpstreamResult h
  | assemble agent inbound latestSummaryStatus mode opencodeSessionId pendingQuestion
      followupPrompt =>
    obtain ⟨rfl, hassembled⟩ := Option.ite_none_right_eq_some.mp hstep
    cases hassembled
    exact h.withState (h.tracks.assembleTurnContext ..)
  | restart =>
    cases hstep
    refine ⟨⟨?_, h.tracks.known⟩, h.limited, h.apart⟩
    intro hunknown
    exact ⟨rfl, (h.tracks.unknown hunknown).2⟩
  | elsewhere state =>
    obtain ⟨hsame, hstate⟩ := Option.ite_none_right_eq_some.mp hstep
    cases hstate
    obtain ⟨hstored, hcached⟩ := Prod.mk.inj hsame
    refine h.withState ⟨?_, ?_⟩
    . rw [hstored, hcached]
      exact h.tracks.unknown
    . rw [hstored]
      exact h.tracks.known

/-- The followups of a job are limited, and none is started from the result of the one before. -/
structure UpstreamRun.FollowupsKept (jobId : String) (current : UpstreamRun) : Prop where
  limited : current.followups.length ≤ defaultMaxRequirementFollowupRounds
  apart : current.followups.IsChain (fun earlier later => earlier ≠ later)
  started : ∀ (agent : CoreAgent) setup inbound answers pass,
    CoreAgent.StartsOn (fingerprintResult agent.serde pass.result.result) current
      (agent.handleUpstreamResult setup inbound answers pass current)
  stopped : ∀ (agent : CoreAgent) setup inbound answers pass plan, inbound.id = jobId →
    CoreAgent.blockedReasonOf pass.result = none →
    judgeRequirement agent.serde pass.result.result answers.verdict = .needsAgentFollowup plan →
    (defaultMaxRequirementFollowupRounds ≤ current.followups.length
      ∨ current.followups.getLast? = some plan.resultFingerprint) →
    CoreAgent.Stops pass plan.reason current
      (agent.handleUpstreamResult setup inbound answers pass current)

theorem always_followupsKept (jobId : String) (actions : List RequirementAction)
    : Always (requirementStep jobId) (UpstreamRun.FollowupsKept jobId) UpstreamRun.fresh
        actions := by
  have hfollowed : Always (requirementStep jobId) (UpstreamRun.Followed jobId) UpstreamRun.fresh
      actions :=
    always_of_forall_step (fun _ _ _ h hstep => h.requirementStep hstep) actions
      (UpstreamRun.followed_fresh jobId)
  refine hfollowed.mono ?_
  intro current h
  refine ⟨h.limited, h.apart, ?_, ?_⟩
  . intro agent setup inbound answers pass
    exact CoreAgent.startsOn_handleUpstreamResult
  . intro agent setup inbound answers pass plan hjob hblocked hplan hused
    subst hjob
    exact CoreAgent.stops_handleUpstreamResult h hblocked hplan hused

end AnimaAgent
