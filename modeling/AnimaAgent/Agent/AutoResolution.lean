import AnimaAgent.Agent.AnsweredPrompt
import AnimaAgent.Agent.UpstreamResolution
import AnimaAgent.Library.Runs

/-!
This module contains how often a job goes on by itself after a blocked subtask. Neither the calls nor
the progress of the job count these continuations, so that only the request and the model can end them.
-/

namespace AnimaAgent

open Runs

structure UpstreamRun.KeepsCounts (opencodeSessionId : String) (before after : UpstreamRun)
    : Prop where
  escalations : after.escalations = before.escalations
  continuations : after.continuations = before.continuations
  session : ∀ next, after.phase = .handling next → next.opencodeSessionId = opencodeSessionId

namespace UpstreamRun

variable {opencodeSessionId : String} {pass : UpstreamPass} {before after : UpstreamRun}

theorem KeepsCounts.of_counts {middle : UpstreamRun}
    (h : KeepsCounts opencodeSessionId middle after)
    (hescalations : middle.escalations = before.escalations)
    (hcontinuations : middle.continuations = before.continuations)
    : KeepsCounts opencodeSessionId before after := by
  exact ⟨h.escalations.trans hescalations, h.continuations.trans hcontinuations, h.session⟩

theorem keepsCounts_done (question : Option PendingQuestion)
    : KeepsCounts opencodeSessionId before (before.done pass question) := by
  refine ⟨rfl, rfl, ?_⟩
  intro next hnext
  cases hnext

theorem keepsCounts_fail (error : AgentError)
    : KeepsCounts opencodeSessionId before (before.fail error) := by
  refine ⟨rfl, rfl, ?_⟩
  intro next hnext
  cases hnext

theorem keepsCounts_goOn {next : UpstreamPass}
    (hsession : next.opencodeSessionId = opencodeSessionId)
    : KeepsCounts opencodeSessionId before (before.goOn next) := by
  refine ⟨rfl, rfl, ?_⟩
  intro next' hnext
  cases hnext
  exact hsession

end UpstreamRun

namespace CoreAgent

variable (agent : CoreAgent) (setup : EscalationSetup) (inbound : InboundMessage)

/-- A number that the continuations of one call do not exceed, whatever the worker returns. -/
def AutoResolutionBounded (opencodeSessionId : String) : Prop :=
  ∃ bound : Nat, ∀ (state : AgentState) (pass : UpstreamPass),
    pass.opencodeSessionId = opencodeSessionId → ∀ answers reached,
      run (agent.advance setup inbound) { state, phase := .handling pass } answers = some reached →
        reached.continuations ≤ bound

def Resolves (opencodeSessionId : String) (calls : Nat) (reason : SubtaskBlockedReason) : Prop :=
  (tryAutoResolveBlocked setup inbound reason).isSome
    ∨ (agent.tryLlmResolveBlocked setup inbound calls opencodeSessionId reason).isSome

section Passes

variable {agent setup inbound} {answers : UpstreamAnswers} {pass : UpstreamPass}
  {current reached : UpstreamRun} {reason : SubtaskBlockedReason}

theorem handleFollowup_keepsCounts (result : Except RuntimeError TaskResult)
    : UpstreamRun.KeepsCounts pass.opencodeSessionId current
        (agent.handleFollowup inbound pass current result) := by
  cases result with
  | error error => exact UpstreamRun.keepsCounts_fail _
  | ok result =>
    unfold handleFollowup
    dsimp only
    split
    . exact UpstreamRun.keepsCounts_goOn rfl
    . exact (UpstreamRun.keepsCounts_done _).of_counts rfl rfl

theorem scheduleAgentFollowup_keepsCounts (plan : AgentFollowupPlan)
    : UpstreamRun.KeepsCounts pass.opencodeSessionId current
        (agent.scheduleAgentFollowup inbound answers pass current plan) := by
  unfold scheduleAgentFollowup
  dsimp only
  split
  . exact (UpstreamRun.keepsCounts_done _).of_counts rfl rfl
  . exact (handleFollowup_keepsCounts _).of_counts rfl rfl

theorem evaluateUpstreamResult_keepsCounts
    : UpstreamRun.KeepsCounts pass.opencodeSessionId current
        (agent.evaluateUpstreamResult inbound answers pass current) := by
  unfold evaluateUpstreamResult
  cases planTurnOutcome pass.resolvedQuestion.isSome
      (judgeRequirement agent.serde pass.result.result answers.verdict) with
  | complete shouldResolveQuestion =>
    exact (UpstreamRun.keepsCounts_done _).of_counts rfl rfl
  | askUserInput shouldResolveQuestion requirement =>
    exact (UpstreamRun.keepsCounts_done _).of_counts rfl rfl
  | scheduleFollowup plan => exact (scheduleAgentFollowup_keepsCounts plan).of_counts rfl rfl

theorem handleContinuation_keepsCounts (opencodeSessionId : String)
    (result : Except RuntimeError TaskResult)
    : UpstreamRun.KeepsCounts opencodeSessionId current
        (handleContinuation pass current opencodeSessionId result) := by
  cases result with
  | error error => exact UpstreamRun.keepsCounts_fail _
  | ok result =>
    unfold handleContinuation
    dsimp only
    split
    . exact UpstreamRun.keepsCounts_goOn rfl
    . exact UpstreamRun.keepsCounts_fail _

structure Continues (answers : UpstreamAnswers) (opencodeSessionId : String)
    (before after : UpstreamRun) : Prop where
  counts : UpstreamRun.KeepsCounts opencodeSessionId before after
  handles : ∀ result, (∀ request, answers.worker request = .ok result) → result.status = "success" →
    ∃ next, after.phase = .handling next ∧ next.result = result

theorem Continues.of_counts {opencodeSessionId : String} {before middle after : UpstreamRun}
    (h : Continues answers opencodeSessionId middle after)
    (hescalations : middle.escalations = before.escalations)
    (hcontinuations : middle.continuations = before.continuations)
    : Continues answers opencodeSessionId before after := by
  exact ⟨h.counts.of_counts hescalations hcontinuations, h.handles⟩

theorem continueWithAutoResolved_continues (resolved : String)
    : Continues answers pass.opencodeSessionId
        { current with continuations := current.continuations + 1 }
        (agent.continueWithAutoResolved inbound answers pass current reason resolved) := by
  constructor
  . exact (handleContinuation_keepsCounts pass.opencodeSessionId _).of_counts rfl rfl
  . intro result hworker hsuccess
    unfold continueWithAutoResolved
    dsimp only
    rw [hworker]
    unfold handleContinuation
    dsimp only
    rw [if_pos hsuccess]
    exact ⟨_, rfl, rfl⟩

def callsAfter (setup : EscalationSetup) (inbound : InboundMessage) (calls : Nat)
    (reason : SubtaskBlockedReason) : Nat :=
  if (tryAutoResolveBlocked setup inbound reason).isSome then calls else calls + 1

variable (agent setup inbound answers pass current reason)

theorem handleBlocked_cases
    : (agent.Resolves setup inbound pass.opencodeSessionId current.escalations reason
          ∧ Continues answers pass.opencodeSessionId
            { current with
              continuations := current.continuations + 1
              escalations := callsAfter setup inbound current.escalations reason }
            (agent.handleBlocked setup inbound answers pass current reason))
      ∨ (¬agent.Resolves setup inbound pass.opencodeSessionId current.escalations reason
          ∧ (agent.handleBlocked setup inbound answers pass current reason).continuations
            = current.continuations
          ∧ ∃ outcome, (agent.handleBlocked setup inbound answers pass current reason).phase
            = .returned outcome) := by
  unfold handleBlocked Resolves callsAfter
  cases tryAutoResolveBlocked setup inbound reason with
  | some resolved =>
    exact .inl ⟨.inl rfl, (continueWithAutoResolved_continues resolved).of_counts rfl rfl⟩
  | none =>
    dsimp only [appendSubtaskBlockedTranscript, UpstreamRun.withState]
    cases agent.tryLlmResolveBlocked setup inbound current.escalations pass.opencodeSessionId reason
        with
    | some resolved =>
      exact .inl ⟨.inr rfl, (continueWithAutoResolved_continues resolved).of_counts rfl rfl⟩
    | none =>
      refine .inr ⟨?_, rfl, _, rfl⟩
      rintro (h | h)
      . cases h
      . cases h

end Passes

section Unbounded

variable {agent setup inbound} {opencodeSessionId : String}

def Resolvable (agent : CoreAgent) (setup : EscalationSetup) (inbound : InboundMessage)
    (opencodeSessionId : String) (current : UpstreamRun) : Prop :=
  ∃ pass reason, current.phase = .handling pass ∧ pass.opencodeSessionId = opencodeSessionId
    ∧ blockedReasonOf pass.result = some reason
    ∧ agent.Resolves setup inbound opencodeSessionId current.escalations reason

def blockedSuccess (reason : SubtaskBlockedReason) : TaskResult where
  taskId := ""
  traceId := ""
  status := "success"
  result := none
  error := none
  durationMs := 0
  workerId := none
  blockedReason := some reason.toValue

def blockedAnswers (reason : SubtaskBlockedReason) : UpstreamAnswers where
  verdict := .satisfied
  worker _ := .ok (blockedSuccess reason)
  uuid := ""
  taskId := ""
  order := []
  latestSummaryStatus := none

theorem blockedReasonOf_blockedSuccess (reason : SubtaskBlockedReason)
    : blockedReasonOf (blockedSuccess reason) = some reason := by
  exact SubtaskBlockedReason.fromValue_toValue reason

theorem Resolvable.progress
    (hreasons : ∀ calls, ∃ reason, agent.Resolves setup inbound opencodeSessionId calls reason)
    {current : UpstreamRun} (h : agent.Resolvable setup inbound opencodeSessionId current)
    : ∃ answers reached, agent.advance setup inbound current answers = some reached
        ∧ agent.Resolvable setup inbound opencodeSessionId reached
        ∧ reached.continuations = current.continuations + 1 := by
  obtain ⟨pass, reason, hphase, rfl, hreason, hresolves⟩ := h
  obtain ⟨reason', hresolves'⟩ :=
    hreasons (callsAfter setup inbound current.escalations reason)
  refine ⟨blockedAnswers reason', _, advance_of_handling hphase, ?_⟩
  unfold handleUpstreamResult
  rw [hreason]
  dsimp only
  rcases handleBlocked_cases agent setup inbound (blockedAnswers reason') pass current reason with
    ⟨_, hcontinues⟩ | ⟨hunresolved, _⟩
  . obtain ⟨next, hnext, hresult⟩ := hcontinues.handles (blockedSuccess reason') (fun _ => rfl) rfl
    refine ⟨⟨next, reason', hnext, hcontinues.counts.session next hnext, ?_, ?_⟩,
      hcontinues.counts.continuations⟩
    . rw [hresult]
      exact blockedReasonOf_blockedSuccess reason'
    . rw [hcontinues.counts.escalations]
      dsimp only
      exact hresolves'
  . exact absurd hresolves hunresolved

theorem not_bounded_of_resolves
    (hreasons : ∀ calls, ∃ reason, agent.Resolves setup inbound opencodeSessionId calls reason)
    : ¬agent.AutoResolutionBounded setup inbound opencodeSessionId := by
  rintro ⟨bound, hbound⟩
  obtain ⟨reason, hresolves⟩ := hreasons 0
  obtain ⟨actions, reached, hrun, hcount⟩ := exists_run_of_progress
    (I := agent.Resolvable setup inbound opencodeSessionId) (f := UpstreamRun.continuations)
    (fun current h => h.progress hreasons)
    (s := { state := {}
            phase := .handling
              { opencodeSessionId
                result := blockedSuccess reason
                source := .initial
                resolvedQuestion := none } })
    ⟨_, reason, rfl, rfl, blockedReasonOf_blockedSuccess reason, hresolves⟩ (bound + 1)
  have hle := hbound _ _ rfl actions reached hrun
  rw [hcount] at hle
  dsimp only at hle
  omega

end Unbounded

section Bounded

variable {agent setup inbound} {opencodeSessionId : String} {calls : Nat}

theorem exists_resolves_of_request (h : Text.trim inbound.content ≠ "") (calls : Nat)
    : ∃ reason, agent.Resolves setup inbound opencodeSessionId calls reason := by
  refine ⟨.missingContext inbound.content, .inl ?_⟩
  unfold tryAutoResolveBlocked
  dsimp only
  have hself : ∀ text : String, Text.contains text text = true := by
    intro text
    exact decide_eq_true (List.infix_refl _)
  rw [if_neg h, if_pos (hself _)]
  rfl

theorem tryAutoResolveBlocked_of_blank (h : Text.trim inbound.content = "")
    (reason : SubtaskBlockedReason)
    : tryAutoResolveBlocked setup inbound reason = none := by
  exact if_pos h

structure WithinCalls (opencodeSessionId : String) (calls : Nat) (current : UpstreamRun) : Prop where
  bounded : current.continuations ≤ calls
  handling : ∀ pass, current.phase = .handling pass →
    pass.opencodeSessionId = opencodeSessionId ∧ current.continuations = current.escalations

theorem WithinCalls.advance (hblank : Text.trim inbound.content = "")
    (hcalls : ∀ reason,
      agent.tryLlmResolveBlocked setup inbound calls opencodeSessionId reason = none)
    {current reached : UpstreamRun} {answers : UpstreamAnswers}
    (h : WithinCalls opencodeSessionId calls current)
    (hstep : agent.advance setup inbound current answers = some reached)
    : WithinCalls opencodeSessionId calls reached := by
  obtain ⟨pass, hphase, rfl⟩ := advance_eq_some hstep
  obtain ⟨rfl, hcounts⟩ := h.handling pass hphase
  unfold handleUpstreamResult
  split
  . next reason _ =>
    have hauto := @tryAutoResolveBlocked_of_blank setup inbound hblank reason
    rcases handleBlocked_cases agent setup inbound answers pass current reason with
      ⟨hresolves, hcontinues⟩ | ⟨_, hcontinuations, outcome, hreturned⟩
    . have hne : current.escalations ≠ calls := by
        rintro rfl
        rcases hresolves with hsome | hsome
        . rw [hauto] at hsome
          cases hsome
        . rw [hcalls reason] at hsome
          cases hsome
      have hafter := hcontinues.counts.escalations
      unfold callsAfter at hafter
      rw [hauto] at hafter
      have hbounded := h.bounded
      constructor
      . rw [hcontinues.counts.continuations]
        dsimp only
        omega
      . intro next hnext
        refine ⟨hcontinues.counts.session next hnext, ?_⟩
        rw [hcontinues.counts.continuations, hafter, hcounts]
        rfl
    . constructor
      . rw [hcontinuations]
        exact h.bounded
      . intro next hnext
        rw [hreturned] at hnext
        cases hnext
  . have hkeeps := @evaluateUpstreamResult_keepsCounts agent inbound answers pass current
    constructor
    . rw [hkeeps.continuations]
      exact h.bounded
    . intro next hnext
      refine ⟨hkeeps.session next hnext, ?_⟩
      rw [hkeeps.continuations, hkeeps.escalations]
      exact hcounts

theorem bounded_of_blank (hblank : Text.trim inbound.content = "")
    (hcalls : ∀ reason,
      agent.tryLlmResolveBlocked setup inbound calls opencodeSessionId reason = none)
    : agent.AutoResolutionBounded setup inbound opencodeSessionId := by
  refine ⟨calls, ?_⟩
  intro state pass hsession answers reached hrun
  have hstart : WithinCalls opencodeSessionId calls { state, phase := .handling pass } := by
    refine ⟨Nat.zero_le _, ?_⟩
    intro next hnext
    cases hnext
    exact ⟨hsession, rfl⟩
  have halways : Always (agent.advance setup inbound) (WithinCalls opencodeSessionId calls)
      { state, phase := .handling pass } answers :=
    always_of_forall_step (fun _ _ _ h hstep => h.advance hblank hcalls hstep) answers hstart
  exact (halways.run_eq_some hrun).bounded

end Bounded

/--
The continuations of a job are bounded exactly if its request is blank and the model resolves nothing
after some number of requests.
-/
theorem autoResolutionBounded_iff (opencodeSessionId : String)
    : agent.AutoResolutionBounded setup inbound opencodeSessionId
        ↔ Text.trim inbound.content = "" ∧ ∃ calls, ∀ reason,
          agent.tryLlmResolveBlocked setup inbound calls opencodeSessionId reason = none := by
  constructor
  . intro hbounded
    have hunresolved : ¬∀ calls, ∃ reason,
        agent.Resolves setup inbound opencodeSessionId calls reason :=
      fun hreasons => not_bounded_of_resolves hreasons hbounded
    have hblank : Text.trim inbound.content = "" := by
      by_contra hne
      exact hunresolved (exists_resolves_of_request hne)
    push Not at hunresolved
    obtain ⟨calls, hcalls⟩ := hunresolved
    refine ⟨hblank, calls, ?_⟩
    intro reason
    exact Option.not_isSome_iff_eq_none.mp (fun h => hcalls reason (.inr h))
  . rintro ⟨hblank, calls, hcalls⟩
    exact bounded_of_blank hblank hcalls

def deployRequest : InboundMessage where
  id := "job_1"
  channel := "cli"
  senderId := "user"
  chatId := none
  content := "deploy"

def plainSetup : EscalationSetup where
  escalationResolve := ""
  toLowercase := Text.toAsciiLowercase

/-- A worker that goes on to miss the text of the request is asked for ever. -/
theorem deployRequest_not_bounded
    : ¬idle.AutoResolutionBounded plainSetup deployRequest "session_1" := by
  apply not_bounded_of_resolves
  intro calls
  exact ⟨.missingContext "deploy", .inl (by decide +kernel)⟩

end CoreAgent

end AnimaAgent
