import AnimaAgent.Agent.AnsweredPrompt
import AnimaAgent.Agent.JobRun
import AnimaAgent.Agent.RebuiltMessages

namespace AnimaAgent

def CoreAgent.withProvider (agent : CoreAgent) (provider : Provider) : CoreAgent :=
  { agent with provider }

namespace LoopEnv

variable (env : LoopEnv)

theorem iterate_suspended_iterations {remaining : Nat} {state : LoopState}
    {suspension : AgenticLoopSuspension}
    (h : (env.iterate remaining state).outcome = .ok (.suspended suspension))
    : suspension.iterations + 1 = state.iterations + callCount (env.iterate remaining state).events
        ∧ suspension.iterations < state.iterations + remaining := by
  induction remaining generalizing state with
  | zero => cases h
  | succ remaining ih =>
    rw [iterate, Traced.outcome_bind_eq_ok] at h
    obtain ⟨result, hresult, h⟩ := h
    rw [iterate, Traced.events_bind_of_ok _ hresult, callCount_append, callCount_step]
    cases result with
    | done outcome =>
      cases h
      rw [env.step_suspended_iterations hresult]
      refine ⟨rfl, ?_⟩
      omega
    | «continue» state' =>
      obtain ⟨hcount, hlimit⟩ := ih h
      have hiterations := env.step_continue_iterations hresult
      dsimp only
      omega

theorem continueAgenticLoop_suspended {messages : List InternalMsg} {iterations compactCount : Nat}
    {suspension : AgenticLoopSuspension}
    (h : (env.continueAgenticLoop messages iterations compactCount).outcome
      = .ok (.suspended suspension))
    : suspension.iterations + 1
          = iterations + callCount (env.continueAgenticLoop messages iterations compactCount).events
        ∧ suspension.iterations < env.config.maxIterations := by
  obtain ⟨hcount, hlimit⟩ := env.iterate_suspended_iterations h
  refine ⟨hcount, ?_⟩
  dsimp only at hlimit
  have hpos : env.config.maxIterations - iterations ≠ 0 := by
    intro hzero
    unfold continueAgenticLoop at h
    rw [hzero] at h
    cases h
  omega

end LoopEnv

def Provider.truncating : Provider where
  chat _ _ := .ok { content := [], stopReason := .maxTokens, usage := none, raw := .object [] }
  chatStream _ _ := .ok [.ok (.messageDelta (some "max_tokens")), .ok .messageStop]

namespace LoopEnv

variable (env : LoopEnv)

theorem step_truncating (hprovider : env.provider = .truncating) (state : LoopState)
    : ∃ state', (env.step state).outcome = .ok (.continue state') := by
  have hask : ∃ parsed value, env.askProvider state.iterations
      (env.chatRequest (env.prepared state)) = .ok (parsed, value)
        ∧ parsed.toolUses = [] ∧ parsed.stopReason = .maxTokens := by
    unfold askProvider
    rw [hprovider]
    split
    . exact ⟨_, _, rfl, rfl, rfl⟩
    . exact ⟨_, _, rfl, rfl, rfl⟩
  obtain ⟨parsed, value, hask, htools, hstop⟩ := hask
  rw [step_eq, Traced.outcome_bind_of_ok _ (env.callProvider_of_ok hask).1, act_outcome, htools]
  unfold finishOrContinue
  rw [if_pos hstop]
  exact ⟨_, rfl⟩

theorem callCount_continueAgenticLoop_truncating (hprovider : env.provider = .truncating)
    (messages : List InternalMsg) (iterations compactCount : Nat)
    : callCount (env.continueAgenticLoop messages iterations compactCount).events
        = env.config.maxIterations - iterations := by
  exact env.callCount_iterate_of_continue (env.step_truncating hprovider) _ _

end LoopEnv

namespace JobRun

variable (job : JobRun)

def resumesFrom : CoreAgent × JobAction → Option Nat
  | (_, .autoResume ..) => job.approving.map (fun approving => approving.2.iterations)
  | (agent, .answer order _ _ answer) =>
    if job.phase = .started then
      match job.acceptPermission agent order answer with
      | (some pending, coordinator) =>
        (coordinator.suspendedFor pending).1.toOption.map
          (fun suspended => suspended.suspension.iterations)
      | (none, _) => none
    else
      none
  | _ => none

def ToolAnswered : CoreAgent × JobAction → Prop
  | (agent, .autoResume uuid _) => ∃ config suspension messages,
    job.approving = some (config, suspension)
      ∧ ((agent.loopEnv config).resumeSuspendedToolInvocation uuid suspension true).outcome
        = .ok messages
  | (agent, .answer order uuid _ answer) => ∃ pending coordinator preparation,
    job.phase = .started
      ∧ job.acceptPermission agent order answer = (some pending, coordinator)
      ∧ (agent.prepareToolPermissionResume coordinator job.inbound.id pending uuid
        (Text.trim answer.answer)).outcome = .ok preparation
  | _ => False

/-- A suspended loop goes on only if its counter has every call, or is at the limit. -/
def CountsCalls (action : CoreAgent × JobAction) : Prop :=
  ∀ i, job.resumesFrom action = some i → job.providerCalls ≤ i ∨ 10 ≤ i

def WithinLimit : Prop :=
  job.providerCalls ≤ 10

structure Limited : Prop where
  calls : job.phase ≠ .started → job.providerCalls = 0
  approving : ∀ config suspension, job.approving = some (config, suspension)
    → config.maxIterations = 10 ∧ suspension.iterations < 10
      ∧ suspension.iterations < job.providerCalls

end JobRun

section Calls

variable (agent : CoreAgent) (coordinator : SuspensionCoordinator)

theorem callCount_approvedLoop_of_ok {uuid : String} {suspension : AgenticLoopSuspension}
    {config : AgenticLoopConfig} {messages : List InternalMsg}
    (h : ((agent.loopEnv config).resumeSuspendedToolInvocation uuid suspension true).outcome
      = .ok messages)
    : callCount (JobRun.approvedLoop agent uuid config suspension).events
        = callCount ((agent.loopEnv config).continueAgenticLoop messages suspension.iterations
          suspension.compactCount).events := by
  unfold JobRun.approvedLoop
  rw [Traced.events_bind_of_ok _ h, callCount_append,
    LoopEnv.callCount_resumeSuspendedToolInvocation, Nat.zero_add]

theorem callCount_approvedLoop_le (uuid : String) (suspension : AgenticLoopSuspension)
    (config : AgenticLoopConfig)
    : callCount (JobRun.approvedLoop agent uuid config suspension).events
        ≤ config.maxIterations - suspension.iterations := by
  cases h : ((agent.loopEnv config).resumeSuspendedToolInvocation uuid suspension true).outcome with
  | error error =>
    unfold JobRun.approvedLoop
    rw [Traced.events_bind_of_error _ h, LoopEnv.callCount_resumeSuspendedToolInvocation]
    exact Nat.zero_le _
  | ok messages =>
    rw [callCount_approvedLoop_of_ok agent h]
    exact (agent.loopEnv config).callCount_continueAgenticLoop_le ..

theorem approvedLoop_suspended {uuid : String} {suspension next : AgenticLoopSuspension}
    {config : AgenticLoopConfig}
    (h : (JobRun.approvedLoop agent uuid config suspension).outcome = .ok (.suspended next))
    : next.iterations + 1
          = suspension.iterations
            + callCount (JobRun.approvedLoop agent uuid config suspension).events
        ∧ next.iterations < config.maxIterations := by
  obtain ⟨messages, hmessages, houtcome⟩ := Traced.outcome_bind_eq_ok.mp h
  rw [callCount_approvedLoop_of_ok agent hmessages]
  exact LoopEnv.continueAgenticLoop_suspended _ houtcome

theorem resumeSuspendedToolPermission_calls (order : List String) (nextQuestionId jobId : String)
    (pending : PendingQuestion) (uuid answer : String)
    : match (agent.prepareToolPermissionResume coordinator jobId pending uuid answer).outcome with
      | .error _ => callCount (agent.resumeSuspendedToolPermission coordinator order nextQuestionId
          jobId pending uuid answer).events = 0
      | .ok preparation =>
        callCount (agent.resumeSuspendedToolPermission coordinator order nextQuestionId jobId
            pending uuid answer).events
          = callCount (agent.continueResumed preparation).events := by
  have hprepared : callCount
      (agent.prepareToolPermissionResume coordinator jobId pending uuid answer).events = 0 := by
    unfold CoreAgent.prepareToolPermissionResume
    split
    . rfl
    . dsimp only
      split
      . exact LoopEnv.callCount_resumeSuspendedToolInvocation ..
      . exact LoopEnv.callCount_resumeSuspendedToolInvocation ..
  unfold CoreAgent.resumeSuspendedToolPermission
  dsimp only
  cases (agent.prepareToolPermissionResume coordinator jobId pending uuid answer).outcome with
  | error error => exact hprepared
  | ok preparation =>
    dsimp only
    split
    . rw [callCount_append, hprepared, Nat.zero_add]
    . rw [callCount_append, hprepared, Nat.zero_add]

theorem prepareToolPermissionResume_suspended {jobId : String} {pending : PendingQuestion}
    {uuid answer : String} {preparation : ToolPermissionResumePreparation}
    (h : (agent.prepareToolPermissionResume coordinator jobId pending uuid answer).outcome
      = .ok preparation)
    : (coordinator.suspendedFor pending).1 = .ok preparation.suspended
        ∧ preparation.config.maxIterations = 10 := by
  unfold CoreAgent.prepareToolPermissionResume at h
  split at h
  . cases h
  . next suspended coordinator' hsuspended =>
    dsimp only at h
    split at h
    . cases h
    . cases h
      exact ⟨congrArg Prod.fst hsuspended, rfl⟩

end Calls

namespace JobRun

theorem limited_new (inbound : InboundMessage) : (new inbound).Limited := by
  refine ⟨fun _ => rfl, ?_⟩
  intro config suspension h
  cases h

theorem Limited.jobStep {job job' : JobRun} (h : job.Limited) {action : CoreAgent × JobAction}
    (hstep : jobStep job action = some job')
    : job'.Limited := by
  obtain ⟨agent, action⟩ := action
  have hcases := jobStep_eq_some hstep
  cases action with
  | receive uuid =>
    obtain ⟨hphase, rfl⟩ := hcases
    exact ⟨fun _ => h.calls (by rw [hphase]; decide), h.approving⟩
  | start autoApprove dispatch taskId questionId opencodeSessionId =>
    obtain ⟨hphase, rfl⟩ := hcases
    refine ⟨fun hne => absurd rfl hne, ?_⟩
    intro config suspension happroving
    unfold start returned at happroving ⊢
    dsimp only at happroving ⊢
    split at happroving
    . cases happroving
    . next suspension' hnext =>
      cases happroving
      rw [runAgenticLoopForPlan_events]
      obtain ⟨hcount, hlimit⟩ :=
        LoopEnv.continueAgenticLoop_suspended _ (firstLoop_of_autoResume _ _ _ hnext)
      refine ⟨rfl, hlimit, ?_⟩
      unfold firstLoop LoopEnv.runAgenticLoop
      omega
  | autoResume uuid taskId =>
    obtain ⟨config, suspension, happroving, rfl⟩ := hcases
    obtain ⟨hmax, hlimit, hcount⟩ := h.approving config suspension happroving
    refine ⟨?_, ?_⟩
    . intro hphase
      have := h.calls hphase
      omega
    . intro config' suspension' happroving'
      unfold autoResume returned at happroving' ⊢
      dsimp only at happroving' ⊢
      split at happroving'
      . cases happroving'
      . next next hnext =>
        cases happroving'
        rw [autoResumeSuspendedTool_events]
        obtain ⟨hcount', hlimit'⟩ :=
          approvedLoop_suspended agent (approvedLoop_of_autoResume _ _ hnext)
        rw [hmax] at hlimit'
        refine ⟨hmax, hlimit', ?_⟩
        omega
  | answer order uuid nextQuestionId answer =>
    obtain ⟨hphase, rfl⟩ := hcases
    unfold JobRun.answer
    split
    . exact ⟨h.calls, h.approving⟩
    . refine ⟨fun hne => absurd hphase hne, ?_⟩
      intro config suspension happroving
      obtain ⟨hmax, hlimit, hcount⟩ := h.approving config suspension happroving
      exact ⟨hmax, hlimit, Nat.lt_add_right _ hcount⟩
  | followUp uuid taskId opencodeSessionId followupPrompt =>
    obtain ⟨_, rfl⟩ := hcases
    exact ⟨h.calls, h.approving⟩
  | note message =>
    obtain ⟨_, rfl⟩ := hcases
    exact ⟨h.calls, h.approving⟩
  | meanwhile coordinator =>
    obtain ⟨_, rfl⟩ := hcases
    exact ⟨h.calls, h.approving⟩

theorem limited_of_run {inbound : InboundMessage} {actions : List (CoreAgent × JobAction)}
    {job : JobRun} (h : Runs.run AnimaAgent.jobStep (new inbound) actions = some job)
    : job.Limited := by
  refine Runs.Always.run_eq_some (Runs.always_of_forall_step ?_ actions (limited_new inbound)) h
  exact fun _ _ _ h hstep => h.jobStep hstep

theorem WithinLimit.jobStep {job job' : JobRun} (hlimited : job.Limited) (h : job.WithinLimit)
    {action : CoreAgent × JobAction} (hcounts : job.CountsCalls action)
    (hstep : jobStep job action = some job')
    : job'.WithinLimit := by
  obtain ⟨agent, action⟩ := action
  have hcases := jobStep_eq_some hstep
  unfold WithinLimit at h ⊢
  cases action with
  | start autoApprove dispatch taskId questionId opencodeSessionId =>
    obtain ⟨hphase, rfl⟩ := hcases
    have hzero := hlimited.calls (by rw [hphase]; decide)
    have hcalls := (agent.loopEnv (agent.loopConfig job.inbound opencodeSessionId)
      ).callCount_continueAgenticLoop_le [CoreAgent.initialMsg job.inbound] 0 0
    change job.providerCalls + callCount _ ≤ 10
    rw [runAgenticLoopForPlan_events, hzero, Nat.zero_add]
    exact hcalls
  | autoResume uuid taskId =>
    obtain ⟨config, suspension, happroving, rfl⟩ := hcases
    obtain ⟨hmax, _, _⟩ := hlimited.approving config suspension happroving
    have hcalls := callCount_approvedLoop_le agent uuid suspension config
    have hcounts := hcounts suspension.iterations
      (by rw [resumesFrom, happroving]; rfl)
    change job.providerCalls + callCount _ ≤ 10
    rw [autoResumeSuspendedTool_events]
    omega
  | answer order uuid nextQuestionId answer =>
    obtain ⟨hphase, rfl⟩ := hcases
    unfold JobRun.answer
    split
    . exact h
    . next pending coordinator haccept =>
      have hcalls := resumeSuspendedToolPermission_calls agent coordinator order nextQuestionId
        job.inbound.id pending uuid (Text.trim answer.answer)
      change job.providerCalls + callCount _ ≤ 10
      split at hcalls
      . omega
      . next preparation hprepared =>
        obtain ⟨hsuspended, hmax⟩ :=
          prepareToolPermissionResume_suspended agent coordinator hprepared
        have hloop := (agent.loopEnv preparation.config).callCount_continueAgenticLoop_le
          preparation.resumedMessages preparation.suspended.suspension.iterations
          preparation.suspended.suspension.compactCount
        have hcounts := hcounts preparation.suspended.suspension.iterations
          (by rw [resumesFrom, if_pos hphase, haccept]; dsimp only; rw [hsuspended]; rfl)
        unfold CoreAgent.continueResumed at hcalls
        change _ ≤ preparation.config.maxIterations - _ at hloop
        omega
  | receive uuid =>
    obtain ⟨_, rfl⟩ := hcases
    exact h
  | followUp uuid taskId opencodeSessionId followupPrompt =>
    obtain ⟨_, rfl⟩ := hcases
    exact h
  | note message =>
    obtain ⟨_, rfl⟩ := hcases
    exact h
  | meanwhile coordinator =>
    obtain ⟨_, rfl⟩ := hcases
    exact h

theorem countsCalls_of_forall_provider {job : JobRun} (hlimited : job.Limited) {agent : CoreAgent}
    {action : JobAction} (hanswered : job.ToolAnswered (agent, action))
    (h : ∀ provider job',
      AnimaAgent.jobStep job (agent.withProvider provider, action) = some job'
        → job'.WithinLimit)
    : job.CountsCalls (agent, action) := by
  intro i hresumes
  cases action with
  | autoResume uuid taskId =>
    obtain ⟨config, suspension, messages, happroving, hmessages⟩ := hanswered
    obtain ⟨hmax, _, _⟩ := hlimited.approving config suspension happroving
    rw [resumesFrom, happroving] at hresumes
    cases hresumes
    have hstep := h .truncating
      (job.autoResume (agent.withProvider .truncating) config suspension uuid taskId)
      (by rw [AnimaAgent.jobStep, happroving]; rfl)
    have hcalls := callCount_approvedLoop_of_ok (agent.withProvider .truncating) hmessages
    rw [LoopEnv.callCount_continueAgenticLoop_truncating _ rfl] at hcalls
    change job.providerCalls + callCount _ ≤ 10 at hstep
    rw [autoResumeSuspendedTool_events, hcalls] at hstep
    change job.providerCalls + (config.maxIterations - suspension.iterations) ≤ 10 at hstep
    dsimp only
    omega
  | answer order uuid nextQuestionId answer =>
    obtain ⟨pending, coordinator, preparation, hphase, haccept, hprepared⟩ := hanswered
    obtain ⟨hsuspended, hmax⟩ := prepareToolPermissionResume_suspended agent coordinator hprepared
    rw [resumesFrom, if_pos hphase, haccept] at hresumes
    dsimp only at hresumes
    rw [hsuspended] at hresumes
    cases hresumes
    have hstep := h .truncating
      (job.answer (agent.withProvider .truncating) order uuid nextQuestionId answer)
      (by rw [AnimaAgent.jobStep, if_pos hphase])
    have hcalls := resumeSuspendedToolPermission_calls (agent.withProvider .truncating) coordinator
      order nextQuestionId job.inbound.id pending uuid (Text.trim answer.answer)
    have hsame : ((agent.withProvider .truncating).prepareToolPermissionResume coordinator
        job.inbound.id pending uuid (Text.trim answer.answer)).outcome = .ok preparation :=
      hprepared
    rw [hsame] at hcalls
    dsimp only at hcalls
    unfold CoreAgent.continueResumed at hcalls
    rw [LoopEnv.callCount_continueAgenticLoop_truncating _ rfl] at hcalls
    unfold JobRun.answer at hstep
    rw [show job.acceptPermission (agent.withProvider .truncating) order answer
      = (some pending, coordinator) from haccept] at hstep
    change job.providerCalls + callCount _ ≤ 10 at hstep
    rw [hcalls] at hstep
    change job.providerCalls
      + (preparation.config.maxIterations - preparation.suspended.suspension.iterations) ≤ 10
      at hstep
    dsimp only
    omega
  | _ => exact hanswered.elim

theorem not_countsCalls_autoResume {job : JobRun} (hlimited : job.Limited)
    {config : AgenticLoopConfig} {suspension : AgenticLoopSuspension}
    (happroving : job.approving = some (config, suspension)) (agent : CoreAgent)
    (uuid taskId : String)
    : ¬job.CountsCalls (agent, .autoResume uuid taskId) := by
  obtain ⟨_, hlimit, hcalls⟩ := hlimited.approving config suspension happroving
  intro hcounts
  have hcounts := hcounts suspension.iterations (by rw [resumesFrom, happroving]; rfl)
  omega

/--
The calls for a job stay within the limit as long as suspended loops go on from counters that have
every call. Where a tool is answered, nothing less will do for every behaviour of the provider.
-/
theorem withinLimit_of_countsCalls (inbound : InboundMessage)
    : (∀ actions, Runs.Guarded AnimaAgent.jobStep CountsCalls (new inbound) actions
          → Runs.Always AnimaAgent.jobStep WithinLimit (new inbound) actions)
        ∧ (∀ earlier job, Runs.run AnimaAgent.jobStep (new inbound) earlier = some job
          → ∀ agent action, job.ToolAnswered (agent, action)
            → (∀ provider job',
              AnimaAgent.jobStep job (agent.withProvider provider, action) = some job'
                → job'.WithinLimit)
              → job.CountsCalls (agent, action)) := by
  constructor
  . intro actions hguarded
    have halways : Runs.Always AnimaAgent.jobStep (fun job => job.Limited ∧ job.WithinLimit)
        (new inbound) actions := by
      refine Runs.always_of_guarded ?_ ⟨limited_new inbound, Nat.zero_le _⟩ hguarded
      rintro job action job' ⟨hlimited, hwithin⟩ hcounts hstep
      exact ⟨hlimited.jobStep hstep, hwithin.jobStep hlimited hcounts hstep⟩
    exact halways.mono (fun _ h => h.2)
  . intro earlier job hrun agent action hanswered hproviders
    exact countsCalls_of_forall_provider (limited_of_run hrun) hanswered hproviders

end JobRun

def Provider.echoing : Provider where
  chat _ _ := .error { kind := .network, message := "offline" }
  chatStream _ _ := .ok [
    .ok (.contentBlockStart 0 (.toolUse "tu_1" "echo" (.object []))),
    .ok (.contentBlockDelta 0 (.inputJsonDelta "{}")),
    .ok (.contentBlockStop 0),
    .ok (.messageDelta (some "tool_use")),
    .ok .messageStop]

def CoreAgent.asking : CoreAgent :=
  { CoreAgent.idle with
    provider := .echoing
    toolRegistry := (∅ : ToolRegistry).register (constTool "echo" (.ok (.text "ok")))
    permissionChecker := some .askAll }

namespace JobRun

def approvedTenTimes : List (CoreAgent × JobAction) :=
  (.asking, .receive "m_1")
    :: (.asking, .start true (fun _ => none) "t_1" "q_1" "session_1")
    :: List.replicate 10 (.asking, .autoResume "r_1" "t_2")

theorem approvedTenTimes_exceeds
    : ∃ job,
        Runs.run AnimaAgent.jobStep (new RuntimeStateSnapshot.firstMessage) approvedTenTimes
            = some job
          ∧ ¬job.WithinLimit := by
  have hcalls : (Runs.run AnimaAgent.jobStep (new RuntimeStateSnapshot.firstMessage)
      approvedTenTimes).map JobRun.providerCalls = some 11 := by
    decide +kernel
  obtain ⟨job, hrun, hcalls⟩ := Option.map_eq_some_iff.mp hcalls
  refine ⟨job, hrun, ?_⟩
  unfold WithinLimit
  omega

end JobRun

end AnimaAgent
