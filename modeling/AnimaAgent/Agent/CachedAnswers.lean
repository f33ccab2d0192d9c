import AnimaAgent.Agent.CallLimit

namespace AnimaAgent

def Value.detectedPrompt (response : Value) : Option String :=
  (response.get "question").bind fun question =>
    ((question.get "prompt").or ((question.get "message").or (question.get "text"))).bind asStr

def Value.isQuestion (response : Value) : Bool :=
  response.get "type" == some (.string "question")
    || response.get "status" == some (.string "waiting_user_input")
    || response.detectedPrompt.isSome

def TaskResult.asksUser (result : TaskResult) : Bool :=
  result.status == "success" && result.result.any Value.isQuestion

namespace CoreAgent

variable (agent : CoreAgent) (inbound : InboundMessage) (env : InitialEnvironment)

/--
The result of the plan is a question: the first loop waits for a permission that only the user can
give, or the workers answer with a question.
-/
def asksUser (opencodeSessionId : String) : Bool :=
  if agent.toolRegistry.keys.isEmpty then
    env.planInstance.asksUser
  else
    match ((agent.loopEnv (agent.loopConfig inbound opencodeSessionId)).runAgenticLoop
        [initialMsg inbound]).outcome with
    | .ok (.completed loopResult) => (env.dispatch loopResult.finalText).any TaskResult.asksUser
    | .ok (.suspended _) => !env.autoApprove
    | .error _ => false

theorem asksUser_autoResumeSuspendedTool {coordinator : SuspensionCoordinator}
    {uuid taskId : String} {suspension : AgenticLoopSuspension} {config : AgenticLoopConfig}
    {result : TaskResult}
    (h : (agent.autoResumeSuspendedTool coordinator inbound uuid taskId suspension config).next
      = .taskResult result)
    : result.asksUser = false := by
  unfold autoResumeSuspendedTool at h
  dsimp only at h
  split at h
  . cases h
    rfl
  . split at h
    . cases h
      rfl
    . cases h
    . cases h
      rfl

theorem asksUser_autoResumeSuspendedTools {inbound : InboundMessage} {config : AgenticLoopConfig}
    {approvals : List (CoreAgent × String × String)} {next : LoopReturn}
    {coordinator coordinator' : SuspensionCoordinator} {result : TaskResult}
    (hnext : ∀ result, next = .taskResult result → result.asksUser = false)
    (h : autoResumeSuspendedTools inbound config approvals next coordinator
      = some (result, coordinator'))
    : result.asksUser = false := by
  induction approvals generalizing next coordinator with
  | nil =>
    cases next with
    | taskResult result' =>
      cases h
      exact hnext result rfl
    | autoResume suspension => cases h
  | cons approval rest ih =>
    cases next with
    | taskResult result' =>
      cases h
      exact hnext result rfl
    | autoResume suspension =>
      obtain ⟨agent, uuid, taskId⟩ := approval
      exact ih (fun result hresult => agent.asksUser_autoResumeSuspendedTool inbound hresult) h

theorem asksUser_executeInitialPlan {coordinator coordinator' : SuspensionCoordinator}
    {opencodeSessionId : String} {result : TaskResult}
    (h : agent.executeInitialPlan coordinator inbound env opencodeSessionId
      = some (result, coordinator'))
    : result.asksUser = agent.asksUser inbound env opencodeSessionId := by
  unfold executeInitialPlan at h
  unfold asksUser
  cases hempty : agent.toolRegistry.keys.isEmpty with
  | true =>
    rw [hempty] at h
    cases h
    rfl
  | false =>
    rw [hempty] at h
    unfold runAgenticLoopForPlan at h
    rw [if_neg Bool.false_ne_true] at h ⊢
    dsimp only at h
    cases houtcome : ((agent.loopEnv (agent.loopConfig inbound opencodeSessionId)).runAgenticLoop
        [initialMsg inbound]).outcome with
    | error error =>
      rw [houtcome] at h
      rw [autoResumeSuspendedTools_taskResult] at h
      cases h
      rfl
    | ok outcome =>
      rw [houtcome] at h
      cases outcome with
      | completed loopResult =>
        dsimp only at h ⊢
        cases hdispatch : env.dispatch loopResult.finalText with
        | some dispatched =>
          rw [hdispatch] at h
          rw [autoResumeSuspendedTools_taskResult] at h
          cases h
          rfl
        | none =>
          rw [hdispatch] at h
          rw [autoResumeSuspendedTools_taskResult] at h
          cases h
          rfl
      | suspended suspension =>
        dsimp only at h ⊢
        cases hauto : env.autoApprove with
        | true =>
          rw [hauto] at h
          exact asksUser_autoResumeSuspendedTools (by rintro result ⟨⟩) h
        | false =>
          rw [hauto] at h
          rw [if_neg Bool.false_ne_true, autoResumeSuspendedTools_taskResult] at h
          cases h
          rfl

end CoreAgent

structure ServingAgent where
  state : ExecutionState
  served : List (String × Value)

inductive ServingAction where
  | execute (agent : CoreAgent) (inbound : InboundMessage) (env : InitialEnvironment)
    (plan : ExecutionPlan) (opencodeSessionId : String)
  | meanwhile (coordinator : SuspensionCoordinator)

namespace ServingAgent

def fresh : ServingAgent where
  state := { coordinator := {}, cache := .new (some 1000) (some (5 * 60 * 1000)) }
  served := []

def servedValue (outcome : InitialExecutionOutcome) : Option Value :=
  if outcome.cacheHit then outcome.result.result else none

def step (serving : ServingAgent) : ServingAction → Option ServingAgent
  | .execute agent inbound env plan opencodeSessionId =>
    (agent.executeInitialMessagePlan inbound env serving.state plan opencodeSessionId).map
      fun (outcome, state) =>
        { state
          served := serving.served
            ++ (servedValue outcome).toList.map (fun value => (inbound.id, value)) }
  | .meanwhile coordinator => some { serving with state := { serving.state with coordinator } }

structure AnswersOnly (serving : ServingAgent) : Prop where
  cached : ∀ value, serving.state.cache.Caches value → value.isQuestion = false
  served : ∀ entry ∈ serving.served, entry.2.isQuestion = false

def fillsCache (serving : ServingAgent) (agent : CoreAgent) (inbound : InboundMessage)
    (env : InitialEnvironment) (plan : ExecutionPlan) (opencodeSessionId : String)
    : Bool :=
  let cacheKey := makeApiCacheKey opencodeSessionId inbound.content
  env.undecomposed && plan.planType == "single"
    && (serving.state.cache.get agent.now cacheKey).1.isNone

/-- A plan whose result goes into the cache does not ask the user. -/
def AsksOutsideCache (serving : ServingAgent) : ServingAction → Prop
  | .execute agent inbound env plan opencodeSessionId =>
    serving.fillsCache agent inbound env plan opencodeSessionId = true →
      agent.asksUser inbound env opencodeSessionId = false
  | .meanwhile _ => True

variable {serving serving' : ServingAgent}

theorem AnswersOnly.of_caches (h : serving.AnswersOnly) {state : ExecutionState}
    {served : Option Value} (jobId : String)
    (hcached : ∀ value, state.cache.Caches value → serving.state.cache.Caches value)
    (hserved : ∀ value, served = some value → serving.state.cache.Caches value)
    : AnswersOnly
        { state, served := serving.served ++ served.toList.map (fun value => (jobId, value)) } := by
  constructor
  . exact fun value hvalue => h.cached value (hcached value hvalue)
  . intro entry hentry
    obtain hentry | hentry := List.mem_append.mp hentry
    . exact h.served entry hentry
    . obtain ⟨value, hvalue, rfl⟩ := List.mem_map.mp hentry
      exact h.cached value (hserved value (Option.mem_toList.mp hvalue))

theorem answersOnly_executeAndCache_iff (h : serving.AnswersOnly) {agent : CoreAgent}
    {inbound : InboundMessage} {env : InitialEnvironment} {state state' : ExecutionState}
    {planType opencodeSessionId cacheKey jobId : String} {outcome : InitialExecutionOutcome}
    (hcached : ∀ value, state.cache.Caches value → serving.state.cache.Caches value)
    (hexecute : agent.executeAndCache inbound env state planType opencodeSessionId cacheKey
      = some (outcome, state'))
    : AnswersOnly
          { state := state'
            served := serving.served
              ++ (servedValue outcome).toList.map (fun value => (jobId, value)) }
        ↔ agent.asksUser inbound env opencodeSessionId = false := by
  obtain ⟨⟨result, coordinator⟩, hplan, heq⟩ := Option.map_eq_some_iff.mp hexecute
  have hasks := agent.asksUser_executeInitialPlan inbound env hplan
  obtain ⟨rfl, rfl⟩ := Prod.mk.inj heq
  rw [← hasks]
  unfold TaskResult.asksUser
  cases hstatus : result.status == "success" with
  | false => exact iff_of_true (h.of_caches _ hcached (by rintro value ⟨⟩)) rfl
  | true =>
    cases hvalue : result.result with
    | none => exact iff_of_true (h.of_caches _ hcached (by rintro value ⟨⟩)) rfl
    | some value =>
      constructor
      . intro hanswers
        exact hanswers.cached value (LruCache.caches_set_self value none)
      . intro hnot
        refine ⟨?_, ?_⟩
        . intro value' hvalue'
          obtain hold | rfl := LruCache.caches_set hvalue'
          . exact h.cached value' (hcached value' hold)
          . exact hnot
        . have hkept : AnswersOnly
              { state, served := serving.served ++ (none : Option Value).toList.map (jobId, ·) } :=
            h.of_caches jobId hcached (by rintro value ⟨⟩)
          exact hkept.served

theorem answersOnly_executeUndecomposed_iff (h : serving.AnswersOnly) {agent : CoreAgent}
    {inbound : InboundMessage} {env : InitialEnvironment} {state' : ExecutionState}
    {planType opencodeSessionId jobId : String} {outcome : InitialExecutionOutcome}
    (hexecute : agent.executeUndecomposed inbound env serving.state planType opencodeSessionId
      = some (outcome, state'))
    : AnswersOnly
          { state := state'
            served := serving.served
              ++ (servedValue outcome).toList.map (fun value => (jobId, value)) }
        ↔ (planType = "single"
          → (serving.state.cache.get agent.now
              (makeApiCacheKey opencodeSessionId inbound.content)).1 = none
          → agent.asksUser inbound env opencodeSessionId = false) := by
  unfold CoreAgent.executeUndecomposed at hexecute
  dsimp only at hexecute
  split at hexecute
  . next hsingle =>
    split at hexecute
    . next cached cache hget =>
      cases hexecute
      refine iff_of_true (h.of_caches _ ?_ ?_) ?_
      . intro value hvalue
        refine LruCache.caches_get agent.now
          (makeApiCacheKey opencodeSessionId inbound.content) ?_
        rw [hget]
        exact hvalue
      . rintro value ⟨⟩
        exact LruCache.caches_of_get (congrArg Prod.fst hget)
      . intro _ hnone
        rw [hget] at hnone
        cases hnone
    . next cache hget =>
      rw [hget]
      refine (answersOnly_executeAndCache_iff h ?_ hexecute).trans
        ⟨fun hnot _ _ => hnot, fun hnot => hnot hsingle rfl⟩
      intro value hvalue
      refine LruCache.caches_get agent.now
        (makeApiCacheKey opencodeSessionId inbound.content) ?_
      rw [hget]
      exact hvalue
  . next hother =>
    refine iff_of_true ?_ (fun hsingle => absurd hsingle hother)
    obtain ⟨hcache, hhit⟩ := CoreAgent.executeUncached_spec hexecute
    refine h.of_caches _ ?_ ?_
    . rw [hcache]
      exact fun _ hvalue => hvalue
    . unfold servedValue
      rw [hhit]
      rintro value ⟨⟩

theorem step_answersOnly_iff (h : serving.AnswersOnly) {action : ServingAction}
    (hstep : serving.step action = some serving')
    : serving'.AnswersOnly ↔ serving.AsksOutsideCache action := by
  cases action with
  | meanwhile coordinator =>
    cases hstep
    exact iff_of_true ⟨h.cached, h.served⟩ trivial
  | execute agent inbound env plan opencodeSessionId =>
    obtain ⟨⟨outcome, state'⟩, hexecute, rfl⟩ := Option.map_eq_some_iff.mp hstep
    unfold AsksOutsideCache fillsCache
    cases hundecomposed : env.undecomposed with
    | true =>
      rw [CoreAgent.executeInitialMessagePlan_of_undecomposed hundecomposed] at hexecute
      rw [answersOnly_executeUndecomposed_iff h hexecute]
      simp only [hundecomposed, Bool.true_and, Bool.and_eq_true, beq_iff_eq,
        Option.isNone_iff_eq_none, and_imp]
    | false =>
      obtain ⟨hcache, hhit⟩ :=
        CoreAgent.executeInitialMessagePlan_of_decomposed hundecomposed hexecute
      refine iff_of_true (h.of_caches _ ?_ ?_) ?_
      . rw [hcache]
        exact fun _ hvalue => hvalue
      . unfold servedValue
        rw [hhit]
        rintro value ⟨⟩
      . simp only [hundecomposed, Bool.false_and, Bool.false_eq_true, false_implies]

theorem answersOnly_fresh : fresh.AnswersOnly := by
  constructor
  . rintro value ⟨key, entry, hlookup, _⟩
    cases hlookup
  . rintro entry ⟨⟩

/--
While the plans of messages are executed, the cache and what is served from it are free of questions
exactly if no plan asks the user whose result goes into the cache.
-/
theorem always_answersOnly_iff (actions : List ServingAction)
    : Runs.Always step AnswersOnly fresh actions
        ↔ Runs.Guarded step AsksOutsideCache fresh actions := by
  refine Runs.always_iff_guarded (fun _ => True) (fun _ => True) ?_ trivial answersOnly_fresh
    (fun _ _ => trivial)
  exact fun serving action serving' _ _ h hstep => ⟨trivial, step_answersOnly_iff h hstep⟩

def undecomposedPlan : InitialEnvironment where
  orchestration := .error .orchestrationNoDecomposition
  planInstance := CoreAgent.failedAgenticLoopTaskResult RuntimeStateSnapshot.firstMessage "t_0" "none"
  autoApprove := false
  dispatch := fun _ => none
  taskId := "t_1"
  questionId := "q_1"
  approvals := []

def askedTwice : List ServingAction :=
  let plan : ExecutionPlan := { kind := .single, planType := "single", tasks := [], specialist := none }
  [ .execute .asking RuntimeStateSnapshot.firstMessage undecomposedPlan plan "session_1",
    .execute .asking { RuntimeStateSnapshot.firstMessage with id := "job_2" } undecomposedPlan plan
      "session_1" ]

theorem askedTwice_served
    : (Runs.run step fresh askedTwice).map (fun serving =>
          serving.served.map (fun entry =>
            (entry.1, entry.2.get "question_id", entry.2.isQuestion)))
        = some [("job_2", some (.string "q_1"), true)] := by
  decide +kernel

theorem askedTwice_not_answersOnly : ¬Runs.Always step AnswersOnly fresh askedTwice := by
  intro halways
  obtain ⟨serving, hrun, hserved⟩ := Option.map_eq_some_iff.mp askedTwice_served
  have hanswers := (halways.run_eq_some hrun).served
  cases hentries : serving.served with
  | nil =>
    rw [hentries] at hserved
    cases hserved
  | cons entry rest =>
    rw [hentries] at hserved hanswers
    have hnot := hanswers entry (List.mem_cons_self ..)
    have hquestion := congrArg (fun l => l.map (fun e => e.2.2)) hserved
    rw [List.map_cons, List.map_cons, hnot] at hquestion
    cases hquestion

end ServingAgent

end AnimaAgent
