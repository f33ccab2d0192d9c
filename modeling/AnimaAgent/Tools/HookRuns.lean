import AnimaAgent.Tools.Lemmas.Execution

namespace AnimaAgent

namespace ToolEvent

def handles : ToolEvent → Bool
  | lifecycle .. => false
  | _ => true

def isPreHook : ToolEvent → Bool
  | preHook .. => true
  | _ => false

def isPreHookAt (i : Nat) : ToolEvent → Bool
  | preHook index _ => index == i
  | _ => false

def isPostHookAt (i : Nat) : ToolEvent → Bool
  | postHook index _ => index == i
  | _ => false

end ToolEvent

def handled (events : List ToolEvent) : List ToolEvent :=
  events.filter ToolEvent.handles

@[simp]
theorem handled_nil : handled [] = [] := by
  rfl

@[simp]
theorem handled_append (as bs : List ToolEvent) : handled (as ++ bs) = handled as ++ handled bs := by
  exact List.filter_append ..

theorem handled_eq_self {events : List ToolEvent} (h : ∀ event ∈ events, event.handles = true)
    : handled events = events := by
  exact List.filter_eq_self.mpr h

theorem toolCalls_eq_nil_of_handled {events : List ToolEvent} (h : handled events = [])
    : toolCalls events = [] := by
  unfold handled at h
  unfold toolCalls
  rw [List.filter_eq_nil_iff] at h ⊢
  intro event hmem hcall
  apply h event hmem
  cases event <;> first | rfl | cases hcall

def HookHandler.leave (hook : HookHandler) (toolName : String) (result : ToolResult) : ToolResult :=
  match hook.handle (.postToolUse toolName result) with
  | .transformToolResult modifiedResult => modifiedResult
  | .block feedback => .error feedback
  | _ => result

def postRun (toolName : String) : List HookHandler → Nat → ToolResult → List ToolEvent
  | [], _, _ => []
  | hook :: hooks, i, result =>
    .postHook i (.postToolUse toolName result)
      :: postRun toolName hooks (i + 1) (hook.leave toolName result)

def postOutput (toolName : String) (hooks : List HookHandler) (result : ToolResult) : ToolResult :=
  hooks.foldl (fun result hook => hook.leave toolName result) result

def RunToolUseOutcome.result? : RunToolUseOutcome → Option ToolResult
  | completed _ result => some result
  | awaitingPermission _ => none

structure ToolExecution where
  toolName : String
  events : List ToolEvent
  called : Except ToolError ToolResult
  seen : Option ToolResult
  asked : Bool

def AwaitingToolPermission.resumeOptions (awaiting : AwaitingToolPermission) (context : ToolContext)
    : RunToolOptions where
  toolName := awaiting.invocation.toolName
  input := awaiting.input
  context := context
  invocationId := some awaiting.invocation.invocationId

/-- The executions of a tool whose handlers have let it be called: at once, or after a permission. -/
inductive Executes (serde : SerdeJson) (tool : Tool) (hooks : HookRegistry) : ToolExecution → Prop
  | direct (now : UInt64) (options : RunToolOptions) (checker : Option PermissionChecker)
      (uuid : String) {input : Value}
      (hinput : checkedInput tool (some hooks) options.toolName options.input = .ok input)
      (hcalled : toolCalls (runToolUse serde now tool options checker (some hooks) uuid).events ≠ [])
    : Executes serde tool hooks
        { toolName := options.toolName
          events := (runToolUse serde now tool options checker (some hooks) uuid).events
          called := tool.call input options.context
          seen := (runToolUse serde now tool options checker (some hooks) uuid).outcome.toOption.bind
            RunToolUseOutcome.result?
          asked := false }
  | afterPermission (now later : UInt64) (options : RunToolOptions)
      (checker : Option PermissionChecker) (uuid : String) (context : ToolContext)
      {awaiting : AwaitingToolPermission} {input : Value}
      (hasked : (runToolUse serde now tool options checker (some hooks) uuid).outcome
        = .ok (.awaitingPermission awaiting))
      (hinput : checkedInput tool (some hooks) options.toolName awaiting.input = .ok input)
    : Executes serde tool hooks
        { toolName := options.toolName
          events := (runToolUse serde now tool options checker (some hooks) uuid).events
            ++ (executeToolAfterPermission serde later tool (awaiting.resumeOptions context)
              (some hooks) awaiting.invocation).events
          called := tool.call input context
          seen := (executeToolAfterPermission serde later tool (awaiting.resumeOptions context)
            (some hooks) awaiting.invocation).outcome.toOption.map Prod.snd
          asked := true }

/--
Every pre-tool handler is called once before the tool and every post-tool handler once after it, with
the result as the handlers before it leave it, and the output of the last one is seen.
-/
structure HandlersRunOnce (hooks : HookRegistry) (execution : ToolExecution) : Prop where
  run : ∃ before input context after,
    handled execution.events = before ++ .call execution.toolName input context :: after
      ∧ (∀ event ∈ before, event.isPreHook = true)
      ∧ (∀ i < hooks.preHooks.length, before.countP (ToolEvent.isPreHookAt i) = 1)
      ∧ (∀ event ∈ after, event.isPreHook = false)
      ∧ ∀ result, execution.called = .ok result
        → after = postRun execution.toolName hooks.postHooks 0 result
          ∧ execution.seen = some (postOutput execution.toolName hooks.postHooks result)

namespace HookRegistry

variable (hooks : HookRegistry)

def preEvents (toolName : String) (input : Value) : List ToolEvent :=
  (hooks.runPreToolHooks toolName input).run.2

def postEvents (toolName : String) : Except ToolError ToolResult → List ToolEvent
  | .error _ => []
  | .ok result =>
    (hooks.runPostHooks (.postToolUse toolName result)).run.2
      ++ (hooks.runPostToolHooks toolName result).run.2

theorem isPreHook_of_mem_go (toolName : String) (handlers : List HookHandler) (i : Nat) (input : Value)
    (transformed : Bool)
    : ∀ event ∈ (runPreToolHooks.go toolName handlers i input transformed).run.2,
        event.isPreHook = true := by
  induction handlers generalizing i input transformed with
  | nil =>
    intro event hmem
    cases hmem
  | cons hook handlers ih =>
    rw [runPreToolHooks.go, WriterT.snd_bind, WriterT.snd_tell, List.singleton_append]
    rw [List.forall_mem_cons]
    refine ⟨rfl, ?_⟩
    split
    . exact ih (i + 1) input transformed
    . exact ih (i + 1) _ true
    . intro event hmem
      cases hmem
    . exact ih (i + 1) input transformed

theorem countP_go (toolName : String) (handlers : List HookHandler) (i : Nat) (input : Value)
    (transformed : Bool)
    (h : ∀ reason, (runPreToolHooks.go toolName handlers i input transformed).run.1 ≠ .block reason)
    (k : Nat)
    : (runPreToolHooks.go toolName handlers i input transformed).run.2.countP
          (ToolEvent.isPreHookAt k)
        = if i ≤ k ∧ k < i + handlers.length then 1 else 0 := by
  induction handlers generalizing i input transformed with
  | nil =>
    rw [if_neg (by rw [List.length_nil]; omega)]
    rfl
  | cons hook handlers ih =>
    rw [runPreToolHooks.go, WriterT.fst_bind] at h
    rw [runPreToolHooks.go, WriterT.snd_bind, WriterT.snd_tell, List.singleton_append,
      List.countP_cons]
    have hrest : ∀ event input transformed,
        (∀ reason, (runPreToolHooks.go toolName handlers (i + 1) input transformed).run.1
          ≠ .block reason)
        → (runPreToolHooks.go toolName handlers (i + 1) input transformed).run.2.countP
              (ToolEvent.isPreHookAt k)
            + (if ToolEvent.isPreHookAt k (.preHook i event) then 1 else 0)
          = if i ≤ k ∧ k < i + (handlers.length + 1) then 1 else 0 := by
      intro event input transformed h
      rw [ih (i + 1) input transformed h]
      change _ + (if (i == k) = true then 1 else 0) = _
      simp only [beq_iff_eq]
      split <;> split <;> split <;> omega
    rw [List.length_cons]
    split at h
    . exact hrest _ input transformed h
    . exact hrest _ _ true h
    . next reason hhandle => exact absurd rfl (h reason)
    . exact hrest _ input transformed h

section PreEvents

variable {hooks} {toolName : String} {input : Value}

theorem isPreHook_of_mem_preEvents
    : ∀ event ∈ hooks.preEvents toolName input, event.isPreHook = true := by
  exact isPreHook_of_mem_go toolName hooks.preHooks 0 input false

theorem countP_preEvents (h : ∀ reason, hooks.preToolResult toolName input ≠ .block reason) {i : Nat}
    (hi : i < hooks.preHooks.length)
    : (hooks.preEvents toolName input).countP (ToolEvent.isPreHookAt i) = 1 := by
  unfold preEvents runPreToolHooks
  rw [countP_go toolName hooks.preHooks 0 input false h, if_pos (by omega)]

theorem preToolResult_of_checkedInput {tool : Tool} {input' : Value}
    (h : checkedInput tool (some hooks) toolName input = .ok input') (reason : String)
    : hooks.preToolResult toolName input ≠ .block reason := by
  have hooked := (checkedInput_eq_ok_iff.mp h).1
  unfold hookedInput at hooked
  dsimp only at hooked
  intro hblock
  rw [hblock] at hooked
  cases hooked

end PreEvents

section PostEvents

variable (toolName : String)

theorem countP_postRun_of_lt (handlers : List HookHandler) {i k : Nat} (h : k < i)
    (result : ToolResult)
    : (postRun toolName handlers i result).countP (ToolEvent.isPostHookAt k) = 0 := by
  induction handlers generalizing i result with
  | nil => rfl
  | cons hook handlers ih =>
    rw [postRun, List.countP_cons_of_neg, ih (Nat.lt_succ_of_lt h)]
    change ¬ (i == k) = true
    rw [beq_iff_eq]
    omega

theorem two_le_countP_postEvents (h : hooks.postHooks ≠ []) (result : ToolResult)
    : 2 ≤ (hooks.postEvents toolName (.ok result)).countP (ToolEvent.isPostHookAt 0) := by
  obtain ⟨hook, handlers, hhandlers⟩ := List.exists_cons_of_ne_nil h
  unfold postEvents runPostHooks runPostToolHooks
  dsimp only
  rw [hhandlers, WriterT.snd_tell, List.mapIdx_cons, List.countP_append, runPostToolHooks.go,
    WriterT.snd_bind, WriterT.snd_tell, List.singleton_append]
  have hfirst : ∀ event, ToolEvent.isPostHookAt 0 (.postHook 0 event) = true := fun _ => rfl
  rw [List.countP_cons_of_pos (hfirst _), List.countP_cons_of_pos (hfirst _)]
  omega

theorem handles_of_mem_runPostHooks {event : HookEvent}
    : ∀ e ∈ (hooks.runPostHooks event).run.2, e.handles = true := by
  unfold runPostHooks
  rw [WriterT.snd_tell]
  intro e hmem
  obtain ⟨i, _, rfl⟩ := List.mem_mapIdx.mp hmem
  rfl

theorem handles_of_mem_runPostToolHooks {toolName : String} {result : ToolResult}
    : ∀ event ∈ (hooks.runPostToolHooks toolName result).run.2, event.handles = true := by
  unfold runPostToolHooks
  generalize hooks.postHooks = handlers
  generalize 0 = i
  generalize false = transformed
  induction handlers generalizing i result transformed with
  | nil =>
    intro event hmem
    cases hmem
  | cons hook handlers ih =>
    rw [runPostToolHooks.go, WriterT.snd_bind, WriterT.snd_tell, List.singleton_append,
      List.forall_mem_cons]
    refine ⟨rfl, ?_⟩
    split
    . exact ih (i + 1) transformed
    . exact ih (i + 1) true
    . intro event hmem
      cases hmem
    . exact ih (i + 1) transformed

theorem postEvents_of_nil (h : hooks.postHooks = []) (called : Except ToolError ToolResult)
    : hooks.postEvents toolName called = [] := by
  unfold postEvents runPostHooks runPostToolHooks
  rw [h]
  cases called <;> rfl

theorem hookedResult_of_nil (h : hooks.postHooks = []) (result : ToolResult)
    : hookedResult (some hooks) toolName result = result := by
  unfold hookedResult postToolResult runPostToolHooks
  dsimp only
  rw [h]
  rfl

end PostEvents

end HookRegistry

section Stages

variable (serde : SerdeJson) (now : UInt64) (tool : Tool) (options : RunToolOptions)
variable (hooks : HookRegistry)

theorem handled_preEvents (toolName : String) (input : Value)
    : handled (hooks.preEvents toolName input) = hooks.preEvents toolName input := by
  apply handled_eq_self
  intro event hmem
  have := HookRegistry.isPreHook_of_mem_preEvents event hmem
  cases event <;> first | rfl | cases this

theorem handled_applyPreHooks (invocation : ToolInvocationRecord)
    : handled (applyPreHooks now options (some hooks) invocation).events
        = hooks.preEvents options.toolName options.input := by
  unfold applyPreHooks
  dsimp only
  rw [Traced.events_bind_of_ok _ (Traced.outcome_lift _), Traced.events_lift, handled_append]
  change handled (hooks.preEvents _ _) ++ _ = _
  rw [handled_preEvents]
  generalize (hooks.runPreToolHooks options.toolName options.input).run.1 = result
  cases result <;> exact List.append_nil _

theorem handled_validateToolInput (invocation : ToolInvocationRecord)
    : handled (validateToolInput now tool options invocation).events = [] := by
  unfold validateToolInput
  dsimp only
  cases tool.validateInput options.input with
  | ok => rfl
  | error msg => rfl

theorem handled_checkStage (invocation : ToolInvocationRecord)
    : handled (checkStage now tool options (some hooks) invocation).events
        = hooks.preEvents options.toolName options.input := by
  unfold checkStage
  rw [Traced.events_bind, handled_append, handled_applyPreHooks]
  split
  . rw [Traced.events_bind, handled_append, handled_validateToolInput]
    split <;> exact List.append_nil _
  . exact List.append_nil _

theorem handled_checkPermission (checker : Option PermissionChecker)
    (invocation : ToolInvocationRecord)
    : handled (checkPermission serde now tool options checker invocation).events = [] := by
  unfold checkPermission
  cases checker with
  | none => rfl
  | some checker =>
    dsimp only
    cases checker.hasPermission serde tool.name options.input <;> rfl

theorem handled_applyPostHooks (result : ToolResult)
    : handled (applyPostHooks options.toolName (some hooks) result).events
        = hooks.postEvents options.toolName (.ok result) := by
  unfold applyPostHooks HookRegistry.postEvents
  dsimp only
  rw [Traced.events_bind_of_ok _ (Traced.outcome_lift _),
    Traced.events_bind_of_ok _ (Traced.outcome_lift _), Traced.events_lift, Traced.events_lift,
    handled_append, handled_append, handled_eq_self hooks.handles_of_mem_runPostHooks,
    handled_eq_self hooks.handles_of_mem_runPostToolHooks]
  generalize (hooks.runPostToolHooks options.toolName result).run.1 = answer
  congr 1
  cases answer <;> exact List.append_nil _

theorem handled_executeToolCall (invocation : ToolInvocationRecord)
    : handled (executeToolCall serde now tool options (some hooks) invocation).events
        = .call options.toolName options.input options.context
          :: hooks.postEvents options.toolName (tool.call options.input options.context) := by
  unfold executeToolCall emitToolLifecycleEvent
  rw [Traced.events_bind_of_ok _ (Traced.outcome_emit _),
    Traced.events_bind_of_ok _ (Traced.outcome_emit _), handled_append, handled_append,
    Traced.events_emit, Traced.events_emit]
  cases tool.call options.input options.context with
  | error err => rfl
  | ok result =>
    dsimp only
    rw [Traced.events_bind_of_ok _ (applyPostHooks_outcome (some hooks) options.toolName result),
      handled_append, handled_applyPostHooks]
    exact congrArg (ToolEvent.call _ _ _ :: ·) (List.append_nil _)

theorem runToolUse_of_called {checker : Option PermissionChecker} {uuid : String} {input : Value}
    (hinput : checkedInput tool (some hooks) options.toolName options.input = .ok input)
    (hcalled : toolCalls (runToolUse serde now tool options checker (some hooks) uuid).events ≠ [])
    : handled (runToolUse serde now tool options checker (some hooks) uuid).events
          = hooks.preEvents options.toolName options.input
            ++ .call options.toolName input options.context
              :: hooks.postEvents options.toolName (tool.call input options.context)
        ∧ (runToolUse serde now tool options checker (some hooks) uuid).outcome.toOption.bind
            RunToolUseOutcome.result?
          = (tool.call input options.context).toOption.map
              (hookedResult (some hooks) options.toolName) := by
  have hcheck := checkStage_of_ok now tool options (some hooks) hinput
    (.new now (options.invocationId.getD ("toolinv_" ++ uuid)) options.toolName none)
  rw [runToolUse_eq] at hcalled ⊢
  unfold emitToolLifecycleEvent at hcalled ⊢
  dsimp only at hcalled ⊢
  rw [Traced.events_bind_of_ok _ (Traced.outcome_emit _), Traced.events_bind_of_ok _ hcheck] at hcalled ⊢
  rw [Traced.outcome_bind_of_ok _ (Traced.outcome_emit _), Traced.outcome_bind_of_ok _ hcheck]
  have hidle := toolCalls_eq_nil_of_handled (handled_checkPermission serde now tool
    { options with input } checker ((ToolInvocationRecord.new now
      (options.invocationId.getD ("toolinv_" ++ uuid)) options.toolName none).markPhase now
        .validatingInput))
  cases hpermission : (checkPermission serde now tool { options with input } checker
      ((ToolInvocationRecord.new now (options.invocationId.getD ("toolinv_" ++ uuid))
        options.toolName none).markPhase now .validatingInput)).outcome with
  | error err =>
    rw [Traced.events_bind_of_error _ hpermission, toolCalls_append, toolCalls_append,
      toolCalls_checkStage, hidle] at hcalled
    exact absurd rfl hcalled
  | ok checked =>
    obtain ⟨invocation, awaiting⟩ := checked
    rw [Traced.events_bind_of_ok _ hpermission] at hcalled ⊢
    rw [Traced.outcome_bind_of_ok _ hpermission]
    cases awaiting with
    | some awaiting =>
      rw [toolCalls_append, toolCalls_append, toolCalls_append, toolCalls_checkStage,
        hidle] at hcalled
      exact absurd rfl hcalled
    | none =>
      have houtcome := executeToolCall_outcome serde now tool { options with input } (some hooks)
        invocation
      have hevents := handled_executeToolCall serde now tool { options with input } hooks invocation
      dsimp only at houtcome hevents ⊢
      constructor
      . rw [handled_append, handled_append, handled_append, handled_checkStage,
          handled_checkPermission, Traced.events_bind, handled_append, hevents]
        split <;> exact congrArg (hooks.preEvents _ _ ++ ·) (List.append_nil _)
      . cases hcall : tool.call input options.context with
        | error err =>
          rw [hcall] at houtcome
          rw [Traced.outcome_bind_of_error _ houtcome]
          rfl
        | ok result =>
          rw [hcall] at houtcome
          rw [Traced.outcome_bind_of_ok _ houtcome]
          rfl

theorem runToolUse_of_awaiting {checker : Option PermissionChecker} {uuid : String}
    {awaiting : AwaitingToolPermission}
    (h : (runToolUse serde now tool options checker (some hooks) uuid).outcome
      = .ok (.awaitingPermission awaiting))
    : handled (runToolUse serde now tool options checker (some hooks) uuid).events
          = hooks.preEvents options.toolName options.input
        ∧ awaiting.invocation.toolName = options.toolName
        ∧ ∀ reason, hooks.preToolResult options.toolName options.input ≠ .block reason := by
  obtain ⟨input, checker, request, hinput, rfl, hask⟩ :=
    (runToolUse_awaits_iff serde now tool options (some hooks) checker uuid).mp ⟨awaiting, h⟩
  obtain ⟨houtcome, _⟩ := runToolUse_of_ask serde now tool options (some hooks) hinput uuid hask
  have hcheck := checkStage_of_ok now tool options (some hooks) hinput
    (.new now (options.invocationId.getD ("toolinv_" ++ uuid)) options.toolName none)
  have hcheckpermission := (checkPermission_of_ask serde now tool { options with input }
    ((ToolInvocationRecord.new now (options.invocationId.getD ("toolinv_" ++ uuid))
      options.toolName none).markPhase now .validatingInput) hask).1
  obtain ⟨record, hpermission⟩ := hcheckpermission
  refine ⟨?_, ?_, HookRegistry.preToolResult_of_checkedInput hinput⟩
  . rw [runToolUse_eq]
    unfold emitToolLifecycleEvent
    dsimp only
    rw [Traced.events_bind_of_ok _ (Traced.outcome_emit _), Traced.events_bind_of_ok _ hcheck,
      Traced.events_bind_of_ok _ hpermission, handled_append, handled_append, handled_append,
      handled_checkStage, handled_checkPermission]
    exact List.append_nil _
  . rw [houtcome] at h
    cases h
    rfl

theorem handled_executeToolAfterPermission {invocation : ToolInvocationRecord} {input : Value}
    (hinput : checkedInput tool (some hooks) options.toolName options.input = .ok input)
    : handled (executeToolAfterPermission serde now tool options (some hooks) invocation).events
        = hooks.preEvents options.toolName options.input
          ++ .call options.toolName input options.context
            :: hooks.postEvents options.toolName (tool.call input options.context) := by
  have hcheck := checkStage_of_ok now tool options (some hooks) hinput invocation
  rw [executeToolAfterPermission_eq]
  unfold emitToolLifecycleEvent
  rw [Traced.events_bind_of_ok _ hcheck, handled_append, handled_checkStage]
  dsimp only
  rw [Traced.events_bind_of_ok _ (Traced.outcome_emit _), handled_append, handled_executeToolCall]
  rfl

end Stages

section Once

variable {serde : SerdeJson} {tool : Tool} {hooks : HookRegistry}

theorem HandlersRunOnce.postHooks_eq_nil {execution : ToolExecution} {before : List ToolEvent}
    {call : ToolEvent} (h : HandlersRunOnce hooks execution)
    (hhandled : handled execution.events
      = before ++ call :: hooks.postEvents execution.toolName execution.called)
    {result : ToolResult} (hcalled : execution.called = .ok result)
    : hooks.postHooks = [] := by
  obtain ⟨before', input, context, after, hrun, hpre, -, -, hpost⟩ := h.run
  obtain ⟨rfl, -⟩ := hpost result hcalled
  by_contra hne
  have htwo := hooks.two_le_countP_postEvents execution.toolName hne result
  have hcount := congrArg (List.countP (ToolEvent.isPostHookAt 0)) (hhandled.symm.trans hrun)
  rw [hcalled, List.countP_append, List.countP_append, List.countP_cons, List.countP_cons] at hcount
  have hbefore : before'.countP (ToolEvent.isPostHookAt 0) = 0 := by
    rw [List.countP_eq_zero]
    intro event hmem
    have := hpre event hmem
    cases event <;> first | exact Bool.false_ne_true | cases this
  obtain ⟨hook, handlers, hhandlers⟩ := List.exists_cons_of_ne_nil hne
  have hone : (postRun execution.toolName hooks.postHooks 0 result).countP (ToolEvent.isPostHookAt 0)
      = 1 := by
    rw [hhandlers, postRun, List.countP_cons_of_pos,
      HookRegistry.countP_postRun_of_lt execution.toolName handlers Nat.zero_lt_one]
    rfl
  rw [hbefore, hone] at hcount
  have : (if ToolEvent.isPostHookAt 0 (.call execution.toolName input context) = true then 1 else 0)
      = 0 := rfl
  omega

theorem handlersRunOnce_of_handled {execution : ToolExecution} {before : List ToolEvent}
    {input : Value} {context : ToolContext}
    (hhandled : handled execution.events = before ++ .call execution.toolName input context
      :: hooks.postEvents execution.toolName execution.called)
    (hpre : ∀ event ∈ before, event.isPreHook = true)
    (hcount : ∀ i < hooks.preHooks.length, before.countP (ToolEvent.isPreHookAt i) = 1)
    (hseen : execution.seen
      = execution.called.toOption.map (hookedResult (some hooks) execution.toolName))
    (hpost : hooks.postHooks = [] ∨ ∃ error, execution.called = .error error)
    : HandlersRunOnce hooks execution := by
  have hnil : hooks.postEvents execution.toolName execution.called = [] := by
    obtain hnil | ⟨error, herror⟩ := hpost
    . exact HookRegistry.postEvents_of_nil hooks execution.toolName hnil execution.called
    . rw [herror]
      rfl
  rw [hnil] at hhandled
  refine ⟨before, input, context, [], hhandled, hpre, hcount, ?_, ?_⟩
  . intro event hmem
    cases hmem
  . intro result hcalled
    obtain hhooks | ⟨error, herror⟩ := hpost
    . rw [hseen, hcalled, hhooks]
      refine ⟨rfl, ?_⟩
      exact congrArg some (HookRegistry.hookedResult_of_nil hooks execution.toolName hhooks result)
    . rw [herror] at hcalled
      cases hcalled

theorem HookRegistry.preEvents_of_nil (h : hooks.preHooks = []) (toolName : String) (input : Value)
    : hooks.preEvents toolName input = [] := by
  unfold preEvents runPreToolHooks
  rw [h]
  rfl

theorem HandlersRunOnce.postHooks_or_error {execution : ToolExecution} {before : List ToolEvent}
    {call : ToolEvent} (h : HandlersRunOnce hooks execution)
    (hhandled : handled execution.events
      = before ++ call :: hooks.postEvents execution.toolName execution.called)
    : hooks.postHooks = [] ∨ ∃ error, execution.called = .error error := by
  cases hcalled : execution.called with
  | error error => exact .inr ⟨error, rfl⟩
  | ok result => exact .inl (h.postHooks_eq_nil hhandled hcalled)

theorem HandlersRunOnce.preHooks_eq_nil {execution : ToolExecution} {input input' : Value}
    {rest : List ToolEvent} (h : HandlersRunOnce hooks execution)
    (hhandled : handled execution.events = hooks.preEvents execution.toolName input
      ++ (hooks.preEvents execution.toolName input' ++ rest))
    (hpass : ∀ reason, hooks.preToolResult execution.toolName input ≠ .block reason)
    (hpass' : ∀ reason, hooks.preToolResult execution.toolName input' ≠ .block reason)
    : hooks.preHooks = [] := by
  obtain ⟨before, called, context, after, hrun, -, hcount, hafter, -⟩ := h.run
  by_contra hne
  have hpos := List.length_pos_iff.mpr hne
  have htotal := congrArg (List.countP (ToolEvent.isPreHookAt 0)) (hhandled.symm.trans hrun)
  rw [List.countP_append, List.countP_append, List.countP_append, List.countP_cons,
    HookRegistry.countP_preEvents hpass hpos, HookRegistry.countP_preEvents hpass' hpos,
    hcount 0 hpos] at htotal
  have hnone : after.countP (ToolEvent.isPreHookAt 0) = 0 := by
    rw [List.countP_eq_zero]
    intro event hmem
    have := hafter event hmem
    cases event <;> first | exact Bool.false_ne_true | cases this
  rw [hnone] at htotal
  have : (if ToolEvent.isPreHookAt 0 (.call execution.toolName called context) = true then 1 else 0)
      = 0 := rfl
  omega

/--
The handlers run once if and only if there are no post-tool handlers that would get a result and, after
a permission, no pre-tool handlers.
-/
theorem handlersRunOnce_iff {execution : ToolExecution} (h : Executes serde tool hooks execution)
    : HandlersRunOnce hooks execution
        ↔ (execution.asked = true → hooks.preHooks = [])
          ∧ (hooks.postHooks = [] ∨ ∃ error, execution.called = .error error) := by
  cases h with
  | direct now options checker uuid hinput hcalled =>
    obtain ⟨hhandled, hseen⟩ := runToolUse_of_called serde now tool options hooks hinput hcalled
    constructor
    . intro honce
      exact ⟨fun hasked => absurd hasked Bool.false_ne_true, honce.postHooks_or_error hhandled⟩
    . rintro ⟨-, hpost⟩
      exact handlersRunOnce_of_handled hhandled HookRegistry.isPreHook_of_mem_preEvents
        (fun i => HookRegistry.countP_preEvents
          (HookRegistry.preToolResult_of_checkedInput hinput)) hseen hpost
  | afterPermission now later options checker uuid context hasked hinput =>
    next awaiting input =>
    obtain ⟨hbefore, hname, hpass⟩ := runToolUse_of_awaiting serde now tool options hooks hasked
    rw [← hname] at hinput
    have hafter := @handled_executeToolAfterPermission serde later tool
      (awaiting.resumeOptions context) hooks awaiting.invocation input hinput
    have hseen := (executeToolAfterPermission_of_ok serde later tool
      (awaiting.resumeOptions context) (some hooks) hinput awaiting.invocation).1
    have hpass' := HookRegistry.preToolResult_of_checkedInput hinput
    have hhandled : handled ((runToolUse serde now tool options checker (some hooks) uuid).events
          ++ (executeToolAfterPermission serde later tool (awaiting.resumeOptions context)
            (some hooks) awaiting.invocation).events)
        = hooks.preEvents options.toolName options.input
          ++ (hooks.preEvents options.toolName awaiting.input
            ++ .call options.toolName input context
              :: hooks.postEvents options.toolName (tool.call input context)) := by
      rw [handled_append, hbefore, hafter, ← hname]
      rfl
    constructor
    . intro honce
      refine ⟨fun _ => ?_, honce.postHooks_or_error (hhandled.trans (List.append_assoc ..).symm)⟩
      exact honce.preHooks_eq_nil hhandled hpass (hname ▸ hpass')
    . rintro ⟨hpre, hpost⟩
      have hnil := HookRegistry.preEvents_of_nil (hpre rfl) options.toolName
      rw [hnil, hnil] at hhandled
      refine handlersRunOnce_of_handled hhandled ?_ ?_ ?_ hpost
      . intro event hmem
        cases hmem
      . rw [hpre rfl]
        intro i hi
        exact absurd hi (Nat.not_lt_zero i)
      . dsimp only
        rw [hseen, ← hname]
        change Option.map Prod.snd (Except.map _ (tool.call input context)).toOption = _
        cases tool.call input context <;> rfl

end Once

def greetTool : Tool where
  name := "greet"
  validateInput _ := .ok ()
  call _ _ := .ok (.text "hello")

def greetOptions : RunToolOptions where
  toolName := "greet"
  input := .object []
  context := { sessionId := "s", traceId := "t", metadata := .object [] }
  invocationId := some "toolinv_1"

def passHook : HookHandler where
  handle _ := .continue

def greetExecution (hooks : HookRegistry) : ToolExecution :=
  let run := runToolUse .small 0 greetTool greetOptions none (some hooks) "1"
  { toolName := "greet"
    events := run.events
    called := .ok (.text "hello")
    seen := run.outcome.toOption.bind RunToolUseOutcome.result?
    asked := false }

theorem executes_greetExecution_pre
    : Executes .small greetTool { preHooks := [passHook] }
        (greetExecution { preHooks := [passHook] }) := by
  exact @Executes.direct .small greetTool _ 0 greetOptions none "1" (.object []) rfl
    (by decide +kernel)

theorem executes_greetExecution_post
    : Executes .small greetTool { postHooks := [passHook] }
        (greetExecution { postHooks := [passHook] }) := by
  exact @Executes.direct .small greetTool _ 0 greetOptions none "1" (.object []) rfl
    (by decide +kernel)

theorem handlersRunOnce_greetExecution
    : HandlersRunOnce { preHooks := [passHook] } (greetExecution { preHooks := [passHook] }) := by
  exact (handlersRunOnce_iff executes_greetExecution_pre).mpr
    ⟨fun h => absurd h Bool.false_ne_true, .inl rfl⟩

theorem greetExecution_not_handlersRunOnce
    : Executes .small greetTool { postHooks := [passHook] }
          (greetExecution { postHooks := [passHook] })
        ∧ ¬ HandlersRunOnce { postHooks := [passHook] }
          (greetExecution { postHooks := [passHook] }) := by
  refine ⟨executes_greetExecution_post, ?_⟩
  intro h
  have hnil := @HandlersRunOnce.postHooks_eq_nil _ _ []
    (.call "greet" (.object []) greetOptions.context) h rfl (.text "hello") rfl
  cases hnil

end AnimaAgent
