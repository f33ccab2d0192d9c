import AnimaAgent.Tools.Execution

namespace AnimaAgent

def ToolEvent.isCall : ToolEvent → Bool
  | .call .. => true
  | _ => false

def toolCalls (events : List ToolEvent) : List ToolEvent :=
  events.filter ToolEvent.isCall

@[simp]
theorem toolCalls_append (as bs : List ToolEvent)
    : toolCalls (as ++ bs) = toolCalls as ++ toolCalls bs := by
  exact List.filter_append ..

@[simp]
theorem toolCalls_nil : toolCalls [] = [] := by
  rfl

namespace HookRegistry

theorem toolCalls_runPreToolHooks (registry : HookRegistry) (toolName : String) (input : Value)
    : toolCalls (registry.runPreToolHooks toolName input).run.2 = [] := by
  unfold runPreToolHooks
  generalize registry.preHooks = hooks
  generalize 0 = i
  generalize false = transformed
  induction hooks generalizing i input transformed with
  | nil => rfl
  | cons hook hooks ih =>
    rw [runPreToolHooks.go]
    rw [WriterT.snd_bind, WriterT.snd_tell, toolCalls_append]
    split
    . exact ih input (i + 1) transformed
    . exact ih _ (i + 1) true
    . rfl
    . exact ih input (i + 1) transformed

theorem toolCalls_runPostHooks (registry : HookRegistry) (event : HookEvent)
    : toolCalls (registry.runPostHooks event).run.2 = [] := by
  unfold runPostHooks toolCalls
  rw [WriterT.snd_tell, List.filter_eq_nil_iff]
  intro event hmem
  rw [List.mem_mapIdx] at hmem
  obtain ⟨i, _, rfl⟩ := hmem
  simp [ToolEvent.isCall]

theorem toolCalls_runPostToolHooks (registry : HookRegistry) (toolName : String)
    (result : ToolResult)
    : toolCalls (registry.runPostToolHooks toolName result).run.2 = [] := by
  unfold runPostToolHooks
  generalize registry.postHooks = hooks
  generalize 0 = i
  generalize false = transformed
  induction hooks generalizing i result transformed with
  | nil => rfl
  | cons hook hooks ih =>
    rw [runPostToolHooks.go]
    rw [WriterT.snd_bind, WriterT.snd_tell, toolCalls_append]
    split
    . exact ih result (i + 1) transformed
    . exact ih _ (i + 1) true
    . rfl
    . exact ih result (i + 1) transformed

end HookRegistry

def hookedInput (hookRegistry : Option HookRegistry) (toolName : String) (input : Value)
    : Except ToolError Value :=
  match hookRegistry with
  | none => .ok input
  | some hooks =>
    match hooks.preToolResult toolName input with
    | .continue => .ok input
    | .transform value => .ok value
    | .block reason => .error (.permissionDenied ("blocked by hook: " ++ reason))
    | .transformToolResult _ => .ok input

def hookedResult (hookRegistry : Option HookRegistry) (toolName : String) (result : ToolResult)
    : ToolResult :=
  match hookRegistry with
  | none => result
  | some hooks =>
    match hooks.postToolResult toolName result with
    | .continue => result
    | .transform modifiedResult => modifiedResult
    | .block feedback => .error feedback

def checkedInput (tool : Tool) (hookRegistry : Option HookRegistry) (toolName : String)
    (input : Value)
    : Except ToolError Value := do
  let input ← hookedInput hookRegistry toolName input
  (tool.validateInput input).mapError .validationFailed
  pure input

theorem checkedInput_eq_ok_iff {tool : Tool} {hookRegistry : Option HookRegistry}
    {toolName : String} {input input' : Value}
    : checkedInput tool hookRegistry toolName input = .ok input'
        ↔ hookedInput hookRegistry toolName input = .ok input'
          ∧ tool.validateInput input' = .ok () := by
  unfold checkedInput
  cases hookedInput hookRegistry toolName input with
  | error err => simp [Bind.bind, Except.bind]
  | ok value =>
    simp only [Bind.bind, Except.bind]
    cases h : tool.validateInput value with
    | error msg =>
      simp only [Except.mapError, Except.ok.injEq]
      constructor
      . intro h'
        cases h'
      . rintro ⟨rfl, h'⟩
        rw [h] at h'
        cases h'
    | ok =>
      simp only [Except.mapError, pure, Except.pure, Except.ok.injEq]
      constructor
      . rintro rfl
        exact ⟨rfl, h⟩
      . exact And.left

section Stages

variable (serde : SerdeJson) (now : UInt64)
variable (tool : Tool) (options : RunToolOptions) (hookRegistry : Option HookRegistry)
variable (invocation : ToolInvocationRecord)

theorem applyPreHooks_outcome
    : (applyPreHooks now options hookRegistry invocation).outcome
        = (hookedInput hookRegistry options.toolName options.input).map
            (fun input => { options with input }) := by
  unfold applyPreHooks hookedInput
  cases hookRegistry with
  | none => rfl
  | some hooks =>
    dsimp only
    rw [Traced.outcome_bind_of_ok _ (Traced.outcome_lift _)]
    unfold HookRegistry.preToolResult
    generalize (hooks.runPreToolHooks options.toolName options.input).run.1 = result
    cases result <;> rfl

theorem toolCalls_applyPreHooks
    : toolCalls (applyPreHooks now options hookRegistry invocation).events = [] := by
  unfold applyPreHooks
  cases hookRegistry with
  | none => rfl
  | some hooks =>
    dsimp only
    rw [Traced.events_bind_of_ok _ (Traced.outcome_lift _), Traced.events_lift, toolCalls_append,
      HookRegistry.toolCalls_runPreToolHooks]
    generalize (hooks.runPreToolHooks options.toolName options.input).run.1 = result
    cases result <;> rfl

theorem validateToolInput_outcome
    : (validateToolInput now tool options invocation).outcome
        = ((tool.validateInput options.input).mapError .validationFailed).map
            (fun _ => invocation.markPhase now .validatingInput) := by
  unfold validateToolInput
  dsimp only
  cases h : tool.validateInput options.input with
  | ok => rfl
  | error msg => rfl

theorem toolCalls_validateToolInput
    : toolCalls (validateToolInput now tool options invocation).events = [] := by
  unfold validateToolInput
  dsimp only
  cases tool.validateInput options.input with
  | ok => rfl
  | error msg => rfl

theorem applyPostHooks_outcome (toolName : String) (result : ToolResult)
    : (applyPostHooks toolName hookRegistry result).outcome
        = .ok (hookedResult hookRegistry toolName result) := by
  unfold applyPostHooks hookedResult
  cases hookRegistry with
  | none => rfl
  | some hooks =>
    dsimp only
    rw [Traced.outcome_bind_of_ok _ (Traced.outcome_lift _),
      Traced.outcome_bind_of_ok _ (Traced.outcome_lift _)]
    unfold HookRegistry.postToolResult
    generalize (hooks.runPostToolHooks toolName result).run.1 = result
    cases result <;> rfl

theorem toolCalls_applyPostHooks (toolName : String) (result : ToolResult)
    : toolCalls (applyPostHooks toolName hookRegistry result).events = [] := by
  unfold applyPostHooks
  cases hookRegistry with
  | none => rfl
  | some hooks =>
    dsimp only
    rw [Traced.events_bind_of_ok _ (Traced.outcome_lift _), Traced.events_lift, toolCalls_append,
      HookRegistry.toolCalls_runPostHooks,
      Traced.events_bind_of_ok _ (Traced.outcome_lift _), Traced.events_lift, toolCalls_append,
      HookRegistry.toolCalls_runPostToolHooks]
    generalize (hooks.runPostToolHooks toolName result).run.1 = result
    cases result <;> rfl

def finishedInvocation (result : ToolResult) : ToolInvocationRecord :=
  ((invocation.markPhase now .executing).markPhase now .completed).setResult serde result

theorem executeToolCall_outcome
    : (executeToolCall serde now tool options hookRegistry invocation).outcome
        = (tool.call options.input options.context).map (fun result =>
            let result := hookedResult hookRegistry options.toolName result
            (finishedInvocation serde now invocation result, result)) := by
  unfold executeToolCall emitToolLifecycleEvent
  rw [Traced.outcome_bind_of_ok _ (Traced.outcome_emit _),
    Traced.outcome_bind_of_ok _ (Traced.outcome_emit _)]
  cases tool.call options.input options.context with
  | error err => rfl
  | ok result =>
    dsimp only
    rw [Traced.outcome_bind_of_ok _ (applyPostHooks_outcome hookRegistry options.toolName result)]
    rfl

theorem toolCalls_executeToolCall
    : toolCalls (executeToolCall serde now tool options hookRegistry invocation).events
        = [.call options.toolName options.input options.context] := by
  unfold executeToolCall emitToolLifecycleEvent
  rw [Traced.events_bind_of_ok _ (Traced.outcome_emit _),
    Traced.events_bind_of_ok _ (Traced.outcome_emit _), toolCalls_append, toolCalls_append,
    Traced.events_emit, Traced.events_emit]
  cases tool.call options.input options.context with
  | error err => rfl
  | ok result =>
    dsimp only
    rw [Traced.events_bind_of_ok _ (applyPostHooks_outcome hookRegistry options.toolName result),
      toolCalls_append, toolCalls_applyPostHooks]
    rfl

end Stages

section Paths

variable (serde : SerdeJson) (now : UInt64) (tool : Tool) (options : RunToolOptions)
variable (hookRegistry : Option HookRegistry)

def checkStage (invocation : ToolInvocationRecord) : ToolM (RunToolOptions × ToolInvocationRecord) := do
  let options ← applyPreHooks now options hookRegistry invocation
  let invocation ← validateToolInput now tool options invocation
  pure (options, invocation)

theorem checkStage_outcome (invocation : ToolInvocationRecord)
    : (checkStage now tool options hookRegistry invocation).outcome
        = (checkedInput tool hookRegistry options.toolName options.input).map (fun input =>
            ({ options with input }, invocation.markPhase now .validatingInput)) := by
  unfold checkStage checkedInput
  have happly := applyPreHooks_outcome now options hookRegistry invocation
  cases h : hookedInput hookRegistry options.toolName options.input with
  | error err =>
    rw [h] at happly
    rw [Traced.outcome_bind_of_error _ happly]
    rfl
  | ok input =>
    rw [h] at happly
    rw [Traced.outcome_bind_of_ok _ happly]
    have hvalidate :=
      validateToolInput_outcome now tool { options with input } invocation
    cases h : tool.validateInput input with
    | error msg =>
      rw [h] at hvalidate
      rw [Traced.outcome_bind_of_error _ hvalidate]
      simp only [Bind.bind, Except.bind, h, Except.mapError, Except.map]
    | ok =>
      rw [h] at hvalidate
      rw [Traced.outcome_bind_of_ok _ hvalidate]
      simp only [Bind.bind, Except.bind, h, Except.mapError, Except.map]
      rfl

theorem toolCalls_checkStage (invocation : ToolInvocationRecord)
    : toolCalls (checkStage now tool options hookRegistry invocation).events = [] := by
  unfold checkStage
  rw [Traced.events_bind, toolCalls_append, toolCalls_applyPreHooks]
  split
  . rw [Traced.events_bind, toolCalls_append, toolCalls_validateToolInput]
    split
    . rfl
    . rfl
  . rfl

theorem checkStage_bind {α : Type} (invocation : ToolInvocationRecord)
    (f : RunToolOptions × ToolInvocationRecord → ToolM α)
    : checkStage now tool options hookRegistry invocation >>= f
        = applyPreHooks now options hookRegistry invocation >>= fun options =>
          validateToolInput now tool options invocation >>= fun invocation =>
            f (options, invocation) := by
  unfold checkStage
  simp only [bind_assoc, pure_bind]

theorem runToolUse_eq (permissionChecker : Option PermissionChecker) (uuid : String)
    : runToolUse serde now tool options permissionChecker hookRegistry uuid
        = (do
          let invocationId := options.invocationId.getD ("toolinv_" ++ uuid)
          let invocation := ToolInvocationRecord.new now invocationId options.toolName none
          emitToolLifecycleEvent "tool_invocation_detected" invocation
            (.object [("tool_input", options.input)])
          let checked ← checkStage now tool options hookRegistry invocation
          match ← checkPermission serde now tool checked.1 permissionChecker checked.2 with
          | (_, some awaiting) => pure (.awaitingPermission awaiting)
          | (invocation, none) =>
            let (invocation, result) ←
              executeToolCall serde now tool checked.1 hookRegistry invocation
            pure (.completed invocation result)) := by
  unfold runToolUse
  symm
  exact bind_congr fun _ => checkStage_bind ..

theorem executeToolAfterPermission_eq (invocation : ToolInvocationRecord)
    : executeToolAfterPermission serde now tool options hookRegistry invocation
        = (do
          let checked ← checkStage now tool options hookRegistry invocation
          let invocation :=
            (checked.2.setPermissionState .allowed).markPhase now .permissionResolved
          emitToolLifecycleEvent "tool_permission_resolved" invocation
            (.object [("decision", .string "allow"), ("source", .string "resume")])
          executeToolCall serde now tool checked.1 hookRegistry invocation) := by
  unfold executeToolAfterPermission
  symm
  exact checkStage_bind ..

section CheckFails

variable {err : ToolError}
variable (h : checkedInput tool hookRegistry options.toolName options.input = .error err)

include h in
theorem checkStage_of_error (invocation : ToolInvocationRecord)
    : (checkStage now tool options hookRegistry invocation).outcome = .error err := by
  rw [checkStage_outcome, h]
  rfl

include h in
theorem runToolUse_of_error (permissionChecker : Option PermissionChecker) (uuid : String)
    : (runToolUse serde now tool options permissionChecker hookRegistry uuid).outcome
          = .error err
        ∧ toolCalls
            (runToolUse serde now tool options permissionChecker hookRegistry uuid).events = [] := by
  rw [runToolUse_eq]
  unfold emitToolLifecycleEvent
  dsimp only
  constructor
  . rw [Traced.outcome_bind_of_ok _ (Traced.outcome_emit _),
      Traced.outcome_bind_of_error _ (checkStage_of_error now tool options hookRegistry h _)]
  . rw [Traced.events_bind_of_ok _ (Traced.outcome_emit _), toolCalls_append, Traced.events_emit,
      Traced.events_bind_of_error _ (checkStage_of_error now tool options hookRegistry h _),
      toolCalls_checkStage]
    rfl

include h in
theorem executeToolAfterPermission_of_error (invocation : ToolInvocationRecord)
    : (executeToolAfterPermission serde now tool options hookRegistry invocation).outcome
          = .error err
        ∧ toolCalls
            (executeToolAfterPermission serde now tool options hookRegistry invocation).events
          = [] := by
  rw [executeToolAfterPermission_eq]
  constructor
  . rw [Traced.outcome_bind_of_error _ (checkStage_of_error now tool options hookRegistry h _)]
  . rw [Traced.events_bind_of_error _ (checkStage_of_error now tool options hookRegistry h _),
      toolCalls_checkStage]

end CheckFails

section CheckPasses

variable {input : Value}
variable (h : checkedInput tool hookRegistry options.toolName options.input = .ok input)

include h in
theorem checkStage_of_ok (invocation : ToolInvocationRecord)
    : (checkStage now tool options hookRegistry invocation).outcome
        = .ok ({ options with input }, invocation.markPhase now .validatingInput) := by
  rw [checkStage_outcome, h]
  rfl

def checkingInvocation (uuid : String) : ToolInvocationRecord :=
  let invocationId := options.invocationId.getD ("toolinv_" ++ uuid)
  let invocation := ToolInvocationRecord.new now invocationId options.toolName none
  let invocation := invocation.markPhase now .validatingInput
  (invocation.markPhase now .permissionChecking).setPermissionState .checking

def allowedInvocation (uuid : String) : ToolInvocationRecord :=
  let invocation := checkingInvocation now options uuid
  (invocation.setPermissionState .allowed).markPhase now .permissionResolved

def requestedInvocation (uuid : String) : ToolInvocationRecord :=
  let invocation := checkingInvocation now options uuid
  (invocation.setPermissionState .requested).markPhase now .permissionRequested

theorem checkPermission_of_allow {checker : PermissionChecker} (invocation : ToolInvocationRecord)
    (hallow : checker.hasPermission serde tool.name options.input = .allow)
    : (checkPermission serde now tool options (some checker) invocation).outcome
          = .ok
            ((((invocation.markPhase now .permissionChecking).setPermissionState
              .checking).setPermissionState .allowed).markPhase now .permissionResolved, none)
        ∧ toolCalls (checkPermission serde now tool options (some checker) invocation).events
          = [] := by
  unfold checkPermission
  dsimp only
  rw [hallow]
  exact ⟨rfl, rfl⟩

theorem checkPermission_of_ask {checker : PermissionChecker} {request : PermissionRequest}
    (invocation : ToolInvocationRecord)
    (hask : checker.hasPermission serde tool.name options.input = .ask request)
    : (∃ record, (checkPermission serde now tool options (some checker) invocation).outcome
          = .ok (record, some
            { invocation :=
                ((((invocation.markPhase now .permissionChecking).setPermissionState
                  .checking).setPermissionState .requested).markPhase now .permissionRequested)
              input := options.input
              permissionRequest := request
              context := options.context }))
        ∧ toolCalls (checkPermission serde now tool options (some checker) invocation).events
          = [] := by
  unfold checkPermission
  dsimp only
  rw [hask]
  exact ⟨⟨_, rfl⟩, rfl⟩

theorem checkPermission_of_deny {checker : PermissionChecker} {reason : String}
    (invocation : ToolInvocationRecord)
    (hdeny : checker.hasPermission serde tool.name options.input = .deny reason)
    : (checkPermission serde now tool options (some checker) invocation).outcome
        = .error (.permissionDenied reason) := by
  unfold checkPermission
  dsimp only
  rw [hdeny]
  rfl

include h in
theorem runToolUse_of_allow {checker : PermissionChecker} (uuid : String)
    (hallow : checker.hasPermission serde tool.name input = .allow)
    : (runToolUse serde now tool options (some checker) hookRegistry uuid).outcome
          = (tool.call input options.context).map (fun result =>
              let result := hookedResult hookRegistry options.toolName result
              .completed
                (finishedInvocation serde now (allowedInvocation now options uuid) result) result)
        ∧ toolCalls
            (runToolUse serde now tool options (some checker) hookRegistry uuid).events
          = [.call options.toolName input options.context] := by
  have hcheck := checkStage_of_ok now tool options hookRegistry h
    (.new now (options.invocationId.getD ("toolinv_" ++ uuid)) options.toolName none)
  obtain ⟨hpermission, hnone⟩ :=
    checkPermission_of_allow serde now tool { options with input }
      ((ToolInvocationRecord.new now (options.invocationId.getD ("toolinv_" ++ uuid))
        options.toolName none).markPhase now .validatingInput) hallow
  have hexecute := executeToolCall_outcome serde now tool { options with input } hookRegistry
    (allowedInvocation now options uuid)
  have hcalls := toolCalls_executeToolCall serde now tool { options with input } hookRegistry
    (allowedInvocation now options uuid)
  rw [runToolUse_eq]
  unfold emitToolLifecycleEvent
  dsimp only at hexecute hcalls ⊢
  constructor
  . rw [Traced.outcome_bind_of_ok _ (Traced.outcome_emit _), Traced.outcome_bind_of_ok _ hcheck,
      Traced.outcome_bind_of_ok _ hpermission]
    cases hcall : tool.call input options.context with
    | error err =>
      rw [hcall] at hexecute
      exact Traced.outcome_bind_of_error _ hexecute
    | ok result =>
      rw [hcall] at hexecute
      exact Traced.outcome_bind_of_ok _ hexecute
  . rw [Traced.events_bind_of_ok _ (Traced.outcome_emit _), Traced.events_bind_of_ok _ hcheck,
      Traced.events_bind_of_ok _ hpermission, toolCalls_append, toolCalls_append,
      toolCalls_append, toolCalls_checkStage, hnone, Traced.events_emit]
    dsimp only
    rw [Traced.events_bind, toolCalls_append]
    change toolCalls _ ++ ([] ++ ([] ++ (toolCalls (executeToolCall serde now tool
      { options with input } hookRegistry (allowedInvocation now options uuid)).events ++ _))) = _
    rw [hcalls]
    split
    . rfl
    . rfl

include h in
theorem runToolUse_of_ask {checker : PermissionChecker} {request : PermissionRequest}
    (uuid : String) (hask : checker.hasPermission serde tool.name input = .ask request)
    : (runToolUse serde now tool options (some checker) hookRegistry uuid).outcome
          = .ok (.awaitingPermission
            { invocation := requestedInvocation now options uuid
              input
              permissionRequest := request
              context := options.context })
        ∧ toolCalls
            (runToolUse serde now tool options (some checker) hookRegistry uuid).events = [] := by
  have hcheck := checkStage_of_ok now tool options hookRegistry h
    (.new now (options.invocationId.getD ("toolinv_" ++ uuid)) options.toolName none)
  obtain ⟨⟨record, hpermission⟩, hnone⟩ :=
    checkPermission_of_ask serde now tool { options with input }
      ((ToolInvocationRecord.new now (options.invocationId.getD ("toolinv_" ++ uuid))
        options.toolName none).markPhase now .validatingInput) hask
  rw [runToolUse_eq]
  unfold emitToolLifecycleEvent
  dsimp only
  constructor
  . rw [Traced.outcome_bind_of_ok _ (Traced.outcome_emit _), Traced.outcome_bind_of_ok _ hcheck,
      Traced.outcome_bind_of_ok _ hpermission]
    rfl
  . rw [Traced.events_bind_of_ok _ (Traced.outcome_emit _), Traced.events_bind_of_ok _ hcheck,
      Traced.events_bind_of_ok _ hpermission, toolCalls_append, toolCalls_append,
      toolCalls_append, toolCalls_checkStage, hnone, Traced.events_emit]
    rfl

include h in
theorem executeToolAfterPermission_of_ok (invocation : ToolInvocationRecord)
    : (executeToolAfterPermission serde now tool options hookRegistry invocation).outcome
          = (tool.call input options.context).map (fun result =>
              let result := hookedResult hookRegistry options.toolName result
              let invocation := invocation.markPhase now .validatingInput
              let invocation := invocation.setPermissionState .allowed
              (finishedInvocation serde now (invocation.markPhase now .permissionResolved) result,
                result))
        ∧ toolCalls
            (executeToolAfterPermission serde now tool options hookRegistry invocation).events
          = [.call options.toolName input options.context] := by
  have hcheck := checkStage_of_ok now tool options hookRegistry h invocation
  rw [executeToolAfterPermission_eq]
  unfold emitToolLifecycleEvent
  constructor
  . rw [Traced.outcome_bind_of_ok _ hcheck]
    dsimp only
    rw [Traced.outcome_bind_of_ok _ (Traced.outcome_emit _), executeToolCall_outcome]
  . rw [Traced.events_bind_of_ok _ hcheck, toolCalls_append, toolCalls_checkStage]
    dsimp only
    rw [Traced.events_bind_of_ok _ (Traced.outcome_emit _), toolCalls_append, Traced.events_emit,
      toolCalls_executeToolCall]
    rfl

include h in
theorem runToolUse_outcome_of_checked (permissionChecker : Option PermissionChecker) (uuid : String)
    : ∃ invocation,
        (runToolUse serde now tool options permissionChecker hookRegistry uuid).outcome
          = (checkPermission serde now tool { options with input } permissionChecker invocation
            >>= fun
              | (_, some awaiting) => pure (.awaitingPermission awaiting)
              | (invocation, none) => do
                let (invocation, result) ←
                  executeToolCall serde now tool { options with input } hookRegistry invocation
                pure (RunToolUseOutcome.completed invocation result)).outcome := by
  have hcheck := checkStage_of_ok now tool options hookRegistry h
    (.new now (options.invocationId.getD ("toolinv_" ++ uuid)) options.toolName none)
  rw [runToolUse_eq]
  unfold emitToolLifecycleEvent
  dsimp only
  rw [Traced.outcome_bind_of_ok _ (Traced.outcome_emit _), Traced.outcome_bind_of_ok _ hcheck]
  exact ⟨_, rfl⟩

include h in
theorem runToolUse_of_deny {checker : PermissionChecker} {reason : String} (uuid : String)
    (hdeny : checker.hasPermission serde tool.name input = .deny reason)
    : (runToolUse serde now tool options (some checker) hookRegistry uuid).outcome
        = .error (.permissionDenied reason) := by
  obtain ⟨invocation, hrun⟩ := runToolUse_outcome_of_checked serde now tool options hookRegistry h
    (some checker) uuid
  rw [hrun]
  apply Traced.outcome_bind_of_error
  exact checkPermission_of_deny serde now tool { options with input } invocation hdeny

include h in
theorem runToolUse_of_no_checker (uuid : String)
    : ∃ invocation,
        (runToolUse serde now tool options none hookRegistry uuid).outcome
          = (tool.call input options.context).map (fun result =>
              let result := hookedResult hookRegistry options.toolName result
              .completed (finishedInvocation serde now invocation result) result) := by
  obtain ⟨invocation, hrun⟩ := runToolUse_outcome_of_checked serde now tool options hookRegistry h
    none uuid
  have hexecute := executeToolCall_outcome serde now tool { options with input } hookRegistry
    ((invocation.markPhase now .permissionChecking).setPermissionState .notRequired)
  refine ⟨(invocation.markPhase now .permissionChecking).setPermissionState .notRequired, ?_⟩
  rw [hrun]
  have hpermission : (checkPermission serde now tool { options with input } none
      invocation).outcome
        = .ok ((invocation.markPhase now .permissionChecking).setPermissionState .notRequired,
          none) := by
    rfl
  rw [Traced.outcome_bind_of_ok _ hpermission]
  dsimp only at hexecute ⊢
  cases hcall : tool.call input options.context with
  | error err =>
    rw [hcall] at hexecute
    exact Traced.outcome_bind_of_error _ hexecute
  | ok result =>
    rw [hcall] at hexecute
    exact Traced.outcome_bind_of_ok _ hexecute

end CheckPasses

def AsksPermission (permissionChecker : Option PermissionChecker) (toolName : String)
    (input : Value)
    : Prop :=
  ∃ checked checker request,
    checkedInput tool hookRegistry toolName input = .ok checked
      ∧ permissionChecker = some checker
      ∧ checker.hasPermission serde tool.name checked = .ask request

theorem runToolUse_awaits_iff (permissionChecker : Option PermissionChecker) (uuid : String)
    : (∃ awaiting,
          (runToolUse serde now tool options permissionChecker hookRegistry uuid).outcome
            = .ok (.awaitingPermission awaiting))
        ↔ AsksPermission serde tool hookRegistry permissionChecker options.toolName
          options.input := by
  unfold AsksPermission
  cases h : checkedInput tool hookRegistry options.toolName options.input with
  | error err =>
    rw [(runToolUse_of_error serde now tool options hookRegistry h permissionChecker uuid).1]
    simp
  | ok input =>
    cases permissionChecker with
    | none =>
      obtain ⟨invocation, hrun⟩ :=
        runToolUse_of_no_checker serde now tool options hookRegistry h uuid
      rw [hrun]
      cases tool.call input options.context with
      | error err => simp [Except.map]
      | ok result => simp [Except.map]
    | some checker =>
      cases hdecision : checker.hasPermission serde tool.name input with
      | allow =>
        rw [(runToolUse_of_allow serde now tool options hookRegistry h uuid hdecision).1]
        cases tool.call input options.context with
        | error err => simp [Except.map, hdecision]
        | ok result => simp [Except.map, hdecision]
      | deny reason =>
        rw [runToolUse_of_deny serde now tool options hookRegistry h uuid hdecision]
        simp [hdecision]
      | ask request =>
        rw [(runToolUse_of_ask serde now tool options hookRegistry h uuid hdecision).1]
        simp [hdecision]

end Paths

end AnimaAgent
