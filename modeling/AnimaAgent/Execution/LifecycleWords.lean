import AnimaAgent.Execution.Lemmas.Resume
import AnimaAgent.Tools.HookRuns

namespace AnimaAgent

abbrev LifecycleEntry :=
  String × ToolInvocationPhase × ToolPermissionState

def ToolEvent.entry (id : String) : ToolEvent → Option LifecycleEntry
  | lifecycle event record _ =>
    if record.invocationId = id then some (event, record.phase, record.permissionState) else none
  | _ => none

def lifecycle (id : String) (events : List ToolEvent) : List LifecycleEntry :=
  events.filterMap (ToolEvent.entry id)

inductive PermissionVerdict where
  | none
  | allowed
  | denied
  | approved
  | refused
  deriving DecidableEq, Repr

namespace PermissionVerdict

def events : PermissionVerdict → List (String × ToolInvocationPhase)
  | none => []
  | allowed => [("tool_permission_resolved", .permissionResolved)]
  | denied => [("tool_permission_resolved", .failed)]
  | approved =>
    [("tool_permission_requested", .permissionRequested),
      ("tool_permission_resolved", .permissionResolved)]
  | refused =>
    [("tool_permission_requested", .permissionRequested), ("tool_permission_resolved", .failed)]

def state : PermissionVerdict → ToolPermissionState
  | none => .notRequired
  | allowed => .allowed
  | denied => .denied
  | approved => .allowed
  | refused => .denied

end PermissionVerdict

def lifecycleEnds : List (String × ToolInvocationPhase) :=
  [("tool_execution_finished", .completed), ("tool_execution_failed", .failed)]

/--
The tool use is detected once, then its permission is requested and resolved as decided, its tool is
started if it is called at all, finishes or fails, and the result is recorded with the decision.
-/
structure LifecycleWord (id : String) (verdict : PermissionVerdict) (events : List ToolEvent) : Prop where
  word : ∃ finish ∈ lifecycleEnds,
    (lifecycle id events).map (fun entry => (entry.1, entry.2.1))
      = ("tool_invocation_detected", .detected) :: verdict.events
        ++ (if toolCalls events = [] then [] else [("tool_execution_started", .executing)])
        ++ [finish, ("tool_result_recorded", .resultRecorded)]
  recorded : (lifecycle id events).getLast?.map (fun entry => entry.2.2) = some verdict.state

structure Handling where
  events : List ToolEvent
  verdict : PermissionVerdict
  answer : Option (Except ToolError ToolResult)
  dropped : Bool := false

namespace LoopEnv

variable (env : LoopEnv)

def verdict (toolUse : ParsedToolUse) : PermissionVerdict :=
  match env.toolRegistry.get toolUse.name with
  | none => .none
  | some tool =>
    match checkedInput tool env.hookRegistry toolUse.name toolUse.input, env.permissionChecker with
    | .ok input, some checker =>
      match checker.hasPermission env.serde tool.name input with
      | .allow => .allowed
      | .deny _ => .denied
      | .ask _ => .none
    | _, _ => .none

def answer (toolName : String) (input : Value) : Option (Except ToolError ToolResult) :=
  match env.toolRegistry.get toolName with
  | none => none
  | some tool =>
    match checkedInput tool env.hookRegistry toolName input with
    | .ok input => some (tool.call input env.toolContext)
    | .error _ => none

end LoopEnv

def toolEvents (events : List LoopEvent) : List ToolEvent :=
  events.filterMap (fun
    | .tool event => some event
    | _ => none)

@[simp]
theorem toolEvents_append (as bs : List LoopEvent)
    : toolEvents (as ++ bs) = toolEvents as ++ toolEvents bs := by
  exact List.filterMap_append ..

@[simp]
theorem toolEvents_map_tool (events : List ToolEvent)
    : toolEvents (events.map LoopEvent.tool) = events := by
  unfold toolEvents
  rw [List.filterMap_map]
  exact List.filterMap_some

/--
The ways in which the loop handles a tool use of the segments of a response: its result is recorded
together with those of its segment, or after a suspension for its permission. If the loop is suspended
for another tool use of the segment, nothing is recorded; if it was suspended for an earlier segment,
nothing is executed.
-/
inductive Handles (env : LoopEnv) (i : Nat) (item : IndexedToolUse)
    : List (List IndexedToolUse) → Handling → Prop
  | recorded {segment : List IndexedToolUse} (rest : List (List IndexedToolUse))
      (hmem : item ∈ segment)
      (hruns : LoopEnv.earliestPermission (env.executeSegment i segment).run.1 = none)
    : Handles env i item (segment :: rest)
        { events := (env.executeItem i item).run.2
            ++ (env.recordOutcome i (env.executeItem i item).run.1).run.2
          verdict := env.verdict item.toolUse
          answer := env.answer item.toolUse.name item.toolUse.input }
  | resumed {segment : List IndexedToolUse} (rest : List (List IndexedToolUse)) (later : LoopEnv)
      (state : LoopState) (uuid' : String) (allowed : Bool) {id : String}
      {awaiting : AwaitingToolPermission} (hmem : item ∈ segment)
      (hwaits : LoopEnv.earliestPermission (env.executeSegment i segment).run.1 = some (id, awaiting))
      (h : (env.executeItem i item).run.1.outcome = .awaitingPermission awaiting)
    : Handles env i item (segment :: rest)
        { events := (env.executeItem i item).run.2
            ++ toolEvents (later.resumeSuspendedToolInvocation uuid'
              (LoopEnv.suspend state id awaiting) allowed).events
          verdict := if allowed then .approved else .refused
          answer := if allowed then later.answer item.toolUse.name awaiting.input else none }
  | leftOut {segment : List IndexedToolUse} (rest : List (List IndexedToolUse)) {id : String}
      {awaiting : AwaitingToolPermission} (hmem : item ∈ segment)
      (hwaits : LoopEnv.earliestPermission (env.executeSegment i segment).run.1 = some (id, awaiting))
      (h : (env.executeItem i item).run.1.outcome ≠ .awaitingPermission awaiting)
    : Handles env i item (segment :: rest)
        { events := (env.executeItem i item).run.2
          verdict := env.verdict item.toolUse
          answer := env.answer item.toolUse.name item.toolUse.input
          dropped := true }
  | skipped {segment : List IndexedToolUse} {rest : List (List IndexedToolUse)}
      {awaiting : String × AwaitingToolPermission} (hnot : item ∉ segment) (hmem : item ∈ rest.flatten)
      (hwaits : LoopEnv.earliestPermission (env.executeSegment i segment).run.1 = some awaiting)
    : Handles env i item (segment :: rest)
        { events := []
          verdict := .none
          answer := none
          dropped := true }
  | later {segment : List IndexedToolUse} {rest : List (List IndexedToolUse)} {handling : Handling}
      (hnot : item ∉ segment)
      (hruns : LoopEnv.earliestPermission (env.executeSegment i segment).run.1 = none)
      (h : Handles env i item rest handling)
    : Handles env i item (segment :: rest) handling

/-- No tool use of the segment of the item, nor of one before it, waits for a permission. -/
def LoopEnv.Undisturbed (env : LoopEnv) (item : IndexedToolUse) : List (List IndexedToolUse) → Prop
  | [] => False
  | segment :: rest =>
    (∀ other ∈ segment, ¬env.Asks other.toolUse) ∧ (item ∈ segment ∨ env.Undisturbed item rest)

/-- Nothing was dropped or denied, and a tool that was allowed to run has given a result. -/
def Handling.Smooth (handling : Handling) : Prop :=
  handling.dropped = false
    ∧ (handling.verdict = .none
      ∨ (handling.verdict = .allowed ∨ handling.verdict = .approved)
        ∧ ∃ result, handling.answer = some (.ok result))

section Lifecycle

variable {id : String}

@[simp]
theorem lifecycle_nil : lifecycle id [] = [] := by
  rfl

@[simp]
theorem lifecycle_append (as bs : List ToolEvent)
    : lifecycle id (as ++ bs) = lifecycle id as ++ lifecycle id bs := by
  exact List.filterMap_append ..

theorem lifecycle_of_handles {events : List ToolEvent} (h : ∀ event ∈ events, event.handles = true)
    : lifecycle id events = [] := by
  unfold lifecycle
  rw [List.filterMap_eq_nil_iff]
  intro event hmem
  have := h event hmem
  cases event <;> first | rfl | cases this

theorem lifecycle_singleton {event : String} {record : ToolInvocationRecord} {details : Value}
    (hid : record.invocationId = id)
    : lifecycle id [.lifecycle event record details]
        = [(event, record.phase, record.permissionState)] := by
  simp [lifecycle, ToolEvent.entry, hid]

def endEntry (state : ToolPermissionState) : Except ToolError ToolResult → LifecycleEntry
  | .ok _ => ("tool_execution_finished", .completed, state)
  | .error _ => ("tool_execution_failed", .failed, state)

def checkEntries (state : ToolPermissionState) : Except ToolError Value → List LifecycleEntry
  | .ok _ => []
  | .error _ => [("tool_execution_failed", .failed, state)]

end Lifecycle

@[simp]
theorem ToolInvocationRecord.markPhase_permissionState (record : ToolInvocationRecord) (now : UInt64)
    (phase : ToolInvocationPhase)
    : (record.markPhase now phase).permissionState = record.permissionState := by
  cases phase <;> rfl

section Stages

variable (serde : SerdeJson) (now : UInt64) (tool : Tool) (options : RunToolOptions)
variable (hookRegistry : Option HookRegistry) {id : String} {invocation : ToolInvocationRecord}

theorem lifecycle_failed {details : Value} (hid : invocation.invocationId = id) (error : String)
    : lifecycle id [.lifecycle "tool_execution_failed"
          ((invocation.markPhase now .failed).setError error) details]
        = [("tool_execution_failed", .failed, invocation.permissionState)] := by
  exact lifecycle_singleton hid

theorem lifecycle_applyPreHooks (hid : invocation.invocationId = id)
    : lifecycle id (applyPreHooks now options hookRegistry invocation).events
        = checkEntries invocation.permissionState
          (hookedInput hookRegistry options.toolName options.input) := by
  unfold applyPreHooks hookedInput
  cases hookRegistry with
  | none => rfl
  | some hooks =>
    have hpre : ∀ event ∈ hooks.preEvents options.toolName options.input, event.handles = true := by
      intro event hmem
      have := HookRegistry.isPreHook_of_mem_preEvents event hmem
      cases event <;> first | rfl | cases this
    dsimp only
    rw [Traced.events_bind_of_ok _ (Traced.outcome_lift _), Traced.events_lift, lifecycle_append]
    change lifecycle id (hooks.preEvents _ _) ++ _ = _
    rw [lifecycle_of_handles hpre, List.nil_append]
    unfold HookRegistry.preToolResult
    generalize (hooks.runPreToolHooks options.toolName options.input).run.1 = result
    cases result with
    | block reason => exact lifecycle_failed now hid _
    | _ => rfl

theorem lifecycle_validateToolInput (hid : invocation.invocationId = id)
    : lifecycle id (validateToolInput now tool options invocation).events
        = checkEntries invocation.permissionState
          (((tool.validateInput options.input).mapError .validationFailed).map
            (fun _ => options.input)) := by
  unfold validateToolInput
  dsimp only
  cases tool.validateInput options.input with
  | ok => rfl
  | error msg => exact lifecycle_singleton hid

theorem lifecycle_checkStage (hid : invocation.invocationId = id)
    : lifecycle id (checkStage now tool options hookRegistry invocation).events
        = checkEntries invocation.permissionState
          (checkedInput tool hookRegistry options.toolName options.input) := by
  have hhooks := applyPreHooks_outcome now options hookRegistry invocation
  unfold checkStage checkedInput
  rw [Traced.events_bind, lifecycle_append, lifecycle_applyPreHooks now options hookRegistry hid]
  cases hooked : hookedInput hookRegistry options.toolName options.input with
  | error err =>
    rw [hooked] at hhooks
    rw [hhooks]
    rfl
  | ok input =>
    rw [hooked] at hhooks
    rw [hhooks]
    have hvalidate := lifecycle_validateToolInput now tool { options with input } hid
    have houtcome := validateToolInput_outcome now tool { options with input } invocation
    dsimp only [Except.map]
    rw [Traced.events_bind, lifecycle_append, hvalidate, houtcome]
    dsimp only
    cases hinput : tool.validateInput input with
    | ok => simp only [Bind.bind, Except.bind, hinput, Except.mapError, Except.map]; rfl
    | error msg => simp only [Bind.bind, Except.bind, hinput, Except.mapError, Except.map]; rfl

theorem lifecycle_applyPostHooks (toolName : String) (result : ToolResult)
    : lifecycle id (applyPostHooks toolName hookRegistry result).events = [] := by
  unfold applyPostHooks
  cases hookRegistry with
  | none => rfl
  | some hooks =>
    dsimp only
    rw [Traced.events_bind_of_ok _ (Traced.outcome_lift _), Traced.events_lift, lifecycle_append,
      lifecycle_of_handles hooks.handles_of_mem_runPostHooks,
      Traced.events_bind_of_ok _ (Traced.outcome_lift _), Traced.events_lift, lifecycle_append,
      lifecycle_of_handles hooks.handles_of_mem_runPostToolHooks]
    generalize (hooks.runPostToolHooks toolName result).run.1 = answer
    cases answer <;> rfl

theorem lifecycle_executeToolCall (hid : invocation.invocationId = id)
    : lifecycle id (executeToolCall serde now tool options hookRegistry invocation).events
        = [("tool_execution_started", .executing, invocation.permissionState),
          endEntry invocation.permissionState (tool.call options.input options.context)] := by
  have hstarted : (invocation.markPhase now .executing).invocationId = id := hid
  unfold executeToolCall emitToolLifecycleEvent
  rw [Traced.events_bind_of_ok _ (Traced.outcome_emit _),
    Traced.events_bind_of_ok _ (Traced.outcome_emit _), lifecycle_append, lifecycle_append,
    Traced.events_emit, Traced.events_emit, lifecycle_singleton hstarted]
  cases tool.call options.input options.context with
  | error err =>
    dsimp only
    rw [Traced.events_bind_of_ok _ (Traced.outcome_emit _), lifecycle_append, Traced.events_emit,
      lifecycle_failed now hstarted]
    rfl
  | ok result =>
    dsimp only
    rw [Traced.events_bind_of_ok _ (applyPostHooks_outcome hookRegistry options.toolName result),
      lifecycle_append, lifecycle_applyPostHooks,
      Traced.events_bind_of_ok _ (Traced.outcome_emit _), lifecycle_append, Traced.events_emit,
      lifecycle_singleton]
    . rfl
    . exact hid

end Stages

def Ends (id : String) (state : ToolPermissionState) (called : Except ToolError ToolResult)
    (outcome : Except ToolError RunToolUseOutcome)
    : Prop :=
  match called with
  | .error err => outcome = .error err
  | .ok _ => ∃ invocation result, outcome = .ok (.completed invocation result)
    ∧ invocation.invocationId = id ∧ invocation.permissionState = state

def detectedEntry : LifecycleEntry :=
  ("tool_invocation_detected", .detected, .notRequired)

section Runs

variable (serde : SerdeJson) (now : UInt64) (tool : Tool) (options : RunToolOptions)
variable (checker : Option PermissionChecker) (hookRegistry : Option HookRegistry) (uuid : String)
variable {id : String}

def checkedInvocation (id : String) : ToolInvocationRecord :=
  (ToolInvocationRecord.new now id options.toolName none).markPhase now .validatingInput

def permittedRun (invocation : ToolInvocationRecord) : ToolM RunToolUseOutcome := do
  match ← checkPermission serde now tool options checker invocation with
  | (_, some awaiting) => pure (.awaitingPermission awaiting)
  | (invocation, none) =>
    let (invocation, result) ← executeToolCall serde now tool options hookRegistry invocation
    pure (.completed invocation result)

section Stages

variable (hid : options.invocationId = some id)

include hid

theorem lifecycle_runToolUse_of_error {err : ToolError}
    (h : checkedInput tool hookRegistry options.toolName options.input = .error err)
    : lifecycle id (runToolUse serde now tool options checker hookRegistry uuid).events
        = [detectedEntry, ("tool_execution_failed", .failed, .notRequired)] := by
  have hcheck := checkStage_of_error now tool options hookRegistry h (.new now id options.toolName none)
  rw [runToolUse_eq, hid]
  unfold emitToolLifecycleEvent
  dsimp only [Option.getD_some]
  rw [Traced.events_bind_of_ok _ (Traced.outcome_emit _), Traced.events_bind_of_error _ hcheck,
    lifecycle_append, Traced.events_emit, lifecycle_singleton, lifecycle_checkStage, h]
  . rfl
  . rfl
  . rfl

theorem runToolUse_of_checked {input : Value}
    (h : checkedInput tool hookRegistry options.toolName options.input = .ok input)
    : (let run := runToolUse serde now tool options checker hookRegistry uuid
      let rest := permittedRun serde now tool { options with input } checker hookRegistry
        (checkedInvocation now options id)
      lifecycle id run.events = detectedEntry :: lifecycle id rest.events
        ∧ run.outcome = rest.outcome ∧ toolCalls run.events = toolCalls rest.events) := by
  have hcheck := checkStage_of_ok now tool options hookRegistry h (.new now id options.toolName none)
  intro run rest
  unfold run
  rw [runToolUse_eq, hid]
  unfold emitToolLifecycleEvent
  dsimp only [Option.getD_some]
  rw [Traced.events_bind_of_ok _ (Traced.outcome_emit _), Traced.events_bind_of_ok _ hcheck,
    Traced.outcome_bind_of_ok _ (Traced.outcome_emit _), Traced.outcome_bind_of_ok _ hcheck,
    lifecycle_append, lifecycle_append, toolCalls_append, toolCalls_append, toolCalls_checkStage,
    Traced.events_emit, lifecycle_singleton, lifecycle_checkStage, h]
  . exact ⟨rfl, rfl, rfl⟩
  . rfl
  . rfl

end Stages

def permissionEntries : Option PermissionDecision → List LifecycleEntry
  | none => []
  | some .allow => [("tool_permission_resolved", .permissionResolved, .allowed)]
  | some (.deny _) => [("tool_permission_resolved", .failed, .denied)]
  | some (.ask _) => [("tool_permission_requested", .permissionRequested, .requested)]

section Permission

variable {invocation : ToolInvocationRecord} (hid : invocation.invocationId = id)

include hid in
theorem lifecycle_checkPermission
    : lifecycle id (checkPermission serde now tool options checker invocation).events
        = permissionEntries
          (checker.map (fun checker => checker.hasPermission serde tool.name options.input)) := by
  unfold checkPermission emitToolLifecycleEvent
  cases checker with
  | none => rfl
  | some checker =>
    rw [Option.map_some]
    dsimp only
    cases checker.hasPermission serde tool.name options.input with
    | _ =>
      dsimp only
      rw [Traced.events_bind_of_ok _ (Traced.outcome_emit _), lifecycle_append, Traced.events_emit,
        lifecycle_singleton]
      . rfl
      . exact hid

theorem toolCalls_checkPermission
    : toolCalls (checkPermission serde now tool options checker invocation).events = [] := by
  exact toolCalls_eq_nil_of_handled
    (handled_checkPermission serde now tool options checker invocation)

include hid in
theorem permittedRun_of_deny {checker : PermissionChecker} {reason : String}
    (hdeny : checker.hasPermission serde tool.name options.input = .deny reason)
    : (let run := permittedRun serde now tool options (some checker) hookRegistry invocation
      lifecycle id run.events = [("tool_permission_resolved", .failed, .denied)]
        ∧ run.outcome = .error (.permissionDenied reason) ∧ toolCalls run.events = []) := by
  have houtcome := checkPermission_of_deny serde now tool options invocation hdeny
  intro run
  unfold run permittedRun
  rw [Traced.events_bind_of_error _ houtcome, Traced.outcome_bind_of_error _ houtcome,
    lifecycle_checkPermission serde now tool options _ hid, Option.map_some, hdeny]
  exact ⟨rfl, rfl, toolCalls_checkPermission serde now tool options _⟩

include hid in
theorem permittedRun_of_ask {checker : PermissionChecker} {request : PermissionRequest}
    (hask : checker.hasPermission serde tool.name options.input = .ask request)
    : (let run := permittedRun serde now tool options (some checker) hookRegistry invocation
      lifecycle id run.events = [("tool_permission_requested", .permissionRequested, .requested)]
        ∧ ∃ awaiting, run.outcome = .ok (.awaitingPermission awaiting)
          ∧ awaiting.invocation.invocationId = id
          ∧ awaiting.invocation.permissionState = .requested
          ∧ awaiting.invocation.toolName = invocation.toolName
          ∧ toolCalls run.events = []) := by
  obtain ⟨record, houtcome⟩ := (checkPermission_of_ask serde now tool options invocation hask).1
  intro run
  unfold run permittedRun
  rw [Traced.events_bind_of_ok _ houtcome, Traced.outcome_bind_of_ok _ houtcome, lifecycle_append,
    lifecycle_checkPermission serde now tool options _ hid, Option.map_some, hask, toolCalls_append,
    toolCalls_checkPermission]
  exact ⟨rfl, _, rfl, hid, rfl, rfl, rfl⟩

theorem permittedRun_of_ok {passed : ToolInvocationRecord}
    (hid : invocation.invocationId = id) (hpassed : passed.invocationId = id)
    (houtcome : (checkPermission serde now tool options checker invocation).outcome = .ok (passed, none))
    : (let run := permittedRun serde now tool options checker hookRegistry invocation
      let called := tool.call options.input options.context
      lifecycle id run.events
          = permissionEntries
              (checker.map (fun checker => checker.hasPermission serde tool.name options.input))
            ++ [("tool_execution_started", .executing, passed.permissionState),
              endEntry passed.permissionState called]
        ∧ Ends id passed.permissionState called run.outcome
        ∧ toolCalls run.events ≠ []) := by
  have hexecute := executeToolCall_outcome serde now tool options hookRegistry passed
  have hcalls := toolCalls_executeToolCall serde now tool options hookRegistry passed
  have hevents := lifecycle_executeToolCall serde now tool options hookRegistry hpassed
  intro run called
  unfold run permittedRun
  rw [Traced.events_bind_of_ok _ houtcome, Traced.outcome_bind_of_ok _ houtcome, lifecycle_append,
    lifecycle_checkPermission serde now tool options _ hid, toolCalls_append,
    toolCalls_checkPermission]
  dsimp only
  refine ⟨?_, ?_, ?_⟩
  . rw [Traced.events_bind, lifecycle_append, hevents]
    congr 1
    split <;> exact List.append_nil _
  . unfold Ends
    cases hcall : called with
    | error err =>
      unfold called at hcall
      rw [hcall] at hexecute
      exact Traced.outcome_bind_of_error _ hexecute
    | ok result =>
      unfold called at hcall
      rw [hcall] at hexecute
      refine ⟨_, _, Traced.outcome_bind_of_ok _ hexecute, hpassed, ?_⟩
      rfl
  . rw [Traced.events_bind, toolCalls_append, hcalls]
    exact List.cons_ne_nil _ _

end Permission

end Runs

section AfterPermission

variable (serde : SerdeJson) (now : UInt64) (tool : Tool) (options : RunToolOptions)
variable (hookRegistry : Option HookRegistry) {invocation : ToolInvocationRecord} {id : String}
variable (hid : invocation.invocationId = id)

include hid

theorem lifecycle_executeToolAfterPermission_of_error {err : ToolError}
    (h : checkedInput tool hookRegistry options.toolName options.input = .error err)
    : lifecycle id (executeToolAfterPermission serde now tool options hookRegistry invocation).events
        = [("tool_execution_failed", .failed, invocation.permissionState)] := by
  have hcheck := checkStage_of_error now tool options hookRegistry h invocation
  rw [executeToolAfterPermission_eq, Traced.events_bind_of_error _ hcheck,
    lifecycle_checkStage now tool options hookRegistry hid, h]
  rfl

theorem lifecycle_executeToolAfterPermission_of_ok {input : Value}
    (h : checkedInput tool hookRegistry options.toolName options.input = .ok input)
    : lifecycle id (executeToolAfterPermission serde now tool options hookRegistry invocation).events
        = [("tool_permission_resolved", .permissionResolved, .allowed),
          ("tool_execution_started", .executing, .allowed),
          endEntry .allowed (tool.call input options.context)] := by
  have hcheck := checkStage_of_ok now tool options hookRegistry h invocation
  rw [executeToolAfterPermission_eq]
  unfold emitToolLifecycleEvent
  rw [Traced.events_bind_of_ok _ hcheck, lifecycle_append,
    lifecycle_checkStage now tool options hookRegistry hid, h]
  dsimp only
  rw [Traced.events_bind_of_ok _ (Traced.outcome_emit _), lifecycle_append, Traced.events_emit,
    lifecycle_singleton, lifecycle_executeToolCall]
  . rfl
  . exact hid
  . exact hid

end AfterPermission

namespace LoopEnv

variable (env : LoopEnv)

section SingleTool

variable (uuid : String) (toolUse : ParsedToolUse)

theorem exists_events_executeSingleTool {tool : Tool}
    (h : env.toolRegistry.get toolUse.name = some tool)
    : ∃ details, (env.executeSingleTool uuid toolUse).run.2
        = .lifecycle "tool_invocation_detected"
            (.new env.now ("toolinv_" ++ uuid) toolUse.name (some toolUse.id)) details
          :: (env.toolRun uuid toolUse tool).events := by
  unfold executeSingleTool
  dsimp only
  rw [h]
  dsimp only
  rw [WriterT.snd_bind, WriterT.snd_bind, WriterT.snd_tell, Traced.run_attempt_snd]
  refine ⟨.object [("source", .string "agentic_loop"), ("tool_input", toolUse.input)], ?_⟩
  refine congrArg (_ :: ·) (Eq.trans ?_ (List.append_nil _))
  refine congrArg (_ ++ ·) ?_
  split <;> rfl

theorem lifecycle_executeSingleTool_of_none (h : env.toolRegistry.get toolUse.name = none)
    : lifecycle ("toolinv_" ++ uuid) (env.executeSingleTool uuid toolUse).run.2
        = [detectedEntry, ("tool_execution_failed", .failed, .notRequired)] := by
  unfold executeSingleTool
  dsimp only
  rw [h]
  dsimp only
  rw [WriterT.snd_bind, WriterT.snd_bind, WriterT.snd_tell, WriterT.snd_tell, WriterT.snd_pure,
    lifecycle_append, lifecycle_append, lifecycle_singleton, lifecycle_singleton]
  . rfl
  . rfl
  . rfl

theorem lifecycle_recordOutcome {id : String} {invocation : ToolInvocationRecord}
    (hid : invocation.invocationId = id) (i index : Nat) (result : ToolResult)
    : lifecycle id (env.recordOutcome i
          { index, toolUseId := toolUse.id, outcome := .completed invocation result }).run.2
        = [("tool_result_recorded", .resultRecorded, invocation.permissionState)] := by
  unfold recordOutcome
  dsimp only
  rw [WriterT.snd_bind, WriterT.snd_tell, WriterT.snd_pure, lifecycle_append, lifecycle_singleton]
  . rfl
  . exact hid

theorem toolCalls_recordOutcome (i : Nat) (item : IndexedToolOutcome)
    : toolCalls (env.recordOutcome i item).run.2 = [] := by
  unfold recordOutcome
  cases item.outcome <;> rfl

end SingleTool

theorem lifecycle_executeSingleTool_of_some (uuid : String) (toolUse : ParsedToolUse) {tool : Tool}
    (h : env.toolRegistry.get toolUse.name = some tool)
    : lifecycle ("toolinv_" ++ uuid) (env.executeSingleTool uuid toolUse).run.2
        = detectedEntry
          :: lifecycle ("toolinv_" ++ uuid) (env.executeSingleTool uuid toolUse).run.2.tail := by
  obtain ⟨details, hevents⟩ := env.exists_events_executeSingleTool uuid toolUse h
  rw [hevents, ← List.singleton_append, lifecycle_append, lifecycle_singleton]
  . rfl
  . rfl

section Completed

variable {env} {uuid : String} {toolUse : ParsedToolUse} {invocation : ToolInvocationRecord}
variable {result : ToolResult}
variable (h : (env.executeSingleTool uuid toolUse).run.1 = .completed invocation result)

include h

theorem completed_of_none (htool : env.toolRegistry.get toolUse.name = none)
    : toolCalls (env.executeSingleTool uuid toolUse).run.2 = []
        ∧ invocation.invocationId = "toolinv_" ++ uuid
        ∧ invocation.permissionState = .notRequired := by
  obtain ⟨houtcome, hcalls⟩ := env.executeSingleTool_of_none uuid toolUse htool
  rw [houtcome] at h
  cases h
  exact ⟨hcalls, rfl, rfl⟩

theorem completed_of_error {tool : Tool} {err : ToolError}
    (htool : env.toolRegistry.get toolUse.name = some tool)
    (herror : (env.toolRun uuid toolUse tool).outcome = .error err)
    : invocation.invocationId = "toolinv_" ++ uuid ∧ invocation.permissionState = .notRequired := by
  rw [(env.executeSingleTool_of_some uuid toolUse htool).1, herror] at h
  cases h
  exact ⟨rfl, rfl⟩

theorem completed_of_ok {tool : Tool} {invocation' : ToolInvocationRecord} {result' : ToolResult}
    (htool : env.toolRegistry.get toolUse.name = some tool)
    (hok : (env.toolRun uuid toolUse tool).outcome = .ok (.completed invocation' result'))
    : invocation.invocationId = invocation'.invocationId
        ∧ invocation.permissionState = invocation'.permissionState := by
  rw [(env.executeSingleTool_of_some uuid toolUse htool).1, hok] at h
  cases h
  exact ⟨rfl, rfl⟩

theorem completed_of_ends {tool : Tool} {state : ToolPermissionState}
    {called : Except ToolError ToolResult}
    (htool : env.toolRegistry.get toolUse.name = some tool)
    (hends : Ends ("toolinv_" ++ uuid) state called (env.toolRun uuid toolUse tool).outcome)
    : invocation.invocationId = "toolinv_" ++ uuid
        ∧ (invocation.permissionState = state
          ↔ (∃ result, called = .ok result) ∨ state = .notRequired) := by
  cases called with
  | ok answer =>
    obtain ⟨invocation', result', hcompleted, hid', hstate'⟩ := hends
    obtain ⟨hsameId, hsame⟩ := completed_of_ok h htool hcompleted
    exact ⟨hsameId.trans hid', iff_of_true (hsame.trans hstate') (.inl ⟨answer, rfl⟩)⟩
  | error err =>
    obtain ⟨hsameId, hsame⟩ := completed_of_error h htool hends
    refine ⟨hsameId, ?_⟩
    rw [hsame]
    simp [eq_comm]

end Completed

end LoopEnv

theorem LifecycleWord.not_detected_twice {id : String} {verdict : PermissionVerdict}
    {events : List ToolEvent} {rest : List LifecycleEntry} (h : LifecycleWord id verdict events)
    (hevents : lifecycle id events = detectedEntry :: detectedEntry :: rest)
    : False := by
  obtain ⟨finish, hfinish, hword⟩ := h.word
  rw [hevents] at hword
  have hsecond := congrArg (fun entries => entries[1]?) hword
  simp only [lifecycleEnds, List.mem_cons, List.not_mem_nil, or_false] at hfinish
  obtain rfl | rfl := hfinish <;> cases verdict <;> split at hsecond <;>
    simp [PermissionVerdict.events, detectedEntry] at hsecond

theorem LifecycleWord.length_eq {id : String} {verdict : PermissionVerdict} {events : List ToolEvent}
    (h : LifecycleWord id verdict events)
    : (lifecycle id events).length
        = verdict.events.length + (if toolCalls events = [] then 3 else 4) := by
  obtain ⟨finish, -, hword⟩ := h.word
  have hlength := congrArg List.length hword
  rw [List.length_map] at hlength
  rw [hlength]
  split <;> simp

theorem lifecycleWord_of_lifecycle {id : String} {verdict : PermissionVerdict}
    {events : List ToolEvent} {finish : String × ToolInvocationPhase} {entries : List LifecycleEntry}
    (hlifecycle : lifecycle id events = entries)
    (hfinish : finish ∈ lifecycleEnds)
    (hword : entries.map (fun entry => (entry.1, entry.2.1))
      = ("tool_invocation_detected", .detected) :: verdict.events
        ++ (if toolCalls events = [] then [] else [("tool_execution_started", .executing)])
        ++ [finish, ("tool_result_recorded", .resultRecorded)])
    (hrecorded : entries.getLast?.map (fun entry => entry.2.2) = some verdict.state)
    : LifecycleWord id verdict events := by
  subst hlifecycle
  exact ⟨⟨finish, hfinish, hword⟩, hrecorded⟩

theorem mem_lifecycleEnds_endEntry (state : ToolPermissionState)
    (called : Except ToolError ToolResult)
    : ((endEntry state called).1, (endEntry state called).2.1) ∈ lifecycleEnds := by
  cases called with
  | ok result => exact List.mem_cons_self ..
  | error err => exact List.mem_cons_of_mem _ (List.mem_cons_self ..)

namespace LoopEnv

section Decided

variable (env : LoopEnv) (uuid : String) (toolUse : ParsedToolUse) {tool : Tool}

theorem verdict_of_some (htool : env.toolRegistry.get toolUse.name = some tool)
    : env.verdict toolUse
        = (match checkedInput tool env.hookRegistry toolUse.name toolUse.input,
            env.permissionChecker with
          | .ok input, some checker =>
            match checker.hasPermission env.serde tool.name input with
            | .allow => .allowed
            | .deny _ => .denied
            | .ask _ => .none
          | _, _ => .none) := by
  unfold verdict
  rw [htool]

theorem answer_of_ok {toolName : String} {input checked : Value}
    (htool : env.toolRegistry.get toolName = some tool)
    (hinput : checkedInput tool env.hookRegistry toolName input = .ok checked)
    : env.answer toolName input = some (tool.call checked env.toolContext) := by
  unfold answer
  rw [htool]
  dsimp only
  rw [hinput]

theorem toolRun_of_checked {env : LoopEnv} {input : Value} {checker : PermissionChecker}
    (hinput : checkedInput tool env.hookRegistry toolUse.name toolUse.input = .ok input)
    (hchecker : env.permissionChecker = some checker)
    : (let run := env.toolRun uuid toolUse tool
      let rest := permittedRun env.serde env.now tool { env.toolOptions uuid toolUse with input }
        (some checker) env.hookRegistry
        (checkedInvocation env.now (env.toolOptions uuid toolUse) ("toolinv_" ++ uuid))
      lifecycle ("toolinv_" ++ uuid) run.events
          = detectedEntry :: lifecycle ("toolinv_" ++ uuid) rest.events
        ∧ run.outcome = rest.outcome ∧ toolCalls run.events = toolCalls rest.events) := by
  have hrun := runToolUse_of_checked env.serde env.now tool (env.toolOptions uuid toolUse)
    env.permissionChecker env.hookRegistry uuid rfl hinput
  rw [hchecker] at hrun
  unfold toolRun
  rw [hchecker]
  exact hrun

end Decided

section Registered

variable {env : LoopEnv} {uuid : String} {toolUse : ParsedToolUse} {tool : Tool}
variable {invocation : ToolInvocationRecord} {result : ToolResult}
variable (htool : env.toolRegistry.get toolUse.name = some tool)
variable (h : (env.executeSingleTool uuid toolUse).run.1 = .completed invocation result)

include htool h

theorem lifecycleWord_of_through {input : Value} {passed : ToolInvocationRecord}
    {verdict : PermissionVerdict} (i index : Nat)
    (hinput : checkedInput tool env.hookRegistry toolUse.name toolUse.input = .ok input)
    (hpassed : passed.invocationId = "toolinv_" ++ uuid)
    (hstate : passed.permissionState = verdict.state)
    (hevents : (permissionEntries (env.permissionChecker.map (fun checker =>
        checker.hasPermission env.serde tool.name input))).map (fun entry => (entry.1, entry.2.1))
      = verdict.events)
    (houtcome : (checkPermission env.serde env.now tool
        { env.toolOptions uuid toolUse with input } env.permissionChecker
        (checkedInvocation env.now (env.toolOptions uuid toolUse) ("toolinv_" ++ uuid))).outcome
      = .ok (passed, none))
    : LifecycleWord ("toolinv_" ++ uuid) verdict
          ((env.executeSingleTool uuid toolUse).run.2
            ++ (env.recordOutcome i
              { index, toolUseId := toolUse.id, outcome := .completed invocation result }).run.2).tail
        ↔ (∃ result, tool.call input env.toolContext = .ok result)
          ∨ verdict.state = .notRequired := by
  obtain ⟨details, hexecute⟩ := env.exists_events_executeSingleTool uuid toolUse htool
  obtain ⟨hlifecycle, hrun, hcalls⟩ := runToolUse_of_checked env.serde env.now tool
    (env.toolOptions uuid toolUse) env.permissionChecker env.hookRegistry uuid rfl hinput
  have hid : (checkedInvocation env.now (env.toolOptions uuid toolUse)
      ("toolinv_" ++ uuid)).invocationId = "toolinv_" ++ uuid := rfl
  obtain ⟨hlifecycle', hends, hcalls'⟩ := permittedRun_of_ok env.serde env.now tool
    { env.toolOptions uuid toolUse with input } env.permissionChecker env.hookRegistry hid hpassed
    houtcome
  dsimp only at hlifecycle hrun hcalls hlifecycle' hends hcalls'
  rw [← hcalls] at hcalls'
  rw [hlifecycle'] at hlifecycle
  rw [← hrun, hstate] at hends
  obtain ⟨hid', hsame⟩ := completed_of_ends h htool hends
  change _ ↔ (∃ result, tool.call input env.toolContext = .ok result) ∨ _ at hsame
  have hrecord := lifecycle_recordOutcome env toolUse hid' i index result
  rw [← hsame, hexecute, List.cons_append, List.tail_cons]
  have hall : lifecycle ("toolinv_" ++ uuid) ((env.toolRun uuid toolUse tool).events
      ++ (env.recordOutcome i
        { index, toolUseId := toolUse.id, outcome := .completed invocation result }).run.2)
      = detectedEntry :: (permissionEntries (env.permissionChecker.map (fun checker =>
          checker.hasPermission env.serde tool.name input))
        ++ [("tool_execution_started", .executing, passed.permissionState),
          endEntry passed.permissionState (tool.call input env.toolContext)])
        ++ [("tool_result_recorded", .resultRecorded, invocation.permissionState)] := by
    rw [lifecycle_append, hrecord]
    exact congrArg (· ++ _) hlifecycle
  have hcalled : toolCalls ((env.toolRun uuid toolUse tool).events
      ++ (env.recordOutcome i
        { index, toolUseId := toolUse.id, outcome := .completed invocation result }).run.2) ≠ [] := by
    rw [toolCalls_append, toolCalls_recordOutcome, List.append_nil]
    exact hcalls'
  constructor
  . intro hword
    have hrecorded := hword.recorded
    rw [hall, List.getLast?_concat] at hrecorded
    exact Option.some.inj hrecorded
  . intro hsame'
    refine lifecycleWord_of_lifecycle hall (mem_lifecycleEnds_endEntry passed.permissionState
      (tool.call input env.toolContext)) ?_ ?_
    . rw [if_neg hcalled, ← hevents]
      simp [detectedEntry]
    . rw [List.getLast?_concat, ← hsame']
      rfl

theorem lifecycleWord_of_unchecked {err : ToolError} (i index : Nat)
    (hinput : checkedInput tool env.hookRegistry toolUse.name toolUse.input = .error err)
    : LifecycleWord ("toolinv_" ++ uuid) .none
        ((env.executeSingleTool uuid toolUse).run.2
          ++ (env.recordOutcome i
            { index, toolUseId := toolUse.id, outcome := .completed invocation result }).run.2).tail := by
  obtain ⟨details, hexecute⟩ := env.exists_events_executeSingleTool uuid toolUse htool
  obtain ⟨houtcome, hcalls⟩ := runToolUse_of_error env.serde env.now tool
    (env.toolOptions uuid toolUse) env.hookRegistry hinput env.permissionChecker uuid
  obtain ⟨hid, hstate⟩ := completed_of_error h htool houtcome
  have hlifecycle := lifecycle_runToolUse_of_error env.serde env.now tool
    (env.toolOptions uuid toolUse) env.permissionChecker env.hookRegistry uuid rfl hinput
  rw [hexecute, List.cons_append, List.tail_cons]
  refine lifecycleWord_of_lifecycle ((lifecycle_append _ _).trans (congrArg₂ (· ++ ·) hlifecycle
      (lifecycle_recordOutcome env toolUse hid i index result)))
    (List.mem_cons_of_mem _ (List.mem_cons_self ..)) ?_ ?_
  . rw [toolCalls_append, toolCalls_recordOutcome]
    change _ = _ :: _ ++ (if toolCalls (runToolUse _ _ _ _ _ _ _).events ++ [] = [] then _ else _) ++ _
    rw [hcalls]
    rfl
  . rw [hstate]
    rfl

theorem not_lifecycleWord_of_deny {input : Value} {checker : PermissionChecker} {reason : String}
    (i index : Nat)
    (hinput : checkedInput tool env.hookRegistry toolUse.name toolUse.input = .ok input)
    (hchecker : env.permissionChecker = some checker)
    (hdeny : checker.hasPermission env.serde tool.name input = .deny reason)
    : ¬ LifecycleWord ("toolinv_" ++ uuid) .denied
        ((env.executeSingleTool uuid toolUse).run.2
          ++ (env.recordOutcome i
            { index, toolUseId := toolUse.id, outcome := .completed invocation result }).run.2).tail := by
  obtain ⟨details, hexecute⟩ := env.exists_events_executeSingleTool uuid toolUse htool
  have hrun := toolRun_of_checked uuid toolUse hinput hchecker
  have hid : (checkedInvocation env.now (env.toolOptions uuid toolUse)
      ("toolinv_" ++ uuid)).invocationId = "toolinv_" ++ uuid := rfl
  obtain ⟨hdenied, houtcome, hnone⟩ := permittedRun_of_deny env.serde env.now tool
    { env.toolOptions uuid toolUse with input } env.hookRegistry hid hdeny
  dsimp only at hrun hdenied houtcome hnone
  obtain ⟨hid', -⟩ := completed_of_error h htool (hrun.2.1.trans houtcome)
  intro hword
  rw [hexecute, List.cons_append, List.tail_cons] at hword
  have hlength := hword.length_eq
  rw [lifecycle_append, hrun.1, hdenied, lifecycle_recordOutcome env toolUse hid', toolCalls_append,
    hrun.2.2, hnone, toolCalls_recordOutcome] at hlength
  cases hlength

theorem lifecycleWord_completed_iff (i index : Nat)
    : LifecycleWord ("toolinv_" ++ uuid) (env.verdict toolUse)
          ((env.executeSingleTool uuid toolUse).run.2
            ++ (env.recordOutcome i
              { index, toolUseId := toolUse.id, outcome := .completed invocation result }).run.2).tail
        ↔ env.verdict toolUse = .none
          ∨ (env.verdict toolUse = .allowed ∨ env.verdict toolUse = .approved)
            ∧ ∃ result, env.answer toolUse.name toolUse.input = some (.ok result) := by
  have hverdict := env.verdict_of_some toolUse htool
  cases hinput : checkedInput tool env.hookRegistry toolUse.name toolUse.input with
  | error err =>
    rw [hinput] at hverdict
    rw [hverdict]
    exact iff_of_true (lifecycleWord_of_unchecked htool h i index hinput) (.inl rfl)
  | ok input =>
    have hanswer := env.answer_of_ok htool hinput
    rw [hinput] at hverdict
    cases hchecker : env.permissionChecker with
    | none =>
      rw [hchecker] at hverdict
      rw [hverdict]
      have houtcome : (checkPermission env.serde env.now tool
            { env.toolOptions uuid toolUse with input } env.permissionChecker
            (checkedInvocation env.now (env.toolOptions uuid toolUse) ("toolinv_" ++ uuid))).outcome
          = .ok (((checkedInvocation env.now (env.toolOptions uuid toolUse)
              ("toolinv_" ++ uuid)).markPhase env.now .permissionChecking).setPermissionState
                .notRequired, none) := by
        rw [hchecker]
        rfl
      have hword := @lifecycleWord_of_through env uuid toolUse tool invocation result htool h input _
        .none i index hinput rfl rfl (by rw [hchecker]; rfl) houtcome
      exact iff_of_true (hword.mpr (.inr rfl)) (.inl rfl)
    | some checker =>
      rw [hchecker] at hverdict
      dsimp only at hverdict
      cases hdecision : checker.hasPermission env.serde tool.name input with
      | allow =>
        rw [hdecision] at hverdict
        obtain ⟨houtcome, -⟩ := checkPermission_of_allow env.serde env.now tool
          { env.toolOptions uuid toolUse with input } (checkedInvocation env.now
            (env.toolOptions uuid toolUse) ("toolinv_" ++ uuid)) hdecision
        rw [← hchecker] at houtcome
        have hword := @lifecycleWord_of_through env uuid toolUse tool invocation result htool h input
          _ .allowed i index hinput rfl rfl
          (by rw [hchecker, Option.map_some, hdecision]; rfl) houtcome
        rw [hverdict, hword, hanswer]
        simp [PermissionVerdict.state]
      | deny reason =>
        rw [hdecision] at hverdict
        rw [hverdict]
        exact iff_of_false (not_lifecycleWord_of_deny htool h i index hinput hchecker hdecision)
          (by simp)
      | ask request =>
        have hid : (checkedInvocation env.now (env.toolOptions uuid toolUse)
            ("toolinv_" ++ uuid)).invocationId = "toolinv_" ++ uuid := rfl
        obtain ⟨-, awaiting, houtcome, -⟩ := permittedRun_of_ask env.serde env.now tool
          { env.toolOptions uuid toolUse with input } env.hookRegistry hid hdecision
        rw [(env.executeSingleTool_of_some uuid toolUse htool).1,
          (toolRun_of_checked uuid toolUse hinput hchecker).2.1.trans houtcome] at h
        cases h

end Registered

theorem lifecycleWord_of_none {env : LoopEnv} {uuid : String} {toolUse : ParsedToolUse}
    {invocation : ToolInvocationRecord} {result : ToolResult}
    (htool : env.toolRegistry.get toolUse.name = none)
    (h : (env.executeSingleTool uuid toolUse).run.1 = .completed invocation result) (i index : Nat)
    : LifecycleWord ("toolinv_" ++ uuid) (env.verdict toolUse)
        ((env.executeSingleTool uuid toolUse).run.2
          ++ (env.recordOutcome i
            { index, toolUseId := toolUse.id, outcome := .completed invocation result }).run.2) := by
  obtain ⟨hcalls, hid, hstate⟩ := completed_of_none h htool
  have hverdict : env.verdict toolUse = .none := by
    unfold verdict
    rw [htool]
  rw [hverdict]
  refine lifecycleWord_of_lifecycle ((lifecycle_append _ _).trans (congrArg₂ (· ++ ·)
      (env.lifecycle_executeSingleTool_of_none uuid toolUse htool)
      (lifecycle_recordOutcome env toolUse hid i index result)))
    (List.mem_cons_of_mem _ (List.mem_cons_self ..)) ?_ ?_
  . rw [toolCalls_append, hcalls, toolCalls_recordOutcome]
    rfl
  . rw [hstate]
    rfl

section Resumed

variable {env : LoopEnv} {uuid : String} {toolUse : ParsedToolUse} {awaiting : AwaitingToolPermission}

structure Requested (env : LoopEnv) (uuid : String) (toolUse : ParsedToolUse)
    (awaiting : AwaitingToolPermission) : Prop where
  registered : env.toolRegistry.get toolUse.name ≠ none
  lifecycle : lifecycle ("toolinv_" ++ uuid) (env.executeSingleTool uuid toolUse).run.2.tail
    = [detectedEntry, ("tool_permission_requested", .permissionRequested, .requested)]
  calls : toolCalls (env.executeSingleTool uuid toolUse).run.2.tail = []
  cons : ∃ first rest, (env.executeSingleTool uuid toolUse).run.2 = first :: rest
  id : awaiting.invocation.invocationId = "toolinv_" ++ uuid
  toolName : awaiting.invocation.toolName = toolUse.name
  state : awaiting.invocation.permissionState = .requested

theorem requested_of_awaiting
    (h : (env.executeSingleTool uuid toolUse).run.1 = .awaitingPermission awaiting)
    : Requested env uuid toolUse awaiting := by
  obtain ⟨tool, htool, input, checker, request, hinput, hchecker, hask⟩ :=
    (env.executeSingleTool_awaits_iff uuid toolUse).mp ⟨awaiting, h⟩
  obtain ⟨details, hexecute⟩ := env.exists_events_executeSingleTool uuid toolUse htool
  obtain ⟨hlifecycle, hrun, hcalls⟩ := toolRun_of_checked uuid toolUse hinput hchecker
  have hid : (checkedInvocation env.now (env.toolOptions uuid toolUse)
      ("toolinv_" ++ uuid)).invocationId = "toolinv_" ++ uuid := rfl
  obtain ⟨hrequested, awaiting', houtcome, hid', hstate, hname, hnone⟩ := permittedRun_of_ask env.serde
    env.now tool { env.toolOptions uuid toolUse with input } env.hookRegistry hid hask
  dsimp only at hlifecycle hrun hcalls hrequested houtcome hnone
  rw [hrequested] at hlifecycle
  rw [(env.executeSingleTool_of_some uuid toolUse htool).1, hrun.trans houtcome] at h
  cases h
  exact
    { registered := by rw [htool]; exact Option.some_ne_none tool
      lifecycle := by rw [hexecute]; exact hlifecycle
      calls := by rw [hexecute]; exact hcalls.trans hnone
      cons := ⟨_, _, hexecute⟩
      id := hid'
      toolName := hname
      state := hstate }

section Approval

variable (later : LoopEnv) (uuid' : String) {suspension : AgenticLoopSuspension} {tool : Tool}

def approvedOptions (suspension : AgenticLoopSuspension) : RunToolOptions where
  toolName := suspension.suspendedTool.toolName
  input := suspension.suspendedTool.toolInput
  context := later.toolContext
  invocationId := some suspension.suspendedTool.invocation.invocationId

variable (h : later.toolRegistry.get suspension.suspendedTool.toolName = some tool)

include h

theorem toolEvents_resume_of_error {err : ToolError}
    (hrun : (later.approvedRun suspension tool).outcome = .error err)
    : toolEvents (later.resumeSuspendedToolInvocation uuid' suspension true).events
        = (later.approvedRun suspension tool).events := by
  have hmapped : (Traced.mapBoth LoopEvent.tool AgenticLoopError.toolExecution
      (later.approvedRun suspension tool)).outcome = .error (.toolExecution err) := by
    rw [Traced.outcome_mapBoth, hrun]
    rfl
  unfold resumeSuspendedToolInvocation
  rw [later.resumedResult_of_allowed h, Traced.events_bind_of_error _ hmapped, Traced.events_mapBoth,
    toolEvents_map_tool]

theorem toolEvents_resume_of_ok {invocation : ToolInvocationRecord} {result : ToolResult}
    (hrun : (later.approvedRun suspension tool).outcome = .ok (invocation, result))
    : toolEvents (later.resumeSuspendedToolInvocation uuid' suspension true).events
        = (later.approvedRun suspension tool).events
          ++ [.lifecycle "tool_result_recorded" (invocation.markPhase later.now .resultRecorded)
            (.object [("is_error", .bool result.isError)])] := by
  have hmapped : (Traced.mapBoth LoopEvent.tool AgenticLoopError.toolExecution
      (later.approvedRun suspension tool)).outcome = .ok (invocation, result) := by
    rw [Traced.outcome_mapBoth, hrun]
    rfl
  unfold resumeSuspendedToolInvocation
  rw [later.resumedResult_of_allowed h, Traced.events_bind_of_ok _ hmapped, Traced.events_mapBoth,
    toolEvents_append, toolEvents_map_tool]
  rfl

end Approval

section Answered

variable (h : Requested env uuid toolUse awaiting) (later : LoopEnv) (state : LoopState)
variable (toolUseId uuid' : String)

include h

theorem Requested.lifecycle_append {events : List ToolEvent}
    : AnimaAgent.lifecycle ("toolinv_" ++ uuid)
          ((env.executeSingleTool uuid toolUse).run.2 ++ events).tail
        = [detectedEntry, ("tool_permission_requested", .permissionRequested, .requested)]
          ++ AnimaAgent.lifecycle ("toolinv_" ++ uuid) events := by
  obtain ⟨first, rest, hcons⟩ := h.cons
  have hrest := h.lifecycle
  rw [hcons, List.tail_cons] at hrest
  rw [hcons, List.cons_append, List.tail_cons, AnimaAgent.lifecycle_append, hrest]

theorem Requested.toolCalls_append {events : List ToolEvent}
    : toolCalls ((env.executeSingleTool uuid toolUse).run.2 ++ events).tail = toolCalls events := by
  obtain ⟨first, rest, hcons⟩ := h.cons
  have hrest := h.calls
  rw [hcons, List.tail_cons] at hrest
  rw [hcons, List.cons_append, List.tail_cons, AnimaAgent.toolCalls_append, hrest, List.nil_append]

theorem Requested.not_lifecycleWord_of_lt {verdict : PermissionVerdict} {events : List ToolEvent}
    (hverdict : verdict.events.length = 2)
    (hlt : (AnimaAgent.lifecycle ("toolinv_" ++ uuid) events).length
      < (if toolCalls events = [] then 3 else 4))
    : ¬ LifecycleWord ("toolinv_" ++ uuid) verdict
        ((env.executeSingleTool uuid toolUse).run.2 ++ events).tail := by
  intro hword
  have hlength := hword.length_eq
  rw [h.lifecycle_append, h.toolCalls_append, List.length_append, hverdict] at hlength
  change 2 + _ = 2 + _ at hlength
  omega

theorem not_lifecycleWord_refused
    : ¬ LifecycleWord ("toolinv_" ++ uuid) .refused
        ((env.executeSingleTool uuid toolUse).run.2
          ++ toolEvents (later.resumeSuspendedToolInvocation uuid'
            (suspend state toolUseId awaiting) false).events).tail := by
  have hevents : AnimaAgent.lifecycle ("toolinv_" ++ uuid)
        (toolEvents (later.resumeSuspendedToolInvocation uuid'
          (suspend state toolUseId awaiting) false).events)
      = [("tool_permission_resolved", .failed, .denied),
        ("tool_result_recorded", .resultRecorded, .denied)] := by
    have hrefused : toolEvents (later.resumeSuspendedToolInvocation uuid'
          (suspend state toolUseId awaiting) false).events
        = (let error := "tool execution denied by user: " ++ awaiting.permissionRequest.prompt
          let invocation := ((awaiting.invocation.setPermissionState .denied).markPhase later.now
            .failed).setError error
          [.lifecycle "tool_permission_resolved" invocation
            (.object [("decision", .string "deny"), ("source", .string "resume")])]
            ++ [.lifecycle "tool_result_recorded" (invocation.markPhase later.now .resultRecorded)
              (.object [("is_error", .bool true)])]) := by
      rfl
    rw [hrefused, AnimaAgent.lifecycle_append, lifecycle_singleton, lifecycle_singleton]
    . rfl
    . exact h.id
    . exact h.id
  refine h.not_lifecycleWord_of_lt rfl ?_
  rw [hevents]
  split <;> simp

theorem Requested.lifecycleWord_of_recorded {called : Except ToolError ToolResult}
    {events : List ToolEvent}
    (hevents : AnimaAgent.lifecycle ("toolinv_" ++ uuid) events
      = [("tool_permission_resolved", .permissionResolved, .allowed),
          ("tool_execution_started", .executing, .allowed), endEntry .allowed called]
        ++ [("tool_result_recorded", .resultRecorded, .allowed)])
    (hcalls : toolCalls events ≠ [])
    : LifecycleWord ("toolinv_" ++ uuid) .approved
        ((env.executeSingleTool uuid toolUse).run.2 ++ events).tail := by
  refine lifecycleWord_of_lifecycle (h.lifecycle_append.trans (congrArg _ hevents))
    (mem_lifecycleEnds_endEntry .allowed called) ?_ rfl
  rw [h.toolCalls_append, if_neg hcalls]
  rfl

theorem lifecycleWord_approved_iff
    : LifecycleWord ("toolinv_" ++ uuid) .approved
          ((env.executeSingleTool uuid toolUse).run.2
            ++ toolEvents (later.resumeSuspendedToolInvocation uuid'
              (suspend state toolUseId awaiting) true).events).tail
        ↔ ∃ result, later.answer toolUse.name awaiting.input = some (.ok result) := by
  have hname : (suspend state toolUseId awaiting).suspendedTool.toolName = toolUse.name := h.toolName
  unfold answer
  cases htool : later.toolRegistry.get toolUse.name with
  | none =>
    refine iff_of_false (h.not_lifecycleWord_of_lt rfl ?_) (by simp)
    unfold resumeSuspendedToolInvocation resumedResult
    dsimp only
    rw [if_pos rfl, hname, htool, Traced.events_bind_of_error _ (Traced.outcome_throw _)]
    exact Nat.zero_lt_succ 2
  | some tool =>
    rw [← hname] at htool
    rw [← hname]
    dsimp only
    have hid : (suspend state toolUseId awaiting).suspendedTool.invocation.invocationId
        = "toolinv_" ++ uuid := h.id
    cases hinput : checkedInput tool later.hookRegistry
        (suspend state toolUseId awaiting).suspendedTool.toolName awaiting.input with
    | error err =>
      refine iff_of_false (h.not_lifecycleWord_of_lt rfl ?_) (by simp)
      have hrun := executeToolAfterPermission_of_error later.serde later.now tool
        (later.approvedOptions (suspend state toolUseId awaiting)) later.hookRegistry hinput
        awaiting.invocation
      have hevents := lifecycle_executeToolAfterPermission_of_error later.serde later.now tool
        (later.approvedOptions (suspend state toolUseId awaiting)) later.hookRegistry hid hinput
      rw [later.toolEvents_resume_of_error uuid' htool hrun.1]
      change (AnimaAgent.lifecycle _
        (executeToolAfterPermission _ _ _ (approvedOptions _ _) _ _).events).length < _
      rw [hevents]
      split <;> simp
    | ok input =>
      obtain ⟨houtcome, hcalls⟩ := executeToolAfterPermission_of_ok later.serde later.now tool
        (later.approvedOptions (suspend state toolUseId awaiting)) later.hookRegistry hinput
        awaiting.invocation
      have hevents := lifecycle_executeToolAfterPermission_of_ok later.serde later.now tool
        (later.approvedOptions (suspend state toolUseId awaiting)) later.hookRegistry hid hinput
      change AnimaAgent.lifecycle _ (later.approvedRun _ tool).events = _ at hevents
      change toolCalls (later.approvedRun (suspend state toolUseId awaiting) tool).events = _ at hcalls
      change (later.approvedRun (suspend state toolUseId awaiting) tool).outcome
        = Except.map _ (tool.call input later.toolContext) at houtcome
      change _ = [_, _, endEntry .allowed (tool.call input later.toolContext)] at hevents
      cases hcall : tool.call input later.toolContext with
      | error err =>
        rw [hcall] at houtcome hevents
        refine iff_of_false (h.not_lifecycleWord_of_lt rfl ?_) (by simp [hcall])
        rw [later.toolEvents_resume_of_error uuid' htool houtcome, hevents, hcalls]
        simp
      | ok result =>
        rw [hcall] at houtcome hevents
        refine iff_of_true ?_ ⟨result, congrArg some hcall⟩
        obtain ⟨record, answer, houtcome, hrecord, hstate⟩ : ∃ record answer,
            (later.approvedRun (suspend state toolUseId awaiting) tool).outcome = .ok (record, answer)
              ∧ record.invocationId = "toolinv_" ++ uuid ∧ record.permissionState = .allowed :=
          ⟨_, _, houtcome, hid, rfl⟩
        have hrecorded : (record.markPhase later.now .resultRecorded).invocationId
            = "toolinv_" ++ uuid := hrecord
        rw [later.toolEvents_resume_of_ok uuid' htool houtcome]
        have hevents' : AnimaAgent.lifecycle ("toolinv_" ++ uuid)
              [.lifecycle "tool_result_recorded" (record.markPhase later.now .resultRecorded)
                (.object [("is_error", .bool answer.isError)])]
            = [("tool_result_recorded", .resultRecorded, .allowed)] := by
          rw [lifecycle_singleton hrecorded, ToolInvocationRecord.markPhase_permissionState, hstate]
          rfl
        refine h.lifecycleWord_of_recorded
          ((AnimaAgent.lifecycle_append _ _).trans (congrArg₂ (· ++ ·) hevents hevents')) ?_
        rw [AnimaAgent.toolCalls_append, hcalls]
        exact List.cons_ne_nil _ _

end Answered

end Resumed

theorem lifecycle_eq_detected_detected {env : LoopEnv} (uuid : String) (toolUse : ParsedToolUse)
    {tool : Tool} (h : env.toolRegistry.get toolUse.name = some tool)
    : ∃ rest, lifecycle ("toolinv_" ++ uuid) (env.executeSingleTool uuid toolUse).run.2
        = detectedEntry :: detectedEntry :: rest := by
  obtain ⟨details, hexecute⟩ := env.exists_events_executeSingleTool uuid toolUse h
  rw [env.lifecycle_executeSingleTool_of_some uuid toolUse h, hexecute, List.tail_cons]
  unfold toolRun
  cases hinput : checkedInput tool env.hookRegistry toolUse.name toolUse.input with
  | error err =>
    have hrun := lifecycle_runToolUse_of_error env.serde env.now tool (env.toolOptions uuid toolUse)
      env.permissionChecker env.hookRegistry uuid rfl hinput
    exact ⟨_, congrArg (detectedEntry :: ·) hrun⟩
  | ok input =>
    have hrun := (runToolUse_of_checked env.serde env.now tool (env.toolOptions uuid toolUse)
      env.permissionChecker env.hookRegistry uuid rfl hinput).1
    exact ⟨_, congrArg (detectedEntry :: ·) hrun⟩

end LoopEnv

def Unrecorded (entries : List LifecycleEntry) : Prop :=
  ∀ entry ∈ entries, entry.1 ≠ "tool_result_recorded"

theorem LifecycleWord.not_unrecorded {id : String} {verdict : PermissionVerdict}
    {events : List ToolEvent} (h : LifecycleWord id verdict events)
    : ¬ Unrecorded (lifecycle id events) := by
  intro hnone
  obtain ⟨finish, -, hword⟩ := h.word
  have hmem : ("tool_result_recorded", ToolInvocationPhase.resultRecorded)
      ∈ (lifecycle id events).map (fun entry => (entry.1, entry.2.1)) := by
    rw [hword]
    simp
  obtain ⟨entry, hentry, heq⟩ := List.mem_map.mp hmem
  exact hnone entry hentry (congrArg Prod.fst heq)

theorem unrecorded_called (state : ToolPermissionState) (called : Except ToolError ToolResult)
    : Unrecorded [("tool_execution_started", .executing, state), endEntry state called] := by
  cases called with
  | ok result => simp [Unrecorded, endEntry]
  | error err => simp [Unrecorded, endEntry]

theorem unrecorded_permittedRun (serde : SerdeJson) (now : UInt64) (tool : Tool)
    (options : RunToolOptions) (checker : Option PermissionChecker)
    (hookRegistry : Option HookRegistry) {id : String} {invocation : ToolInvocationRecord}
    (hid : invocation.invocationId = id)
    : Unrecorded (lifecycle id
        (permittedRun serde now tool options checker hookRegistry invocation).events) := by
  cases checker with
  | none =>
    have houtcome : (checkPermission serde now tool options none invocation).outcome
        = .ok ((invocation.markPhase now .permissionChecking).setPermissionState .notRequired, none) :=
      rfl
    have hrun := permittedRun_of_ok serde now tool options none hookRegistry hid (by exact hid) houtcome
    rw [hrun.1]
    exact unrecorded_called _ _
  | some checker =>
    cases hdecision : checker.hasPermission serde tool.name options.input with
    | allow =>
      obtain ⟨houtcome, -⟩ := checkPermission_of_allow serde now tool options invocation hdecision
      have hrun := permittedRun_of_ok serde now tool options (some checker) hookRegistry hid
        (by exact hid) houtcome
      rw [hrun.1, Option.map_some, hdecision]
      exact List.forall_mem_cons.mpr ⟨by simp, unrecorded_called _ _⟩
    | deny reason =>
      have hrun := permittedRun_of_deny serde now tool options hookRegistry hid hdecision
      rw [hrun.1]
      simp [Unrecorded]
    | ask request =>
      have hrun := permittedRun_of_ask serde now tool options hookRegistry hid hdecision
      rw [hrun.1]
      simp [Unrecorded]

namespace LoopEnv

theorem unrecorded_executeSingleTool (env : LoopEnv) (uuid : String) (toolUse : ParsedToolUse)
    : Unrecorded (lifecycle ("toolinv_" ++ uuid) (env.executeSingleTool uuid toolUse).run.2) := by
  have hdetected : detectedEntry.1 ≠ "tool_result_recorded" := by decide
  have hfailed : ∀ entry ∈ [detectedEntry, ("tool_execution_failed", .failed, .notRequired)],
      entry.1 ≠ "tool_result_recorded" := by decide
  cases htool : env.toolRegistry.get toolUse.name with
  | none =>
    rw [env.lifecycle_executeSingleTool_of_none uuid toolUse htool]
    exact hfailed
  | some tool =>
    obtain ⟨details, hexecute⟩ := env.exists_events_executeSingleTool uuid toolUse htool
    rw [env.lifecycle_executeSingleTool_of_some uuid toolUse htool, hexecute, List.tail_cons]
    refine List.forall_mem_cons.mpr ⟨hdetected, ?_⟩
    cases hinput : checkedInput tool env.hookRegistry toolUse.name toolUse.input with
    | error err =>
      unfold toolRun
      rw [lifecycle_runToolUse_of_error env.serde env.now tool (env.toolOptions uuid toolUse)
        env.permissionChecker env.hookRegistry uuid rfl hinput]
      exact hfailed
    | ok input =>
      unfold toolRun
      rw [(runToolUse_of_checked env.serde env.now tool (env.toolOptions uuid toolUse)
        env.permissionChecker env.hookRegistry uuid rfl hinput).1]
      exact List.forall_mem_cons.mpr ⟨hdetected, unrecorded_permittedRun _ _ _ _ _ _ rfl⟩

def invocationId (env : LoopEnv) (i : Nat) (item : IndexedToolUse) : String :=
  "toolinv_" ++ env.uuid i (2 * item.index + 2)

theorem exists_handles (env : LoopEnv) (i : Nat) {item : IndexedToolUse}
    {segments : List (List IndexedToolUse)} (hmem : item ∈ segments.flatten)
    : ∃ handling, Handles env i item segments handling := by
  induction segments with
  | nil => cases hmem
  | cons segment rest ih =>
    rw [List.flatten_cons, List.mem_append] at hmem
    by_cases hitem : item ∈ segment
    . cases hwaits : earliestPermission (env.executeSegment i segment).run.1 with
      | none => exact ⟨_, .recorded rest hitem hwaits⟩
      | some waiting =>
        by_cases h : (env.executeItem i item).run.1.outcome = .awaitingPermission waiting.2
        . exact ⟨_, .resumed rest env { messages := [], iterations := 0, compactCount := 0 } "" true
            hitem hwaits h⟩
        . exact ⟨_, .leftOut rest hitem hwaits h⟩
    . have hrest := hmem.resolve_left hitem
      cases hwaits : earliestPermission (env.executeSegment i segment).run.1 with
      | none =>
        obtain ⟨handling, h⟩ := ih hrest
        exact ⟨handling, .later hitem hwaits h⟩
      | some waiting => exact ⟨_, .skipped hitem hrest hwaits⟩

variable {env : LoopEnv} {i : Nat} {item : IndexedToolUse}

theorem not_lifecycleWord_of_registered {verdict : PermissionVerdict} {events : List ToolEvent}
    (htool : env.toolRegistry.get item.toolUse.name ≠ none)
    : ¬ LifecycleWord (env.invocationId i item) verdict ((env.executeItem i item).run.2 ++ events) := by
  intro hword
  obtain ⟨tool, htool⟩ := Option.ne_none_iff_exists'.mp htool
  obtain ⟨rest, hrest⟩ := lifecycle_eq_detected_detected (env.uuid i (2 * item.index + 2))
    item.toolUse htool
  rw [snd_executeItem] at hword
  have htwice : lifecycle (env.invocationId i item)
      ((env.executeSingleTool (env.uuid i (2 * item.index + 2)) item.toolUse).run.2 ++ events)
      = detectedEntry :: detectedEntry :: (rest ++ lifecycle (env.invocationId i item) events) := by
    rw [lifecycle_append]
    exact congrArg (· ++ _) hrest
  exact hword.not_detected_twice htwice

theorem not_lifecycleWord_leftOut (verdict : PermissionVerdict)
    : ¬ LifecycleWord (env.invocationId i item) verdict (env.executeItem i item).run.2
        ∧ ¬ LifecycleWord (env.invocationId i item) verdict (env.executeItem i item).run.2.tail := by
  have hnone := env.unrecorded_executeSingleTool (env.uuid i (2 * item.index + 2)) item.toolUse
  rw [snd_executeItem]
  constructor
  . exact fun hword => hword.not_unrecorded hnone
  . refine fun hword => hword.not_unrecorded (fun entry hmem => hnone entry ?_)
    exact ((List.tail_sublist _).filterMap _).subset hmem

theorem not_lifecycleWord_nil (id : String) (verdict : PermissionVerdict)
    : ¬ LifecycleWord id verdict [] := by
  intro hword
  refine hword.not_unrecorded (fun entry hmem => ?_)
  cases hmem

end LoopEnv

/--
The events of a tool use form its word if and only if its tool is not registered, since a registered
one is detected twice, and the loop is not suspended before its result is recorded. But for the first
detection, the events of a registered tool do so if and only if the handling is smooth.
-/
theorem lifecycleWord_iff {env : LoopEnv} {i : Nat} {item : IndexedToolUse}
    {segments : List (List IndexedToolUse)} {handling : Handling}
    (h : Handles env i item segments handling)
    : (LifecycleWord (env.invocationId i item) handling.verdict handling.events
          ↔ env.toolRegistry.get item.toolUse.name = none ∧ env.Undisturbed item segments)
        ∧ (env.toolRegistry.get item.toolUse.name ≠ none
          → (LifecycleWord (env.invocationId i item) handling.verdict handling.events.tail
            ↔ handling.Smooth)) := by
  induction h with
  | @recorded segment rest hmem hruns =>
    have hasks := (env.earliestPermission_executeSegment_iff i segment).mp hruns
    have hundisturbed : env.Undisturbed item (segment :: rest) := ⟨hasks, .inl hmem⟩
    cases h : (env.executeItem i item).run.1.outcome with
    | awaitingPermission awaiting =>
      exact absurd ((env.executeItem_awaits_iff i item).mp ⟨awaiting, h⟩) (hasks item hmem)
    | completed invocation result =>
      have hrun : (env.executeItem i item).run.1
          = { index := item.index, toolUseId := item.toolUse.id
              outcome := .completed invocation result } := by
        rw [← h]
        rfl
      rw [and_iff_left hundisturbed, hrun]
      cases htool : env.toolRegistry.get item.toolUse.name with
      | none =>
        rw [env.snd_executeItem]
        exact ⟨iff_of_true (LoopEnv.lifecycleWord_of_none htool h i item.index) rfl,
          fun hsome => absurd rfl hsome⟩
      | some tool =>
        have hsome : env.toolRegistry.get item.toolUse.name ≠ none := by
          rw [htool]
          exact Option.some_ne_none tool
        refine ⟨iff_of_false (LoopEnv.not_lifecycleWord_of_registered hsome) (Option.some_ne_none tool),
          fun _ => ?_⟩
        rw [env.snd_executeItem]
        refine (LoopEnv.lifecycleWord_completed_iff htool h i item.index).trans ?_
        exact (and_iff_right rfl).symm
  | @resumed segment rest later state uuid' allowed id awaiting hmem hwaits h =>
    have hrequested := LoopEnv.requested_of_awaiting h
    have hasks : env.Asks item.toolUse := (env.executeItem_awaits_iff i item).mp ⟨awaiting, h⟩
    refine ⟨iff_of_false (LoopEnv.not_lifecycleWord_of_registered hrequested.registered)
      (fun hnone => hrequested.registered hnone.1), fun _ => ?_⟩
    rw [env.snd_executeItem]
    unfold Handling.Smooth
    cases allowed with
    | false =>
      exact iff_of_false (LoopEnv.not_lifecycleWord_refused hrequested later state id uuid') (by simp)
    | true =>
      refine (LoopEnv.lifecycleWord_approved_iff hrequested later state id uuid').trans ?_
      simp
  | @leftOut segment rest id awaiting hmem hwaits h =>
    obtain ⟨hword, htail⟩ := LoopEnv.not_lifecycleWord_leftOut (env.verdict item.toolUse)
    refine ⟨iff_of_false hword ?_, fun _ => iff_of_false htail (fun hsmooth => ?_)⟩
    . rintro ⟨-, hasks, -⟩
      rw [(env.earliestPermission_executeSegment_iff i segment).mpr hasks] at hwaits
      cases hwaits
    . cases hsmooth.1
  | @skipped segment rest awaiting hnot hmem hwaits =>
    have hword := LoopEnv.not_lifecycleWord_nil (env.invocationId i item) .none
    refine ⟨iff_of_false hword ?_, fun _ => iff_of_false hword (fun hsmooth => ?_)⟩
    . rintro ⟨-, hasks, -⟩
      rw [(env.earliestPermission_executeSegment_iff i segment).mpr hasks] at hwaits
      cases hwaits
    . cases hsmooth.1
  | @later segment rest handling hnot hruns h ih =>
    have hasks := (env.earliestPermission_executeSegment_iff i segment).mp hruns
    refine ⟨ih.1.trans (and_congr_right fun _ => ?_), ih.2⟩
    constructor
    . exact fun hrest => ⟨hasks, .inr hrest⟩
    . exact fun hundisturbed => hundisturbed.2.resolve_left hnot

def echoEnv : LoopEnv :=
  .withTools [constTool "echo" (.ok (.text "ok"))]

def echoItem (index : Nat) : IndexedToolUse where
  index := index
  toolUse := bareToolUse "tu_1" "echo"

def missingItem : IndexedToolUse where
  index := 0
  toolUse := bareToolUse "tu_0" "missing"

theorem echoEnv_not_lifecycleWord
    : ∃ handling, Handles echoEnv 0 (echoItem 0) [[echoItem 0]] handling
        ∧ handling.verdict = .none
        ∧ ¬ LifecycleWord (echoEnv.invocationId 0 (echoItem 0)) handling.verdict handling.events := by
  refine ⟨_, .recorded [] (List.mem_singleton_self _) rfl, rfl, ?_⟩
  intro h
  exact absurd h.length_eq (by decide +kernel)

theorem lifecycleWord_iff_leftOut
    : ∃ handling, Handles (echoEnv.withChecker .askAll) 0 missingItem [[missingItem, echoItem 1]] handling
        ∧ (LifecycleWord ((echoEnv.withChecker .askAll).invocationId 0 missingItem) handling.verdict
            handling.events
          ↔ (echoEnv.withChecker .askAll).toolRegistry.get missingItem.toolUse.name = none
            ∧ (echoEnv.withChecker .askAll).Undisturbed missingItem [[missingItem, echoItem 1]])
        ∧ ((echoEnv.withChecker .askAll).toolRegistry.get missingItem.toolUse.name ≠ none
          → (LifecycleWord ((echoEnv.withChecker .askAll).invocationId 0 missingItem) handling.verdict
              handling.events.tail
            ↔ handling.Smooth)) := by
  have h : Handles (echoEnv.withChecker .askAll) 0 missingItem [[missingItem, echoItem 1]] _ :=
    .leftOut [] (List.mem_cons_self ..) rfl (by rintro ⟨⟩)
  exact ⟨_, h, lifecycleWord_iff h⟩

end AnimaAgent
