import AnimaAgent.Execution.Lemmas.Segments

namespace AnimaAgent

namespace PermissionChecker

def Allows (serde : SerdeJson) (checker : PermissionChecker) : Prop :=
  ∀ toolName input, checker.hasPermission serde toolName input = .allow

def Asks (serde : SerdeJson) (checker : PermissionChecker) : Prop :=
  ∀ toolName input, ∃ request, checker.hasPermission serde toolName input = .ask request

end PermissionChecker

namespace LoopEnv

variable (env : LoopEnv)

def withChecker (checker : PermissionChecker) : LoopEnv :=
  { env with permissionChecker := some checker }

def runAtOnce (i : Nat) (item : IndexedToolUse) : Writer (List ToolEvent) (List InternalMsg) := do
  let outcome ← env.executeItem i item
  env.recordOutcome i outcome

def runApproved (i : Nat) (item : IndexedToolUse) (state : LoopState)
    : LoopM (List InternalMsg) := do
  let outcome ← Traced.liftMap .tool (env.executeItem i item)
  match outcome.outcome with
  | .awaitingPermission awaiting =>
    env.resumeSuspendedToolInvocation (env.uuid i (2 * item.index + 3))
      (suspend state item.toolUse.id awaiting) true
  | .completed .. => do
    let results ← Traced.liftMap .tool (env.recordOutcome i outcome)
    pure (state.messages ++ results)

/-- Asking and approving comes to the same as allowing, and calls the tool with the recorded input. -/
structure ApprovedLikeAllowed (ask allow : PermissionChecker) (i : Nat) (item : IndexedToolUse)
    (state : LoopState)
    : Prop where
  sameMessages :
    ((env.withChecker ask).runApproved i item state).outcome
      = .ok (state.messages ++ ((env.withChecker allow).runAtOnce i item).run.1)
  sameCalls :
    loopToolCalls ((env.withChecker ask).runApproved i item state).events
      = toolCalls ((env.withChecker allow).runAtOnce i item).run.2
  recordedInput :
    ∀ awaiting,
      ((env.withChecker ask).executeItem i item).run.1.outcome = .awaitingPermission awaiting
        → ∀ toolName input context,
            .call toolName input context
                ∈ loopToolCalls ((env.withChecker ask).runApproved i item state).events
              → input = awaiting.input

/--
The pre-hooks leave an input alone that they have passed before, and the tool answers it without an
error.
-/
def ApprovalHarmless (toolUse : ParsedToolUse) : Prop :=
  ∀ tool, env.toolRegistry.get toolUse.name = some tool
    → ∀ input, checkedInput tool env.hookRegistry toolUse.name toolUse.input = .ok input
      → hookedInput env.hookRegistry toolUse.name input = .ok input
        ∧ ∃ result, tool.call input env.toolContext = .ok result

section Approved

variable (uuid : String) {suspension : AgenticLoopSuspension} {tool : Tool}

def approvedRun (suspension : AgenticLoopSuspension) (tool : Tool)
    : ToolM (ToolInvocationRecord × ToolResult) :=
  executeToolAfterPermission env.serde env.now tool
    { toolName := suspension.suspendedTool.toolName
      input := suspension.suspendedTool.toolInput
      context := env.toolContext
      invocationId := some suspension.suspendedTool.invocation.invocationId }
    env.hookRegistry suspension.suspendedTool.invocation

variable (h : env.toolRegistry.get suspension.suspendedTool.toolName = some tool)

include h in
theorem resumedResult_of_allowed
    : env.resumedResult suspension true
        = Traced.mapBoth .tool .toolExecution (env.approvedRun suspension tool) := by
  unfold resumedResult
  dsimp only
  rw [if_pos rfl, h]
  rfl

include h in
theorem resume_outcome_of_error {err : ToolError}
    (hrun : (env.approvedRun suspension tool).outcome = .error err)
    : (env.resumeSuspendedToolInvocation uuid suspension true).outcome
        = .error (.toolExecution err) := by
  unfold resumeSuspendedToolInvocation
  rw [env.resumedResult_of_allowed h]
  apply Traced.outcome_bind_of_error
  rw [Traced.outcome_mapBoth, hrun]
  rfl

include h in
theorem resume_outcome_of_ok {invocation : ToolInvocationRecord} {result : ToolResult}
    (hrun : (env.approvedRun suspension tool).outcome = .ok (invocation, result))
    : (env.resumeSuspendedToolInvocation uuid suspension true).outcome
        = .ok (suspension.messages
          ++ [env.resultMsg uuid suspension.suspendedTool.toolUseId invocation result]) := by
  have hresumed : (env.resumedResult suspension true).outcome = .ok (invocation, result) := by
    rw [env.resumedResult_of_allowed h, Traced.outcome_mapBoth, hrun]
    rfl
  unfold resumeSuspendedToolInvocation
  rw [Traced.outcome_bind_of_ok _ hresumed]
  rfl

include h in
theorem loopToolCalls_resume
    : loopToolCalls (env.resumeSuspendedToolInvocation uuid suspension true).events
        = toolCalls (env.approvedRun suspension tool).events := by
  unfold resumeSuspendedToolInvocation
  rw [env.resumedResult_of_allowed h, Traced.events_bind, loopToolCalls_append,
    Traced.events_mapBoth, loopToolCalls_map_tool]
  split
  . exact List.append_nil _
  . exact List.append_nil _

end Approved

section Compare

variable {env}
variable {ask allow : PermissionChecker} {i : Nat} {item : IndexedToolUse} (state : LoopState)

theorem SingleToolDoes.outcome_liftMap {outcome : SingleToolExecutionOutcome}
    {calls : List ToolEvent} (h : env.SingleToolDoes i item outcome calls)
    : (Traced.liftMap LoopEvent.tool (env.executeItem i item)
          : LoopM IndexedToolOutcome).outcome
        = .ok { index := item.index, toolUseId := item.toolUse.id, outcome } := by
  rw [Traced.outcome_liftMap, h.1]

theorem runAtOnce_of_completed {invocation : ToolInvocationRecord} {result : ToolResult}
    {calls : List ToolEvent}
    (h : env.SingleToolDoes i item (.completed invocation result) calls)
    : (env.runAtOnce i item).run.1
          = [env.resultMsg (env.uuid i (2 * item.index + 3)) item.toolUse.id invocation result]
        ∧ toolCalls (env.runAtOnce i item).run.2 = calls := by
  unfold runAtOnce
  rw [WriterT.fst_bind, WriterT.snd_bind, toolCalls_append, h.1, h.2]
  exact ⟨rfl, List.append_nil _⟩

theorem runApproved_of_completed {invocation : ToolInvocationRecord} {result : ToolResult}
    {calls : List ToolEvent}
    (h : env.SingleToolDoes i item (.completed invocation result) calls)
    : (env.runApproved i item state).outcome
          = .ok (state.messages
            ++ [env.resultMsg (env.uuid i (2 * item.index + 3)) item.toolUse.id invocation result])
        ∧ loopToolCalls (env.runApproved i item state).events = calls := by
  have hitem := h.outcome_liftMap
  unfold runApproved
  rw [Traced.outcome_bind_of_ok _ hitem, Traced.events_bind_of_ok _ hitem, loopToolCalls_append,
    Traced.events_liftMap, loopToolCalls_map_tool, h.2]
  exact ⟨rfl, List.append_nil _⟩

theorem runApproved_of_awaiting {awaiting : AwaitingToolPermission}
    (h : env.SingleToolDoes i item (.awaitingPermission awaiting) [])
    : (env.runApproved i item state).outcome
          = (env.resumeSuspendedToolInvocation (env.uuid i (2 * item.index + 3))
            (suspend state item.toolUse.id awaiting) true).outcome
        ∧ loopToolCalls (env.runApproved i item state).events
          = loopToolCalls (env.resumeSuspendedToolInvocation (env.uuid i (2 * item.index + 3))
            (suspend state item.toolUse.id awaiting) true).events := by
  have hitem := h.outcome_liftMap
  unfold runApproved
  rw [Traced.outcome_bind_of_ok _ hitem, Traced.events_bind_of_ok _ hitem, loopToolCalls_append,
    Traced.events_liftMap, loopToolCalls_map_tool, h.2]
  exact ⟨rfl, rfl⟩

theorem approvedLikeAllowed_of_completed {invocation : ToolInvocationRecord} {result : ToolResult}
    (hask : (env.withChecker ask).SingleToolDoes i item (.completed invocation result) [])
    (hallow : (env.withChecker allow).SingleToolDoes i item (.completed invocation result) [])
    : env.ApprovedLikeAllowed ask allow i item state := by
  constructor
  . rw [(runApproved_of_completed state hask).1, (runAtOnce_of_completed hallow).1]
    rfl
  . rw [(runApproved_of_completed state hask).2, (runAtOnce_of_completed hallow).2]
  . intro awaiting hawaiting
    rw [hask.1] at hawaiting
    cases hawaiting

section Registered

variable {tool : Tool} (htool : env.toolRegistry.get item.toolUse.name = some tool)
variable (hask : ask.Asks env.serde) (hallow : allow.Allows env.serde)

include htool in
theorem singleToolDoes_of_error (checker : PermissionChecker) {err : ToolError}
    (h : checkedInput tool env.hookRegistry item.toolUse.name item.toolUse.input = .error err)
    : (env.withChecker checker).SingleToolDoes i item
        (.completed
          (env.failedInvocation (env.uuid i (2 * item.index + 2)) item.toolUse err.display)
          (.error ("tool execution error: " ++ err.display))) [] := by
  apply singleToolDoes_of_executeSingleTool
  have hrun := runToolUse_of_error env.serde env.now tool
    (env.toolOptions (env.uuid i (2 * item.index + 2)) item.toolUse) env.hookRegistry h
    (some checker) (env.uuid i (2 * item.index + 2))
  have hsingle := (env.withChecker checker).executeSingleTool_of_some
    (env.uuid i (2 * item.index + 2)) item.toolUse htool
  constructor
  . refine hsingle.1.trans ?_
    exact congrArg (ofToolRun _ _ _) hrun.1
  . exact hsingle.2.trans hrun.2

variable {input : Value}
variable (h : checkedInput tool env.hookRegistry item.toolUse.name item.toolUse.input = .ok input)

def allowedUse (env : LoopEnv) (i : Nat) (item : IndexedToolUse) (result : ToolResult)
    : ToolInvocationRecord :=
  { finishedInvocation env.serde env.now
      (allowedInvocation env.now (env.toolOptions (env.uuid i (2 * item.index + 2)) item.toolUse)
        (env.uuid i (2 * item.index + 2))) result with
    toolUseId := some item.toolUse.id }

include htool hallow h in
theorem singleToolDoes_of_allow {result : ToolResult}
    (hcall : tool.call input env.toolContext = .ok result)
    : (env.withChecker allow).SingleToolDoes i item
        (.completed
          (env.allowedUse i item (hookedResult env.hookRegistry item.toolUse.name result))
          (hookedResult env.hookRegistry item.toolUse.name result))
        [.call item.toolUse.name input env.toolContext] := by
  apply singleToolDoes_of_executeSingleTool
  have hrun := runToolUse_of_allow env.serde env.now tool
    (env.toolOptions (env.uuid i (2 * item.index + 2)) item.toolUse) env.hookRegistry h
    (env.uuid i (2 * item.index + 2)) (hallow tool.name input)
  have hsingle := (env.withChecker allow).executeSingleTool_of_some
    (env.uuid i (2 * item.index + 2)) item.toolUse htool
  constructor
  . refine (hsingle.1.trans (congrArg (ofToolRun _ _ _) hrun.1)).trans ?_
    dsimp only [toolOptions]
    rw [hcall]
    rfl
  . exact hsingle.2.trans hrun.2

def requestedUse (env : LoopEnv) (i : Nat) (item : IndexedToolUse) (input : Value)
    (request : PermissionRequest)
    : AwaitingToolPermission where
  invocation :=
    { requestedInvocation env.now
        (env.toolOptions (env.uuid i (2 * item.index + 2)) item.toolUse)
        (env.uuid i (2 * item.index + 2)) with
      toolUseId := some item.toolUse.id }
  input := input
  permissionRequest := request
  context := env.toolContext

include htool h in
theorem singleToolDoes_of_ask {checker : PermissionChecker} {request : PermissionRequest}
    (hrequest : checker.hasPermission env.serde tool.name input = .ask request)
    : (env.withChecker checker).SingleToolDoes i item
        (.awaitingPermission (env.requestedUse i item input request)) [] := by
  apply singleToolDoes_of_executeSingleTool
  have hrun := runToolUse_of_ask env.serde env.now tool
    (env.toolOptions (env.uuid i (2 * item.index + 2)) item.toolUse) env.hookRegistry h
    (env.uuid i (2 * item.index + 2)) hrequest
  have hsingle := (env.withChecker checker).executeSingleTool_of_some
    (env.uuid i (2 * item.index + 2)) item.toolUse htool
  constructor
  . refine hsingle.1.trans ?_
    exact congrArg (ofToolRun _ _ _) hrun.1
  . exact hsingle.2.trans hrun.2

include htool hask h in
theorem runApproved_of_ok {input' : Value} {result : ToolResult}
    (h' : checkedInput tool env.hookRegistry item.toolUse.name input = .ok input')
    (hcall : tool.call input' env.toolContext = .ok result)
    : ((env.withChecker ask).runApproved i item state).outcome
          = .ok (state.messages
            ++ [env.resultMsg (env.uuid i (2 * item.index + 3)) item.toolUse.id
              (env.allowedUse i item (hookedResult env.hookRegistry item.toolUse.name result))
              (hookedResult env.hookRegistry item.toolUse.name result)])
        ∧ loopToolCalls ((env.withChecker ask).runApproved i item state).events
          = [.call item.toolUse.name input' env.toolContext] := by
  obtain ⟨request, hrequest⟩ := hask tool.name input
  have hasking := singleToolDoes_of_ask (i := i) htool h hrequest
  have happroved := runApproved_of_awaiting state hasking
  have hlookup : (env.withChecker ask).toolRegistry.get
      (suspend state item.toolUse.id
        (env.requestedUse i item input request)).suspendedTool.toolName = some tool := htool
  have hrun := executeToolAfterPermission_of_ok env.serde env.now tool
    { env.toolOptions (env.uuid i (2 * item.index + 2)) item.toolUse with input } env.hookRegistry
    h' (env.requestedUse i item input request).invocation
  have happrovedRun : ((env.withChecker ask).approvedRun
      (suspend state item.toolUse.id (env.requestedUse i item input request)) tool).outcome
        = .ok (env.allowedUse i item (hookedResult env.hookRegistry item.toolUse.name result),
          hookedResult env.hookRegistry item.toolUse.name result) := by
    refine hrun.1.trans ?_
    dsimp only [toolOptions]
    rw [hcall]
    rfl
  constructor
  . exact happroved.1.trans ((env.withChecker ask).resume_outcome_of_ok _ hlookup happrovedRun)
  . exact happroved.2.trans
      (((env.withChecker ask).loopToolCalls_resume _ hlookup).trans hrun.2)

include htool hask h in
theorem runApproved_of_error {err : ToolError}
    (h' : (checkedInput tool env.hookRegistry item.toolUse.name input
      >>= fun input' => tool.call input' env.toolContext) = .error err)
    : ((env.withChecker ask).runApproved i item state).outcome = .error (.toolExecution err) := by
  obtain ⟨request, hrequest⟩ := hask tool.name input
  have hasking := singleToolDoes_of_ask (i := i) htool h hrequest
  have happroved := runApproved_of_awaiting state hasking
  have hlookup : (env.withChecker ask).toolRegistry.get
      (suspend state item.toolUse.id
        (env.requestedUse i item input request)).suspendedTool.toolName = some tool := htool
  refine happroved.1.trans ((env.withChecker ask).resume_outcome_of_error _ hlookup ?_)
  cases hsecond : checkedInput tool env.hookRegistry item.toolUse.name input with
  | error err' =>
    rw [hsecond] at h'
    cases h'
    exact (executeToolAfterPermission_of_error env.serde env.now tool
      { env.toolOptions (env.uuid i (2 * item.index + 2)) item.toolUse with input }
      env.hookRegistry hsecond (env.requestedUse i item input request).invocation).1
  | ok input' =>
    rw [hsecond] at h'
    have hrun := executeToolAfterPermission_of_ok env.serde env.now tool
      { env.toolOptions (env.uuid i (2 * item.index + 2)) item.toolUse with input }
      env.hookRegistry hsecond (env.requestedUse i item input request).invocation
    refine hrun.1.trans ?_
    dsimp only [toolOptions]
    rw [show tool.call input' env.toolContext = .error err from h']
    rfl

end Registered

end Compare

/--
Asking and approving is like allowing exactly when the pre-hooks leave the recorded input alone and
the tool answers it without an error.
-/
theorem approvedLikeAllowed_iff (ask allow : PermissionChecker) (i : Nat) (item : IndexedToolUse)
    (state : LoopState) (hask : ask.Asks env.serde) (hallow : allow.Allows env.serde)
    : env.ApprovedLikeAllowed ask allow i item state ↔ env.ApprovalHarmless item.toolUse := by
  cases htool : env.toolRegistry.get item.toolUse.name with
  | none =>
    constructor
    . intro _ tool htool'
      rw [htool] at htool'
      cases htool'
    . intro _
      apply approvedLikeAllowed_of_completed state
      . exact singleToolDoes_of_executeSingleTool
          ((env.withChecker ask).executeSingleTool_of_none _ _ htool)
      . exact singleToolDoes_of_executeSingleTool
          ((env.withChecker allow).executeSingleTool_of_none _ _ htool)
  | some tool =>
    cases h : checkedInput tool env.hookRegistry item.toolUse.name item.toolUse.input with
    | error err =>
      constructor
      . intro _ tool' htool' input hinput
        rw [htool] at htool'
        cases htool'
        rw [h] at hinput
        cases hinput
      . intro _
        exact approvedLikeAllowed_of_completed state (singleToolDoes_of_error htool ask h)
          (singleToolDoes_of_error htool allow h)
    | ok input =>
      constructor
      . intro happroved tool' htool' input' hinput'
        rw [htool] at htool'
        cases htool'
        rw [h] at hinput'
        cases hinput'
        cases hsecond : checkedInput tool env.hookRegistry item.toolUse.name input
            >>= fun input' => tool.call input' env.toolContext with
        | error err =>
          have hsame := happroved.sameMessages
          rw [runApproved_of_error state htool hask h hsecond] at hsame
          cases hsame
        | ok result =>
          cases hchecked : checkedInput tool env.hookRegistry item.toolUse.name input with
          | error err =>
            rw [hchecked] at hsecond
            cases hsecond
          | ok input' =>
            rw [hchecked] at hsecond
            have hcalls :=
              (runApproved_of_ok (i := i) state htool hask h hchecked hsecond).2
            obtain ⟨request, hrequest⟩ := hask tool.name input
            have hawaiting :=
              congrArg IndexedToolOutcome.outcome (singleToolDoes_of_ask (i := i) htool h hrequest).1
            have hrecorded := happroved.recordedInput _ hawaiting item.toolUse.name input'
              env.toolContext (by rw [hcalls]; exact List.mem_singleton.mpr rfl)
            have hrecorded : input' = input := hrecorded
            subst hrecorded
            exact ⟨(checkedInput_eq_ok_iff.mp hchecked).1, result, hsecond⟩
      . intro hharmless
        obtain ⟨hhooked, result, hcall⟩ := hharmless tool htool input h
        have hchecked := checkedInput_eq_ok_iff.mpr ⟨hhooked, (checkedInput_eq_ok_iff.mp h).2⟩
        have happroved := runApproved_of_ok (i := i) state htool hask h hchecked hcall
        have hatOnce := runAtOnce_of_completed (singleToolDoes_of_allow (i := i) htool hallow h hcall)
        constructor
        . rw [happroved.1, hatOnce.1]
          rfl
        . rw [happroved.2, hatOnce.2]
        . intro awaiting hawaiting toolName input' context hmem
          obtain ⟨request, hrequest⟩ := hask tool.name input
          have hawaiting' :=
            congrArg IndexedToolOutcome.outcome (singleToolDoes_of_ask (i := i) htool h hrequest).1
          rw [happroved.2, List.mem_singleton] at hmem
          cases hmem
          have := hawaiting.symm.trans hawaiting'
          cases this
          rfl

end LoopEnv

namespace PermissionChecker

def askAll : PermissionChecker where
  mode := .ruleBased

def allowAll : PermissionChecker where
  mode := .allowAll

theorem asks_askAll (serde : SerdeJson) : askAll.Asks serde := by
  intro toolName input
  exact ⟨_, rfl⟩

theorem allows_allowAll (serde : SerdeJson) : allowAll.Allows serde := by
  intro toolName input
  rfl

end PermissionChecker

def constTool (name : String) (answer : Except ToolError ToolResult) : Tool where
  name := name
  validateInput _ := .ok ()
  call _ _ := answer

def bareToolUse (id name : String) : ParsedToolUse where
  id := id
  name := name
  input := .object []

theorem failing_tool_not_approvedLikeAllowed
    : ¬(LoopEnv.withTools [constTool "echo" (.error (.internal "boom"))]).ApprovedLikeAllowed
        .askAll .allowAll 0 { index := 0, toolUse := bareToolUse "tu_1" "echo" }
        { messages := [], iterations := 0, compactCount := 0 } := by
  intro h
  exact absurd h.sameMessages (by decide)

theorem approvedLikeAllowed_iff_echo
    : (PermissionChecker.askAll.Asks .small ∧ PermissionChecker.allowAll.Allows .small)
        ∧ ((LoopEnv.withTools [constTool "echo" (.ok (.text "ok"))]).ApprovedLikeAllowed
            .askAll .allowAll 0 { index := 0, toolUse := bareToolUse "tu_1" "echo" }
            { messages := [], iterations := 0, compactCount := 0 }
          ↔ (LoopEnv.withTools [constTool "echo" (.ok (.text "ok"))]).ApprovalHarmless
            (bareToolUse "tu_1" "echo")) := by
  have hask := PermissionChecker.asks_askAll .small
  have hallow := PermissionChecker.allows_allowAll .small
  exact ⟨⟨hask, hallow⟩, LoopEnv.approvedLikeAllowed_iff _ _ _ _ _ _ hask hallow⟩

end AnimaAgent
