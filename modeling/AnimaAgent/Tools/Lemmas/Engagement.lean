import AnimaAgent.Tools.Lemmas.Execution

namespace AnimaAgent

def ToolEvent.engages : ToolEvent → Bool
  | .call .. => true
  | .lifecycle event .. => event = "tool_permission_requested"
  | _ => false

def Idle (events : List ToolEvent) : Prop :=
  ∀ event ∈ events, event.engages = false

theorem idle_nil : Idle [] := by
  intro event hmem
  cases hmem

theorem Idle.cons {event : ToolEvent} {events : List ToolEvent} (hfirst : event.engages = false)
    (h : Idle events)
    : Idle (event :: events) := by
  exact List.forall_mem_cons.mpr ⟨hfirst, h⟩

theorem idle_emit {event : ToolEvent} (h : event.engages = false)
    : Idle (Traced.emit event : ToolM Unit).events := by
  exact idle_nil.cons h

theorem idle_pure {α : Type} (a : α) : Idle (pure a : ToolM α).events := by
  exact idle_nil

theorem idle_bind {α β : Type} {x : ToolM α} {f : α → ToolM β} (hx : Idle x.events)
    (hf : ∀ a, x.outcome = .ok a → Idle (f a).events)
    : Idle (x >>= f).events := by
  exact Traced.forall_events_bind hx hf

def Engaged (events : List ToolEvent) : Prop :=
  ∃ event ∈ events, event.engages = true

theorem engaged_bind_left {α β : Type} {x : ToolM α} {f : α → ToolM β} (h : Engaged x.events)
    : Engaged (x >>= f).events := by
  obtain ⟨event, hmem, hengages⟩ := h
  rw [Traced.events_bind]
  exact ⟨event, List.mem_append_left _ hmem, hengages⟩

theorem engaged_bind_iff {α β : Type} {x : ToolM α} {f : α → ToolM β} {a : α} (hidle : Idle x.events)
    (hx : x.outcome = .ok a)
    : Engaged (x >>= f).events ↔ Engaged (f a).events := by
  rw [Traced.events_bind_of_ok f hx]
  constructor
  . rintro ⟨event, hmem, hengages⟩
    obtain hmem | hmem := List.mem_append.mp hmem
    . rw [hidle event hmem] at hengages
      cases hengages
    . exact ⟨event, hmem, hengages⟩
  . rintro ⟨event, hmem, hengages⟩
    exact ⟨event, List.mem_append_right _ hmem, hengages⟩

theorem Idle.not_engaged {events : List ToolEvent} (h : Idle events) : ¬Engaged events := by
  rintro ⟨event, hmem, hengages⟩
  rw [h event hmem] at hengages
  cases hengages

namespace HookRegistry

theorem idle_runPreToolHooks (registry : HookRegistry) (toolName : String) (input : Value)
    : Idle (registry.runPreToolHooks toolName input).run.2 := by
  unfold runPreToolHooks
  generalize registry.preHooks = hooks
  generalize 0 = i
  generalize false = transformed
  induction hooks generalizing i input transformed with
  | nil => exact idle_nil
  | cons hook hooks ih =>
    rw [runPreToolHooks.go, WriterT.snd_bind, WriterT.snd_tell, List.singleton_append]
    apply Idle.cons rfl
    split
    . exact ih input (i + 1) transformed
    . exact ih _ (i + 1) true
    . exact idle_nil
    . exact ih input (i + 1) transformed

end HookRegistry

section Stages

variable (serde : SerdeJson) (now : UInt64) (tool : Tool) (options : RunToolOptions)
variable (hookRegistry : Option HookRegistry)

theorem idle_applyPreHooks (invocation : ToolInvocationRecord)
    : Idle (applyPreHooks now options hookRegistry invocation).events := by
  unfold applyPreHooks
  cases hookRegistry with
  | none => exact idle_nil
  | some hooks =>
    dsimp only
    apply idle_bind
    . exact hooks.idle_runPreToolHooks options.toolName options.input
    . intro result _
      cases result with
      | «continue» => exact idle_nil
      | transform value => exact idle_nil
      | block reason => exact idle_nil.cons rfl
      | transformToolResult result => exact idle_nil

theorem idle_validateToolInput (invocation : ToolInvocationRecord)
    : Idle (validateToolInput now tool options invocation).events := by
  unfold validateToolInput
  dsimp only
  cases tool.validateInput options.input with
  | ok => exact idle_nil
  | error msg => exact idle_nil.cons rfl

theorem idle_checkStage (invocation : ToolInvocationRecord)
    : Idle (checkStage now tool options hookRegistry invocation).events := by
  unfold checkStage
  apply idle_bind
  . exact idle_applyPreHooks now options hookRegistry invocation
  . intro options' _
    apply idle_bind
    . exact idle_validateToolInput now tool options' invocation
    . intro invocation' _
      exact idle_nil

theorem engaged_executeToolCall (invocation : ToolInvocationRecord)
    : Engaged (executeToolCall serde now tool options hookRegistry invocation).events := by
  have hcalls := toolCalls_executeToolCall serde now tool options hookRegistry invocation
  have hmem : ToolEvent.call options.toolName options.input options.context
      ∈ toolCalls (executeToolCall serde now tool options hookRegistry invocation).events := by
    rw [hcalls]
    exact List.mem_singleton_self _
  exact ⟨_, List.mem_of_mem_filter hmem, rfl⟩

def GoesAhead (permissionChecker : Option PermissionChecker) (toolName : String) (input : Value)
    : Prop :=
  ∃ checked, checkedInput tool hookRegistry toolName input = .ok checked
    ∧ ∀ checker ∈ permissionChecker, ∀ reason,
      checker.hasPermission serde tool.name checked ≠ .deny reason

theorem runToolUse_engaged_iff (permissionChecker : Option PermissionChecker) (uuid : String)
    : Engaged (runToolUse serde now tool options permissionChecker hookRegistry uuid).events
        ↔ GoesAhead serde tool hookRegistry permissionChecker options.toolName options.input := by
  let invocation : ToolInvocationRecord :=
    .new now (options.invocationId.getD ("toolinv_" ++ uuid)) options.toolName none
  have hidle := idle_checkStage now tool options hookRegistry invocation
  rw [runToolUse_eq]
  unfold emitToolLifecycleEvent GoesAhead
  dsimp only
  rw [engaged_bind_iff (idle_emit rfl) (Traced.outcome_emit _)]
  cases h : checkedInput tool hookRegistry options.toolName options.input with
  | error err =>
    have hcheck := checkStage_of_error now tool options hookRegistry h invocation
    rw [Traced.events_bind_of_error _ hcheck]
    constructor
    . intro hengaged
      exact absurd hengaged hidle.not_engaged
    . rintro ⟨checked, hchecked, -⟩
      cases hchecked
  | ok input =>
    have hcheck := checkStage_of_ok now tool options hookRegistry h invocation
    rw [engaged_bind_iff hidle hcheck]
    dsimp only
    unfold checkPermission emitToolLifecycleEvent
    cases permissionChecker with
    | none =>
      constructor
      . intro _
        exact ⟨input, rfl, fun checker hmem => by cases hmem⟩
      . intro _
        rw [engaged_bind_iff (idle_pure _) (Traced.outcome_pure _)]
        exact engaged_bind_left (engaged_executeToolCall serde now tool _ hookRegistry _)
    | some checker =>
      dsimp only
      cases hdecision : checker.hasPermission serde tool.name input with
      | allow =>
        constructor
        . intro _
          refine ⟨input, rfl, ?_⟩
          intro checker' hchecker reason hdeny
          cases hchecker
          rw [hdecision] at hdeny
          cases hdeny
        . intro _
          dsimp only
          rw [engaged_bind_iff (idle_bind (idle_emit rfl) (fun _ _ => idle_pure _)) rfl]
          exact engaged_bind_left (engaged_executeToolCall serde now tool _ hookRegistry _)
      | deny reason =>
        constructor
        . intro hengaged
          exact absurd hengaged (idle_nil.cons rfl).not_engaged
        . rintro ⟨checked, hchecked, hpermitted⟩
          cases hchecked
          exact absurd hdecision (hpermitted checker rfl reason)
      | ask request =>
        constructor
        . intro _
          refine ⟨input, rfl, ?_⟩
          intro checker' hchecker reason hdeny
          cases hchecker
          rw [hdecision] at hdeny
          cases hdeny
        . intro _
          exact engaged_bind_left ⟨_, List.mem_singleton_self _, rfl⟩

end Stages

end AnimaAgent
