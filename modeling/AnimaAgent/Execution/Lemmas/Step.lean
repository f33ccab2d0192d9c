import AnimaAgent.Execution.AgenticLoop

/-!
This module contains what one iteration of the loop does: the request it makes, the messages it
records and how it ends. Everything about whole runs of the loop is derived from these facts.
-/

namespace AnimaAgent.LoopEnv

variable (env : LoopEnv)

theorem callProvider_of_error {i : Nat} {messages : List InternalMsg} {error : AgenticLoopError}
    (h : env.askProvider i (env.chatRequest messages) = .error error)
    : (env.callProvider i messages).outcome = .error error
        ∧ (env.callProvider i messages).events
          = [.request messages (env.chatRequest messages)] := by
  unfold callProvider
  dsimp only
  rw [h]
  exact ⟨rfl, rfl⟩

theorem callProvider_of_ok {i : Nat} {messages : List InternalMsg} {parsed : ParsedResponse}
    {value : Value} (h : env.askProvider i (env.chatRequest messages) = .ok (parsed, value))
    : (env.callProvider i messages).outcome
          = .ok (parsed, buildAssistantMsg (env.uuid i 0) value)
        ∧ (env.callProvider i messages).events
          = [.request messages (env.chatRequest messages), .response parsed] := by
  unfold callProvider
  dsimp only
  rw [h]
  exact ⟨rfl, rfl⟩

theorem callProvider_eq_ok {i : Nat} {messages : List InternalMsg} {parsed : ParsedResponse}
    {assistant : InternalMsg} (h : (env.callProvider i messages).outcome = .ok (parsed, assistant))
    : ∃ value, env.askProvider i (env.chatRequest messages) = .ok (parsed, value)
        ∧ assistant = buildAssistantMsg (env.uuid i 0) value := by
  cases hask : env.askProvider i (env.chatRequest messages) with
  | error error =>
    rw [(env.callProvider_of_error hask).1] at h
    cases h
  | ok answer =>
    obtain ⟨parsed', value⟩ := answer
    rw [(env.callProvider_of_ok hask).1] at h
    cases h
    exact ⟨value, rfl, rfl⟩

def answered (state : LoopState) (assistant : InternalMsg) : LoopState :=
  let prepared := env.prepareMessages state.messages state.compactCount
  { state with messages := prepared.1 ++ [assistant], compactCount := prepared.2 }

def prepared (state : LoopState) : List InternalMsg :=
  (env.prepareMessages state.messages state.compactCount).1

theorem step_eq (state : LoopState)
    : env.step state
        = env.callProvider state.iterations (env.prepared state) >>= fun answer =>
            env.act (env.answered state answer.2) answer.1 := by
  rfl

theorem act_outcome (state : LoopState) (parsed : ParsedResponse)
    : (env.act state parsed).outcome
        = if parsed.toolUses.isEmpty then
            .ok (env.finishOrContinue state parsed)
          else
            .ok (env.runToolUses state parsed.toolUses).run.1 := by
  unfold act
  split
  . rfl
  . rfl

theorem act_events (state : LoopState) (parsed : ParsedResponse)
    : ∃ events : List ToolEvent, (env.act state parsed).events = events.map LoopEvent.tool := by
  unfold act
  split
  . exact ⟨[], rfl⟩
  . exact ⟨_, rfl⟩

theorem step_events (state : LoopState)
    : ∃ later : List LoopEvent,
        (env.step state).events
            = .request (env.prepared state) (env.chatRequest (env.prepared state)) :: later
          ∧ ∀ event ∈ later, ∀ messages request, event ≠ .request messages request := by
  rw [step_eq]
  cases hask : env.askProvider state.iterations (env.chatRequest (env.prepared state)) with
  | error error =>
    obtain ⟨houtcome, hevents⟩ := env.callProvider_of_error hask
    rw [Traced.events_bind_of_error _ houtcome, hevents]
    refine ⟨[], rfl, ?_⟩
    intro event hmem
    cases hmem
  | ok answer =>
    obtain ⟨parsed, value⟩ := answer
    obtain ⟨houtcome, hevents⟩ := env.callProvider_of_ok hask
    rw [Traced.events_bind_of_ok _ houtcome, hevents]
    obtain ⟨events, hact⟩ :=
      env.act_events (env.answered state (buildAssistantMsg (env.uuid state.iterations 0) value)) parsed
    refine ⟨.response parsed :: events.map LoopEvent.tool, by rw [hact]; rfl, ?_⟩
    intro event hmem messages request hevent
    rw [hevent] at hmem
    simp at hmem

theorem step_eq_ok {state : LoopState} {result : LoopStep}
    (h : (env.step state).outcome = .ok result)
    : ∃ parsed assistant,
        (env.callProvider state.iterations (env.prepared state)).outcome = .ok (parsed, assistant)
          ∧ ((parsed.toolUses = []
                ∧ result = env.finishOrContinue (env.answered state assistant) parsed)
              ∨ (parsed.toolUses ≠ []
                ∧ result
                  = (env.runToolUses (env.answered state assistant) parsed.toolUses).run.1)) := by
  rw [step_eq, Traced.outcome_bind_eq_ok] at h
  obtain ⟨⟨parsed, assistant⟩, hcall, h⟩ := h
  refine ⟨parsed, assistant, hcall, ?_⟩
  rw [act_outcome] at h
  split at h
  . next hempty =>
    left
    cases h
    exact ⟨List.isEmpty_iff.mp hempty, rfl⟩
  . next hempty =>
    right
    cases h
    exact ⟨fun h => hempty (List.isEmpty_iff.mpr h), rfl⟩

theorem runToolUses_fst (state : LoopState) (toolUses : List ParsedToolUse)
    : (env.runToolUses state toolUses).run.1
        = match
            (env.runSegments state.iterations (env.segments toolUses) state.messages).run.1 with
          | (messages, some (toolUseId, awaiting)) =>
            .done (.suspended (suspend { state with messages } toolUseId awaiting))
          | (messages, none) =>
            .continue { state with messages, iterations := state.iterations + 1 } := by
  unfold runToolUses
  rw [WriterT.fst_bind]
  generalize
    (env.runSegments state.iterations (env.segments toolUses) state.messages).run.1 = result
  rcases result with ⟨messages, _ | ⟨toolUseId, awaiting⟩⟩
  . rfl
  . rfl

theorem step_continue_iterations {state state' : LoopState}
    (h : (env.step state).outcome = .ok (.continue state'))
    : state'.iterations = state.iterations + 1 := by
  obtain ⟨parsed, assistant, _, ⟨_, h⟩ | ⟨_, h⟩⟩ := env.step_eq_ok h
  . unfold finishOrContinue at h
    split at h
    . cases h; rfl
    . cases h
  . rw [runToolUses_fst] at h
    split at h
    . cases h
    . cases h; rfl

theorem step_suspended_iterations {state : LoopState} {suspension : AgenticLoopSuspension}
    (h : (env.step state).outcome = .ok (.done (.suspended suspension)))
    : suspension.iterations = state.iterations := by
  obtain ⟨parsed, assistant, _, ⟨_, h⟩ | ⟨_, h⟩⟩ := env.step_eq_ok h
  . unfold finishOrContinue at h
    split at h
    . cases h
    . cases h
  . rw [runToolUses_fst] at h
    split at h
    . cases h; rfl
    . cases h

section Iterate

variable {env}
variable {P : LoopState → Prop} {E : LoopEvent → Prop} {Q : AgenticLoopOutcome → Prop}
variable (hcontinue : ∀ state state', P state
  → (env.step state).outcome = .ok (.continue state') → P state')

include hcontinue in
theorem iterate_outcome_forall
    (hlimit : ∀ state, P state → Q (hitLimit state))
    (hdone : ∀ state outcome, P state → (env.step state).outcome = .ok (.done outcome) → Q outcome)
    (remaining : Nat) (state : LoopState) (h : P state)
    : ∀ outcome, (env.iterate remaining state).outcome = .ok outcome → Q outcome := by
  induction remaining generalizing state with
  | zero =>
    intro outcome houtcome
    cases houtcome
    exact hlimit state h
  | succ remaining ih =>
    intro outcome houtcome
    rw [iterate, Traced.outcome_bind_eq_ok] at houtcome
    obtain ⟨result, hresult, houtcome⟩ := houtcome
    cases result with
    | done outcome' =>
      cases houtcome
      exact hdone state outcome h hresult
    | «continue» state' => exact ih state' (hcontinue state state' h hresult) outcome houtcome

end Iterate

def loopFrom (state : LoopState) : LoopM AgenticLoopOutcome :=
  env.iterate (env.config.maxIterations - state.iterations) state

theorem continueAgenticLoop_eq_loopFrom (messages : List InternalMsg)
    (iterations compactCount : Nat)
    : env.continueAgenticLoop messages iterations compactCount
        = env.loopFrom { messages, iterations, compactCount } := by
  rfl

theorem loopFrom_eq (state : LoopState)
    : env.loopFrom state
        = if state.iterations ≥ env.config.maxIterations then
            pure (hitLimit state)
          else
            env.step state >>= fun
              | .done outcome => pure outcome
              | .continue state' => env.loopFrom state' := by
  unfold loopFrom
  split
  . next h =>
    rw [Nat.sub_eq_zero_of_le h]
    rfl
  . next h =>
    have : env.config.maxIterations - state.iterations
        = env.config.maxIterations - (state.iterations + 1) + 1 := by
      omega
    rw [this, iterate]
    apply Traced.bind_congr_of_outcome
    intro result hresult
    cases result with
    | done outcome => rfl
    | «continue» state' =>
      dsimp
      rw [env.step_continue_iterations hresult]

end AnimaAgent.LoopEnv
