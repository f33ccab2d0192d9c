import AnimaAgent.Execution.LoopMsg

namespace AnimaAgent

def LoopEvent.isRequest : LoopEvent → Bool
  | request .. => true
  | _ => false

def callCount (events : List LoopEvent) : Nat :=
  events.countP LoopEvent.isRequest

@[simp]
theorem callCount_nil : callCount [] = 0 := by
  rfl

@[simp]
theorem callCount_append (as bs : List LoopEvent)
    : callCount (as ++ bs) = callCount as + callCount bs := by
  exact List.countP_append ..

theorem callCount_toolEvents (events : List ToolEvent)
    : callCount (events.map LoopEvent.tool) = 0 := by
  unfold callCount
  rw [List.countP_map]
  exact List.countP_eq_zero.mpr (fun _ _ h => by cases h)

def AgenticLoopOutcome.messages : AgenticLoopOutcome → List InternalMsg
  | completed result => result.messages
  | suspended suspension => suspension.messages

def LoopEvent.requested? : LoopEvent → Option (List InternalMsg)
  | request messages _ => some messages
  | _ => none

def recordedMessages (initial : List InternalMsg) (loop : LoopM AgenticLoopOutcome)
    : List InternalMsg :=
  match loop.outcome with
  | .ok outcome => outcome.messages
  | .error _ => ((loop.events.filterMap LoopEvent.requested?).getLast?).getD initial

theorem recordedMessages_of_ok {loop : LoopM AgenticLoopOutcome} {outcome : AgenticLoopOutcome}
    (h : loop.outcome = .ok outcome) (initial : List InternalMsg)
    : recordedMessages initial loop = outcome.messages := by
  unfold recordedMessages
  rw [h]

theorem recordedMessages_of_error {loop : LoopM AgenticLoopOutcome} {error : AgenticLoopError}
    (h : loop.outcome = .error error) {messages : List InternalMsg}
    (hlast : (loop.events.filterMap LoopEvent.requested?).getLast? = some messages)
    (initial : List InternalMsg)
    : recordedMessages initial loop = messages := by
  unfold recordedMessages
  rw [h]
  dsimp only
  rw [hlast, Option.getD_some]

theorem callCount_eq_length (events : List LoopEvent)
    : callCount events = (events.filterMap LoopEvent.requested?).length := by
  unfold callCount
  rw [List.length_filterMap_eq_countP]
  apply List.countP_congr
  intro event _
  cases event with
  | request messages request => rfl
  | response parsed => rfl
  | tool event => rfl

def LoopStep.messages : LoopStep → List InternalMsg
  | .continue state => state.messages
  | done outcome => outcome.messages

theorem NoAssistantToolUseId.append {as bs : List InternalMsg} (ha : NoAssistantToolUseId as)
    (hb : NoAssistantToolUseId bs)
    : NoAssistantToolUseId (as ++ bs) := by
  intro msg hmem
  rcases List.mem_append.mp hmem with hmem | hmem
  . exact ha msg hmem
  . exact hb msg hmem

namespace LoopEnv

variable (env : LoopEnv)

theorem callCount_step (state : LoopState) : callCount (env.step state).events = 1 := by
  obtain ⟨later, hevents, hlater⟩ := env.step_events state
  rw [hevents]
  have hnone : later.countP LoopEvent.isRequest = 0 := by
    rw [List.countP_eq_zero]
    intro event hmem hrequest
    cases event with
    | request messages request => exact hlater _ hmem messages request rfl
    | response parsed => cases hrequest
    | tool event => cases hrequest
  unfold callCount
  rw [List.countP_cons_of_pos rfl, hnone]

theorem requested_step (state : LoopState)
    : (env.step state).events.filterMap LoopEvent.requested? = [env.prepared state] := by
  obtain ⟨later, hevents, hlater⟩ := env.step_events state
  rw [hevents]
  refine congrArg (List.cons _) (List.filterMap_eq_nil_iff.mpr ?_)
  intro event hmem
  cases event with
  | request messages request => exact absurd rfl (hlater _ hmem messages request)
  | response parsed => rfl
  | tool event => rfl

theorem callCount_iterate_le (remaining : Nat) (state : LoopState)
    : callCount (env.iterate remaining state).events ≤ remaining := by
  induction remaining generalizing state with
  | zero => exact Nat.le_refl 0
  | succ remaining ih =>
    rw [iterate]
    cases houtcome : (env.step state).outcome with
    | error error =>
      rw [Traced.events_bind_of_error _ houtcome, callCount_step]
      omega
    | ok result =>
      rw [Traced.events_bind_of_ok _ houtcome, callCount_append, callCount_step]
      cases result with
      | done outcome =>
        change 1 + 0 ≤ _
        omega
      | «continue» state' =>
        have := ih state'
        dsimp only
        omega

theorem callCount_continueAgenticLoop_le (messages : List InternalMsg)
    (iterations compactCount : Nat)
    : callCount (env.continueAgenticLoop messages iterations compactCount).events
        ≤ env.config.maxIterations - iterations := by
  exact env.callCount_iterate_le _ _

theorem callCount_iterate_of_continue
    (h : ∀ state, ∃ state', (env.step state).outcome = .ok (.continue state'))
    (remaining : Nat) (state : LoopState)
    : callCount (env.iterate remaining state).events = remaining := by
  induction remaining generalizing state with
  | zero => rfl
  | succ remaining ih =>
    obtain ⟨state', hstep⟩ := h state
    rw [iterate, Traced.events_bind_of_ok _ hstep, callCount_append, callCount_step]
    dsimp only
    rw [ih state']
    omega

theorem callCount_resumeSuspendedToolInvocation (uuid : String) (suspension : AgenticLoopSuspension)
    (allowed : Bool)
    : callCount (env.resumeSuspendedToolInvocation uuid suspension allowed).events = 0 := by
  have hresult : callCount (env.resumedResult suspension allowed).events = 0 := by
    unfold resumedResult
    dsimp only
    split
    . split
      . rfl
      . exact callCount_toolEvents _
    . rfl
  unfold resumeSuspendedToolInvocation
  cases houtcome : (env.resumedResult suspension allowed).outcome with
  | error error => rw [Traced.events_bind_of_error _ houtcome, hresult]
  | ok result =>
    rw [Traced.events_bind_of_ok _ houtcome, callCount_append, hresult]
    rfl

theorem runSegments_adds (i : Nat) (segments : List (List IndexedToolUse))
    (messages : List InternalMsg)
    : ∃ added, LoopHistory env.serde added
        ∧ (env.runSegments i segments messages).run.1.1 = messages ++ added := by
  induction segments generalizing messages with
  | nil => exact ⟨[], fun _ hmem => (List.not_mem_nil hmem).elim, (List.append_nil _).symm⟩
  | cons segment rest ih =>
    rw [runSegments, WriterT.fst_bind]
    split
    . exact ⟨[], fun _ hmem => (List.not_mem_nil hmem).elim, (List.append_nil _).symm⟩
    . rw [WriterT.fst_bind]
      obtain ⟨added, hadded, hmessages⟩ := ih (messages
        ++ ((env.executeSegment i segment).run.1.mapM (env.recordOutcome i)).run.1.flatten)
      refine ⟨_, (env.recordOutcomes_loopHistory i (env.executeSegment i segment).run.1).append
        hadded, ?_⟩
      rw [hmessages, List.append_assoc]

theorem step_adds {state : LoopState} {result : LoopStep}
    (h : (env.step state).outcome = .ok result)
    : ∃ added, added ≠ [] ∧ LoopHistory env.serde added
        ∧ result.messages = env.prepared state ++ added := by
  obtain ⟨parsed, assistant, hcall, hresult⟩ := env.step_eq_ok h
  obtain ⟨response, _, rfl⟩ := env.callProvider_eq_ok hcall
  have hassistant : LoopHistory env.serde
      [buildAssistantMsg (env.uuid state.iterations 0) response] :=
    .singleton (.assistant _ _)
  obtain ⟨_, rfl⟩ | ⟨_, rfl⟩ := hresult
  . unfold finishOrContinue
    split
    . have hcontinuation : LoopHistory env.serde [continuationMsg (env.uuid state.iterations 1)] :=
        .singleton (.input _ rfl rfl)
      exact ⟨_, List.cons_ne_nil _ _, hassistant.append hcontinuation, List.append_assoc ..⟩
    . exact ⟨_, List.cons_ne_nil _ _, hassistant, rfl⟩
  . obtain ⟨added, hadded, hmessages⟩ := env.runSegments_adds
      (env.answered state (buildAssistantMsg (env.uuid state.iterations 0) response)).iterations
      (env.segments parsed.toolUses)
      (env.answered state (buildAssistantMsg (env.uuid state.iterations 0) response)).messages
    refine ⟨_, List.cons_ne_nil _ _, hassistant.append hadded, ?_⟩
    rw [runToolUses_fst]
    generalize (env.runSegments _ (env.segments parsed.toolUses) _).run.1 = run at hmessages
    obtain ⟨messages, _ | ⟨toolUseId, awaiting⟩⟩ := run
    . exact hmessages.trans (List.append_assoc ..)
    . exact hmessages.trans (List.append_assoc ..)

theorem length_le_prepared (state : LoopState)
    : state.messages.length ≤ (env.prepared state).length := by
  have hpaired : state.messages.length ≤ (ensureToolResultPairing state.messages).length := by
    unfold ensureToolResultPairing
    dsimp only
    generalize ensureToolResultPairing.inserts (buildMessageLookups state.messages) state.messages
      = inserts
    induction inserts with
    | nil => exact Nat.le_refl _
    | cons entry rest ih =>
      refine ih.trans ?_
      rw [List.foldr_cons, List.length_insertIdx]
      split
      . exact Nat.le_succ _
      . exact Nat.le_refl _
  unfold prepared prepareMessages
  dsimp only
  split
  . dsimp only
    rw [← (compactIfNeeded_forall₂ env.serde _ _).length_eq]
    exact hpaired
  . exact hpaired

theorem iterate_failed (remaining : Nat) (state : LoopState) {error : AgenticLoopError}
    (h : (env.iterate remaining state).outcome = .error error)
    : ∃ messages,
        ((env.iterate remaining state).events.filterMap LoopEvent.requested?).getLast?
            = some messages
          ∧ state.messages.length ≤ messages.length := by
  induction remaining generalizing state with
  | zero => cases h
  | succ remaining ih =>
    rw [iterate] at h ⊢
    cases hstep : (env.step state).outcome with
    | error error' =>
      rw [Traced.events_bind_of_error _ hstep, requested_step]
      exact ⟨_, rfl, env.length_le_prepared state⟩
    | ok result =>
      rw [Traced.outcome_bind_of_ok _ hstep] at h
      rw [Traced.events_bind_of_ok _ hstep, List.filterMap_append, List.getLast?_append]
      cases result with
      | done outcome => cases h
      | «continue» state' =>
        obtain ⟨messages, hlast, hle⟩ := ih state' h
        obtain ⟨added, _, _, hadded⟩ := env.step_adds hstep
        refine ⟨messages, by rw [hlast]; rfl, ?_⟩
        have hprepared := env.length_le_prepared state
        have hlength : state'.messages.length = (env.prepared state).length + added.length := by
          rw [show state'.messages = _ from hadded, List.length_append]
        omega

theorem continueAgenticLoop_messages_ne_nil {messages : List InternalMsg} (hne : messages ≠ [])
    (iterations compactCount : Nat)
    : ∀ outcome, (env.continueAgenticLoop messages iterations compactCount).outcome = .ok outcome
        → outcome.messages ≠ [] := by
  have hstep : ∀ state result, (env.step state).outcome = .ok result → result.messages ≠ [] := by
    intro state result hstep
    obtain ⟨added, hadded, _, hmessages⟩ := env.step_adds hstep
    rw [hmessages]
    exact List.append_ne_nil_of_right_ne_nil _ hadded
  apply iterate_outcome_forall (P := fun state => state.messages ≠ [])
    (Q := fun outcome => outcome.messages ≠ [])
  . exact fun state state' _ hcontinue => hstep state _ hcontinue
  . exact fun state hstate => hstate
  . exact fun state outcome _ hdone => hstep state _ hdone
  . exact hne

section WithoutCompaction

variable (hcompact : env.config.compact = none)

include hcompact

theorem prepared_eq_messages {state : LoopState} (h : NoAssistantToolUseId state.messages)
    : env.prepared state = state.messages := by
  unfold prepared prepareMessages
  dsimp only
  rw [hcompact, ensureToolResultPairing_eq_self h]

theorem iterate_adds {state : LoopState} (h : NoAssistantToolUseId state.messages) (remaining : Nat)
    : ∀ outcome, (env.iterate remaining state).outcome = .ok outcome
        → ∃ added, LoopHistory env.serde added ∧ outcome.messages = state.messages ++ added := by
  have hstep : ∀ later : LoopState,
      (∃ added, LoopHistory env.serde added ∧ later.messages = state.messages ++ added)
      → ∀ result, (env.step later).outcome = .ok result
        → ∃ added, LoopHistory env.serde added ∧ result.messages = state.messages ++ added := by
    rintro later ⟨earlier, hearlier, hlater⟩ result hresult
    have hno : NoAssistantToolUseId later.messages := by
      rw [hlater]
      exact h.append (LoopMsg.noAssistantToolUseId hearlier)
    obtain ⟨added, _, hadded, hmessages⟩ := env.step_adds hresult
    refine ⟨_, hearlier.append hadded, ?_⟩
    rw [hmessages, env.prepared_eq_messages hcompact hno, hlater, List.append_assoc]
  apply iterate_outcome_forall
    (P := fun later =>
      ∃ added, LoopHistory env.serde added ∧ later.messages = state.messages ++ added)
    (Q := fun outcome =>
      ∃ added, LoopHistory env.serde added ∧ outcome.messages = state.messages ++ added)
  . exact fun later later' hlater hcontinue => hstep later hlater _ hcontinue
  . exact fun later hlater => hlater
  . exact fun later outcome hlater hdone => hstep later hlater _ hdone
  . exact ⟨[], fun _ hmem => (List.not_mem_nil hmem).elim, (List.append_nil _).symm⟩

theorem iterate_failed_adds {state : LoopState} (h : NoAssistantToolUseId state.messages)
    (remaining : Nat) {error : AgenticLoopError}
    (herror : (env.iterate remaining state).outcome = .error error)
    : ∃ added,
        ((env.iterate remaining state).events.filterMap LoopEvent.requested?).getLast?
            = some (state.messages ++ added)
          ∧ (added = [] ↔ callCount (env.iterate remaining state).events ≤ 1) := by
  induction remaining generalizing state with
  | zero => cases herror
  | succ remaining ih =>
    have hprepared := env.prepared_eq_messages hcompact h
    rw [iterate] at herror ⊢
    cases hstep : (env.step state).outcome with
    | error error' =>
      rw [Traced.events_bind_of_error _ hstep, requested_step, hprepared, callCount_step]
      exact ⟨[], by rw [List.append_nil]; rfl, iff_of_true rfl (Nat.le_refl 1)⟩
    | ok result =>
      rw [Traced.outcome_bind_of_ok _ hstep] at herror
      rw [Traced.events_bind_of_ok _ hstep, List.filterMap_append, List.getLast?_append,
        callCount_append, callCount_step]
      cases result with
      | done outcome => cases herror
      | «continue» state' =>
        obtain ⟨first, hfirst, hhistory, hmessages⟩ := env.step_adds hstep
        rw [hprepared] at hmessages
        have hno : NoAssistantToolUseId state'.messages := by
          rw [show state'.messages = _ from hmessages]
          exact h.append (LoopMsg.noAssistantToolUseId hhistory)
        obtain ⟨added, hlast, _⟩ := ih hno herror
        refine ⟨first ++ added, ?_, iff_of_false (List.append_ne_nil_of_left_ne_nil hfirst _) ?_⟩
        . dsimp only
          rw [hlast, show state'.messages = _ from hmessages, List.append_assoc]
          rfl
        . have hpos := List.length_pos_of_mem (List.mem_of_getLast? hlast)
          dsimp only
          rw [callCount_eq_length (env.iterate remaining state').events]
          omega

theorem continueAgenticLoop_adds {messages : List InternalMsg} (h : NoAssistantToolUseId messages)
    {iterations compactCount : Nat} {outcome : AgenticLoopOutcome}
    (houtcome : (env.continueAgenticLoop messages iterations compactCount).outcome = .ok outcome)
    : ∃ added, LoopHistory env.serde added ∧ outcome.messages = messages ++ added := by
  exact @iterate_adds env hcompact { messages, iterations, compactCount } h _ outcome houtcome

theorem runAgenticLoop_adds {messages : List InternalMsg} (h : NoAssistantToolUseId messages)
    (hlimit : 0 < env.config.maxIterations) {outcome : AgenticLoopOutcome}
    (houtcome : (env.runAgenticLoop messages).outcome = .ok outcome)
    : ∃ added, added ≠ [] ∧ LoopHistory env.serde added
        ∧ outcome.messages = messages ++ added := by
  unfold runAgenticLoop continueAgenticLoop at houtcome
  obtain ⟨remaining, hremaining⟩ : ∃ remaining, env.config.maxIterations - 0 = remaining + 1 :=
    ⟨env.config.maxIterations - 1, by omega⟩
  rw [hremaining, iterate, Traced.outcome_bind_eq_ok] at houtcome
  obtain ⟨result, hstep, houtcome⟩ := houtcome
  obtain ⟨first, hfirst, hhistory, hmessages⟩ := env.step_adds hstep
  rw [@prepared_eq_messages env hcompact { messages, iterations := 0, compactCount := 0 } h]
    at hmessages
  cases result with
  | done outcome' =>
    cases houtcome
    exact ⟨first, hfirst, hhistory, hmessages⟩
  | «continue» state' =>
    have hno : NoAssistantToolUseId state'.messages := by
      rw [show state'.messages = messages ++ first from hmessages]
      exact h.append (LoopMsg.noAssistantToolUseId hhistory)
    obtain ⟨added, hadded, hall⟩ := env.iterate_adds hcompact hno remaining outcome houtcome
    refine ⟨first ++ added, List.append_ne_nil_of_left_ne_nil hfirst _, hhistory.append hadded, ?_⟩
    rw [hall, ← List.append_assoc]
    exact congrArg (· ++ added) hmessages

end WithoutCompaction

end LoopEnv

end AnimaAgent
