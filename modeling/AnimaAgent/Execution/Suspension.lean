import AnimaAgent.Execution.Lemmas.Answers
import AnimaAgent.Execution.Lemmas.Resume

namespace AnimaAgent

def LoopEvent.response? : LoopEvent → Option ParsedResponse
  | response parsed => some parsed
  | _ => none

def lastResponse (events : List LoopEvent) : Option ParsedResponse :=
  (events.filterMap LoopEvent.response?).getLast?

theorem lastResponse_append_of_some {as bs : List LoopEvent} {parsed : ParsedResponse}
    (h : lastResponse bs = some parsed)
    : lastResponse (as ++ bs) = some parsed := by
  unfold lastResponse at *
  rw [List.filterMap_append, List.getLast?_append, h]
  rfl

namespace LoopEnv

section Suspended

variable (env : LoopEnv)

theorem step_lastResponse {state : LoopState} {parsed : ParsedResponse} {assistant : InternalMsg}
    (h : (env.callProvider state.iterations (env.prepared state)).outcome = .ok (parsed, assistant))
    : lastResponse (env.step state).events = some parsed := by
  obtain ⟨value, hask, rfl⟩ := env.callProvider_eq_ok h
  obtain ⟨events, hact⟩ :=
    env.act_events (env.answered state (buildAssistantMsg (env.uuid state.iterations 0) value)) parsed
  rw [step_eq, Traced.events_bind_of_ok _ h, (env.callProvider_of_ok hask).2, hact]
  have : (events.map LoopEvent.tool).filterMap LoopEvent.response? = [] := by
    rw [List.filterMap_map]
    exact List.filterMap_eq_nil_iff.mpr (fun _ _ => rfl)
  unfold lastResponse
  rw [List.filterMap_append, this]
  rfl

theorem iterate_suspended {remaining : Nat} {state : LoopState}
    {suspension : AgenticLoopSuspension}
    (h : (env.iterate remaining state).outcome = .ok (.suspended suspension))
    : ∃ state' parsed assistant,
        (env.callProvider state'.iterations (env.prepared state')).outcome = .ok (parsed, assistant)
          ∧ (env.runToolUses (env.answered state' assistant) parsed.toolUses).run.1
            = .done (.suspended suspension)
          ∧ lastResponse (env.iterate remaining state).events = some parsed := by
  induction remaining generalizing state with
  | zero => cases h
  | succ remaining ih =>
    rw [iterate, Traced.outcome_bind_eq_ok] at h
    obtain ⟨result, hresult, h⟩ := h
    rw [iterate, Traced.events_bind_of_ok _ hresult]
    cases result with
    | done outcome =>
      cases h
      obtain ⟨parsed, assistant, hcall, ⟨_, hdone⟩ | ⟨_, hdone⟩⟩ := env.step_eq_ok hresult
      . unfold finishOrContinue at hdone
        split at hdone
        . cases hdone
        . cases hdone
      . refine ⟨state, parsed, assistant, hcall, hdone.symm, ?_⟩
        rw [Traced.events_pure, List.append_nil]
        exact env.step_lastResponse hcall
    | «continue» state' =>
      obtain ⟨state'', parsed, assistant, hcall, hdone, hlast⟩ := ih h
      exact ⟨state'', parsed, assistant, hcall, hdone, lastResponse_append_of_some hlast⟩

theorem runToolUses_suspended {state : LoopState} {toolUses : List ParsedToolUse}
    {suspension : AgenticLoopSuspension}
    (h : (env.runToolUses state toolUses).run.1 = .done (.suspended suspension))
    : ∃ done segment rest results,
        env.segments toolUses = done ++ segment :: rest
          ∧ suspension.messages = state.messages ++ results
          ∧ env.SegmentsDo done results
          ∧ ∃ item ∈ segment,
              item.toolUse.id = suspension.suspendedTool.toolUseId ∧ env.Asks item.toolUse := by
  rw [runToolUses_fst] at h
  split at h
  . next messages toolUseId awaiting hrun =>
    cases h
    exact env.runSegments_suspended hrun
  . cases h

theorem resume_eq_ok {uuid : String} {suspension : AgenticLoopSuspension} {allowed : Bool}
    {resumed : List InternalMsg}
    (h : (env.resumeSuspendedToolInvocation uuid suspension allowed).outcome = .ok resumed)
    : ∃ result, resumed = suspension.messages ++ [result]
        ∧ IsResultMsg suspension.suspendedTool.toolUseId result := by
  unfold resumeSuspendedToolInvocation at h
  rw [Traced.outcome_bind_eq_ok] at h
  obtain ⟨_, _, h⟩ := h
  cases h
  exact ⟨_, rfl, isResultMsg_buildToolResultMsg ..⟩

/-- The compaction of the loop, if there is one, preserves a recent turn. -/
def PreservesTurn : Prop :=
  ∀ config, env.config.compact = some config → config.preserveRecentTurns ≠ 0

theorem answeredIds_prepared {state : LoopState} {ids : List String}
    (h : EndsInResults state.messages ids)
    : answeredIds (env.prepared state) = ids := by
  have h := h.ensureToolResultPairing
  unfold prepared prepareMessages
  dsimp only
  split
  . exact h.answeredIds_compacted (compactIfNeeded_forall₂ ..)
  . exact h.answeredIds_compacted (Compacted.forall₂_refl _)

theorem endsInResults_prepared (hpreserve : env.PreservesTurn) {state : LoopState}
    {ids : List String} (h : EndsInResults state.messages ids)
    : EndsInResults (env.prepared state) ids := by
  have h := h.ensureToolResultPairing
  unfold prepared prepareMessages
  dsimp only
  split
  . next config hconfig => exact h.compactIfNeeded env.serde (hpreserve config hconfig)
  . exact h

/-- Only the last tool use of a response asks for a permission, in a segment of its own. -/
def LastAsksAlone (toolUses : List ParsedToolUse) : Prop :=
  ∃ item, (env.segments toolUses).getLast? = some [item]
    ∧ ∀ earlier ∈ (env.segments toolUses).dropLast.flatten, ¬env.Asks earlier.toolUse

theorem lastAsksAlone_of_length_eq_one {toolUses : List ParsedToolUse} (h : toolUses.length = 1)
    : env.LastAsksAlone toolUses := by
  obtain ⟨toolUse, rfl⟩ := List.length_eq_one_iff.mp h
  refine ⟨{ index := 0, toolUse }, rfl, ?_⟩
  intro earlier hmem
  cases hmem

end Suspended

/--
A loop that is suspended, answered and taken up again with at least one iteration left. The resumption
may have other arguments than the loop that was suspended.
-/
structure ResumedRun (env env' : LoopEnv) where
  messages : List InternalMsg
  iterations : Nat
  compactCount : Nat
  suspension : AgenticLoopSuspension
  suspended : (env.continueAgenticLoop messages iterations compactCount).outcome
    = .ok (.suspended suspension)
  parsed : ParsedResponse
  response : lastResponse (env.continueAgenticLoop messages iterations compactCount).events
    = some parsed
  uuid : String
  allowed : Bool
  resumed : List InternalMsg
  answered : (env'.resumeSuspendedToolInvocation uuid suspension allowed).outcome = .ok resumed
  resumedIterations : Nat
  resumedCompactCount : Nat
  belowLimit : resumedIterations < env'.config.maxIterations

namespace ResumedRun

variable {env env' : LoopEnv} (run : ResumedRun env env')

def resumedState : LoopState where
  messages := run.resumed
  iterations := run.resumedIterations
  compactCount := run.resumedCompactCount

def requested : List InternalMsg :=
  env'.prepared run.resumedState

def toolUseIds : List String :=
  run.parsed.toolUses.map ParsedToolUse.id

theorem requested_mem_events
    : ∃ later,
        (env'.continueAgenticLoop run.resumed run.resumedIterations run.resumedCompactCount).events
          = .request run.requested (env'.chatRequest run.requested) :: later := by
  obtain ⟨later, hevents, _⟩ := env'.step_events run.resumedState
  have hlimit : env'.config.maxIterations - run.resumedIterations
      = env'.config.maxIterations - run.resumedIterations - 1 + 1 := by
    have := run.belowLimit
    omega
  unfold continueAgenticLoop
  rw [hlimit, iterate, Traced.events_bind]
  change ∃ later, (env'.step run.resumedState).events ++ _ = _
  rw [hevents]
  exact ⟨_, rfl⟩

theorem resumed_endsInResults
    : ∃ done segment rest ids,
        env.segments run.parsed.toolUses = done ++ segment :: rest
          ∧ ids.Perm (segmentIds done)
          ∧ (∀ item ∈ done.flatten, ¬env.Asks item.toolUse)
          ∧ (∃ item ∈ segment, item.toolUse.id = run.suspension.suspendedTool.toolUseId
            ∧ env.Asks item.toolUse)
          ∧ EndsInResults run.resumed (ids ++ [run.suspension.suspendedTool.toolUseId]) := by
  obtain ⟨state, parsed, assistant, hcall, hdone, hlast⟩ := env.iterate_suspended run.suspended
  have hparsed : parsed = run.parsed := by
    have := hlast.symm.trans run.response
    cases this
    rfl
  subst hparsed
  obtain ⟨value, _, rfl⟩ := env.callProvider_eq_ok hcall
  obtain ⟨done, segment, rest, results, hsegments, hmessages, hdo, hitem⟩ :=
    env.runToolUses_suspended hdone
  obtain ⟨ids, hresults, hids⟩ := hdo.results
  obtain ⟨result, hresumed, hresult⟩ := env'.resume_eq_ok run.answered
  refine ⟨done, segment, rest, ids, hsegments, hids, hdo.noneAsks, hitem, ?_⟩
  refine ⟨env.prepared state, buildAssistantMsg (env.uuid state.iterations 0) value,
    results ++ [result], ?_, rfl, rfl, rfl, List.rel_append hresults (.cons hresult .nil)⟩
  rw [hresumed, hmessages]
  unfold LoopEnv.answered
  dsimp only
  rw [List.append_assoc, List.append_assoc]
  rfl

theorem perm_toolUseIds_iff {done rest : List (List IndexedToolUse)}
    {segment : List IndexedToolUse} {ids : List String} {id : String}
    (hsegments : env.segments run.parsed.toolUses = done ++ segment :: rest)
    (hids : ids.Perm (segmentIds done)) (hasks : ∀ item ∈ done.flatten, ¬env.Asks item.toolUse)
    (hitem : ∃ item ∈ segment, item.toolUse.id = id ∧ env.Asks item.toolUse)
    : (ids ++ [id]).Perm run.toolUseIds ↔ env.LastAsksAlone run.parsed.toolUses := by
  have htoolUseIds : run.toolUseIds
      = segmentIds done ++ (segment.map (fun item => item.toolUse.id) ++ segmentIds rest) := by
    unfold toolUseIds
    rw [← env.segmentIds_segments, hsegments]
    unfold segmentIds
    rw [List.flatten_append, List.flatten_cons, List.map_append, List.map_append]
  obtain ⟨item, hmem, hid, hasksItem⟩ := hitem
  constructor
  . intro h
    -- one result is left for the suspended segment and all that follow
    have hlength := (h.trans (.of_eq htoolUseIds)).length_eq
    rw [List.length_append, List.length_append, List.length_append, hids.length_eq,
      List.length_map, List.length_singleton] at hlength
    have hpos : 0 < segment.length := List.length_pos_of_mem hmem
    have hsegment : segment = [item] := by
      obtain ⟨item', hitem'⟩ := List.length_eq_one_iff.mp (by omega : segment.length = 1)
      rw [hitem', List.mem_singleton] at hmem
      rw [hitem', hmem]
    have hrest : rest = [] := by
      have hnil : segmentIds rest = [] := List.length_eq_zero_iff.mp (by omega)
      unfold segmentIds at hnil
      rw [List.map_eq_nil_iff, List.flatten_eq_nil_iff] at hnil
      rw [List.eq_nil_iff_forall_not_mem]
      intro segment' hmem'
      have hmem : segment' ∈ env.segments run.parsed.toolUses := by
        rw [hsegments]
        exact List.mem_append_right _ (List.mem_cons_of_mem _ hmem')
      exact env.segment_ne_nil hmem (hnil segment' hmem')
    refine ⟨item, ?_, ?_⟩
    . rw [hsegments, hsegment, hrest, List.getLast?_append]
      rfl
    . rw [hsegments, hrest, List.dropLast_concat]
      exact hasks
  . rintro ⟨last, hlast, hearlier⟩
    -- the suspended segment asks, so it cannot stand before the last one
    have hrest : rest = [] := by
      by_contra hne
      refine hearlier item ?_ hasksItem
      rw [hsegments, List.dropLast_append_cons, List.dropLast_cons_of_ne_nil hne,
        List.flatten_append, List.flatten_cons]
      exact List.mem_append_right _ (List.mem_append_left _ hmem)
    rw [hsegments, hrest, List.getLast?_append] at hlast
    cases hlast
    rw [List.mem_singleton] at hmem
    rw [htoolUseIds, hrest, ← hid, hmem]
    exact hids.append (.refl _)

/--
The list of messages of the next request answers each tool use once exactly when only the last tool
use asks, in a segment of its own. The request itself shows these answers as tool results only if
there is a single one.
-/
theorem requested_answersAll_iff
    : (∃ later,
          (env'.continueAgenticLoop run.resumed run.resumedIterations
              run.resumedCompactCount).events
            = .request run.requested (env'.chatRequest run.requested) :: later)
        ∧ ((answeredIds run.requested).Perm run.toolUseIds
          ↔ env.LastAsksAlone run.parsed.toolUses)
        ∧ (env'.PreservesTurn
          → ((env'.chatRequest run.requested).answeredIds.Perm run.toolUseIds
            ↔ run.parsed.toolUses.length = 1)) := by
  obtain ⟨done, segment, rest, ids, hsegments, hids, hasks, hitem, hends⟩ :=
    run.resumed_endsInResults
  have hiff := run.perm_toolUseIds_iff hsegments hids hasks hitem
  refine ⟨run.requested_mem_events, ?_, ?_⟩
  . unfold requested
    rw [env'.answeredIds_prepared hends]
    exact hiff
  . intro hpreserve
    have hends : EndsInResults run.resumedState.messages _ := hends
    have hprepared := env'.endsInResults_prepared hpreserve hends
    unfold requested
    rw [hprepared.answeredIds_chatRequest env' (by simp)]
    have hlength : run.toolUseIds.length = run.parsed.toolUses.length := List.length_map ..
    constructor
    . intro h
      split at h
      . next hone => rw [← hlength, ← h.length_eq, hone]
      . -- without a result in the request there is no tool use, but then there are no segments
        have hnil : run.parsed.toolUses = [] := List.map_eq_nil_iff.mp (List.nil_perm.mp h)
        rw [hnil] at hsegments
        cases done with
        | nil => cases hsegments
        | cons _ _ => cases hsegments
    . intro hone
      have hperm := hiff.mpr (env.lastAsksAlone_of_length_eq_one hone)
      rw [if_pos (by rw [hperm.length_eq, hlength, hone])]
      exact hperm

end ResumedRun

end LoopEnv

def Provider.usesTools (toolUses : List ParsedToolUse) : Provider where
  chat _ _ := .ok
    { content := toolUses.map (fun toolUse => .toolUse toolUse.id toolUse.name toolUse.input)
      stopReason := .toolUse
      usage := none
      raw := .object [("content", .array (toolUses.map (fun toolUse =>
        (ContentBlock.toolUse toolUse.id toolUse.name toolUse.input).toValue)))] }
  chatStream _ _ := .ok []

def askingTwice : LoopEnv :=
  { LoopEnv.withTools [constTool "echo" (.ok (.text "ok"))] with
    provider := .usesTools [bareToolUse "tu_1" "echo", bareToolUse "tu_2" "echo"]
    permissionChecker := some .askAll }

def askingTwiceRun : askingTwice.ResumedRun askingTwice where
  messages := []
  iterations := 0
  compactCount := 0
  suspension := _
  suspended := rfl
  parsed := _
  response := rfl
  uuid := "r"
  allowed := true
  resumed := _
  answered := rfl
  resumedIterations := 0
  resumedCompactCount := 0
  belowLimit := by decide

theorem askingTwiceRun_not_answersAll
    : ¬(answeredIds askingTwiceRun.requested).Perm askingTwiceRun.toolUseIds
        ∧ ¬(askingTwice.chatRequest askingTwiceRun.requested).answeredIds.Perm
            askingTwiceRun.toolUseIds := by
  decide

theorem requested_answersAll_iff_askingTwice
    : askingTwice.PreservesTurn
        ∧ ((askingTwice.chatRequest askingTwiceRun.requested).answeredIds.Perm
            askingTwiceRun.toolUseIds
          ↔ askingTwiceRun.parsed.toolUses.length = 1) := by
  have hpreserve : askingTwice.PreservesTurn := by
    intro config hconfig
    cases hconfig
  exact ⟨hpreserve, askingTwiceRun.requested_answersAll_iff.2.2 hpreserve⟩

end AnimaAgent
