import AnimaAgent.Orchestrator.SettledSubtasks

namespace AnimaAgent

open Dependencies (DependsOn)
open Stages (Stage Step through)
open Writes (lastWrite)

namespace OrchestratorEnvironment

variable (env : OrchestratorEnvironment) (plan : OrchestrationPlan)

def Pauses (result : TaskResult) : Prop :=
  result.blockedReason.isSome = true ∨ env.asksQuestion result.result = true

structure Returns (result returned : TaskResult) : Prop where
  question : env.asksQuestion result.result = true
    → (returned.result.bind (Value.get "question")) = result.result.bind (Value.get "question")
  reason : result.blockedReason.isSome = true → returned.blockedReason = result.blockedReason

/--
A subtask is started when all subtasks that it depends on have succeeded. When the result of a subtask
pauses the plan, no subtask of a later group is started, and the result is returned.
-/
structure OrderKept (events : List OrchestrationEvent) (returned : TaskResult) : Prop where
  needed : ∀ before subtask lowered place after,
    events = before ++ .subtaskStarted subtask lowered place :: after → ∀ dependency,
      DependsOn (dependenciesOf plan.subtasks) subtask.name dependency →
        ∃ subtask' lowered' place' result, .subtaskFinished subtask' lowered' place' result ∈ before
          ∧ subtask'.name = dependency ∧ result.status = "success"
  held : ∀ subtask lowered place result, .subtaskFinished subtask lowered place result ∈ events
    → env.Pauses result → ∀ subtask' lowered' place',
      .subtaskStarted subtask' lowered' place' ∈ events → place'.groupIndex ≤ place.groupIndex
  returned : ∀ subtask lowered place result, .subtaskFinished subtask lowered place result ∈ events
    → env.Pauses result → env.Returns result returned

def Needs (lowered dependency : LoweredTask) : Prop :=
  env.IsLowered plan dependency
    ∧ DependsOn (dependenciesOf plan.subtasks) lowered.name dependency.name

section Results

variable {env plan} {state state' : OrchestrationState} {events : List OrchestrationEvent}

def resultWritten (name : String) : OrchestrationEvent → Option Value
  | .subtaskStarted .. => none
  | .subtaskFinished _ lowered _ result =>
    if name = lowered.name ∧ result.status = "success" then some (resultEntry lowered result) else none

theorem get_subtaskResults_follow (state : OrchestrationState) (event : OrchestrationEvent)
    (name : String)
    : (Value.object (env.follow state event).subtaskResults).get name
        = (resultWritten name event).or ((Value.object state.subtaskResults).get name) := by
  cases event with
  | subtaskStarted => rfl
  | subtaskFinished subtask lowered place result =>
    unfold follow recordResult resultWritten
    dsimp only
    by_cases hsuccess : result.status = "success"
    . rw [if_pos hsuccess]
      by_cases hname : name = lowered.name
      . rw [if_pos ⟨hname, hsuccess⟩, hname]
        exact Value.get_insert_self state.subtaskResults lowered.name _
      . rw [if_neg (fun h => hname h.1)]
        exact Value.get_insert_ne (.object state.subtaskResults) _ (fun h => hname h.symm)
    . rw [if_neg hsuccess, if_neg (fun h => hsuccess h.2)]
      rfl

theorem get_subtaskResults_foldl (events : List OrchestrationEvent) (state : OrchestrationState)
    (name : String)
    : (Value.object (events.foldl env.follow state).subtaskResults).get name
        = (lastWrite (resultWritten name) events).or
          ((Value.object state.subtaskResults).get name) := by
  exact @Writes.read_foldl _ _ _ env.follow
    (fun state => (Value.object state.subtaskResults).get name) _
    (fun state event => get_subtaskResults_follow state event name) events state

theorem events_foldl (events : List OrchestrationEvent) (state : OrchestrationState)
    : (events.foldl env.follow state).events = state.events ++ events := by
  induction events generalizing state with
  | nil => exact (List.append_nil _).symm
  | cons event events ih =>
    rw [List.foldl_cons, ih]
    have hevents : (env.follow state event).events = state.events ++ [event] := by
      cases event with
      | subtaskStarted => rfl
      | subtaskFinished =>
        unfold follow recordResult
        dsimp only
        split
        . rfl
        . rfl
    rw [hevents, List.append_assoc]
    rfl

structure PlanRun (env : OrchestratorEnvironment) (plan : OrchestrationPlan)
    (events : List OrchestrationEvent)
    : Prop where
  fits : ∀ event ∈ events, env.EventFits plan event
  steps : events.map OrchestrationEvent.toStep
    = Stages.run env.endsGroup env.stopsPlan (env.stages plan)

section PlanRun

variable (h : PlanRun env plan events) {subtask subtask' : SubTask} {lowered : LoweredTask}
  {place place' : GroupPlace} {result result' : TaskResult}

include h

theorem PlanRun.result_eq (hmem : .subtaskFinished subtask lowered place result ∈ events)
    (hmem' : .subtaskFinished subtask' lowered place' result' ∈ events)
    : result = result' := by
  have hnodup := @Stages.nodup_finished _ env.endsGroup env.stopsPlan _
    (env.nodup_items plan)
  rw [← h.steps, ← map_fst_finished] at hnodup
  have hfinished : (lowered, result) ∈ events.filterMap OrchestrationEvent.finished? :=
    List.mem_filterMap.mpr ⟨_, hmem, rfl⟩
  have hfinished' : (lowered, result') ∈ events.filterMap OrchestrationEvent.finished? :=
    List.mem_filterMap.mpr ⟨_, hmem', rfl⟩
  exact (Prod.mk.inj (List.inj_on_of_nodup_map hnodup hfinished hfinished' rfl)).2

theorem PlanRun.step_mem (hmem : .subtaskFinished subtask lowered place result ∈ events)
    : .finished place.groupIndex lowered
        ∈ Stages.run env.endsGroup env.stopsPlan (env.stages plan) := by
  rw [← h.steps]
  exact List.mem_map.mpr ⟨_, hmem, rfl⟩

theorem PlanRun.finished_of_written (hlowered : env.IsLowered plan lowered) {entry : Value}
    (hwrite : lastWrite (resultWritten lowered.name) events = some entry)
    : ∃ subtask place result, .subtaskFinished subtask lowered place result ∈ events
        ∧ entry = resultEntry lowered result := by
  obtain ⟨before, event, after, rfl, hwritten, _⟩ := Writes.lastWrite_eq_some hwrite
  have hevent := List.mem_append_right before (@List.mem_cons_self _ event after)
  have hfits := h.fits event hevent
  cases event with
  | subtaskStarted => cases hwritten
  | subtaskFinished subtask other place result =>
    unfold resultWritten at hwritten
    dsimp only at hwritten
    split at hwritten
    . next hboth =>
      cases hwritten
      cases hlowered.eq hfits.2.1 hboth.1
      exact ⟨subtask, place, result, hevent, rfl⟩
    . cases hwritten

theorem PlanRun.written_of_finished (hmem : .subtaskFinished subtask lowered place result ∈ events)
    (hsuccess : result.status = "success")
    : lastWrite (resultWritten lowered.name) events = some (resultEntry lowered result) := by
  have hwritten : resultWritten lowered.name (.subtaskFinished subtask lowered place result)
      = some (resultEntry lowered result) := if_pos ⟨rfl, hsuccess⟩
  cases hwrite : lastWrite (resultWritten lowered.name) events with
  | none =>
    rw [Writes.lastWrite_eq_none_iff.mp hwrite _ hmem] at hwritten
    cases hwritten
  | some entry =>
    obtain ⟨_, _, result', hmem', rfl⟩ := h.finished_of_written (h.fits _ hmem).2.1 hwrite
    rw [h.result_eq hmem hmem']

section Kept

variable {results : Value} {reason : Value}
  (hresults : ∀ name, results.get name = lastWrite (resultWritten name) events)

include hresults

theorem PlanRun.blockedEntry_of_finished
    (hmem : .subtaskFinished subtask lowered place result ∈ events)
    (hsuccess : result.status = "success") (hreason : result.blockedReason = some reason)
    : blockedEntry results lowered = some reason := by
  have hnull := (h.fits _ hmem).2.2.reason
  rw [hreason] at hnull
  unfold blockedEntry
  rw [hresults, h.written_of_finished hmem hsuccess]
  change (some (result.blockedReason.getD .null)).filter (fun reason => reason != .null) = some reason
  rw [hreason, Option.getD_some, Option.filter_some, if_pos]
  simpa using hnull

theorem PlanRun.finished_of_blockedEntry (hlowered : env.IsLowered plan lowered)
    (hentry : blockedEntry results lowered = some reason)
    : ∃ subtask place result, .subtaskFinished subtask lowered place result ∈ events
        ∧ result.blockedReason = some reason := by
  unfold blockedEntry at hentry
  rw [hresults] at hentry
  obtain ⟨entry, hwrite, hentry⟩ := Option.bind_eq_some_iff.mp hentry
  obtain ⟨subtask, place, result, hmem, rfl⟩ := h.finished_of_written hlowered hwrite
  refine ⟨subtask, place, result, hmem, ?_⟩
  change (some (result.blockedReason.getD .null)).filter (fun reason => reason != .null)
    = some reason at hentry
  rw [Option.filter_some] at hentry
  split at hentry
  . next hnull =>
    cases hreason : result.blockedReason with
    | none =>
      rw [hreason] at hnull
      exact absurd hnull (by decide)
    | some other =>
      rw [hreason] at hentry
      exact hentry
  . cases hentry

end Kept

end PlanRun

end Results

section Blocked

theorem firstBlockedReason_insertProgressCounts (plan : OrchestrationPlan)
    (snapshot : RuntimeStateSnapshot) (value : Value)
    : firstBlockedReason (insertProgressCounts plan snapshot value) = firstBlockedReason value := by
  unfold firstBlockedReason insertProgressCounts
  dsimp only
  rw [Value.get_insert_ne _ _ (by decide), Value.get_insert_ne _ _ (by decide),
    Value.get_insert_ne _ _ (by decide), Value.get_insert_ne _ _ (by decide),
    Value.get_insert_ne _ _ (by decide), Value.get_insert_ne _ _ (by decide)]

theorem firstBlockedReason_aggregatedResult (env : OrchestratorEnvironment)
    (plan : OrchestrationPlan) {loweredTasks : List LoweredTask} {results : Value}
    {lowered : LoweredTask} {reason : Value} (hmem : lowered ∈ loweredTasks)
    (hentry : blockedEntry results lowered = some reason)
    (honly : ∀ task ∈ loweredTasks, ∀ other, blockedEntry results task = some other → other = reason)
    : firstBlockedReason (env.aggregatedResult plan loweredTasks results) = some reason := by
  have hblocked : ∃ entry rest, blockedSubtasks loweredTasks results = entry :: rest := by
    apply List.exists_cons_of_ne_nil
    intro hnil
    have hnone := List.filterMap_eq_nil_iff.mp hnil lowered hmem
    rw [hentry] at hnone
    cases hnone
  obtain ⟨entry, rest, hblocked⟩ := hblocked
  have hfirst : entry ∈ blockedSubtasks loweredTasks results := by
    rw [hblocked]
    exact List.mem_cons_self ..
  obtain ⟨task, htask, hvalue⟩ := List.mem_filterMap.mp hfirst
  obtain ⟨other, hother, rfl⟩ := Option.map_eq_some_iff.mp hvalue
  cases honly task htask other hother
  unfold aggregatedResult collectBlockedReasons
  rw [hblocked]
  rfl

theorem get_question_insertPlan (plan : OrchestrationPlan) (loweredTasks : List LoweredTask)
    (value : Value)
    : (insertPlan plan loweredTasks value).get "question" = value.get "question" := by
  unfold insertPlan
  rw [Value.get_insert_ne _ _ (by decide), Value.get_insert_ne _ _ (by decide),
    Value.get_insert_ne _ _ (by decide)]

def returnedResult (env : OrchestratorEnvironment) (plan : OrchestrationPlan)
    (state : OrchestrationState)
    : GroupsEnd → TaskResult
  | .failed result => result
  | .done lastSuccess => env.finalResult plan (env.loweredTasks plan) lastSuccess state

theorem executeOrchestrationPlanImpl_returns (env : OrchestratorEnvironment)
    (plan : OrchestrationPlan) (snapshot : RuntimeStateSnapshot)
    : ∃ events state, PlanRun env plan events
        ∧ (∀ name, (Value.object state.subtaskResults).get name
          = lastWrite (resultWritten name) events)
        ∧ (env.executeOrchestrationPlanImpl plan snapshot).2.events = events
        ∧ (env.executeOrchestrationPlanImpl plan snapshot).1.result
          = env.returnedResult plan state (groupsEnd none events) := by
  obtain ⟨events, state', hleads, hsteps, hend, hfinishes⟩ :=
    executeGroups_runs (fun group => env.groupTasks_spec plan) none nofun (env.startPlan plan snapshot)
  have hevents : state'.events = events := by
    rw [hleads.state, events_foldl]
    rfl
  have hresults : ∀ name, (Value.object state'.subtaskResults).get name
      = lastWrite (resultWritten name) events := by
    intro name
    rw [hleads.state, get_subtaskResults_foldl]
    exact Option.or_none
  unfold executeOrchestrationPlanImpl
  generalize env.executeGroups plan none (env.groupTasks plan) (env.startPlan plan snapshot)
    = outcome at hend hfinishes
  obtain ⟨end_, state⟩ := outcome
  dsimp only at hend hfinishes ⊢
  have hstate : state.events = state'.events ∧ state.subtaskResults = state'.subtaskResults := by
    cases hfinishes with
    | done => exact ⟨rfl, rfl⟩
    | asked => exact ⟨rfl, rfl⟩
    | failed => exact ⟨rfl, rfl⟩
  refine ⟨events, state, ⟨hleads.fits, hsteps⟩, ?_, ?_, ?_⟩
  . rw [hstate.2]
    exact hresults
  . rw [← hevents, ← hstate.1]
    cases end_ with
    | failed => rfl
    | done => rfl
  . rw [← hend]
    cases end_ with
    | failed => rfl
    | done => rfl

end Blocked

section Order

variable {env : OrchestratorEnvironment} {plan : OrchestrationPlan}
  {events : List OrchestrationEvent} {lowered : LoweredTask} {result : TaskResult}

theorem Fits.endsGroup_of_pauses (h : env.Fits lowered result) (hpauses : env.Pauses result)
    : env.endsGroup lowered = true ∧ result.status = "success" := by
  unfold Pauses at hpauses
  rw [h.blocked, h.asks] at hpauses
  have hanswer : (env.answer lowered).isSome = true := by
    cases hanswer : env.answer lowered with
    | some value => rfl
    | none =>
      unfold isBlocked OrchestratorEnvironment.asks asksQuestion detectPendingQuestion at hpauses
      rw [hanswer] at hpauses
      simp at hpauses
  constructor
  . unfold endsGroup
    obtain hblocked | hasks := hpauses
    . rw [hblocked, Bool.or_true, Bool.true_or]
    . rw [hasks, Bool.or_true]
  . apply h.succeeds.mpr
    unfold OrchestratorEnvironment.succeeds
    have hprimitive : lowered.primitive = .apiCall := by
      by_contra hprimitive
      rw [env.answer_eq_none lowered hprimitive] at hanswer
      cases hanswer
    cases hsubmission : env.submission lowered.name with
    | executed => simp [hprimitive, hanswer]
    | refused => simp [answer, hsubmission] at hanswer
    | closed => simp [answer, hsubmission] at hanswer

theorem PlanRun.lastFinished_eq (h : PlanRun env plan events)
    (horderly : Stages.Orderly env.endsGroup env.stopsPlan (env.Needs plan) (env.stages plan))
    {subtask : SubTask} {place : GroupPlace}
    (hmem : .subtaskFinished subtask lowered place result ∈ events) (hpauses : env.Pauses result)
    : lastFinished events = some (lowered, result) := by
  have hfits := (h.fits _ hmem).2.2
  have hlast := horderly.getLast?_of_ends (h.step_mem hmem) (hfits.endsGroup_of_pauses hpauses).1
  rw [← h.steps, ← map_fst_lastFinished] at hlast
  obtain ⟨⟨other, result'⟩, hfinished, rfl⟩ := Option.map_eq_some_iff.mp hlast
  rw [hfinished]
  obtain ⟨event, hevent, hentry⟩ := List.mem_filterMap.mp (List.mem_of_getLast? hfinished)
  cases event with
  | subtaskStarted => cases hentry
  | subtaskFinished subtask' other' place' result'' =>
    cases hentry
    rw [h.result_eq hmem hevent]

theorem PlanRun.returns (h : PlanRun env plan events)
    (horderly : Stages.Orderly env.endsGroup env.stopsPlan (env.Needs plan) (env.stages plan))
    {subtask : SubTask} {place : GroupPlace}
    (hmem : .subtaskFinished subtask lowered place result ∈ events) (hpauses : env.Pauses result)
    {state : OrchestrationState}
    (hresults : ∀ name, (Value.object state.subtaskResults).get name
      = lastWrite (resultWritten name) events)
    : env.Returns result (env.returnedResult plan state (groupsEnd none events)) := by
  have hfits := (h.fits _ hmem).2
  have hsuccess := (hfits.2.endsGroup_of_pauses hpauses).2
  have hlast := h.lastFinished_eq horderly hmem hpauses
  have hend : groupsEnd none events = .done (some result) := by
    unfold groupsEnd
    rw [hlast]
    exact if_pos hsuccess
  rw [hend]
  unfold returnedResult finalResult
  cases hasks : env.asksQuestion result.result with
  | true =>
    have hfilter : (some result).filter (fun result => env.asksQuestion result.result)
        = some result := by
      simp [hasks]
    dsimp only
    rw [hfilter, Option.getD_some]
    constructor
    . intro _
      dsimp only
      cases result.result with
      | none => rfl
      | some value => exact get_question_insertPlan plan _ value
    . exact fun _ => rfl
  | false =>
    have hblocked := hpauses.resolve_right (by simp [hasks])
    obtain ⟨reason, hreason⟩ := Option.isSome_iff_exists.mp hblocked
    have hfilter : (some result).filter (fun result => env.asksQuestion result.result) = none := by
      simp [hasks]
    dsimp only
    rw [hfilter, Option.getD_none]
    refine ⟨fun hasks' => absurd hasks' (by simp [hasks]), fun _ => ?_⟩
    dsimp only [buildOrchestrationFinalResult]
    rw [firstBlockedReason_insertProgressCounts, hreason]
    apply firstBlockedReason_aggregatedResult env plan ((env.mem_loweredTasks_iff plan).mpr hfits.1)
    . exact h.blockedEntry_of_finished hresults hmem hsuccess hreason
    . intro task htask other hother
      obtain ⟨subtask', place', result', hmem', hother⟩ :=
        h.finished_of_blockedEntry hresults ((env.mem_loweredTasks_iff plan).mp htask) hother
      have hpauses' : env.Pauses result' := .inl (by rw [hother]; rfl)
      have hlast' := h.lastFinished_eq horderly hmem' hpauses'
      rw [hlast] at hlast'
      cases hlast'
      rw [hreason] at hother
      exact (Option.some.inj hother).symm

theorem name_of_fits {subtask : SubTask} (hget : plan.subtasks.get lowered.name = some subtask)
    : subtask.name = lowered.name := by
  exact plan.named lowered.name subtask hget

theorem PlanRun.inOrder (h : PlanRun env plan events) {returned : TaskResult}
    (hkept : env.OrderKept plan events returned)
    : Stages.InOrder env.endsGroup env.stopsPlan (env.Needs plan) (env.stages plan) := by
  constructor
  . intro before i task after hrun dependency hneeds
    rw [← h.steps] at hrun
    obtain ⟨earlier, rest, rfl, rfl, hrest⟩ := List.map_eq_append_iff.mp hrun
    obtain ⟨event, later, rfl, hstep, _⟩ := List.map_eq_cons_iff.mp hrest
    have hfits := h.fits event (List.mem_append_right _ (List.mem_cons_self ..))
    cases event with
    | subtaskFinished => cases hstep
    | subtaskStarted subtask other place =>
      obtain ⟨_, rfl⟩ := Step.started.inj hstep
      obtain ⟨hdependency, hdepends⟩ := hneeds
      rw [← name_of_fits hfits.1] at hdepends
      obtain ⟨subtask', other', place', result, hmem, hname, _⟩ :=
        hkept.needed earlier subtask other place later rfl _ hdepends
      have hfits' := h.fits _ (List.mem_append_left _ hmem)
      rw [name_of_fits hfits'.1] at hname
      rw [hdependency.eq hfits'.2.1 hname.symm]
      exact ⟨place'.groupIndex, List.mem_map.mpr ⟨_, hmem, rfl⟩⟩
  . intro i task j other hfinished hends hstarted
    cases hstop : env.stopsPlan task with
    | true =>
      exact Stages.index_le_of_stops env.endsGroup_of_stopsPlan (env.pairwise_index plan) hfinished
        hstop hstarted
    | false =>
      rw [← h.steps] at hfinished hstarted
      obtain ⟨event, hmem, hstep⟩ := List.mem_map.mp hfinished
      obtain ⟨event', hmem', hstep'⟩ := List.mem_map.mp hstarted
      cases event with
      | subtaskStarted => cases hstep
      | subtaskFinished subtask lowered place result =>
        cases event' with
        | subtaskFinished => cases hstep'
        | subtaskStarted subtask' lowered' place' =>
          obtain ⟨rfl, rfl⟩ := Step.finished.inj hstep
          obtain ⟨rfl, rfl⟩ := Step.started.inj hstep'
          have hfits := (h.fits _ hmem).2.2
          have hpauses : env.Pauses result := by
            unfold stopsPlan at hstop
            unfold endsGroup at hends
            rw [Bool.or_eq_false_iff] at hstop
            rw [hstop.1, hstop.2, Bool.false_or, Bool.or_false] at hends
            exact .inl (hfits.blocked.trans hends)
          exact hkept.held _ _ _ _ hmem hpauses _ _ _ hmem'

theorem PlanRun.orderKept (h : PlanRun env plan events)
    (horderly : Stages.Orderly env.endsGroup env.stopsPlan (env.Needs plan) (env.stages plan))
    {state : OrchestrationState}
    (hresults : ∀ name, (Value.object state.subtaskResults).get name
      = lastWrite (resultWritten name) events)
    : env.OrderKept plan events (env.returnedResult plan state (groupsEnd none events)) := by
  have hinOrder := Stages.inOrder_of_orderly (env.pairwise_index plan) horderly
  constructor
  . intro before subtask task place after hevents dependency hdepends
    have hrun := h.steps
    rw [hevents, List.map_append, List.map_cons] at hrun
    have hfits := h.fits (.subtaskStarted subtask task place)
      (by rw [hevents]; exact List.mem_append_right _ (List.mem_cons_self ..))
    obtain ⟨_, _, _, hknown⟩ := id hdepends
    obtain ⟨needed, hget⟩ := IndexMap.mem_keys_iff.mp (isSome_dependenciesOf_iff.mp hknown)
    have hneeded : (env.lowerSubtask plan needed).name = dependency :=
      plan.named dependency needed hget
    have hneeds : env.Needs plan task (env.lowerSubtask plan needed) := by
      refine ⟨env.isLowered_lowerSubtask plan hget, ?_⟩
      rw [hneeded, ← name_of_fits hfits.1]
      exact hdepends
    obtain ⟨j, hj⟩ := hinOrder.needed _ _ _ _ hrun.symm _ hneeds
    have hstop := Stages.stops_of_finished_before env.endsGroup_of_stopsPlan hrun.symm hj
    obtain ⟨event, hmem, hstep⟩ := List.mem_map.mp hj
    have hmem' : event ∈ events := by
      rw [hevents]
      exact List.mem_append_left _ hmem
    have hfits' := h.fits event hmem'
    cases event with
    | subtaskStarted => cases hstep
    | subtaskFinished subtask' other place' result =>
      obtain ⟨_, rfl⟩ := Step.finished.inj hstep
      refine ⟨subtask', _, place', result, hmem, ?_, ?_⟩
      . rw [name_of_fits hfits'.1]
        exact hneeded
      . by_contra hfailed
        have hstops := hfits'.2.2.stopsPlan_iff.mpr (.inl hfailed)
        rw [hstop] at hstops
        cases hstops
  . intro subtask task place result hmem hpauses subtask' task' place' hmem'
    have hfits := (h.fits _ hmem).2.2
    refine hinOrder.held place.groupIndex task place'.groupIndex task' (h.step_mem hmem)
      (hfits.endsGroup_of_pauses hpauses).1 ?_
    rw [← h.steps]
    exact List.mem_map.mpr ⟨_, hmem', rfl⟩
  . exact fun subtask task place result hmem hpauses => h.returns horderly hmem hpauses hresults

/--
The order is kept exactly if, as long as no task has ended its group, each task that is started depends
only on tasks of earlier groups and, in a serial group, on tasks in front of it, and a blocked task that
does not ask a question is in the last group.
-/
theorem executeOrchestrationPlanImpl_orderKept_iff (env : OrchestratorEnvironment)
    (plan : OrchestrationPlan) (snapshot : RuntimeStateSnapshot)
    : env.OrderKept plan (env.executeOrchestrationPlanImpl plan snapshot).2.events
          (env.executeOrchestrationPlanImpl plan snapshot).1.result
        ↔ Stages.Orderly env.endsGroup env.stopsPlan (env.Needs plan) (env.stages plan) := by
  obtain ⟨events, state, hrun, hresults, hevents, hreturned⟩ :=
    executeOrchestrationPlanImpl_returns env plan snapshot
  rw [hevents, hreturned]
  constructor
  . intro hkept
    exact Stages.orderly_of_inOrder env.endsGroup_of_stopsPlan (env.pairwise_index plan)
      (fun s => env.items_ne_nil plan) (hrun.inOrder hkept)
  . exact fun horderly => hrun.orderKept horderly hresults

def isBlockedIn (groupIndex : Nat) : OrchestrationEvent → Bool
  | .subtaskStarted .. => false
  | .subtaskFinished _ _ place result => place.groupIndex == groupIndex && result.blockedReason.isSome

def isStartedIn (groupIndex : Nat) : OrchestrationEvent → Bool
  | .subtaskStarted _ _ place => place.groupIndex == groupIndex
  | .subtaskFinished .. => false

def deployment : OrchestrationPlan :=
  decomposeTask "deploy the web app" "trace_1" "job_1" (fun i => "id_" ++ toString i) 0
    (some [{ name := "deploy", taskType := "backend" },
      { name := "verify", taskType := "testing", dependencies := ["deploy"] }])

theorem deployment_not_orderKept
    : ¬(answering (.ok (.object [("blocked_reason", .string "missing_context")]))).OrderKept deployment
        ((answering (.ok (.object [("blocked_reason",
          .string "missing_context")]))).executeOrchestrationPlanImpl deployment {}).2.events
        ((answering (.ok (.object [("blocked_reason",
          .string "missing_context")]))).executeOrchestrationPlanImpl deployment {}).1.result := by
  intro h
  have hblocked : ((answering (.ok (.object [("blocked_reason",
      .string "missing_context")]))).executeOrchestrationPlanImpl deployment {}).2.events.any
        (isBlockedIn 0) = true := by
    decide +kernel
  have hstarted : ((answering (.ok (.object [("blocked_reason",
      .string "missing_context")]))).executeOrchestrationPlanImpl deployment {}).2.events.any
        (isStartedIn 1) = true := by
    decide +kernel
  obtain ⟨event, hmem, hblocked⟩ := List.any_eq_true.mp hblocked
  obtain ⟨event', hmem', hstarted⟩ := List.any_eq_true.mp hstarted
  cases event with
  | subtaskStarted => cases hblocked
  | subtaskFinished subtask lowered place result =>
    cases event' with
    | subtaskFinished => cases hstarted
    | subtaskStarted subtask' lowered' place' =>
      obtain ⟨hfirst, hreason⟩ := Bool.and_eq_true_iff.mp hblocked
      have hle := h.held _ _ _ _ hmem (.inl hreason) _ _ _ hmem'
      rw [beq_iff_eq.mp hfirst, beq_iff_eq.mp hstarted] at hle
      exact absurd hle (by decide)

end Order

end OrchestratorEnvironment

end AnimaAgent
