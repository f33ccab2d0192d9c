import AnimaAgent.Library.Stages
import AnimaAgent.Orchestrator.FinalResult

namespace AnimaAgent

open Stages (Stage Step through)

namespace OrchestrationEvent

def toStep : OrchestrationEvent → Step LoweredTask
  | subtaskStarted _ lowered place => .started place.groupIndex lowered
  | subtaskFinished _ lowered place _ => .finished place.groupIndex lowered

def finished? : OrchestrationEvent → Option (LoweredTask × TaskResult)
  | subtaskStarted .. => none
  | subtaskFinished _ lowered _ result => some (lowered, result)

end OrchestrationEvent

def lastFinished (events : List OrchestrationEvent) : Option (LoweredTask × TaskResult) :=
  (events.filterMap OrchestrationEvent.finished?).getLast?

theorem lastFinished_append (events events' : List OrchestrationEvent)
    : lastFinished (events ++ events') = (lastFinished events').or (lastFinished events) := by
  unfold lastFinished
  rw [List.filterMap_append, List.getLast?_append]

theorem lastFinished_cons_started (subtask : SubTask) (lowered : LoweredTask) (place : GroupPlace)
    (events : List OrchestrationEvent)
    : lastFinished (.subtaskStarted subtask lowered place :: events) = lastFinished events := by
  rfl

theorem lastFinished_cons_finished (subtask : SubTask) (lowered : LoweredTask) (place : GroupPlace)
    (result : TaskResult) (events : List OrchestrationEvent)
    : lastFinished (.subtaskFinished subtask lowered place result :: events)
        = (lastFinished events).or (some (lowered, result)) := by
  exact lastFinished_append [.subtaskFinished subtask lowered place result] events

theorem map_fst_finished (events : List OrchestrationEvent)
    : (events.filterMap OrchestrationEvent.finished?).map Prod.fst
        = (events.map OrchestrationEvent.toStep).filterMap Step.finished? := by
  rw [List.filterMap_map, List.map_filterMap]
  congr 1
  funext event
  cases event with
  | subtaskStarted => rfl
  | subtaskFinished => rfl

theorem map_fst_lastFinished {events : List OrchestrationEvent}
    : (lastFinished events).map Prod.fst
        = ((events.map OrchestrationEvent.toStep).filterMap Step.finished?).getLast? := by
  unfold lastFinished
  rw [← List.getLast?_map, map_fst_finished]

namespace OrchestratorEnvironment

variable (env : OrchestratorEnvironment) (plan : OrchestrationPlan)

section Outcome

variable (lowered : LoweredTask)

def answer : Option Value :=
  match env.submission lowered.name, lowered.primitive with
  | .executed .., .apiCall => (env.executeTask .apiCall lowered.task.payload).toOption
  | _, _ => none

def succeeds : Bool :=
  match env.submission lowered.name, lowered.primitive with
  | .executed .., .apiCall => (env.answer lowered).isSome
  | .executed .., _ => true
  | _, _ => false

def isBlocked : Bool :=
  ((env.answer lowered).bind (Value.get "blocked_reason")).any (fun reason => reason != .null)

def asks : Bool :=
  env.asksQuestion (env.answer lowered)

def endsGroup : Bool :=
  !env.succeeds lowered || env.isBlocked lowered || env.asks lowered

/-- No group follows the group of which the task is the last one. -/
def stopsPlan : Bool :=
  !env.succeeds lowered || env.asks lowered

theorem endsGroup_of_stopsPlan (h : env.stopsPlan lowered = true) : env.endsGroup lowered = true := by
  unfold stopsPlan at h
  unfold endsGroup
  rw [Bool.or_eq_true] at h
  obtain h | h := h
  . rw [h]
    rfl
  . rw [h, Bool.or_true]

theorem answer_eq_none (h : lowered.primitive ≠ .apiCall) : env.answer lowered = none := by
  unfold answer
  split
  . next heq => exact absurd heq h
  . rfl

theorem primitive_of_asks (h : env.asks lowered = true) : lowered.primitive = .apiCall := by
  by_contra hprimitive
  unfold asks at h
  rw [env.answer_eq_none lowered hprimitive] at h
  cases h

theorem endsGroup_eq_not_succeeds (h : lowered.primitive ≠ .apiCall)
    : env.endsGroup lowered = !env.succeeds lowered := by
  unfold endsGroup isBlocked asks
  rw [env.answer_eq_none lowered h]
  simp [asksQuestion, detectPendingQuestion]

end Outcome

def IsLowered (lowered : LoweredTask) : Prop :=
  ∃ subtask, plan.subtasks.get lowered.name = some subtask ∧ lowered = env.lowerSubtask plan subtask

section Submit

variable {env plan} {lowered : LoweredTask} (h : env.IsLowered plan lowered)

theorem asksQuestion_of_get_eq_none {value : Value} (h : value.get "question" = none)
    : env.asksQuestion (some value) = false := by
  unfold asksQuestion detectPendingQuestion
  simp [h]

def givenValue (env : OrchestratorEnvironment) (plan : OrchestrationPlan) (lowered : LoweredTask)
    (state : OrchestrationState)
    : Value :=
  match lowered.primitive with
  | .query => .string env.request
  | _ => env.transformData plan lowered state

theorem executeTask_prepared_eq (h : env.IsLowered plan lowered)
    (hprimitive : lowered.primitive ≠ .apiCall) (state : OrchestrationState)
    : env.executeTask lowered.primitive (env.prepareLoweredTask plan lowered state).payload
        = .ok (givenValue env plan lowered state) := by
  obtain ⟨subtask, _, rfl⟩ := h
  unfold prepareLoweredTask givenValue
  cases hcase : (env.lowerSubtask plan subtask).primitive with
  | apiCall => exact absurd hcase hprimitive
  | query =>
    have hpayload : (env.lowerSubtask plan subtask).task.payload
        = env.subtaskPayload plan .query subtask := by
      exact congrArg (fun primitive => env.subtaskPayload plan primitive subtask) hcase
    dsimp only
    unfold executeTask
    rw [hpayload, Value.get_insert_ne _ _ (by decide), subtaskPayload, Value.get_insert_self]
    rfl
  | transform =>
    have hpayload : (env.lowerSubtask plan subtask).task.payload
        = env.subtaskPayload plan .transform subtask := by
      exact congrArg (fun primitive => env.subtaskPayload plan primitive subtask) hcase
    dsimp only
    unfold executeTask
    rw [hpayload, subtaskPayload, Value.get_insert_self]

theorem executeTask_prepared (h : env.IsLowered plan lowered) (hprimitive : lowered.primitive ≠ .apiCall)
    (state : OrchestrationState)
    : ∃ value, env.executeTask lowered.primitive
          (env.prepareLoweredTask plan lowered state).payload = .ok value
        ∧ value.get "question" = none ∧ value.get "blocked_reason" = none := by
  refine ⟨_, executeTask_prepared_eq h hprimitive state, ?_⟩
  unfold givenValue
  split
  . exact ⟨rfl, rfl⟩
  . exact ⟨rfl, rfl⟩

structure Fits (env : OrchestratorEnvironment) (lowered : LoweredTask) (result : TaskResult)
    : Prop where
  succeeds : result.status = "success" ↔ env.succeeds lowered = true
  blocked : result.blockedReason.isSome = env.isBlocked lowered
  asks : env.asksQuestion result.result = env.asks lowered
  reason : result.blockedReason ≠ some .null

theorem fits_submitTask (h : env.IsLowered plan lowered) (state : OrchestrationState)
    : env.Fits lowered (env.submitTask lowered (env.prepareLoweredTask plan lowered state)) := by
  have hnone : env.asksQuestion none = false := rfl
  cases hsubmission : env.submission lowered.name with
  | refused =>
    constructor
    . simp [submitTask, succeeds, hsubmission]
    . simp [submitTask, isBlocked, answer, hsubmission]
    . simp [submitTask, asks, answer, hsubmission]
    . simp [submitTask, hsubmission]
  | closed =>
    constructor
    . simp [submitTask, succeeds, hsubmission]
    . simp [submitTask, isBlocked, answer, hsubmission]
    . simp [submitTask, asks, answer, hsubmission]
    . simp [submitTask, hsubmission]
  | executed workerId durationMs =>
    by_cases hprimitive : lowered.primitive = .apiCall
    . have htask : (env.prepareLoweredTask plan lowered state) = lowered.task := by
        unfold prepareLoweredTask
        rw [hprimitive]
      have hanswer : env.answer lowered
          = (env.executeTask .apiCall lowered.task.payload).toOption := by
        simp [answer, hsubmission, hprimitive]
      have hsucceeds : env.succeeds lowered = (env.answer lowered).isSome := by
        simp [succeeds, hsubmission, hprimitive]
      rw [htask]
      cases hexecute : env.executeTask .apiCall lowered.task.payload with
      | error error =>
        rw [hexecute] at hanswer
        constructor
        . simp [submitTask, hsubmission, hprimitive, hexecute, hsucceeds, hanswer, Except.toOption]
        . simp [submitTask, hsubmission, hprimitive, hexecute, isBlocked, hanswer, Except.toOption]
        . simp [submitTask, hsubmission, hprimitive, hexecute, asks, hanswer, Except.toOption]
        . simp [submitTask, hsubmission, hprimitive, hexecute]
      | ok value =>
        rw [hexecute] at hanswer
        constructor
        . simp [submitTask, hsubmission, hprimitive, hexecute, hsucceeds, hanswer, Except.toOption]
        . simp [submitTask, hsubmission, hprimitive, hexecute, isBlocked, hanswer, Except.toOption]
        . simp [submitTask, hsubmission, hprimitive, hexecute, asks, hanswer, Except.toOption]
        . simp [submitTask, hsubmission, hprimitive, hexecute]
    . obtain ⟨value, hexecute, hquestion, hblocked⟩ := executeTask_prepared h hprimitive state
      have hanswer := env.answer_eq_none lowered hprimitive
      constructor
      . simp [submitTask, hsubmission, hexecute, succeeds]
      . simp [submitTask, hsubmission, hexecute, isBlocked, hanswer, hblocked]
      . simp [submitTask, hsubmission, hexecute, asks, hanswer, hnone,
          asksQuestion_of_get_eq_none hquestion]
      . simp [submitTask, hsubmission, hexecute, hblocked]

end Submit

def follow (state : OrchestrationState) : OrchestrationEvent → OrchestrationState
  | .subtaskStarted subtask lowered place => env.markSubtaskStarted subtask lowered place state
  | .subtaskFinished subtask lowered place result =>
    env.recordResult subtask lowered place result state

def EventFits : OrchestrationEvent → Prop
  | .subtaskStarted subtask lowered _ =>
    plan.subtasks.get lowered.name = some subtask ∧ env.IsLowered plan lowered
  | .subtaskFinished subtask lowered _ result =>
    plan.subtasks.get lowered.name = some subtask ∧ env.IsLowered plan lowered
      ∧ env.Fits lowered result

structure Leads (state : OrchestrationState) (events : List OrchestrationEvent)
    (state' : OrchestrationState)
    : Prop where
  state : state' = events.foldl env.follow state
  fits : ∀ event ∈ events, env.EventFits plan event

section Groups

variable {env plan} {group : List LoweredTask} {place : GroupPlace}
  {state state' state'' : OrchestrationState} {events events' : List OrchestrationEvent}

theorem Leads.refl (state : OrchestrationState) : env.Leads plan state [] state := by
  exact ⟨rfl, fun _ hmem => absurd hmem List.not_mem_nil⟩

theorem Leads.append (h : env.Leads plan state events state')
    (h' : env.Leads plan state' events' state'')
    : env.Leads plan state (events ++ events') state'' := by
  constructor
  . rw [List.foldl_append, ← h.state]
    exact h'.state
  . intro event hmem
    obtain hmem | hmem := List.mem_append.mp hmem
    . exact h.fits event hmem
    . exact h'.fits event hmem

theorem Leads.cons {event : OrchestrationEvent} (hfits : env.EventFits plan event)
    (h : env.Leads plan (env.follow state event) events state')
    : env.Leads plan state (event :: events) state' := by
  constructor
  . exact h.state
  . intro other hmem
    obtain rfl | hmem := List.mem_cons.mp hmem
    . exact hfits
    . exact h.fits other hmem

def GroupRuns (env : OrchestratorEnvironment) (plan : OrchestrationPlan)
    (lastSuccess : Option TaskResult) (steps : List (Step LoweredTask)) (state : OrchestrationState)
    (outcome : Option TaskResult × OrchestrationState)
    : Prop :=
  ∃ events, env.Leads plan state events outcome.2 ∧ events.map OrchestrationEvent.toStep = steps
    ∧ outcome.1 = ((lastFinished events).map Prod.snd).or lastSuccess

theorem executeGroupSerial_runs (hgroup : ∀ lowered ∈ group, env.IsLowered plan lowered)
    (lastSuccess : Option TaskResult) (state : OrchestrationState)
    : GroupRuns env plan lastSuccess
        ((through env.endsGroup group).flatMap
          (fun task => [.started place.groupIndex task, .finished place.groupIndex task]))
        state (env.executeGroupSerial plan place lastSuccess group state) := by
  induction group generalizing lastSuccess state with
  | nil => exact ⟨[], Leads.refl state, rfl, rfl⟩
  | cons lowered group ih =>
    have hlowered := hgroup lowered (List.mem_cons_self ..)
    have hrest := fun task hmem => hgroup task (List.mem_cons_of_mem lowered hmem)
    obtain ⟨subtask, hget, _⟩ := id hlowered
    have hfits := fits_submitTask hlowered state
    unfold executeGroupSerial executeLoweredSubtask
    rw [hget]
    dsimp only
    generalize env.submitTask lowered (env.prepareLoweredTask plan lowered state) = result at hfits ⊢
    have hstarted : env.EventFits plan (.subtaskStarted subtask lowered place) := ⟨hget, hlowered⟩
    have hfinished : env.EventFits plan (.subtaskFinished subtask lowered place result) :=
      ⟨hget, hlowered, hfits⟩
    have hends : env.endsGroup lowered = true
        ↔ ¬result.status = "success" ∨ result.blockedReason.isSome = true
          ∨ env.asksQuestion result.result = true := by
      unfold endsGroup
      rw [hfits.blocked, hfits.asks, hfits.succeeds]
      simp [or_assoc]
    have hstop : env.endsGroup lowered = true
        → GroupRuns env plan lastSuccess ((through env.endsGroup (lowered :: group)).flatMap
            (fun task => [.started place.groupIndex task, .finished place.groupIndex task]))
            state (some result, env.recordResult subtask lowered place result
              (env.markSubtaskStarted subtask lowered place state)) := by
      intro h
      rw [Stages.through_cons_of_pos _ h]
      exact ⟨[.subtaskStarted subtask lowered place, .subtaskFinished subtask lowered place result],
        (Leads.refl _).cons hfinished |>.cons hstarted, rfl, rfl⟩
    cases h : env.endsGroup lowered with
    | true =>
      split
      . next hsuccess =>
        split
        . exact hstop h
        . next hblocked =>
          have hasks := ((hends.mp h).resolve_left (not_not.mpr hsuccess)).resolve_left hblocked
          have hprimitive := env.primitive_of_asks lowered (hfits.asks ▸ hasks)
          rw [if_pos ⟨hprimitive, hasks⟩]
          exact hstop h
      . exact hstop h
    | false =>
      have hneither := mt hends.mpr (by simp [h])
      simp only [not_or, not_not] at hneither
      obtain ⟨hsuccess, hblocked, hasks⟩ := hneither
      rw [if_pos hsuccess, if_neg hblocked, if_neg (fun hboth => hasks hboth.2)]
      obtain ⟨events, hleads, hsteps, hlast⟩ := ih hrest (some result)
        (env.recordResult subtask lowered place result
          (env.markSubtaskStarted subtask lowered place state))
      refine ⟨.subtaskStarted subtask lowered place
        :: .subtaskFinished subtask lowered place result :: events,
        (hleads.cons hfinished).cons hstarted, ?_, ?_⟩
      . rw [Stages.through_cons_of_neg _ h, List.flatMap_cons, ← hsteps]
        rfl
      . rw [hlast, lastFinished_cons_started, lastFinished_cons_finished, Option.map_or,
          Option.or_assoc]
        rfl

theorem submitGroup_spec (hgroup : ∀ lowered ∈ group, env.IsLowered plan lowered)
    (state : OrchestrationState)
    : ∃ events, env.Leads plan state events (env.submitGroup plan place group state).2
        ∧ events.map OrchestrationEvent.toStep = group.map (Step.started place.groupIndex)
        ∧ (env.submitGroup plan place group state).1.map Prod.fst = group
        ∧ ∀ entry ∈ (env.submitGroup plan place group state).1, env.Fits entry.1 entry.2 := by
  induction group generalizing state with
  | nil => exact ⟨[], .refl state, rfl, rfl, fun _ hmem => absurd hmem List.not_mem_nil⟩
  | cons lowered group ih =>
    have hlowered := hgroup lowered (List.mem_cons_self ..)
    have hrest := fun task hmem => hgroup task (List.mem_cons_of_mem lowered hmem)
    obtain ⟨subtask, hget, _⟩ := id hlowered
    have hfits := fits_submitTask hlowered state
    obtain ⟨events, hleads, hsteps, hfst, hall⟩ :=
      ih hrest (env.markSubtaskStarted subtask lowered place state)
    unfold submitGroup
    rw [hget]
    dsimp only
    refine ⟨.subtaskStarted subtask lowered place :: events, hleads.cons ⟨hget, hlowered⟩, ?_, ?_, ?_⟩
    . rw [List.map_cons, hsteps]
      rfl
    . rw [List.map_cons, hfst]
    . intro entry hmem
      obtain rfl | hmem := List.mem_cons.mp hmem
      . exact hfits
      . exact hall entry hmem

theorem receiveGroup_runs {receivers : List (LoweredTask × TaskResult)}
    (hreceivers : ∀ entry ∈ receivers, env.IsLowered plan entry.1 ∧ env.Fits entry.1 entry.2
      ∧ entry.1.primitive ≠ .apiCall)
    (lastSuccess : Option TaskResult) (state : OrchestrationState)
    : GroupRuns env plan lastSuccess
        ((through env.endsGroup (receivers.map Prod.fst)).map (Step.finished place.groupIndex))
        state (env.receiveGroup plan place lastSuccess receivers state) := by
  induction receivers generalizing lastSuccess state with
  | nil => exact ⟨[], Leads.refl state, rfl, rfl⟩
  | cons entry receivers ih =>
    obtain ⟨lowered, result⟩ := entry
    obtain ⟨hlowered, hfits, hprimitive⟩ := hreceivers (lowered, result) (List.mem_cons_self ..)
    have hrest := fun entry hmem => hreceivers entry (List.mem_cons_of_mem (lowered, result) hmem)
    obtain ⟨subtask, hget, _⟩ := id hlowered
    unfold receiveGroup
    rw [hget, List.map_cons]
    dsimp only
    have hfinished : env.EventFits plan (.subtaskFinished subtask lowered place result) :=
      ⟨hget, hlowered, hfits⟩
    by_cases hsuccess : result.status = "success"
    . have hends : env.endsGroup lowered = false := by
        rw [env.endsGroup_eq_not_succeeds lowered hprimitive, hfits.succeeds.mp hsuccess]
        rfl
      obtain ⟨events, hleads, hsteps, hlast⟩ :=
        ih hrest (some result) (env.recordResult subtask lowered place result state)
      rw [if_pos hsuccess, Stages.through_cons_of_neg _ hends]
      refine ⟨.subtaskFinished subtask lowered place result :: events, hleads.cons hfinished, ?_, ?_⟩
      . rw [List.map_cons, List.map_cons, hsteps]
        rfl
      . rw [hlast, lastFinished_cons_finished, Option.map_or, Option.or_assoc]
        rfl
    . have hends : env.endsGroup lowered = true := by
        rw [env.endsGroup_eq_not_succeeds lowered hprimitive]
        simpa using mt hfits.succeeds.mpr hsuccess
      rw [if_neg hsuccess, Stages.through_cons_of_pos _ hends]
      exact ⟨[.subtaskFinished subtask lowered place result], (Leads.refl _).cons hfinished, rfl, rfl⟩

def stage (env : OrchestratorEnvironment) (group : Nat × List LoweredTask) : Stage LoweredTask where
  index := group.1
  parallel := env.shouldExecuteGroupInParallel group.2
  items := group.2

theorem primitive_of_parallelSafe {lowered : LoweredTask} (h : env.IsLowered plan lowered)
    (hsafe : lowered.parallelSafe = true)
    : lowered.primitive ≠ .apiCall := by
  obtain ⟨subtask, _, rfl⟩ := h
  intro hprimitive
  have hprimitive' : determineLoweringPrimitive subtask = .apiCall := hprimitive
  unfold lowerSubtask at hsafe
  rw [hprimitive'] at hsafe
  cases hsafe

theorem executeGroupParallel_runs (hgroup : ∀ lowered ∈ group, env.IsLowered plan lowered)
    (hsafe : ∀ lowered ∈ group, lowered.parallelSafe = true) (state : OrchestrationState)
    : GroupRuns env plan none
        (group.map (.started place.groupIndex)
          ++ (through env.endsGroup group).map (.finished place.groupIndex))
        state (env.executeGroupParallel plan place group state) := by
  unfold executeGroupParallel
  obtain ⟨events, hleads, hstarted, hfst, hfits⟩ := @submitGroup_spec env plan group place hgroup state
  generalize env.submitGroup plan place group state = submitted at hleads hfst hfits
  obtain ⟨receivers, state'⟩ := submitted
  dsimp only at hleads hfst hfits ⊢
  obtain ⟨events', hleads', hsteps', hlast'⟩ :=
    @receiveGroup_runs env plan place receivers (by
      intro entry hmem
      have hentry : entry.1 ∈ group := by
        rw [← hfst]
        exact List.mem_map_of_mem hmem
      exact ⟨hgroup _ hentry, hfits entry hmem,
        primitive_of_parallelSafe (hgroup _ hentry) (hsafe _ hentry)⟩) none state'
  have hnone : (lastFinished events).map Prod.snd = none := by
    have hfirst := @map_fst_lastFinished events
    rw [hstarted, Stages.filterMap_finished?_map_started] at hfirst
    rw [Option.map_eq_none_iff.mp hfirst]
    rfl
  refine ⟨events ++ events', hleads.append hleads', ?_, ?_⟩
  . rw [List.map_append, hstarted, hsteps', hfst]
  . rw [hlast', lastFinished_append, Option.map_or, hnone, Option.or_none, Option.or_none]

theorem executeGroup_runs (i : Nat) (hgroup : ∀ lowered ∈ group, env.IsLowered plan lowered)
    (state : OrchestrationState)
    : GroupRuns env plan none ((env.stage (i, group)).steps env.endsGroup) state
        (env.executeGroup plan i group state) := by
  unfold executeGroup Stage.steps stage
  dsimp only
  cases hparallel : env.shouldExecuteGroupInParallel group with
  | true =>
    rw [if_pos rfl, if_pos rfl]
    refine executeGroupParallel_runs hgroup ?_ state
    unfold shouldExecuteGroupInParallel at hparallel
    simp only [Bool.and_eq_true, List.all_eq_true] at hparallel
    exact hparallel.2
  | false =>
    rw [if_neg Bool.false_ne_true, if_neg Bool.false_ne_true]
    exact executeGroupSerial_runs hgroup none state

theorem Leads.fits_lastFinished (h : env.Leads plan state events state') {lowered : LoweredTask}
    {result : TaskResult} (hlast : lastFinished events = some (lowered, result))
    : env.Fits lowered result := by
  obtain ⟨event, hmem, hfinished⟩ := List.mem_filterMap.mp (List.mem_of_getLast? hlast)
  have hfits := h.fits event hmem
  cases event with
  | subtaskStarted => cases hfinished
  | subtaskFinished subtask other place result' =>
    cases hfinished
    exact hfits.2.2

theorem Fits.stopsPlan_iff {lowered : LoweredTask} {result : TaskResult}
    (h : env.Fits lowered result)
    : env.stopsPlan lowered = true
        ↔ ¬result.status = "success" ∨ env.asksQuestion result.result = true := by
  unfold stopsPlan
  rw [h.asks, h.succeeds]
  simp

theorem run_cons (s : Stage LoweredTask) (stages : List (Stage LoweredTask))
    : Stages.run env.endsGroup env.stopsPlan (s :: stages)
        = if s.stopsRun env.endsGroup env.stopsPlan then s.steps env.endsGroup
          else s.steps env.endsGroup ++ Stages.run env.endsGroup env.stopsPlan stages := by
  unfold Stages.run Stages.reached
  cases hstop : s.stopsRun env.endsGroup env.stopsPlan with
  | true =>
    rw [Stages.through_cons_of_pos _ hstop]
    exact List.flatMap_singleton _ _
  | false =>
    rw [Stages.through_cons_of_neg _ hstop]
    rfl

def groupsEnd (lastSuccess : Option TaskResult) (events : List OrchestrationEvent) : GroupsEnd :=
  match ((lastFinished events).map Prod.snd).or lastSuccess with
  | none => .done none
  | some result => if result.status = "success" then .done (some result) else .failed result

inductive Finishes (env : OrchestratorEnvironment) (plan : OrchestrationPlan)
    (state : OrchestrationState)
    : GroupsEnd → OrchestrationState → Prop where
  | done (lastSuccess : Option TaskResult) : Finishes env plan state (.done lastSuccess) state
  | asked (result : TaskResult)
    : Finishes env plan state (.done (some result))
        (env.updatePlanRuntimeStatus plan .completed none state)
  | failed (result : TaskResult)
    : Finishes env plan state (.failed result)
        (env.updatePlanRuntimeStatus plan .failed result.error state)

theorem executeGroups_runs {groups : List (Nat × List LoweredTask)}
    (hgroups : ∀ group ∈ groups, group.2 ≠ [] ∧ ∀ lowered ∈ group.2, env.IsLowered plan lowered)
    (lastSuccess : Option TaskResult)
    (hlast : ∀ result, lastSuccess = some result → result.status = "success")
    (state : OrchestrationState)
    : ∃ events state', env.Leads plan state events state'
        ∧ events.map OrchestrationEvent.toStep
          = Stages.run env.endsGroup env.stopsPlan (groups.map env.stage)
        ∧ (env.executeGroups plan lastSuccess groups state).1 = groupsEnd lastSuccess events
        ∧ Finishes env plan state' (env.executeGroups plan lastSuccess groups state).1
          (env.executeGroups plan lastSuccess groups state).2 := by
  induction groups generalizing lastSuccess state with
  | nil =>
    refine ⟨[], state, Leads.refl state, rfl, ?_, .done lastSuccess⟩
    unfold executeGroups groupsEnd
    cases lastSuccess with
    | none => rfl
    | some result =>
      have hsuccess := hlast result rfl
      simp [lastFinished, hsuccess]
  | cons group groups ih =>
    obtain ⟨i, group⟩ := group
    obtain ⟨hne, hlowered⟩ := hgroups (i, group) (List.mem_cons_self ..)
    have hrest := fun group hmem => hgroups group (List.mem_cons_of_mem _ hmem)
    obtain ⟨events, hleads, hsteps, hresult⟩ := executeGroup_runs i hlowered state
    unfold executeGroups
    generalize env.executeGroup plan i group state = outcome at hleads hresult
    obtain ⟨result, state'⟩ := outcome
    dsimp only at hleads hresult ⊢
    -- the group is not empty, so that a result came last
    have hfst := @map_fst_lastFinished events
    rw [hsteps, Stages.filterMap_finished?_steps] at hfst
    have hthrough : (through env.endsGroup (env.stage (i, group)).items).getLast? ≠ none :=
      fun hnone => Stages.through_ne_nil hne (List.getLast?_eq_none_iff.mp hnone)
    cases hfinished : lastFinished events with
    | none =>
      rw [hfinished] at hfst
      exact absurd hfst.symm hthrough
    | some finished =>
      obtain ⟨lowered, last⟩ := finished
      rw [hfinished] at hfst hresult
      have hfits := hleads.fits_lastFinished hfinished
      have hstop : (env.stage (i, group)).stopsRun env.endsGroup env.stopsPlan
          = env.stopsPlan lowered := by
        unfold Stage.stopsRun
        rw [← hfst]
        rfl
      rw [hresult, List.map_cons, run_cons, hstop]
      by_cases hsuccess : last.status = "success"
      . by_cases hasks : env.asksQuestion last.result = true
        . rw [if_pos (hfits.stopsPlan_iff.mpr (.inr hasks))]
          dsimp only [Option.map_some, Option.some_or]
          rw [if_pos hsuccess, if_pos hasks]
          refine ⟨events, state', hleads, hsteps, ?_, .asked last⟩
          simp [groupsEnd, hfinished, hsuccess]
        . rw [if_neg (mt hfits.stopsPlan_iff.mp (not_or.mpr ⟨not_not.mpr hsuccess, hasks⟩))]
          dsimp only [Option.map_some, Option.some_or]
          rw [if_pos hsuccess, if_neg hasks]
          obtain ⟨events', state'', hleads', hsteps', hend, hfinishes⟩ :=
            ih hrest (some last) (fun result heq => by cases heq; exact hsuccess) state'
          refine ⟨events ++ events', state'', hleads.append hleads', ?_, ?_, hfinishes⟩
          . rw [List.map_append, hsteps, hsteps']
          . rw [hend]
            unfold groupsEnd
            rw [lastFinished_append, Option.map_or, hfinished, Option.or_assoc]
            rfl
      . rw [if_pos (hfits.stopsPlan_iff.mpr (.inl hsuccess))]
        dsimp only [Option.map_some, Option.some_or]
        rw [if_neg hsuccess]
        refine ⟨events, state', hleads, hsteps, ?_, .failed last⟩
        simp [groupsEnd, hfinished, hsuccess]

end Groups

end OrchestratorEnvironment

end AnimaAgent
