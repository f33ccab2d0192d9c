import AnimaAgent.Library.Logs
import AnimaAgent.Orchestrator.GroupTasks

namespace AnimaAgent

open Stages (Stage Step)
open Writes (lastWrite)

namespace RuntimeStateSnapshot

def taskStatus (snapshot : RuntimeStateSnapshot) (taskId : String) : Option TaskStatus :=
  (snapshot.tasks.lookup taskId).map TaskRecord.status

def planStatus (snapshot : RuntimeStateSnapshot) (plan : OrchestrationPlan) : Option TaskStatus :=
  snapshot.taskStatus (runtimePlanTaskId plan.id)

def subtaskStatus (snapshot : RuntimeStateSnapshot) (subtask : SubTask) : Option TaskStatus :=
  snapshot.taskStatus (runtimeSubtaskTaskId subtask.id)

/--
No subtask of the plan is pending or running, a completed plan has only completed subtasks, and a failed
plan has one that failed.
-/
structure SettledPlan (snapshot : RuntimeStateSnapshot) (plan : OrchestrationPlan) : Prop where
  ended : ∀ name subtask, plan.subtasks.get name = some subtask
    → snapshot.subtaskStatus subtask ≠ some .pending ∧ snapshot.subtaskStatus subtask ≠ some .running
  completed : snapshot.planStatus plan = some .completed → ∀ name subtask,
    plan.subtasks.get name = some subtask → snapshot.subtaskStatus subtask = some .completed
  failed : snapshot.planStatus plan = some .failed → ∃ name subtask,
    plan.subtasks.get name = some subtask ∧ snapshot.subtaskStatus subtask = some .failed

end RuntimeStateSnapshot

section Upserts

variable (now : UInt64) (plan : OrchestrationPlan) (status : TaskStatus) (error : Option String)
  (snapshot : RuntimeStateSnapshot) (taskId : String)

theorem taskStatus_taskUpserted (task : TaskRecord)
    : (reduceEvent snapshot (.taskUpserted task)).taskStatus taskId
        = if taskId = task.taskId then some task.status else snapshot.taskStatus taskId := by
  unfold RuntimeStateSnapshot.taskStatus
  dsimp only [reduceEvent]
  split
  . next heq => rw [heq, AList.lookup_insert]; rfl
  . next hne => rw [AList.lookup_insert_ne hne]

theorem taskStatus_upsertRuntimePlanTask
    : (upsertRuntimePlanTask now plan status error snapshot).taskStatus taskId
        = if taskId = runtimePlanTaskId plan.id then some status else snapshot.taskStatus taskId := by
  exact taskStatus_taskUpserted ..

theorem taskStatus_upsertRuntimeSubtaskTask (subtask : SubTask) (lowered : LoweredTask)
    (startedAt : Option UInt64) (place : Option GroupPlace)
    : (upsertRuntimeSubtaskTask now subtask lowered startedAt status place error snapshot).taskStatus
          taskId
        = if taskId = runtimeSubtaskTaskId subtask.id then some status
          else snapshot.taskStatus taskId := by
  exact taskStatus_taskUpserted ..

theorem runtimeSubtaskTaskId_ne (subtaskId planId : String)
    : runtimeSubtaskTaskId subtaskId ≠ runtimePlanTaskId planId := by
  intro h
  have hlist := congrArg String.toList h
  unfold runtimeSubtaskTaskId runtimePlanTaskId at hlist
  rw [String.toList_append, String.toList_append] at hlist
  have hhead := congrArg (fun l => l[5]?) hlist
  simp at hhead

theorem runtimeSubtaskTaskId_inj {subtaskId subtaskId' : String}
    : runtimeSubtaskTaskId subtaskId = runtimeSubtaskTaskId subtaskId'
        ↔ subtaskId = subtaskId' := by
  unfold runtimeSubtaskTaskId
  rw [← String.toList_inj, String.toList_append, String.toList_append, List.append_cancel_left_eq,
    String.toList_inj]

end Upserts

def OrchestrationEvent.writes (taskId : String) : OrchestrationEvent → Option TaskStatus
  | .subtaskStarted subtask _ _ =>
    if taskId = runtimeSubtaskTaskId subtask.id then some .running else none
  | .subtaskFinished subtask _ _ result =>
    if taskId = runtimeSubtaskTaskId subtask.id then
      some (if result.status = "success" then .completed else .failed)
    else
      none

namespace OrchestratorEnvironment

variable {env : OrchestratorEnvironment} {plan : OrchestrationPlan}

theorem taskStatus_follow (state : OrchestrationState) (event : OrchestrationEvent)
    (taskId : String)
    : (env.follow state event).runtimeState.taskStatus taskId
        = (event.writes taskId).or (state.runtimeState.taskStatus taskId) := by
  cases event with
  | subtaskStarted subtask lowered place =>
    unfold follow markSubtaskStarted OrchestrationEvent.writes
    dsimp only
    rw [taskStatus_upsertRuntimeSubtaskTask]
    split
    . rfl
    . rfl
  | subtaskFinished subtask lowered place result =>
    have hrecord : (env.recordResult subtask lowered place result state).runtimeState
        = (env.finalizeSubtaskResult subtask lowered result place state).runtimeState := by
      unfold recordResult
      split
      . rfl
      . rfl
    unfold follow OrchestrationEvent.writes
    dsimp only
    rw [hrecord]
    unfold finalizeSubtaskResult
    dsimp only
    split
    . rw [taskStatus_upsertRuntimeSubtaskTask]
      split
      . rfl
      . rfl
    . rw [taskStatus_upsertRuntimeSubtaskTask]
      split
      . rfl
      . rfl

theorem taskStatus_foldl (events : List OrchestrationEvent) (state : OrchestrationState)
    (taskId : String)
    : (events.foldl env.follow state).runtimeState.taskStatus taskId
        = (lastWrite (OrchestrationEvent.writes taskId) events).or
          (state.runtimeState.taskStatus taskId) := by
  exact @Writes.read_foldl _ _ _ env.follow (fun state => state.runtimeState.taskStatus taskId) _
    (fun state event => taskStatus_follow state event taskId) events state

def DistinctIds (plan : OrchestrationPlan) : Prop :=
  (plan.subtasks.values.map SubTask.id).Nodup

theorem DistinctIds.eq (h : DistinctIds plan) {name name' : String} {subtask subtask' : SubTask}
    (hget : plan.subtasks.get name = some subtask) (hget' : plan.subtasks.get name' = some subtask')
    (hid : subtask.id = subtask'.id)
    : name = name' := by
  unfold DistinctIds IndexMap.values at h
  rw [List.map_map] at h
  have heq := List.inj_on_of_nodup_map h (IndexMap.get_eq_some_iff.mp hget)
    (IndexMap.get_eq_some_iff.mp hget') hid
  exact (Prod.mk.inj heq).1

section Run

variable {state state' : OrchestrationState} {events : List OrchestrationEvent}
  {lowered : LoweredTask} {subtask : SubTask} (hids : DistinctIds plan)
  (hlowered : env.IsLowered plan lowered) (hget : plan.subtasks.get lowered.name = some subtask)

theorem finished_event {i : Nat}
    (h : .finished i lowered ∈ events.map OrchestrationEvent.toStep)
    : ∃ subtask place result, .subtaskFinished subtask lowered place result ∈ events := by
  obtain ⟨event, hmem, hstep⟩ := List.mem_map.mp h
  cases event with
  | subtaskStarted => cases hstep
  | subtaskFinished subtask other place result =>
    obtain ⟨_, rfl⟩ := Step.finished.inj hstep
    exact ⟨subtask, place, result, hmem⟩

include hget

theorem writes_finished {place : GroupPlace} {result : TaskResult} {subtask' : SubTask}
    (hfits : env.EventFits plan (.subtaskFinished subtask' lowered place result))
    : (OrchestrationEvent.subtaskFinished subtask' lowered place result).writes
          (runtimeSubtaskTaskId subtask.id)
        = some (if env.succeeds lowered then .completed else .failed) := by
  obtain ⟨hget', _, hfits⟩ := hfits
  cases hget.symm.trans hget'
  unfold OrchestrationEvent.writes
  dsimp only
  rw [if_pos rfl]
  simp only [hfits.succeeds]

include hids hlowered

theorem eq_of_writes {event : OrchestrationEvent} {status : TaskStatus}
    (hfits : env.EventFits plan event)
    (hwrites : event.writes (runtimeSubtaskTaskId subtask.id) = some status)
    : (∃ subtask' place, event = .subtaskStarted subtask' lowered place ∧ status = .running)
        ∨ ∃ subtask' place result, event = .subtaskFinished subtask' lowered place result := by
  cases event with
  | subtaskStarted subtask' other place =>
    unfold OrchestrationEvent.writes at hwrites
    dsimp only at hwrites
    split at hwrites
    . next heq =>
      cases hwrites
      have hname := hids.eq hget hfits.1 (runtimeSubtaskTaskId_inj.mp heq)
      rw [hlowered.eq hfits.2 hname]
      exact .inl ⟨subtask', place, rfl, rfl⟩
    . cases hwrites
  | subtaskFinished subtask' other place result =>
    unfold OrchestrationEvent.writes at hwrites
    dsimp only at hwrites
    split at hwrites
    . next heq =>
      have hname := hids.eq hget hfits.1 (runtimeSubtaskTaskId_inj.mp heq)
      rw [hlowered.eq hfits.2.1 hname]
      exact .inr ⟨subtask', place, result, rfl⟩
    . cases hwrites

theorem subtaskStatus_of_run (hleads : env.Leads plan state events state')
    (hsteps : events.map OrchestrationEvent.toStep
      = Stages.run env.endsGroup env.stopsPlan (env.stages plan))
    (hpending : state.runtimeState.subtaskStatus subtask = some .pending)
    : ((∃ i, .finished i lowered ∈ Stages.run env.endsGroup env.stopsPlan (env.stages plan))
          ∧ state'.runtimeState.subtaskStatus subtask
            = some (if env.succeeds lowered then .completed else .failed))
        ∨ ((∀ i, .finished i lowered ∉ Stages.run env.endsGroup env.stopsPlan (env.stages plan))
          ∧ (state'.runtimeState.subtaskStatus subtask = some .pending
            ∨ state'.runtimeState.subtaskStatus subtask = some .running)) := by
  unfold RuntimeStateSnapshot.subtaskStatus at hpending ⊢
  rw [hleads.state, taskStatus_foldl, hpending, ← hsteps]
  cases hlast : lastWrite (OrchestrationEvent.writes (runtimeSubtaskTaskId subtask.id)) events with
  | none =>
    refine .inr ⟨?_, .inl rfl⟩
    intro i hmem
    obtain ⟨subtask', place, result, hevent⟩ := finished_event hmem
    have hwrites := writes_finished hget (hleads.fits _ hevent)
    rw [Writes.lastWrite_eq_none_iff.mp hlast _ hevent] at hwrites
    cases hwrites
  | some status =>
    obtain ⟨before, event, after, rfl, hwrites, hafter⟩ := Writes.lastWrite_eq_some hlast
    have hfits := hleads.fits event (List.mem_append_right _ (List.mem_cons_self ..))
    obtain ⟨subtask', place, rfl, rfl⟩ | ⟨subtask', place, result, rfl⟩ :=
      eq_of_writes hids hlowered hget hfits hwrites
    . refine .inr ⟨?_, .inr rfl⟩
      intro i hmem
      rw [List.map_append, List.map_cons] at hsteps hmem
      obtain hmem | hmem := List.mem_append.mp hmem
      . exact Stages.not_finished_before (env.nodup_items plan) hsteps.symm hmem
      . obtain hmem | hmem := List.mem_cons.mp hmem
        . cases hmem
        . obtain ⟨subtask'', place', result, hevent⟩ := finished_event hmem
          have hwrites := writes_finished hget (hleads.fits _
            (List.mem_append_right _ (List.mem_cons_of_mem _ hevent)))
          rw [hafter _ hevent] at hwrites
          cases hwrites
    . refine .inl ⟨⟨place.groupIndex, ?_⟩, ?_⟩
      . exact List.mem_map.mpr ⟨_, List.mem_append_right _ (List.mem_cons_self ..), rfl⟩
      . rw [writes_finished hget hfits] at hwrites
        rw [← hwrites]
        rfl

end Run

theorem subtaskStatus_updatePlanRuntimeStatus (status : TaskStatus) (error : Option String)
    (state : OrchestrationState) (subtask : SubTask)
    : (env.updatePlanRuntimeStatus plan status error state).runtimeState.subtaskStatus subtask
        = state.runtimeState.subtaskStatus subtask := by
  unfold updatePlanRuntimeStatus RuntimeStateSnapshot.subtaskStatus
  dsimp only
  rw [taskStatus_upsertRuntimePlanTask, if_neg (runtimeSubtaskTaskId_ne _ _)]

theorem planStatus_updatePlanRuntimeStatus (status : TaskStatus) (error : Option String)
    (state : OrchestrationState)
    : (env.updatePlanRuntimeStatus plan status error state).runtimeState.planStatus plan
        = some status := by
  unfold updatePlanRuntimeStatus RuntimeStateSnapshot.planStatus
  dsimp only
  rw [taskStatus_upsertRuntimePlanTask, if_pos rfl]

theorem subtaskStatus_upsertPending {tasks : List LoweredTask}
    (htasks : ∀ task ∈ tasks, env.IsLowered plan task) {lowered : LoweredTask} {subtask : SubTask}
    (hget : plan.subtasks.get lowered.name = some subtask) {snapshot : RuntimeStateSnapshot}
    (h : lowered ∈ tasks ∨ snapshot.subtaskStatus subtask = some .pending)
    : (tasks.foldl (fun snapshot task => env.upsertPendingSubtask plan task snapshot)
        snapshot).subtaskStatus subtask = some .pending := by
  induction tasks generalizing snapshot with
  | nil => exact h.resolve_left List.not_mem_nil
  | cons task tasks ih =>
    obtain ⟨subtask', hget', _⟩ := htasks task (List.mem_cons_self ..)
    have hstatus : (env.upsertPendingSubtask plan task snapshot).subtaskStatus subtask
        = if runtimeSubtaskTaskId subtask.id = runtimeSubtaskTaskId subtask'.id then some .pending
          else snapshot.subtaskStatus subtask := by
      unfold upsertPendingSubtask
      rw [hget']
      exact taskStatus_upsertRuntimeSubtaskTask ..
    apply ih (fun task hmem => htasks task (List.mem_cons_of_mem _ hmem))
    rw [hstatus]
    obtain h | h := h
    . obtain rfl | h := List.mem_cons.mp h
      . cases hget.symm.trans hget'
        exact .inr (if_pos rfl)
      . exact .inl h
    . rw [h, ite_self]
      exact .inr rfl

theorem subtaskStatus_startPlan {lowered : LoweredTask} {subtask : SubTask}
    (hlowered : env.IsLowered plan lowered) (hget : plan.subtasks.get lowered.name = some subtask)
    (snapshot : RuntimeStateSnapshot)
    : (env.startPlan plan snapshot).runtimeState.subtaskStatus subtask = some .pending := by
  unfold startPlan
  rw [subtaskStatus_updatePlanRuntimeStatus]
  exact subtaskStatus_upsertPending (fun task => (env.mem_loweredTasks_iff plan).mp) hget
    (.inl ((env.mem_loweredTasks_iff plan).mpr hlowered))

theorem executeOrchestrationPlanImpl_statuses (env : OrchestratorEnvironment)
    (plan : OrchestrationPlan) (snapshot : RuntimeStateSnapshot)
    : ∃ events state', env.Leads plan (env.startPlan plan snapshot) events state'
        ∧ events.map OrchestrationEvent.toStep
          = Stages.run env.endsGroup env.stopsPlan (env.stages plan)
        ∧ (∀ subtask, (env.executeOrchestrationPlanImpl plan
            snapshot).2.runtimeState.subtaskStatus subtask = state'.runtimeState.subtaskStatus subtask)
        ∧ (env.executeOrchestrationPlanImpl plan snapshot).2.runtimeState.planStatus plan
          = some (if (lastFinished events).all (fun entry => env.succeeds entry.1) then .completed
            else .failed) := by
  obtain ⟨events, state', hleads, hsteps, hend, hfinishes⟩ :=
    executeGroups_runs (fun group => env.groupTasks_spec plan) none nofun (env.startPlan plan snapshot)
  refine ⟨events, state', hleads, hsteps, ?_⟩
  have hall : (lastFinished events).all (fun entry => env.succeeds entry.1) = true
      ↔ ∀ result, groupsEnd none events ≠ .failed result := by
    unfold groupsEnd
    cases hlast : lastFinished events with
    | none => simp
    | some entry =>
      have hfits := hleads.fits_lastFinished hlast
      by_cases hsuccess : entry.2.status = "success"
      . simp [hsuccess, hfits.succeeds.mp hsuccess]
      . simp [hsuccess, mt hfits.succeeds.mpr hsuccess]
  rw [← hend] at hall
  unfold executeOrchestrationPlanImpl
  generalize env.executeGroups plan none (env.groupTasks plan) (env.startPlan plan snapshot)
    = outcome at hall hfinishes
  obtain ⟨end_, state⟩ := outcome
  dsimp only at hall hfinishes ⊢
  cases hfinishes with
  | done lastSuccess =>
    dsimp only
    rw [if_pos (hall.mpr (fun result h => by cases h)), planStatus_updatePlanRuntimeStatus]
    exact ⟨fun subtask => subtaskStatus_updatePlanRuntimeStatus _ _ _ _, rfl⟩
  | asked result =>
    dsimp only
    rw [if_pos (hall.mpr (fun result h => by cases h)), planStatus_updatePlanRuntimeStatus]
    refine ⟨?_, rfl⟩
    intro subtask
    rw [subtaskStatus_updatePlanRuntimeStatus, subtaskStatus_updatePlanRuntimeStatus]
  | failed result =>
    dsimp only
    rw [if_neg (fun h => hall.mp h result rfl), planStatus_updatePlanRuntimeStatus]
    exact ⟨fun subtask => subtaskStatus_updatePlanRuntimeStatus _ _ _ _, rfl⟩

theorem lastFinished_mem {state state' : OrchestrationState} {events : List OrchestrationEvent}
    (hleads : env.Leads plan state events state') {entry : LoweredTask × TaskResult}
    (h : lastFinished events = some entry)
    : env.IsLowered plan entry.1
        ∧ ∃ i, .finished i entry.1 ∈ events.map OrchestrationEvent.toStep := by
  obtain ⟨event, hmem, hfinished⟩ := List.mem_filterMap.mp (List.mem_of_getLast? h)
  have hfits := hleads.fits event hmem
  cases event with
  | subtaskStarted => cases hfinished
  | subtaskFinished subtask lowered place result =>
    cases hfinished
    exact ⟨hfits.2.1, place.groupIndex, List.mem_map.mpr ⟨_, hmem, rfl⟩⟩

/--
The statuses of the subtasks are settled exactly if no task but the last one of its group ends it, and no
group but the last one stops the plan.
-/
theorem executeOrchestrationPlanImpl_settled_iff (env : OrchestratorEnvironment)
    (plan : OrchestrationPlan) (snapshot : RuntimeStateSnapshot) (hids : DistinctIds plan)
    : (env.executeOrchestrationPlanImpl plan snapshot).2.runtimeState.SettledPlan plan
        ↔ Stages.RunsThrough env.endsGroup env.stopsPlan (env.stages plan) := by
  obtain ⟨events, state', hleads, hsteps, hsubtasks, hplan⟩ :=
    executeOrchestrationPlanImpl_statuses env plan snapshot
  generalize (env.executeOrchestrationPlanImpl plan snapshot).2.runtimeState = after
    at hsubtasks hplan ⊢
  have hstatus : ∀ lowered subtask, env.IsLowered plan lowered
      → plan.subtasks.get lowered.name = some subtask → _ := fun lowered subtask hlowered hget =>
    subtaskStatus_of_run hids hlowered hget hleads hsteps
      (subtaskStatus_startPlan hlowered hget snapshot)
  rw [← Stages.forall_finished_iff (env.nodup_items plan) (fun s => env.items_ne_nil plan)]
  constructor
  . intro h s hs lowered hmem
    have hlowered := env.isLowered_of_mem plan hs hmem
    obtain ⟨subtask, hget, _⟩ := id hlowered
    have hended := h.ended _ subtask hget
    rw [hsubtasks] at hended
    obtain ⟨hfinished, _⟩ | ⟨_, hpending | hrunning⟩ := hstatus lowered subtask hlowered hget
    . exact hfinished
    . exact absurd hpending hended.1
    . exact absurd hrunning hended.2
  . intro h
    have hall : ∀ lowered subtask, env.IsLowered plan lowered
        → plan.subtasks.get lowered.name = some subtask
        → (∃ i, .finished i lowered ∈ Stages.run env.endsGroup env.stopsPlan (env.stages plan))
          ∧ after.subtaskStatus subtask
            = some (if env.succeeds lowered then .completed else .failed) := by
      intro lowered subtask hlowered hget
      rw [hsubtasks]
      obtain hfinished | ⟨hnot, _⟩ := hstatus lowered subtask hlowered hget
      . exact hfinished
      . obtain ⟨s, hs, hmem⟩ := env.exists_stage plan hlowered
        obtain ⟨i, hi⟩ := h s hs lowered hmem
        exact absurd hi (hnot i)
    have hlowered : ∀ name subtask, plan.subtasks.get name = some subtask
        → ∃ lowered, env.IsLowered plan lowered ∧ plan.subtasks.get lowered.name = some subtask := by
      intro name subtask hget
      refine ⟨env.lowerSubtask plan subtask, env.isLowered_lowerSubtask plan hget, ?_⟩
      rw [← hget]
      exact congrArg plan.subtasks.get (plan.named name subtask hget)
    constructor
    . intro name subtask hget
      obtain ⟨lowered, hlowered, hget'⟩ := hlowered name subtask hget
      rw [(hall lowered subtask hlowered hget').2]
      split
      . simp
      . simp
    . intro hcompleted name subtask hget
      obtain ⟨lowered, hlowered, hget'⟩ := hlowered name subtask hget
      obtain ⟨⟨i, hi⟩, hended⟩ := hall lowered subtask hlowered hget'
      have hsucceeds : env.succeeds lowered = true := by
        by_contra hnot
        have hstop : env.stopsPlan lowered = true := by
          unfold stopsPlan
          rw [Bool.eq_false_iff.mpr hnot]
          rfl
        have hlast := Stages.getLast?_of_stops env.endsGroup_of_stopsPlan hi hstop
        rw [← hsteps, ← map_fst_lastFinished] at hlast
        obtain ⟨entry, hentry, rfl⟩ := Option.map_eq_some_iff.mp hlast
        rw [hplan, hentry] at hcompleted
        simp [hnot] at hcompleted
      rw [hended, if_pos hsucceeds]
    . intro hfailed
      rw [hplan] at hfailed
      cases hlast : lastFinished events with
      | none =>
        rw [hlast] at hfailed
        cases hfailed
      | some entry =>
        rw [hlast] at hfailed
        obtain ⟨hentry, _⟩ := lastFinished_mem hleads hlast
        obtain ⟨subtask, hget, _⟩ := id hentry
        refine ⟨entry.1.name, subtask, hget, ?_⟩
        rw [(hall entry.1 subtask hentry hget).2]
        cases hsucceeds : env.succeeds entry.1 with
        | true => simp [hsucceeds] at hfailed
        | false => rfl

def twoPrompts : OrchestrationPlan :=
  decomposeTask "build a shop" "trace_1" "job_1" (fun i => "id_" ++ toString i) 0
    (some [{ name := "backend", taskType := "backend" }, { name := "frontend", taskType := "frontend" }])

def answering (answer : Except String Value) : OrchestratorEnvironment where
  now := 1
  serde := .small
  request := "build a shop"
  parentJobId := "job_1"
  sessionId := "session_1"
  enableParallel := true
  workerTaskId := fun name => "task_" ++ name
  submission := fun _ => .executed "worker_1" 5
  sendPrompt := fun _ _ => answer
  inferContext := fun _ => none

theorem executeOrchestrationPlanImpl_settled_iff_twoPrompts
    : ((answering (.ok (.string "done"))).executeOrchestrationPlanImpl twoPrompts
        {}).2.runtimeState.SettledPlan twoPrompts := by
  have hids : DistinctIds twoPrompts := by
    unfold DistinctIds
    decide +kernel
  apply (executeOrchestrationPlanImpl_settled_iff _ twoPrompts {} hids).mpr
  constructor
  . decide +kernel
  . decide +kernel

/-- The first subtask fails, and the second one stays pending when the plan has failed. -/
theorem twoPrompts_not_settled
    : ¬((answering (.error "connection refused")).executeOrchestrationPlanImpl twoPrompts
        {}).2.runtimeState.SettledPlan twoPrompts := by
  intro h
  have hpending : (twoPrompts.subtasks.get "frontend").map
      ((answering (.error "connection refused")).executeOrchestrationPlanImpl twoPrompts
        {}).2.runtimeState.subtaskStatus = some (some .pending) := by
    decide +kernel
  obtain ⟨subtask, hget, hpending⟩ := Option.map_eq_some_iff.mp hpending
  exact (h.ended "frontend" subtask hget).1 hpending

end OrchestratorEnvironment

end AnimaAgent
