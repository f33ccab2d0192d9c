import AnimaAgent.Library.Dependencies
import AnimaAgent.Library.Runs
import AnimaAgent.Runtime.Types

namespace AnimaAgent

section Lifecycle

variable (task : TaskRecord) (nowMs : UInt64)

def markTaskRunning : TaskRecord :=
  { task with
    status := .running
    updatedAtMs := nowMs
    startedAtMs := task.startedAtMs.or (some nowMs) }

def markTaskSuspended : TaskRecord :=
  { task with
    status := .suspended
    updatedAtMs := nowMs
    startedAtMs := task.startedAtMs.or (some nowMs) }

def markTaskCompleted (resultKind : Option String) : TaskRecord :=
  { task with
    status := .completed
    updatedAtMs := nowMs
    completedAtMs := some nowMs
    startedAtMs := task.startedAtMs.or (some nowMs)
    resultKind }

def markTaskFailed (error : Option String) : TaskRecord :=
  { task with
    status := .failed
    updatedAtMs := nowMs
    completedAtMs := some nowMs
    startedAtMs := task.startedAtMs.or (some nowMs)
    error }

end Lifecycle

def dependencyCompleted (tasks : List TaskRecord) (dependency : String) : Bool :=
  (tasks.find? (fun candidate => candidate.taskId == dependency)).all
    (fun candidate => candidate.status == .completed)

def readyTaskIds (tasks : List TaskRecord) : List String :=
  ((tasks.filter (fun task => task.status == .pending)).filter
    (fun task => task.dependencies.all (dependencyCompleted tasks))).map TaskRecord.taskId

inductive TaskMark where
  | running
  | suspended
  | completed (resultKind : Option String)
  | failed (error : Option String)
  deriving DecidableEq

def TaskMark.apply (task : TaskRecord) (nowMs : UInt64) : TaskMark → TaskRecord
  | running => markTaskRunning task nowMs
  | suspended => markTaskSuspended task nowMs
  | completed resultKind => markTaskCompleted task nowMs resultKind
  | failed error => markTaskFailed task nowMs error

structure TaskCall where
  taskId : String
  nowMs : UInt64
  mark : TaskMark

def TaskCall.apply (call : TaskCall) (task : TaskRecord) : TaskRecord :=
  if task.taskId = call.taskId then call.mark.apply task call.nowMs else task

structure TaskSchedule where
  tasks : List TaskRecord
  clock : UInt64

namespace TaskSchedule

def step (s : TaskSchedule) (call : TaskCall) : Option TaskSchedule :=
  some { tasks := s.tasks.map call.apply, clock := call.nowMs }

/--
A pending task is only started, when it is listed as ready, and a completed task is left alone. The clock
does not go back.
-/
structure Permits (s : TaskSchedule) (call : TaskCall) : Prop where
  clock : s.clock ≤ call.nowMs
  completed : ∀ task ∈ s.tasks, task.taskId = call.taskId → task.status ≠ .completed
  pending : ∀ task ∈ s.tasks, task.taskId = call.taskId → task.status = .pending
    → call.mark = .running ∧ call.taskId ∈ readyTaskIds s.tasks

instance (s : TaskSchedule) (call : TaskCall) : Decidable (s.Permits call) :=
  decidable_of_iff (s.clock ≤ call.nowMs
      ∧ (∀ task ∈ s.tasks, task.taskId = call.taskId → task.status ≠ .completed)
      ∧ ∀ task ∈ s.tasks, task.taskId = call.taskId → task.status = .pending
        → call.mark = .running ∧ call.taskId ∈ readyTaskIds s.tasks)
    ⟨fun ⟨clock, completed, pending⟩ => ⟨clock, completed, pending⟩,
      fun ⟨clock, completed, pending⟩ => ⟨clock, completed, pending⟩⟩

structure StartedAt (tasks : List TaskRecord) (task : TaskRecord) (start : UInt64) : Prop where
  startedAtMs : task.startedAtMs = some start
  dependencies : ∀ dependency ∈ task.dependencies, ∀ other ∈ tasks, other.taskId = dependency
    → other.status = .completed ∧ ∃ finish, other.completedAtMs = some finish ∧ finish ≤ start

/-- Every task that is not pending was started after all its dependencies. -/
def StartsInOrder (s : TaskSchedule) : Prop :=
  ∀ task ∈ s.tasks, task.status ≠ .pending → ∃ start, StartedAt s.tasks task start

structure Fresh (tasks : List TaskRecord) : Prop where
  ids : (tasks.map TaskRecord.taskId).Nodup
  pending : ∀ task ∈ tasks, task.status = .pending ∧ task.startedAtMs = none

/-- The dependencies of a task that are tasks of the list themselves. -/
def knownDependencies (tasks : List TaskRecord) (taskId : String) : Option (List String) :=
  (tasks.find? (fun task => task.taskId == taskId)).map (fun task =>
    task.dependencies.filter (fun dependency => dependency ∈ tasks.map TaskRecord.taskId))

section Marks

variable (call : TaskCall) (task : TaskRecord)

@[simp]
theorem taskId_apply : (call.apply task).taskId = task.taskId := by
  unfold TaskCall.apply
  split
  . cases call.mark <;> rfl
  . rfl

@[simp]
theorem dependencies_apply : (call.apply task).dependencies = task.dependencies := by
  unfold TaskCall.apply
  split
  . cases call.mark <;> rfl
  . rfl

variable {call task}

theorem apply_of_ne (h : task.taskId ≠ call.taskId) : call.apply task = task := by
  exact if_neg h

theorem startedAtMs_apply (h : task.taskId = call.taskId)
    : (call.apply task).startedAtMs = task.startedAtMs.or (some call.nowMs) := by
  unfold TaskCall.apply
  rw [if_pos h]
  cases call.mark <;> rfl

theorem status_apply_ne_pending (h : task.taskId = call.taskId)
    : (call.apply task).status ≠ .pending := by
  unfold TaskCall.apply
  rw [if_pos h]
  cases call.mark <;> exact TaskStatus.noConfusion

theorem completedAtMs_apply (h : task.taskId = call.taskId)
    (hcompleted : (call.apply task).status = .completed)
    : (call.apply task).completedAtMs = some call.nowMs := by
  unfold TaskCall.apply at hcompleted ⊢
  rw [if_pos h] at hcompleted ⊢
  cases hmark : call.mark with
  | completed resultKind => rfl
  | running =>
    rw [hmark] at hcompleted
    cases hcompleted
  | suspended =>
    rw [hmark] at hcompleted
    cases hcompleted
  | failed error =>
    rw [hmark] at hcompleted
    cases hcompleted

end Marks

section Lookup

variable {tasks : List TaskRecord} {task : TaskRecord}

theorem map_taskId_apply (tasks : List TaskRecord) (call : TaskCall)
    : (tasks.map call.apply).map TaskRecord.taskId = tasks.map TaskRecord.taskId := by
  rw [List.map_map]
  exact List.map_congr_left (fun task _ => taskId_apply call task)

theorem find_taskId (hids : (tasks.map TaskRecord.taskId).Nodup) (hmem : task ∈ tasks)
    : tasks.find? (fun candidate => candidate.taskId == task.taskId) = some task := by
  cases hfind : tasks.find? (fun candidate => candidate.taskId == task.taskId) with
  | none =>
    have hne := List.find?_eq_none.mp hfind task hmem
    exact absurd (beq_self_eq_true _) hne
  | some other =>
    have hid : other.taskId = task.taskId := by
      have := List.find?_some hfind
      exact eq_of_beq this
    rw [List.inj_on_of_nodup_map hids (List.mem_of_find?_eq_some hfind) hmem hid]

theorem mem_readyTaskIds_iff (hids : (tasks.map TaskRecord.taskId).Nodup) (hmem : task ∈ tasks)
    : task.taskId ∈ readyTaskIds tasks ↔ task.status = .pending
        ∧ ∀ other ∈ tasks, other.taskId ∈ task.dependencies → other.status = .completed := by
  have hdependency : ∀ dependency, dependencyCompleted tasks dependency = true
      ↔ ∀ other ∈ tasks, other.taskId = dependency → other.status = .completed := by
    intro dependency
    unfold dependencyCompleted
    rw [Option.all_eq_true]
    constructor
    . rintro h other hother rfl
      exact eq_of_beq (h other (find_taskId hids hother))
    . intro h other hfind
      have hid := List.find?_some hfind
      rw [h other (List.mem_of_find?_eq_some hfind) (eq_of_beq hid)]
      rfl
  unfold readyTaskIds
  rw [List.mem_map]
  constructor
  . rintro ⟨other, hother, hid⟩
    rw [List.mem_filter, List.mem_filter, List.all_eq_true] at hother
    obtain ⟨⟨hother, hpending⟩, hready⟩ := hother
    rw [List.inj_on_of_nodup_map hids hother hmem hid] at hpending hready
    refine ⟨eq_of_beq hpending, fun dependency hdep hin => ?_⟩
    exact (hdependency _).mp (hready _ hin) dependency hdep rfl
  . rintro ⟨hpending, hready⟩
    refine ⟨task, ?_, rfl⟩
    rw [List.mem_filter, List.mem_filter, List.all_eq_true]
    refine ⟨⟨hmem, by rw [hpending]; rfl⟩, fun dependency hin => ?_⟩
    rw [hdependency]
    rintro other hother rfl
    exact hready other hother hin

theorem knownDependencies_eq (hids : (tasks.map TaskRecord.taskId).Nodup) (hmem : task ∈ tasks)
    : knownDependencies tasks task.taskId
        = some (task.dependencies.filter (fun d => d ∈ tasks.map TaskRecord.taskId)) := by
  unfold knownDependencies
  rw [find_taskId hids hmem, Option.map_some]

theorem knownDependencies_map_apply (tasks : List TaskRecord) (call : TaskCall)
    : knownDependencies (tasks.map call.apply) = knownDependencies tasks := by
  funext taskId
  unfold knownDependencies
  rw [map_taskId_apply, List.find?_map, Option.map_map]
  have hsame : ((fun task : TaskRecord => task.taskId == taskId) ∘ call.apply)
      = fun task => task.taskId == taskId := by
    funext task
    rw [Function.comp_apply, taskId_apply]
  rw [hsame]
  congr 1
  funext task
  rw [Function.comp_apply, dependencies_apply]

end Lookup

structure Sound (tasks : List TaskRecord) (s : TaskSchedule) : Prop where
  ids : (s.tasks.map TaskRecord.taskId).Nodup
  unstarted : ∀ task ∈ s.tasks, task.status = .pending → task.startedAtMs = none
  finished : ∀ task ∈ s.tasks, task.status = .completed
    → ∃ finish, task.completedAtMs = some finish ∧ finish ≤ s.clock
  inOrder : s.StartsInOrder
  known : knownDependencies s.tasks = knownDependencies tasks
  resolvable : ∀ task ∈ s.tasks, task.status ≠ .pending
    → Dependencies.Resolvable (knownDependencies tasks) task.taskId

theorem Fresh.sound {tasks : List TaskRecord} (h : Fresh tasks) (clock : UInt64)
    : Sound tasks { tasks, clock } where
  ids := h.ids
  unstarted task hmem _ := (h.pending task hmem).2
  finished task hmem hcompleted := by
    rw [(h.pending task hmem).1] at hcompleted
    cases hcompleted
  inOrder task hmem hstarted := absurd (h.pending task hmem).1 hstarted
  known := rfl
  resolvable task hmem hstarted := absurd (h.pending task hmem).1 hstarted

section Steps

variable {tasks : List TaskRecord} {s : TaskSchedule} {call : TaskCall} {task : TaskRecord}

theorem Permits.apply_of_completed (h : s.Permits call) (hmem : task ∈ s.tasks)
    (hcompleted : task.status = .completed)
    : call.apply task = task := by
  exact apply_of_ne (fun hid => h.completed task hmem hid hcompleted)

theorem Sound.completed_of_ready (h : Sound tasks s) (hmem : task ∈ s.tasks)
    (hready : task.taskId ∈ readyTaskIds s.tasks)
    : ∀ other ∈ s.tasks, other.taskId ∈ task.dependencies
        → other.status = .completed ∧ ∃ finish, other.completedAtMs = some finish ∧ finish ≤ s.clock := by
  intro other hother hin
  have hcompleted := ((mem_readyTaskIds_iff h.ids hmem).mp hready).2 other hother hin
  exact ⟨hcompleted, h.finished other hother hcompleted⟩

theorem StartedAt.map_apply {start : UInt64} (h : StartedAt s.tasks task start)
    (hpermits : s.Permits call) {task' : TaskRecord} (hstart : task'.startedAtMs = some start)
    (hdependencies : task'.dependencies = task.dependencies)
    : StartedAt (s.tasks.map call.apply) task' start where
  startedAtMs := hstart
  dependencies := by
    rw [hdependencies]
    intro dependency hin other hother hid
    obtain ⟨before, hbefore, rfl⟩ := List.mem_map.mp hother
    rw [taskId_apply] at hid
    obtain ⟨hcompleted, hfinish⟩ := h.dependencies dependency hin before hbefore hid
    rw [hpermits.apply_of_completed hbefore hcompleted]
    exact ⟨hcompleted, hfinish⟩

theorem Permits.started_or_ready (h : s.Permits call) (hmem : task ∈ s.tasks)
    (hstarted : (call.apply task).status ≠ .pending)
    : task.status ≠ .pending
        ∨ task.status = .pending ∧ task.taskId = call.taskId ∧ task.taskId ∈ readyTaskIds s.tasks := by
  by_cases hpending : task.status = .pending
  . right
    by_cases hid : task.taskId = call.taskId
    . obtain ⟨_, hready⟩ := h.pending task hmem hid hpending
      exact ⟨hpending, hid, hid ▸ hready⟩
    . rw [apply_of_ne hid] at hstarted
      exact absurd hpending hstarted
  . exact .inl hpending

theorem Sound.inOrder_step (h : Sound tasks s) (hpermits : s.Permits call)
    : StartsInOrder { tasks := s.tasks.map call.apply, clock := call.nowMs } := by
  intro task' hmem' hstarted
  obtain ⟨task, hmem, rfl⟩ := List.mem_map.mp hmem'
  obtain hbefore | ⟨hpending, hid, hready⟩ := hpermits.started_or_ready hmem hstarted
  . obtain ⟨start, hstart⟩ := h.inOrder task hmem hbefore
    refine ⟨start, hstart.map_apply hpermits ?_ (dependencies_apply call task)⟩
    by_cases hid : task.taskId = call.taskId
    . rw [startedAtMs_apply hid, hstart.startedAtMs, Option.some_or]
    . rw [apply_of_ne hid, hstart.startedAtMs]
  . -- the task starts now, after the last call
    have hnow : StartedAt s.tasks { task with startedAtMs := some call.nowMs } call.nowMs := by
      refine ⟨rfl, ?_⟩
      rintro dependency hin other hother rfl
      obtain ⟨hcompleted, finish, hfinish, hle⟩ := h.completed_of_ready hmem hready other hother hin
      exact ⟨hcompleted, finish, hfinish, UInt64.le_trans hle hpermits.clock⟩
    refine ⟨call.nowMs, hnow.map_apply hpermits ?_ (dependencies_apply call task)⟩
    rw [startedAtMs_apply hid, h.unstarted task hmem hpending, Option.none_or]

theorem Sound.resolvable_step (h : Sound tasks s) (hpermits : s.Permits call) (hmem : task ∈ s.tasks)
    (hstarted : (call.apply task).status ≠ .pending)
    : Dependencies.Resolvable (knownDependencies tasks) task.taskId := by
  obtain hbefore | ⟨_, _, hready⟩ := hpermits.started_or_ready hmem hstarted
  . exact h.resolvable task hmem hbefore
  . refine .intro (h.known ▸ knownDependencies_eq h.ids hmem) ?_
    intro dependency hdependency
    rw [List.mem_filter, decide_eq_true_eq, List.mem_map] at hdependency
    obtain ⟨hin, other, hother, rfl⟩ := hdependency
    obtain ⟨hcompleted, _⟩ := h.completed_of_ready hmem hready other hother hin
    refine h.resolvable other hother ?_
    rw [hcompleted]
    exact TaskStatus.noConfusion

theorem Sound.step (h : Sound tasks s) (hpermits : s.Permits call)
    : Sound tasks { tasks := s.tasks.map call.apply, clock := call.nowMs } where
  ids := by
    rw [map_taskId_apply]
    exact h.ids
  unstarted := by
    intro task' hmem' hpending
    obtain ⟨task, hmem, rfl⟩ := List.mem_map.mp hmem'
    by_cases hid : task.taskId = call.taskId
    . exact absurd hpending (status_apply_ne_pending hid)
    . rw [apply_of_ne hid] at hpending ⊢
      exact h.unstarted task hmem hpending
  finished := by
    intro task' hmem' hcompleted
    obtain ⟨task, hmem, rfl⟩ := List.mem_map.mp hmem'
    by_cases hid : task.taskId = call.taskId
    . exact ⟨call.nowMs, completedAtMs_apply hid hcompleted, UInt64.le_refl _⟩
    . rw [apply_of_ne hid] at hcompleted ⊢
      obtain ⟨finish, hfinish, hle⟩ := h.finished task hmem hcompleted
      exact ⟨finish, hfinish, UInt64.le_trans hle hpermits.clock⟩
  inOrder := h.inOrder_step hpermits
  known := (knownDependencies_map_apply s.tasks call).trans h.known
  resolvable := by
    intro task' hmem' hstarted
    obtain ⟨task, hmem, rfl⟩ := List.mem_map.mp hmem'
    rw [taskId_apply]
    exact h.resolvable_step hpermits hmem hstarted

end Steps

section Runs

variable {tasks : List TaskRecord} {calls : List TaskCall} {clock : UInt64}

theorem Fresh.always_sound (hfresh : Fresh tasks)
    (h : Runs.Guarded step Permits { tasks, clock } calls)
    : Runs.Always step (Sound tasks) { tasks, clock } calls := by
  apply Runs.always_of_guarded _ (hfresh.sound clock) h
  intro s call s' hsound hpermits hstep
  cases hstep
  exact hsound.step hpermits

theorem Sound.exists_ready {s : TaskSchedule} (h : Sound tasks s)
    (hidle : ∀ task ∈ s.tasks, task.status = .pending ∨ task.status = .completed)
    {task : TaskRecord} (hmem : task ∈ s.tasks) (hopen : task.status ≠ .completed)
    (hresolvable : Dependencies.Resolvable (knownDependencies tasks) task.taskId)
    : ∃ taskId, taskId ∈ readyTaskIds s.tasks := by
  obtain ⟨taskId, dependencies, ⟨ready, hready, rfl, hreadyOpen⟩, hdependencies, hdone⟩ :=
    hresolvable.exists_ready (fun taskId => ∃ task ∈ s.tasks, task.taskId = taskId
      ∧ task.status ≠ .completed) ⟨task, hmem, rfl, hopen⟩
  rw [← h.known, knownDependencies_eq h.ids hready, Option.some.injEq] at hdependencies
  subst hdependencies
  refine ⟨ready.taskId, (mem_readyTaskIds_iff h.ids hready).mpr ⟨?_, ?_⟩⟩
  . exact (hidle ready hready).resolve_right hreadyOpen
  . intro other hother hin
    by_contra hopenOther
    have hknown : other.taskId ∈ s.tasks.map TaskRecord.taskId := List.mem_map_of_mem hother
    refine (hdone other.taskId ?_).2 ⟨other, hother, rfl, hopenOther⟩
    exact List.mem_filter.mpr ⟨hin, decide_eq_true hknown⟩

def waitingTask (taskId : String) (dependencies : List String) : TaskRecord where
  taskId
  runId := "run_1"
  turnId := none
  parentTaskId := none
  traceId := "trace_1"
  jobId := "job_1"
  parentJobId := none
  planId := none
  kind := .subtask
  name := taskId
  taskType := "api-call"
  description := ""
  status := .pending
  executionMode := none
  resultKind := none
  specialistType := none
  dependencies
  metadata := .object []
  startedAtMs := none
  updatedAtMs := 0
  completedAtMs := none
  error := none

def fourTasks : List TaskRecord :=
  [waitingTask "a" [], waitingTask "b" ["a"], waitingTask "c" ["d"], waitingTask "d" ["c"]]

def twoTasksRun : List TaskCall :=
  [ { taskId := "a", nowMs := 1, mark := .running }
  , { taskId := "a", nowMs := 2, mark := .completed none }
  , { taskId := "b", nowMs := 3, mark := .running }
  , { taskId := "b", nowMs := 4, mark := .completed none } ]

theorem fresh_fourTasks : Fresh fourTasks where
  ids := by decide
  pending := by decide

theorem guarded_twoTasksRun
    : Runs.Guarded step Permits { tasks := fourTasks, clock := 0 } twoTasksRun := by
  decide

theorem always_startsInOrder (hfresh : Fresh tasks)
    (h : Runs.Guarded step Permits { tasks, clock } calls)
    : Runs.Always step StartsInOrder { tasks, clock } calls := by
  exact (hfresh.always_sound h).mono (fun _ hsound => hsound.inOrder)

theorem always_startsInOrder_fourTasks
    : Runs.Always step StartsInOrder { tasks := fourTasks, clock := 0 } twoTasksRun := by
  exact always_startsInOrder fresh_fourTasks guarded_twoTasksRun

/--
When no task is ready, under way or failed any more, the completed tasks are exactly the ones whose
dependencies never lead into a cycle.
-/
theorem completed_iff_resolvable (hfresh : Fresh tasks)
    (h : Runs.Guarded step Permits { tasks, clock } calls) {s : TaskSchedule}
    (hrun : Runs.run step { tasks, clock } calls = some s) (hready : readyTaskIds s.tasks = [])
    (hidle : ∀ task ∈ s.tasks, task.status = .pending ∨ task.status = .completed)
    : ∀ task ∈ s.tasks, task.status = .completed
        ↔ Dependencies.Resolvable (knownDependencies tasks) task.taskId := by
  have hsound := (hfresh.always_sound h).run_eq_some hrun
  intro task hmem
  constructor
  . intro hcompleted
    refine hsound.resolvable task hmem ?_
    rw [hcompleted]
    exact TaskStatus.noConfusion
  . intro hresolvable
    by_contra hopen
    obtain ⟨taskId, hmemReady⟩ := hsound.exists_ready hidle hmem hopen hresolvable
    rw [hready] at hmemReady
    exact absurd hmemReady List.not_mem_nil

theorem completed_iff_resolvable_fourTasks
    : ∃ s, Runs.run step { tasks := fourTasks, clock := 0 } twoTasksRun = some s
        ∧ ∀ task ∈ s.tasks, task.status = .completed
          ↔ Dependencies.Resolvable (knownDependencies fourTasks) task.taskId := by
  refine ⟨_, rfl, ?_⟩
  exact completed_iff_resolvable fresh_fourTasks guarded_twoTasksRun rfl (by decide) (by decide)

end Runs

end TaskSchedule

end AnimaAgent
