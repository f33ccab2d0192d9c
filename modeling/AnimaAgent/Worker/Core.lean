import AnimaAgent.Agent.InitialExecution
import AnimaAgent.Library.Threads

/-!
This module contains the workers and their pool. A task that is submitted looks for an idle worker,
and the thread that executes it reports to the one who waits for its result. The list of the workers
is fixed, so that the lock under which it is scanned is left out.
-/

namespace AnimaAgent

structure CurrentTaskInfo where
  taskId : String
  traceId : String
  taskType : String
  startedMs : UInt64
  contentPreview : String
  phase : String
  lastProgressAtMs : UInt64
  opencodeSessionId : Option String
  deriving DecidableEq

structure WorkerMetrics where
  tasksCompleted : Nat := 0
  timeouts : Nat := 0
  errors : Nat := 0
  totalDurationMs : Nat := 0
  deriving DecidableEq

structure WorkerAgent where
  id : String
  running : Bool := false
  busy : Bool := false
  metrics : WorkerMetrics := {}
  currentTask : Option CurrentTaskInfo := none
  deriving DecidableEq

structure ExecuteResult where
  status : String
  result : Option Value
  error : Option String
  deriving DecidableEq

inductive TaskOutcome where
  | returned (result : ExecuteResult)
  | panicked
  deriving DecidableEq

structure WorkerPool where
  workers : List WorkerAgent
  running : Bool := false
  nextIndex : UInt64 := 0
  maxWaitMs : UInt64 := 5000

inductive SubmitPhase where
  | checkPool
  | scan
  /-- It reads whether the worker at the offset from the start is running, and then whether it is busy. -/
  | scanRunning (start : UInt64) (offset : Nat)
  | scanBusy (start : UInt64) (offset : Nat)
  | checkElapsed
  | waiting
  | checkWorker (worker : Nat)
  | claim (worker : Nat)
  | begin (worker : Nat)
  | start (worker : Nat)
  | executing (worker : Nat) (start : UInt64)
  | clear (worker : Nat) (result : ExecuteResult) (durationMs : UInt64)
  | record (worker : Nat) (result : ExecuteResult) (durationMs : UInt64)
  | send (worker : Nat) (result : ExecuteResult) (durationMs : UInt64)
  | release (worker : Nat)
  | finished
  | refused (now : UInt64)
  deriving DecidableEq

structure PooledTask where
  task : Task
  phase : SubmitPhase
  started : Option UInt64 := none
  results : List TaskResult := []

def elapsedMs (now earlier : UInt64) : UInt64 :=
  .ofNat (now.toNat - earlier.toNat)

def WorkerMetrics.record (metrics : WorkerMetrics) (status : String) (durationMs : UInt64)
    : WorkerMetrics :=
  let metrics := { metrics with totalDurationMs := metrics.totalDurationMs + durationMs.toNat }
  if status = "success" then { metrics with tasksCompleted := metrics.tasksCompleted + 1 }
  else if status = "timeout" then { metrics with timeouts := metrics.timeouts + 1 }
  else { metrics with errors := metrics.errors + 1 }

def CurrentTaskInfo.ofTask (task : Task) (now : UInt64) : CurrentTaskInfo where
  taskId := task.id
  traceId := task.traceId
  taskType := task.taskType
  startedMs := now
  contentPreview :=
    String.ofList ((((task.payload.get "content").bind Value.asStr).getD "").toList.take 80)
  phase := "task_started"
  lastProgressAtMs := now
  opencodeSessionId := (task.payload.get "opencode-session-id").bind Value.asStr

namespace WorkerPool

variable (pool : WorkerPool)

def update (worker : Nat) (f : WorkerAgent → WorkerAgent) : WorkerPool :=
  { pool with workers := pool.workers.modify worker f }

def indexAt (start : UInt64) (offset : Nat) : Nat :=
  ((start + .ofNat offset) % .ofNat pool.workers.length).toNat

def workerId (worker : Nat) : Option String :=
  pool.workers[worker]?.map WorkerAgent.id

end WorkerPool

namespace PooledTask

variable (task : PooledTask)

def enter (phase : SubmitPhase) : PooledTask :=
  { task with phase }

def refuse (error : String) (workerId : Option String) (durationMs now : UInt64) : PooledTask :=
  { task with
    phase := .refused now
    results := task.results ++ [{
      taskId := task.task.id
      traceId := task.task.traceId
      status := "failure"
      result := none
      error := some error
      durationMs
      workerId
      blockedReason := none }] }

def result (result : ExecuteResult) (workerId : Option String) (durationMs : UInt64) : TaskResult where
  taskId := task.task.id
  traceId := task.task.traceId
  status := result.status
  result := result.result
  error := result.error
  durationMs := durationMs
  workerId := workerId
  blockedReason := (result.result.bind (fun value => value.get "blocked_reason")).filter
    (fun reason => reason != .null)

def advance (now : UInt64) (outcome : TaskOutcome) (pool : WorkerPool)
    : Option (WorkerPool × PooledTask) :=
  match task.phase with
  | .checkPool =>
    some (pool, if pool.running then { task.enter .scan with started := some now }
      else task.refuse "Worker pool is not running" none 0 now)
  | .scan =>
    if pool.workers.isEmpty then some (pool, task.enter .checkElapsed)
    else
      some ({ pool with nextIndex := pool.nextIndex + 1 },
        task.enter (.scanRunning pool.nextIndex 0))
  | .scanRunning start offset =>
    some (pool, task.enter (
      if offset < pool.workers.length then
        if pool.workers[pool.indexAt start offset]?.any WorkerAgent.running then
          .scanBusy start offset
        else .scanRunning start (offset + 1)
      else .checkElapsed))
  | .scanBusy start offset =>
    some (pool, task.enter (
      if pool.workers[pool.indexAt start offset]?.any WorkerAgent.busy then
        .scanRunning start (offset + 1)
      else .checkWorker (pool.indexAt start offset)))
  | .checkElapsed =>
    let elapsed := (task.started.map (elapsedMs now)).getD 0
    some (pool,
      if pool.maxWaitMs ≤ elapsed then task.refuse "No available worker" none elapsed now
      else task.enter .waiting)
  | .waiting => some (pool, task.enter .scan)
  | .checkWorker worker =>
    pool.workers[worker]?.map (fun agent =>
      (pool,
        if agent.running then task.enter (.claim worker)
        else task.refuse "Worker is not running" (some agent.id) 0 now))
  | .claim worker =>
    pool.workers[worker]?.map (fun agent =>
      if agent.busy then (pool, task.refuse "Worker is busy" (some agent.id) 0 now)
      else
        (pool.update worker (fun agent => { agent with busy := true }), task.enter (.begin worker)))
  | .begin worker =>
    some (pool.update worker (fun agent =>
        { agent with currentTask := some (.ofTask task.task now) }), task.enter (.start worker))
  | .start worker => some (pool, task.enter (.executing worker now))
  | .executing worker start =>
    match outcome with
    | .returned result => some (pool, task.enter (.clear worker result (elapsedMs now start)))
    -- the guard is dropped, and nothing is sent any more
    | .panicked =>
      some (pool.update worker (fun agent => { agent with busy := false }), task.enter .finished)
  | .clear worker result durationMs =>
    some (pool.update worker (fun agent => { agent with currentTask := none }),
      task.enter (.record worker result durationMs))
  | .record worker result durationMs =>
    some (pool.update worker (fun agent =>
        { agent with metrics := agent.metrics.record result.status durationMs }),
      task.enter (.send worker result durationMs))
  | .send worker result durationMs =>
    some (pool, { task.enter (.release worker) with
      results := task.results ++ [task.result result (pool.workerId worker) durationMs] })
  | .release worker =>
    some (pool.update worker (fun agent => { agent with busy := false }), task.enter .finished)
  | .finished => none
  | .refused _ => none

end PooledTask

inductive PoolAction where
  | submit (task : Task)
  | submitTo (worker : Nat) (task : Task)
  | step (i : Nat) (now : UInt64) (outcome : TaskOutcome)
  | progress (i : Nat) (phase : String) (now : UInt64)
  | setRunning (running : Bool)
  | setWorkerRunning (worker : Nat) (running : Bool)

def CurrentTaskInfo.progress (info : CurrentTaskInfo) (phase : String) (now : UInt64)
    : CurrentTaskInfo :=
  { info with phase, lastProgressAtMs := now }

def PooledTask.progress (phase : String) (now : UInt64) (pool : WorkerPool) (task : PooledTask)
    : Option (WorkerPool × PooledTask) :=
  match task.phase with
  | .executing worker _ =>
    some (pool.update worker (fun agent =>
      { agent with currentTask := agent.currentTask.map (fun info => info.progress phase now) }), task)
  | _ => none

def poolStep (s : Threads WorkerPool PooledTask) : PoolAction → Option (Threads WorkerPool PooledTask)
  | .submit task => some (s.start { task, phase := .checkPool })
  | .submitTo worker task => some (s.start { task, phase := .checkWorker worker })
  | .step i now outcome => s.advance (fun pool task => task.advance now outcome pool) i
  | .progress i phase now => s.advance (PooledTask.progress phase now) i
  | .setRunning running => some { s with shared := { s.shared with running } }
  | .setWorkerRunning worker running =>
    some { s with shared := s.shared.update worker (fun agent => { agent with running }) }

end AnimaAgent
