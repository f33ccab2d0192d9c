import AnimaAgent.Library.Threads
import AnimaAgent.Orchestrator.ParallelPool
import AnimaAgent.Orchestrator.SpecialistPool

namespace AnimaAgent

inductive LoadBalanceStrategy where
  | leastLoaded
  | roundRobin
  | random
  deriving DecidableEq, Repr

structure SpecialistPoolConfig where
  fallbackToWorker : Bool := true
  loadBalanceStrategy : LoadBalanceStrategy := .leastLoaded

structure SpecialistMetrics where
  tasksCompleted : UInt64 := 0
  tasksFailed : UInt64 := 0
  totalDurationMs : UInt64 := 0

structure RoutingBoard where
  pool : SpecialistPool
  metrics : IndexMap String SpecialistMetrics := .empty
  roundRobinCounter : UInt64 := 0
  totalTasks : UInt64 := 0
  successfulTasks : UInt64 := 0
  failedTasks : UInt64 := 0
  routedTasks : UInt64 := 0
  fallbackTasks : UInt64 := 0

inductive Destination where
  | specialist (id : String)
  | defaultPool
  deriving DecidableEq

inductive RoutingPhase where
  | started
  /-- `pick_specialist_for` looks the capability up. -/
  | lookingUp
  | collecting (ids : List String)
  | choosing (candidates : List String)
  | comparing (candidates : List String) (least : Option (Nat × String))
  | picked (specialist : Option String)
  | tracking (id : String)
  | submitting (destination : Destination)
  | waiting (destination : Destination)
  | received (destination : Destination) (result : TaskResult)
  | measuring (id : String) (result : TaskResult)
  | recording (id : String) (result : TaskResult)
  | reporting (id : String) (result : TaskResult)
  | returned (destination : Option Destination) (result : TaskResult)

structure RouteTask where
  task : Task
  phase : RoutingPhase := .started

namespace SpecialistPool

def withLoad (pool : SpecialistPool) (id : String) (update : Nat → Nat) : SpecialistPool :=
  match pool.specialistRegistry.get id with
  | none => pool
  | some specialist =>
    { pool with
      specialistRegistry := pool.specialistRegistry.insert id
        { specialist with currentLoad := update specialist.currentLoad } }

def loadOf (pool : SpecialistPool) (id : String) : Nat :=
  ((pool.specialistRegistry.get id).map Specialist.currentLoad).getD 0

def activeOf (pool : SpecialistPool) (ids : List String) : List String :=
  ids.filter (fun id =>
    (pool.specialistRegistry.get id).any (fun specialist => specialist.status = .active))

end SpecialistPool

namespace RoutingBoard

def updateMetrics (board : RoutingBoard) (id : String)
    (update : SpecialistMetrics → SpecialistMetrics) : RoutingBoard :=
  { board with metrics := board.metrics.insert id (update ((board.metrics.get id).getD {})) }

def countResult (board : RoutingBoard) (result : TaskResult) : RoutingBoard :=
  if result.status = "success" then { board with successfulTasks := board.successfulTasks + 1 }
  else { board with failedTasks := board.failedTasks + 1 }

end RoutingBoard

def lessLoaded (least : Option (Nat × String)) (candidate : Nat × String) : Nat × String :=
  match least with
  | none => candidate
  | some best => if candidate.1 < best.1 then candidate else best

namespace RouteTask

def indexOf (strategy : LoadBalanceStrategy) (idx : UInt64) (candidates : Nat) : Nat :=
  match strategy with
  | .random => (idx * 6364136223846793005 + 1).toNat % candidates
  | _ => idx.toNat % candidates

def refusal (task : Task) : TaskResult :=
  ParallelPool.failure task ("No specialist found for capability '" ++ task.taskType ++ "'") 0

def advance (config : SpecialistPoolConfig) (board : RoutingBoard) (call : RouteTask)
    : Option (RoutingBoard × RouteTask) :=
  match call.phase with
  | .started =>
    some ({ board with totalTasks := board.totalTasks + 1 }, { call with phase := .lookingUp })
  | .lookingUp =>
    match board.pool.capabilities.get call.task.taskType with
    | none => some (board, { call with phase := .picked none })
    | some ids =>
      some (board, { call with phase := if ids.isEmpty then .picked none else .collecting ids })
  | .collecting ids => some (board, { call with phase := .choosing (board.pool.activeOf ids) })
  | .choosing candidates =>
    if candidates.isEmpty then some (board, { call with phase := .picked none })
    else
      match config.loadBalanceStrategy with
      | .leastLoaded => some (board, { call with phase := .comparing candidates none })
      | strategy =>
        some ({ board with roundRobinCounter := board.roundRobinCounter + 1 },
          { call with
            phase := .picked
              candidates[indexOf strategy board.roundRobinCounter candidates.length]? })
  | .comparing (id :: candidates) least =>
    some (board,
      { call with
        phase := .comparing candidates (some (lessLoaded least (board.pool.loadOf id, id))) })
  | .comparing [] least => some (board, { call with phase := .picked (least.map Prod.snd) })
  | .picked (some id) =>
    some ({ board with routedTasks := board.routedTasks + 1 }, { call with phase := .tracking id })
  | .picked none =>
    if config.fallbackToWorker then
      some ({ board with fallbackTasks := board.fallbackTasks + 1 },
        { call with phase := .submitting .defaultPool })
    else
      some ({ board with failedTasks := board.failedTasks + 1 },
        { call with phase := .returned none (refusal call.task) })
  | .tracking id =>
    some ({ board with pool := board.pool.withLoad id (fun load => load + 1) },
      { call with phase := .submitting (.specialist id) })
  | .submitting destination => some (board, { call with phase := .waiting destination })
  | .waiting _ => none
  | .received .defaultPool result =>
    some (board.countResult result, { call with phase := .returned (some .defaultPool) result })
  | .received (.specialist id) result =>
    some ({ board with pool := board.pool.withLoad id (fun load => load - 1) },
      { call with phase := .measuring id result })
  | .measuring id result =>
    some (board.updateMetrics id (fun metrics =>
        { metrics with totalDurationMs := metrics.totalDurationMs + result.durationMs }),
      { call with phase := .recording id result })
  | .recording id result =>
    some (board.updateMetrics id (fun metrics =>
        if result.status = "success" then { metrics with tasksCompleted := metrics.tasksCompleted + 1 }
        else { metrics with tasksFailed := metrics.tasksFailed + 1 }),
      { call with phase := .reporting id result })
  | .reporting id result =>
    some (board.countResult result,
      { call with phase := .returned (some (.specialist id)) result })
  | .returned _ _ => none

def answer (ended : Option TaskResult) (board : RoutingBoard) (call : RouteTask)
    : Option (RoutingBoard × RouteTask) :=
  match call.phase with
  | .waiting destination =>
    some (board,
      { call with
        phase := .received destination
          (ended.getD (ParallelPool.failure call.task "Task result channel closed" 0)) })
  | _ => none

def destination (call : RouteTask) : Option Destination :=
  match call.phase with
  | .tracking id => some (.specialist id)
  | .submitting destination => some destination
  | .waiting destination => some destination
  | .received destination _ => some destination
  | .measuring id _ => some (.specialist id)
  | .recording id _ => some (.specialist id)
  | .reporting id _ => some (.specialist id)
  | .returned destination _ => destination
  | _ => none

def hasReturned (call : RouteTask) : Bool :=
  match call.phase with
  | .returned _ _ => true
  | _ => false

def tracked (id : String) (call : RouteTask) : Bool :=
  match call.phase with
  | .submitting destination => destination = .specialist id
  | .waiting destination => destination = .specialist id
  | .received destination _ => destination = .specialist id
  | _ => false

def unfinished (id : String) (call : RouteTask) : Bool :=
  match call.phase with
  | .waiting destination => destination = .specialist id
  | _ => false

def underWay (id : String) (call : RouteTask) : Bool :=
  !call.hasReturned && call.destination = some (.specialist id)

def refused (call : RouteTask) : Bool :=
  call.hasReturned && call.destination = none

end RouteTask

inductive RoutingAction where
  | route (task : Task)
  | advance (i : Nat)
  | answer (i : Nat) (ended : Option TaskResult)

abbrev Routing := Threads RoutingBoard RouteTask

namespace Routing

def init (pool : SpecialistPool) : Routing where
  shared := { pool }
  threads := []

def step (config : SpecialistPoolConfig) (s : Routing) : RoutingAction → Option Routing
  | .route task => some (s.start { task })
  | .advance i => s.advance (RouteTask.advance config) i
  | .answer i ended => s.advance (RouteTask.answer ended) i

structure Accounted (s : Routing) : Prop where
  load : ∀ id specialist, s.shared.pool.specialistRegistry.get id = some specialist
    → specialist.currentLoad = s.threads.countP (RouteTask.tracked id)
  /-- Each unfinished task of a specialist is in its load, and each call in its load is under way. -/
  bounds : ∀ id, s.threads.countP (RouteTask.unfinished id) ≤ s.threads.countP (RouteTask.tracked id)
    ∧ s.threads.countP (RouteTask.tracked id) ≤ s.threads.countP (RouteTask.underWay id)
  settled : (∀ call ∈ s.threads, call.hasReturned = true)
    → (∀ id specialist, s.shared.pool.specialistRegistry.get id = some specialist
        → specialist.currentLoad = 0)
      ∧ s.shared.totalTasks = s.shared.successfulTasks + s.shared.failedTasks
      ∧ s.shared.totalTasks = s.shared.routedTasks + s.shared.fallbackTasks
          + UInt64.ofNat (s.threads.countP RouteTask.refused)

end Routing

namespace SpecialistPool

variable {pool : SpecialistPool}

def registered (pool : SpecialistPool) (id : String) : Prop :=
  (pool.specialistRegistry.get id).isSome = true

theorem registered_of_mem_activeOf {ids : List String} {id : String} (h : id ∈ pool.activeOf ids)
    : pool.registered id := by
  have hany := (List.mem_filter.mp h).2
  unfold registered
  cases hget : pool.specialistRegistry.get id with
  | none =>
    rw [hget] at hany
    cases hany
  | some specialist => rfl

theorem registered_withLoad (id other : String) (update : Nat → Nat)
    : (pool.withLoad id update).registered other ↔ pool.registered other := by
  unfold registered withLoad
  cases hget : pool.specialistRegistry.get id with
  | none => exact Iff.rfl
  | some specialist =>
    dsimp only
    rw [IndexMap.get_insert_eq]
    split
    . next hother =>
      rw [hother, hget]
      exact Iff.rfl
    . exact Iff.rfl

theorem loadOf_withLoad {id : String} (h : pool.registered id) (other : String) (update : Nat → Nat)
    : (pool.withLoad id update).loadOf other
        = if other = id then update (pool.loadOf id) else pool.loadOf other := by
  unfold loadOf withLoad
  unfold registered at h
  cases hget : pool.specialistRegistry.get id with
  | none =>
    rw [hget] at h
    cases h
  | some specialist =>
    dsimp only
    rw [IndexMap.get_insert_eq]
    split
    . rfl
    . rfl

theorem registered_of_loadOf_pos {id : String} (h : 0 < pool.loadOf id) : pool.registered id := by
  unfold loadOf at h
  unfold registered
  cases hget : pool.specialistRegistry.get id with
  | none =>
    rw [hget] at h
    cases h
  | some specialist => rfl

theorem loadOf_step {pool' : SpecialistPool} {action : SpecialistAction}
    (h : ∀ id, pool.loadOf id = 0) (hstep : pool.step action = some pool')
    : ∀ id, pool'.loadOf id = 0 := by
  intro other
  have hinsert {id : String} {specialist : Specialist} (hload : specialist.currentLoad = 0)
      : (((pool.specialistRegistry.insert id specialist).get other).map
          Specialist.currentLoad).getD 0 = 0 := by
    rw [IndexMap.get_insert_eq]
    split
    . exact hload
    . exact h other
  have hold {id : String} {specialist : Specialist}
      (hget : pool.specialistRegistry.get id = some specialist) : specialist.currentLoad = 0 := by
    have hload := h id
    rwa [loadOf, hget] at hload
  cases action with
  | register opts =>
    cases hstep
    exact hinsert rfl
  | unregister id =>
    cases hstep
    unfold loadOf unregisterSpecialist
    dsimp only
    rw [IndexMap.get_shiftRemove_eq]
    split
    . rfl
    . exact h other
  | addCapability id capability =>
    cases hstep
    unfold loadOf addCapability
    cases hget : pool.specialistRegistry.get id with
    | none => exact h other
    | some specialist =>
      have hload := hold hget
      exact hinsert hload
  | removeCapability id capability =>
    cases hstep
    unfold loadOf removeCapability
    dsimp only
    cases hget : pool.specialistRegistry.get id with
    | none => exact h other
    | some specialist =>
      have hload := hold hget
      exact hinsert hload

end SpecialistPool

namespace RouteTask

variable {board board' : RoutingBoard} {call call' : RouteTask}

def candidates (call : RouteTask) : List String :=
  match call.phase with
  | .choosing candidates => candidates
  | .comparing candidates least => candidates ++ (least.map Prod.snd).toList
  | .picked specialist => specialist.toList
  | .tracking id => [id]
  | _ => []

def hasStarted (call : RouteTask) : Bool :=
  match call.phase with
  | .started => false
  | _ => true

def routed (call : RouteTask) : Bool :=
  match call.destination with
  | some (.specialist _) => true
  | _ => false

def fallenBack (call : RouteTask) : Bool :=
  call.destination = some .defaultPool

structure Balances (board : RoutingBoard) (call : RouteTask) (board' : RoutingBoard)
    (call' : RouteTask) : Prop where
  loads : ∀ id, board'.pool.loadOf id + (call.tracked id).toNat
    = board.pool.loadOf id + (call'.tracked id).toNat
  registered : ∀ id, board'.pool.registered id ↔ board.pool.registered id
  total : board'.totalTasks + UInt64.ofNat call.hasStarted.toNat
    = board.totalTasks + UInt64.ofNat call'.hasStarted.toNat
  results : board'.successfulTasks + board'.failedTasks + UInt64.ofNat call.hasReturned.toNat
    = board.successfulTasks + board.failedTasks + UInt64.ofNat call'.hasReturned.toNat
  routed : board'.routedTasks + UInt64.ofNat call.routed.toNat
    = board.routedTasks + UInt64.ofNat call'.routed.toNat
  fallback : board'.fallbackTasks + UInt64.ofNat call.fallenBack.toNat
    = board.fallbackTasks + UInt64.ofNat call'.fallenBack.toNat

theorem Balances.of_eq (hpool : board'.pool = board.pool) (htotal : board'.totalTasks = board.totalTasks)
    (hsuccessful : board'.successfulTasks = board.successfulTasks)
    (hfailed : board'.failedTasks = board.failedTasks) (hrouted : board'.routedTasks = board.routedTasks)
    (hfallback : board'.fallbackTasks = board.fallbackTasks)
    (htracked : ∀ id, call'.tracked id = call.tracked id) (hstarted : call'.hasStarted = call.hasStarted)
    (hreturned : call'.hasReturned = call.hasReturned) (hdestination : call'.destination = call.destination)
    : Balances board call board' call' := by
  have hrouted' : call'.routed = call.routed := by
    unfold RouteTask.routed
    rw [hdestination]
  have hfallenBack : call'.fallenBack = call.fallenBack := by
    unfold fallenBack
    rw [hdestination]
  constructor
  . intro id
    rw [hpool, htracked]
  . intro id
    rw [hpool]
  . rw [htotal, hstarted]
  . rw [hsuccessful, hfailed, hreturned]
  . rw [hrouted, hrouted']
  . rw [hfallback, hfallenBack]

theorem results_countResult (board : RoutingBoard) (result : TaskResult)
    : (board.countResult result).successfulTasks + (board.countResult result).failedTasks
        = board.successfulTasks + board.failedTasks + 1 := by
  unfold RoutingBoard.countResult
  split
  . dsimp only
    rw [UInt64.add_assoc, UInt64.add_comm 1, ← UInt64.add_assoc]
  . exact (UInt64.add_assoc _ _ _).symm

theorem countResult_eq (board : RoutingBoard) (result : TaskResult)
    : (board.countResult result).pool = board.pool
        ∧ (board.countResult result).totalTasks = board.totalTasks
        ∧ (board.countResult result).routedTasks = board.routedTasks
        ∧ (board.countResult result).fallbackTasks = board.fallbackTasks := by
  unfold RoutingBoard.countResult
  split
  . exact ⟨rfl, rfl, rfl, rfl⟩
  . exact ⟨rfl, rfl, rfl, rfl⟩

theorem Balances.of_countResult (result : TaskResult)
    (htracked : ∀ id, call'.tracked id = call.tracked id) (hstarted : call'.hasStarted = call.hasStarted)
    (hbefore : call.hasReturned = false) (hafter : call'.hasReturned = true)
    (hdestination : call'.destination = call.destination)
    : Balances board call (board.countResult result) call' := by
  obtain ⟨hpool, htotal, hrouted, hfallback⟩ := countResult_eq board result
  constructor
  . intro id
    rw [hpool, htracked]
  . intro id
    rw [hpool]
  . rw [htotal, hstarted]
  . rw [results_countResult, hbefore, hafter]
    exact UInt64.add_zero _
  . unfold RouteTask.routed
    rw [hrouted, hdestination]
  . unfold fallenBack
    rw [hfallback, hdestination]

theorem candidates_comparing (task : Task) (id : String) (candidates : List String)
    (least : Option (Nat × String)) (load : Nat)
    : RouteTask.candidates
          { task, phase := .comparing candidates (some (lessLoaded least (load, id))) }
        ⊆ RouteTask.candidates { task, phase := .comparing (id :: candidates) least } := by
  have hleast : (lessLoaded least (load, id)).2 ∈ id :: (least.map Prod.snd).toList := by
    cases least with
    | none => exact List.mem_cons_self
    | some best =>
      unfold lessLoaded
      dsimp only
      split
      . exact List.mem_cons_self
      . exact List.mem_cons_of_mem _ (List.mem_singleton_self _)
  intro other hother
  simp only [RouteTask.candidates, List.mem_append, List.cons_append, List.mem_cons] at hother hleast ⊢
  rcases hother with hother | hother
  . exact .inr (.inl hother)
  . cases List.mem_singleton.mp hother
    rcases hleast with heq | hmem
    . exact .inl heq
    . exact .inr (.inr hmem)

theorem advance_balances {config : SpecialistPoolConfig}
    (hknown : ∀ id ∈ call.candidates, board.pool.registered id)
    (htracked : ∀ id, call.tracked id = true → 0 < board.pool.loadOf id)
    (h : call.advance config board = some (board', call'))
    : Balances board call board' call'
        ∧ ∀ id ∈ call'.candidates, board.pool.registered id := by
  obtain ⟨task, phase⟩ := call
  cases phase with
  | started =>
    cases h
    exact ⟨⟨fun _ => rfl, fun _ => Iff.rfl, (UInt64.add_zero _).trans rfl, rfl, rfl, rfl⟩, nofun⟩
  | lookingUp =>
    unfold advance at h
    dsimp only at h
    split at h
    . cases h
      exact ⟨.of_eq rfl rfl rfl rfl rfl rfl (fun _ => rfl) rfl rfl rfl, nofun⟩
    . next ids _ =>
      cases h
      split
      . exact ⟨.of_eq rfl rfl rfl rfl rfl rfl (fun _ => rfl) rfl rfl rfl, nofun⟩
      . exact ⟨.of_eq rfl rfl rfl rfl rfl rfl (fun _ => rfl) rfl rfl rfl, nofun⟩
  | collecting ids =>
    cases h
    exact ⟨.of_eq rfl rfl rfl rfl rfl rfl (fun _ => rfl) rfl rfl rfl,
      fun _ hid => SpecialistPool.registered_of_mem_activeOf hid⟩
  | choosing candidates =>
    unfold advance at h
    dsimp only at h
    split at h
    . cases h
      exact ⟨.of_eq rfl rfl rfl rfl rfl rfl (fun _ => rfl) rfl rfl rfl, nofun⟩
    . split at h
      . cases h
        exact ⟨.of_eq rfl rfl rfl rfl rfl rfl (fun _ => rfl) rfl rfl rfl,
          fun id hid => hknown id (by simpa [RouteTask.candidates] using hid)⟩
      . cases h
        refine ⟨.of_eq rfl rfl rfl rfl rfl rfl (fun _ => rfl) rfl rfl rfl, fun id hid => ?_⟩
        exact hknown id (List.mem_of_getElem? (Option.mem_toList.mp hid))
  | comparing candidates least =>
    cases candidates with
    | nil =>
      cases h
      exact ⟨.of_eq rfl rfl rfl rfl rfl rfl (fun _ => rfl) rfl rfl rfl, hknown⟩
    | cons id candidates =>
      cases h
      exact ⟨.of_eq rfl rfl rfl rfl rfl rfl (fun _ => rfl) rfl rfl rfl,
        fun other hother => hknown other (candidates_comparing task id candidates least _ hother)⟩
  | picked specialist =>
    cases specialist with
    | some id =>
      cases h
      exact ⟨⟨fun _ => rfl, fun _ => Iff.rfl, rfl, rfl, (UInt64.add_zero _).trans rfl, rfl⟩, hknown⟩
    | none =>
      unfold advance at h
      dsimp only at h
      split at h
      . cases h
        exact ⟨⟨fun _ => rfl, fun _ => Iff.rfl, rfl, rfl, rfl, (UInt64.add_zero _).trans rfl⟩, nofun⟩
      . cases h
        refine ⟨⟨fun _ => rfl, fun _ => Iff.rfl, rfl, ?_, rfl, rfl⟩, nofun⟩
        exact (UInt64.add_zero _).trans (UInt64.add_assoc _ _ _).symm
  | tracking id =>
    cases h
    have hid := hknown id (List.mem_singleton_self id)
    refine ⟨⟨?_, fun other => SpecialistPool.registered_withLoad id other _, rfl, rfl, rfl, rfl⟩, nofun⟩
    intro other
    dsimp only
    rw [SpecialistPool.loadOf_withLoad hid]
    by_cases hother : other = id
    . subst hother
      simp [tracked]
    . have : id ≠ other := fun heq => hother heq.symm
      simp [tracked, hother, this]
  | submitting destination =>
    cases h
    exact ⟨.of_eq rfl rfl rfl rfl rfl rfl (fun _ => rfl) rfl rfl rfl, nofun⟩
  | waiting destination => cases h
  | received destination result =>
    cases destination with
    | defaultPool =>
      cases h
      exact ⟨.of_countResult result (fun _ => rfl) rfl rfl rfl rfl, nofun⟩
    | specialist id =>
      cases h
      have hpos := htracked id (decide_eq_true rfl)
      have hid := SpecialistPool.registered_of_loadOf_pos hpos
      refine ⟨⟨?_, fun other => SpecialistPool.registered_withLoad id other _, rfl, rfl, rfl, rfl⟩,
        nofun⟩
      intro other
      dsimp only
      rw [SpecialistPool.loadOf_withLoad hid]
      by_cases hother : other = id
      . subst hother
        simp only [tracked, decide_true, if_true, Bool.toNat_true, Bool.toNat_false]
        omega
      . have : id ≠ other := fun heq => hother heq.symm
        simp [tracked, hother, this]
  | measuring id result =>
    cases h
    exact ⟨.of_eq rfl rfl rfl rfl rfl rfl (fun _ => rfl) rfl rfl rfl, nofun⟩
  | recording id result =>
    cases h
    exact ⟨.of_eq rfl rfl rfl rfl rfl rfl (fun _ => rfl) rfl rfl rfl, nofun⟩
  | reporting id result =>
    cases h
    exact ⟨.of_countResult result (fun _ => rfl) rfl rfl rfl rfl, nofun⟩
  | returned destination result => cases h

theorem answer_balances {ended : Option TaskResult} (h : call.answer ended board = some (board', call'))
    : Balances board call board' call'
        ∧ ∀ id ∈ call'.candidates, board.pool.registered id := by
  obtain ⟨task, phase⟩ := call
  cases phase with
  | waiting destination =>
    cases h
    exact ⟨.of_eq rfl rfl rfl rfl rfl rfl (fun _ => rfl) rfl rfl rfl, nofun⟩
  | _ => cases h

end RouteTask

namespace Routing

variable {s s' : Routing} {config : SpecialistPoolConfig}

structure Counts (s : Routing) : Prop where
  known : ∀ call ∈ s.threads, ∀ id ∈ call.candidates, s.shared.pool.registered id
  loads : ∀ id, s.shared.pool.loadOf id = s.threads.countP (RouteTask.tracked id)
  total : s.shared.totalTasks = UInt64.ofNat (s.threads.countP RouteTask.hasStarted)
  results : s.shared.successfulTasks + s.shared.failedTasks
    = UInt64.ofNat (s.threads.countP RouteTask.hasReturned)
  routed : s.shared.routedTasks = UInt64.ofNat (s.threads.countP RouteTask.routed)
  fallback : s.shared.fallbackTasks = UInt64.ofNat (s.threads.countP RouteTask.fallenBack)

theorem counter_set {P : RouteTask → Bool} {i : Nat} {call call' : RouteTask} {n n' : UInt64}
    (hi : s.threads[i]? = some call) (h : n = UInt64.ofNat (s.threads.countP P))
    (hstep : n' + UInt64.ofNat (P call).toNat = n + UInt64.ofNat (P call').toNat)
    : n' = UInt64.ofNat ((s.threads.set i call').countP P) := by
  have hcount := Threads.countP_set (P := P) call' hi
  refine (UInt64.add_left_inj (UInt64.ofNat (P call).toNat)).mp ?_
  rw [hstep, h, ← UInt64.ofNat_add, ← UInt64.ofNat_add, hcount]

theorem Counts.set (h : s.Counts) {i : Nat} {call call' : RouteTask} {board' : RoutingBoard}
    (hi : s.threads[i]? = some call)
    (hstep : RouteTask.Balances s.shared call board' call')
    (hknown : ∀ id ∈ call'.candidates, s.shared.pool.registered id)
    : Counts { shared := board', threads := s.threads.set i call' } where
  known := by
    intro other hother id hid
    rw [hstep.registered]
    obtain rfl | ⟨j, -, hj⟩ := Threads.mem_set hother
    . exact hknown id hid
    . exact h.known other (List.mem_of_getElem? hj) id hid
  loads := by
    intro id
    have hcount := Threads.countP_set (P := RouteTask.tracked id) call' hi
    have hbefore := h.loads id
    have hload := hstep.loads id
    dsimp only
    omega
  total := counter_set hi h.total hstep.total
  results := counter_set hi h.results hstep.results
  routed := counter_set hi h.routed hstep.routed
  fallback := counter_set hi h.fallback hstep.fallback

theorem Counts.step (h : s.Counts) {action : RoutingAction} (hstep : s.step config action = some s')
    : s'.Counts := by
  cases action with
  | route task =>
    cases hstep
    have hcount {P : RouteTask → Bool} (hP : P ⟨task, .started⟩ = false)
        : (s.threads ++ [(⟨task, .started⟩ : RouteTask)]).countP P = s.threads.countP P := by
      rw [List.countP_append, List.countP_singleton, hP]
      rfl
    refine ⟨?_, ?_, ?_, ?_, ?_, ?_⟩
    . intro call hcall
      rcases List.mem_append.mp hcall with hold | hnew
      . exact h.known call hold
      . cases List.mem_singleton.mp hnew
        nofun
    . intro id
      exact (h.loads id).trans (hcount rfl).symm
    . exact h.total.trans (congrArg UInt64.ofNat (hcount rfl).symm)
    . exact h.results.trans (congrArg UInt64.ofNat (hcount rfl).symm)
    . exact h.routed.trans (congrArg UInt64.ofNat (hcount rfl).symm)
    . exact h.fallback.trans (congrArg UInt64.ofNat (hcount rfl).symm)
  | advance i =>
    obtain ⟨call, call', board', hi, hact, rfl⟩ := Threads.advance_eq_some hstep
    have hmem := List.mem_of_getElem? hi
    have htracked : ∀ id, call.tracked id = true → 0 < s.shared.pool.loadOf id := by
      intro id hid
      rw [h.loads]
      exact List.countP_pos_iff.mpr ⟨call, hmem, hid⟩
    obtain ⟨hbalances, hknown⟩ := RouteTask.advance_balances (h.known call hmem) htracked hact
    exact h.set hi hbalances hknown
  | answer i ended =>
    obtain ⟨call, call', board', hi, hact, rfl⟩ := Threads.advance_eq_some hstep
    obtain ⟨hbalances, hknown⟩ := RouteTask.answer_balances hact
    exact h.set hi hbalances hknown

theorem countP_returned {P : RouteTask → Bool} (h : ∀ call ∈ s.threads, call.hasReturned = true)
    (hP : ∀ call : RouteTask, call.hasReturned = true → P call = true)
    : s.threads.countP P = s.threads.length :=
  List.countP_eq_length.mpr fun call hcall => hP call (h call hcall)

theorem countP_destinations (threads : List RouteTask)
    (h : ∀ call ∈ threads, call.hasReturned = true)
    : threads.countP RouteTask.routed + threads.countP RouteTask.fallenBack
        + threads.countP RouteTask.refused = threads.length := by
  induction threads with
  | nil => rfl
  | cons call threads ih =>
    have hrest := ih fun other hother => h other (List.mem_cons_of_mem _ hother)
    have hcall : call.routed.toNat + call.fallenBack.toNat + call.refused.toNat = 1 := by
      have hreturned := h call List.mem_cons_self
      unfold RouteTask.routed RouteTask.fallenBack RouteTask.refused
      rw [hreturned]
      rcases call.destination with _ | _ | _
      . rfl
      . rfl
      . rfl
    simp only [ParallelPool.countP_cons_toNat, List.length_cons]
    omega

theorem Counts.accounted (h : s.Counts) : s.Accounted where
  load := by
    intro id specialist hget
    rw [← h.loads, SpecialistPool.loadOf, hget]
    rfl
  bounds := by
    intro id
    constructor
    . refine List.countP_mono_left fun call _ hcall => ?_
      obtain ⟨task, phase⟩ := call
      cases phase with
      | waiting destination => exact hcall
      | _ => cases hcall
    . refine List.countP_mono_left fun call _ hcall => ?_
      have hunder : call.hasReturned = false ∧ call.destination = some (.specialist id) := by
        obtain ⟨task, phase⟩ := call
        cases phase with
        | submitting destination => exact ⟨rfl, congrArg some (of_decide_eq_true hcall)⟩
        | waiting destination => exact ⟨rfl, congrArg some (of_decide_eq_true hcall)⟩
        | received destination result => exact ⟨rfl, congrArg some (of_decide_eq_true hcall)⟩
        | _ => cases hcall
      rw [RouteTask.underWay, hunder.1, hunder.2, decide_eq_true rfl]
      rfl
  settled := by
    intro hreturned
    have hphase (call : RouteTask) (hcall : call.hasReturned = true)
        : call.hasStarted = true ∧ ∀ id, call.tracked id = false := by
      obtain ⟨task, phase⟩ := call
      cases phase with
      | returned destination result => exact ⟨rfl, fun _ => rfl⟩
      | _ => cases hcall
    have htotal := h.total
    rw [countP_returned hreturned fun call hcall => (hphase call hcall).1] at htotal
    refine ⟨?_, ?_, ?_⟩
    . intro id specialist hget
      have hload := h.loads id
      rw [SpecialistPool.loadOf, hget] at hload
      refine hload.trans (List.countP_eq_zero.mpr fun call hcall => ?_)
      rw [(hphase call (hreturned call hcall)).2]
      exact Bool.false_ne_true
    . rw [htotal, h.results, countP_returned hreturned fun _ hcall => hcall]
    . rw [htotal, h.routed, h.fallback, ← UInt64.ofNat_add, ← UInt64.ofNat_add,
        countP_destinations s.threads hreturned]

theorem counts_init {setup : List SpecialistAction} {pool : SpecialistPool}
    (h : Runs.run SpecialistPool.step .new setup = some pool) : (init pool).Counts := by
  have hidle : Runs.Always SpecialistPool.step (fun pool => ∀ id, pool.loadOf id = 0) .new setup :=
    Runs.always_of_forall_step (fun _ _ _ hload hstep => SpecialistPool.loadOf_step hload hstep) setup
      (fun _ => rfl)
  exact ⟨nofun, hidle.run_eq_some h, rfl, rfl, rfl, rfl⟩

theorem always_accounted (config : SpecialistPoolConfig) (setup : List SpecialistAction)
    {pool : SpecialistPool} (hpool : Runs.run SpecialistPool.step .new setup = some pool)
    (actions : List RoutingAction)
    : Runs.Always (step config) Accounted (init pool) actions := by
  have hcounts : Runs.Always (step config) Counts (init pool) actions :=
    Runs.always_of_forall_step (fun _ _ _ h hstep => h.step hstep) actions (counts_init hpool)
  exact hcounts.mono fun _ h => h.accounted

def narrowReviewer : RegisterSpecialistOpts where
  id := "reviewer"
  name := "Reviewer"
  capabilities := ["review"]
  priority := 1
  maxConcurrent := 1

/-- Two calls get the same specialist; the task of the first one is reviewed, the other one is lost. -/
def reviewedTwice : List RoutingAction :=
  let task := makeTask "task" "trace" { taskType := "review" }
  let reviewed : TaskResult :=
    { ParallelPool.failure task "" 0 with status := "success", error := none }
  [.route task, .route task] ++ List.replicate 9 (.advance 0) ++ List.replicate 9 (.advance 1)
    ++ [.answer 0 (some reviewed), .answer 1 none] ++ List.replicate 4 (.advance 1)
    ++ List.replicate 4 (.advance 0)

theorem always_accounted_reviewedTwice
    : let pool := SpecialistPool.new.registerSpecialist narrowReviewer
      Runs.Always (step {}) Accounted (init pool) reviewedTwice
        ∧ (Runs.run (step {}) (init pool) reviewedTwice).map (fun s =>
            (s.threads.all RouteTask.hasReturned, s.shared.successfulTasks, s.shared.failedTasks))
          = some (true, 1, 1) := by
  refine ⟨always_accounted {} [.register narrowReviewer] rfl _, ?_⟩
  decide +kernel

/-- Two calls at a time give the specialist two tasks, although it has room for one. -/
theorem narrowReviewer_overloaded
    : ¬∀ (config : SpecialistPoolConfig) (setup : List SpecialistAction) (pool : SpecialistPool)
        (actions : List RoutingAction), Runs.run SpecialistPool.step .new setup = some pool
          → Runs.Always (step config) (fun s => ∀ specialist,
              s.shared.pool.specialistRegistry.get "reviewer" = some specialist
                → specialist.currentLoad ≤ specialist.maxConcurrent) (init pool) actions := by
  intro h
  let task := makeTask "task" "trace" { taskType := "review" }
  let actions : List RoutingAction :=
    [.route task, .route task] ++ List.replicate 8 (.advance 0) ++ List.replicate 8 (.advance 1)
  let pool := SpecialistPool.new.registerSpecialist narrowReviewer
  have halways := h {} [.register narrowReviewer] pool actions rfl
  have hload : ((Runs.run (step {}) (init pool) actions).bind (fun s =>
        s.shared.pool.specialistRegistry.get "reviewer")).map
          (fun specialist => (specialist.currentLoad, specialist.maxConcurrent)) = some (2, 1) := by
    decide +kernel
  obtain ⟨specialist, hspecialist, hpair⟩ := Option.map_eq_some_iff.mp hload
  obtain ⟨s, hrun, hget⟩ := Option.bind_eq_some_iff.mp hspecialist
  have hle := halways.run_eq_some hrun specialist hget
  have hcurrent := congrArg Prod.fst hpair
  have hmax := congrArg Prod.snd hpair
  dsimp only at hcurrent hmax
  omega

end Routing

end AnimaAgent
