import AnimaAgent.Agent.InitialExecution

namespace AnimaAgent

/-- `slice::chunks`, where the fuel is the length of the list. -/
def chunksFrom {α : Type} (size : Nat) : Nat → List α → List (List α)
  | 0, _ => []
  | fuel + 1, xs => if xs.isEmpty then [] else xs.take size :: chunksFrom size fuel (xs.drop size)

def chunks {α : Type} (size : Nat) (xs : List α) : List (List α) :=
  chunksFrom size xs.length xs

/--
The comparison of a success ratio with `min_success_ratio` is one of floating-point numbers. It says
whether so many successes of so many tasks are too few.
-/
structure ParallelPoolConfig where
  maxConcurrent : Nat := 10
  defaultTimeoutMs : UInt64 := 60000
  failFast : Bool := false
  belowMinSuccessRatio : Nat → Nat → Bool := fun successful total => decide (2 * successful < total)

inductive Received where
  | result (result : TaskResult)
  | timeout
  | disconnected

/-- The counts of a call, its results so far and the tasks that it has submitted to the workers. -/
structure BatchRun where
  submitted : List Task := []
  results : List TaskResult := []
  successful : Nat := 0
  failed : Nat := 0
  timedOut : Nat := 0

namespace ParallelPool

variable (config : ParallelPoolConfig)

def failure (task : Task) (error : String) (durationMs : UInt64) : TaskResult where
  taskId := task.id
  traceId := task.traceId
  status := "failure"
  result := none
  error := some error
  durationMs := durationMs
  workerId := none
  blockedReason := none

def resultOf (entry : Task × Received) : TaskResult :=
  match entry.2 with
  | .result result => result
  | .timeout => failure entry.1 "Task timed out" config.defaultTimeoutMs
  | .disconnected => failure entry.1 "Task result channel closed" 0

def timesOut (entry : Task × Received) : Bool :=
  match entry.2 with
  | .timeout => true
  | _ => false

def speaksOfTimeout (result : TaskResult) : Bool :=
  result.error.any (fun e => Text.contains "timed out" e)

def receive (run : BatchRun) (entry : Task × Received) : BatchRun :=
  let result := resultOf config entry
  let timedOut := if timesOut entry then run.timedOut + 1 else run.timedOut
  let run := { run with timedOut, results := run.results ++ [result] }
  if result.status = "success" then { run with successful := run.successful + 1 }
  else if !speaksOfTimeout result then { run with failed := run.failed + 1 }
  else run

def receiveBatch (run : BatchRun) : List (Task × Received) → BatchRun
  | [] => run
  | entry :: rest =>
    let run := receive config run entry
    if config.failFast ∧ 0 < run.failed + run.timedOut then run else receiveBatch run rest

def executeBatches (total : Nat) (run : BatchRun) : List (List (Task × Received)) → Option BatchRun
  | [] => some run
  | batch :: rest =>
    let run := receiveBatch config { run with submitted := run.submitted ++ batch.map Prod.fst } batch
    let totalSoFar := run.results.length
    if total < totalSoFar then none
    else
      let bestPossible := run.successful + (total - totalSoFar)
      if 0 < totalSoFar ∧ config.belowMinSuccessRatio bestPossible total then some run
      else if config.failFast ∧ 0 < run.failed + run.timedOut then some run
      else executeBatches total run rest

/-- Each task comes with what is received for it if it is submitted. A size of zero panics. -/
def executeBatch (opts : Option ParallelPoolConfig) (tasks : List (Task × Received))
    : Option BatchRun :=
  let config := opts.getD config
  if config.maxConcurrent = 0 then none
  else executeBatches config tasks.length {} (chunks config.maxConcurrent tasks)

def Fails (entry : Task × Received) : Prop :=
  (resultOf config entry).status ≠ "success"

def TooFewBefore (tasks : List (Task × Received)) (n : Nat) : Prop :=
  config.belowMinSuccessRatio
    ((tasks.take n).countP (fun entry => (resultOf config entry).status == "success")
      + (tasks.length - n)) tasks.length = true

structure SoundBatch (tasks : List (Task × Received)) (run : BatchRun) : Prop where
  results : run.results = (tasks.take run.results.length).map (resultOf config)
  complete : run.results.length < tasks.length
    → (config.failFast = true ∧ ∃ entry ∈ tasks.take run.results.length, Fails config entry)
      ∨ TooFewBefore config tasks run.results.length
  counts : run.successful + run.failed + run.timedOut = run.results.length
  submitted : run.submitted = (tasks.take run.submitted.length).map Prod.fst
  failFast : config.failFast = true → ∀ i entry, tasks[i]? = some entry → Fails config entry
    → run.submitted.length ≤ (i / config.maxConcurrent + 1) * config.maxConcurrent

/-- The task fails without a timeout, with an error that speaks of one. -/
def disguised (entry : Task × Received) : Bool :=
  match entry.2 with
  | .result result => result.status != "success" && speaksOfTimeout result
  | _ => false

def StopsBefore (tasks : List (Task × Received)) (i : Nat) : Prop :=
  (config.failFast = true ∧ ∃ entry ∈ tasks.take i, Fails config entry)
    ∨ ∃ n ≤ i, 0 < n ∧ config.maxConcurrent ∣ n ∧ TooFewBefore config tasks n

section Counts

variable {config}

def succeeds (config : ParallelPoolConfig) (entry : Task × Received) : Bool :=
  (resultOf config entry).status == "success"

def failsOpenly (config : ParallelPoolConfig) (entry : Task × Received) : Bool :=
  !succeeds config entry && !speaksOfTimeout (resultOf config entry)

def after (config : ParallelPoolConfig) (processed submitted : List (Task × Received)) : BatchRun where
  submitted := submitted.map Prod.fst
  results := processed.map (resultOf config)
  successful := processed.countP (succeeds config)
  failed := processed.countP (failsOpenly config)
  timedOut := processed.countP timesOut

theorem resultOf_of_timesOut {entry : Task × Received} (h : timesOut entry = true)
    : succeeds config entry = false ∧ failsOpenly config entry = false
        ∧ disguised entry = false := by
  obtain ⟨task, received⟩ := entry
  cases received with
  | result result => cases h
  | timeout => exact ⟨rfl, by unfold failsOpenly; rfl, rfl⟩
  | disconnected => cases h

theorem counted_once (entry : Task × Received)
    : (succeeds config entry).toNat + (failsOpenly config entry).toNat + (timesOut entry).toNat
        + (disguised entry).toNat = 1 := by
  cases ht : timesOut entry with
  | true =>
    obtain ⟨hs, hf, hd⟩ := @resultOf_of_timesOut config _ ht
    rw [hs, hf, hd]
    rfl
  | false =>
    obtain ⟨task, received⟩ := entry
    cases received with
    | result result =>
      have hs : succeeds config (task, .result result) = (result.status == "success") := rfl
      have hf : failsOpenly config (task, .result result)
          = (!(result.status == "success") && !speaksOfTimeout result) := rfl
      have hd : disguised (task, .result result)
          = (!(result.status == "success") && speaksOfTimeout result) := rfl
      rw [hs, hf, hd]
      cases result.status == "success" <;> cases speaksOfTimeout result <;> rfl
    | timeout => cases ht
    | disconnected => rfl

theorem countP_cons_toNat {α : Type} (p : α → Bool) (x : α) (xs : List α)
    : (x :: xs).countP p = (p x).toNat + xs.countP p := by
  rw [List.countP_cons, Nat.add_comm]
  cases p x <;> rfl

theorem counted (processed : List (Task × Received))
    : processed.countP (succeeds config) + processed.countP (failsOpenly config)
        + processed.countP timesOut + processed.countP disguised = processed.length := by
  induction processed with
  | nil => rfl
  | cons entry processed ih =>
    have := @counted_once config entry
    simp only [countP_cons_toNat, List.length_cons]
    omega

theorem receive_after (processed submitted : List (Task × Received)) (entry : Task × Received)
    : receive config (after config processed submitted) entry
        = after config (processed ++ [entry]) submitted := by
  have hsuccess : succeeds config entry = ((resultOf config entry).status == "success") := rfl
  have hfail : failsOpenly config entry
      = (!succeeds config entry && !speaksOfTimeout (resultOf config entry)) := rfl
  simp only [receive, after, List.map_append, List.map_cons, List.map_nil, List.countP_append,
    List.countP_singleton]
  cases hs : succeeds config entry <;> cases hf : speaksOfTimeout (resultOf config entry)
    <;> cases ht : timesOut entry <;> simp_all

def Stumbles (config : ParallelPoolConfig) (processed : List (Task × Received)) : Prop :=
  0 < processed.countP (failsOpenly config) + processed.countP timesOut

theorem stumbles_iff {processed : List (Task × Received)}
    : Stumbles config processed
        ↔ ∃ entry ∈ processed, Fails config entry ∧ disguised entry = false := by
  have hmem (entry : Task × Received) : (failsOpenly config entry = true ∨ timesOut entry = true)
      ↔ Fails config entry ∧ disguised entry = false := by
    have honce := @counted_once config entry
    have hfails : Fails config entry ↔ succeeds config entry = false := by
      simp [Fails, succeeds]
    rw [hfails]
    revert honce
    cases succeeds config entry <;> cases failsOpenly config entry <;> cases timesOut entry
      <;> cases disguised entry <;> decide
  simp only [Stumbles, Nat.add_pos_iff_pos_or_pos, List.countP_pos_iff, ← hmem]
  constructor
  . rintro (⟨entry, h, hp⟩ | ⟨entry, h, hp⟩)
    . exact ⟨entry, h, .inl hp⟩
    . exact ⟨entry, h, .inr hp⟩
  . rintro ⟨entry, h, hp | hp⟩
    . exact .inl ⟨entry, h, hp⟩
    . exact .inr ⟨entry, h, hp⟩

theorem receiveBatch_after (batch : List (Task × Received))
    : ∀ processed submitted : List (Task × Received),
        ∃ k ≤ batch.length, (batch ≠ [] → 0 < k)
          ∧ receiveBatch config (after config processed submitted) batch
              = after config (processed ++ batch.take k) submitted
          ∧ (k = batch.length ∨ config.failFast = true ∧ Stumbles config (processed ++ batch.take k))
          ∧ (config.failFast = true
              → ∀ m, 0 < m → m < k → ¬Stumbles config (processed ++ batch.take m)) := by
  induction batch with
  | nil =>
    intro processed submitted
    exact ⟨0, Nat.le_refl 0, fun h => absurd rfl h, by simp [receiveBatch], .inl rfl,
      fun _ m _ hm => absurd hm (Nat.not_lt_zero m)⟩
  | cons entry batch ih =>
    intro processed submitted
    rw [receiveBatch, receive_after]
    by_cases hstop : config.failFast = true ∧ Stumbles config (processed ++ [entry])
    . refine ⟨1, Nat.le_add_left 1 batch.length, fun _ => Nat.one_pos, ?_, .inr ?_,
        fun _ m hpos hm => absurd hpos (by omega)⟩
      . exact if_pos hstop
      . exact hstop
    . obtain ⟨k, hk, -, hrun, hwhy, hquiet⟩ := ih (processed ++ [entry]) submitted
      have hcons (m : Nat) : processed ++ (entry :: batch).take (m + 1)
          = processed ++ [entry] ++ batch.take m := by
        simp
      refine ⟨k + 1, Nat.succ_le_succ hk, fun _ => Nat.succ_pos k, ?_, ?_, ?_⟩
      . rw [hcons]
        exact (if_neg hstop).trans hrun
      . rw [hcons]
        exact hwhy.imp_left (congrArg (· + 1))
      . intro hfast m hpos hm
        obtain ⟨m, rfl⟩ := Nat.exists_eq_succ_of_ne_zero (Nat.pos_iff_ne_zero.mp hpos)
        rw [Nat.succ_eq_add_one, hcons]
        rcases Nat.eq_zero_or_pos m with rfl | hm'
        . simpa using fun h => hstop ⟨hfast, h⟩
        . exact hquiet hfast m hm' (Nat.lt_of_succ_lt_succ hm)

structure Stopped (config : ParallelPoolConfig) (tasks : List (Task × Received)) (n m : Nat) : Prop where
  bound : n ≤ tasks.length
  submitted : ∀ i, i < tasks.length → n ≤ i + 1
    → min m tasks.length ≤ (i / config.maxConcurrent + 1) * config.maxConcurrent
  quiet : config.failFast = true → ∀ i < n, ¬Stumbles config (tasks.take i)
  ratio : ∀ i < n, 0 < i → config.maxConcurrent ∣ i → ¬TooFewBefore config tasks i
  why : n = tasks.length ∨ (config.failFast = true ∧ Stumbles config (tasks.take n))
    ∨ (0 < n ∧ config.maxConcurrent ∣ n ∧ TooFewBefore config tasks n)

structure Going (config : ParallelPoolConfig) (tasks : List (Task × Received)) (start : Nat) : Prop where
  boundary : config.maxConcurrent ∣ start
  quiet : config.failFast = true → ∀ i ≤ start, ¬Stumbles config (tasks.take i)
  ratio : ∀ i ≤ start, 0 < i → config.maxConcurrent ∣ i → ¬TooFewBefore config tasks i

theorem Going.stopped_of_length_le {tasks : List (Task × Received)} {start : Nat}
    (h : Going config tasks start) (hsize : 0 < config.maxConcurrent) (hstart : tasks.length ≤ start)
    : Stopped config tasks tasks.length start where
  bound := Nat.le_refl tasks.length
  submitted := by
    intro i _ hn
    have : i < (i / config.maxConcurrent + 1) * config.maxConcurrent := by
      rw [Nat.mul_comm]
      exact Nat.lt_mul_div_succ i hsize
    omega
  quiet := fun hfast i hi => h.quiet hfast i (by omega)
  ratio := fun i hi => h.ratio i (by omega)
  why := .inl rfl

structure BatchDone (config : ParallelPoolConfig) (tasks : List (Task × Received)) (start k : Nat)
    : Prop where
  pos : 0 < k
  inBatch : k ≤ config.maxConcurrent
  bound : start + k ≤ tasks.length
  why : k = config.maxConcurrent ∨ start + k = tasks.length
    ∨ (config.failFast = true ∧ Stumbles config (tasks.take (start + k)))
  quiet : config.failFast = true → ∀ i, 0 < i → i < k → ¬Stumbles config (tasks.take (start + i))

theorem receiveBatch_done {tasks : List (Task × Received)} {start : Nat} (hstart : start < tasks.length)
    (hsize : 0 < config.maxConcurrent) (submitted : List (Task × Received))
    : ∃ k, BatchDone config tasks start k
        ∧ receiveBatch config (after config (tasks.take start) submitted)
              ((tasks.drop start).take config.maxConcurrent)
            = after config (tasks.take (start + k)) submitted := by
  obtain ⟨k, hk, hpos, hrun, hwhy, hquiet⟩ := @receiveBatch_after config
    ((tasks.drop start).take config.maxConcurrent) (tasks.take start) submitted
  have hlength : ((tasks.drop start).take config.maxConcurrent).length
      = min config.maxConcurrent (tasks.length - start) := by
    rw [List.length_take, List.length_drop]
  have htake {i : Nat} (hi : i ≤ k)
      : tasks.take start ++ ((tasks.drop start).take config.maxConcurrent).take i
        = tasks.take (start + i) := by
    rw [List.take_take, Nat.min_eq_left (by omega), List.take_add]
  have hne : (tasks.drop start).take config.maxConcurrent ≠ [] := by
    refine List.length_pos_iff.mp ?_
    omega
  refine ⟨k, ⟨hpos hne, by omega, by omega, ?_, ?_⟩, hrun.trans ?_⟩
  . rw [htake (Nat.le_refl k)] at hwhy
    rcases hwhy with hall | hstumble
    . rw [hlength] at hall
      omega
    . exact .inr (.inr hstumble)
  . intro hfast i hi hik
    rw [← htake (Nat.le_of_lt hik)]
    exact hquiet hfast i hi hik
  . rw [htake (Nat.le_refl k)]

theorem BatchDone.stopped {tasks : List (Task × Received)} {start k : Nat}
    (hdone : BatchDone config tasks start k) (h : Going config tasks start)
    (hwhy : (config.failFast = true ∧ Stumbles config (tasks.take (start + k)))
      ∨ TooFewBefore config tasks (start + k))
    : Stopped config tasks (start + k) (start + config.maxConcurrent) where
  bound := hdone.bound
  submitted := by
    intro i _ hn
    obtain ⟨c, rfl⟩ := h.boundary
    have hpos := hdone.pos
    have hc : c ≤ i / config.maxConcurrent := by
      refine (Nat.le_div_iff_mul_le (Nat.lt_of_lt_of_le hpos hdone.inBatch)).mpr ?_
      rw [Nat.mul_comm]
      omega
    calc min (config.maxConcurrent * c + config.maxConcurrent) tasks.length
      _ ≤ config.maxConcurrent * c + config.maxConcurrent := Nat.min_le_left _ _
      _ = (c + 1) * config.maxConcurrent := by rw [Nat.mul_comm, Nat.succ_mul]
      _ ≤ (i / config.maxConcurrent + 1) * config.maxConcurrent :=
        Nat.mul_le_mul_right _ (Nat.succ_le_succ hc)
  quiet := by
    intro hfast i hi
    by_cases hle : i ≤ start
    . exact h.quiet hfast i hle
    . have := hdone.quiet hfast (i - start) (by omega) (by omega)
      rwa [Nat.add_sub_cancel' (by omega)] at this
  ratio := by
    intro i hi hpos hdvd
    refine h.ratio i (Nat.le_of_not_lt fun hlt => ?_) hpos hdvd
    have hle := Nat.le_of_dvd (by omega) ((Nat.dvd_sub hdvd h.boundary))
    have := hdone.inBatch
    omega
  why := by
    rcases hwhy with hstumble | hfew
    . exact .inr (.inl hstumble)
    . rcases hdone.why with rfl | hall | hstumble
      . have := hdone.pos
        exact .inr (.inr ⟨by omega, Nat.dvd_add h.boundary (Nat.dvd_refl _), hfew⟩)
      . exact .inl hall
      . exact .inr (.inl hstumble)

theorem BatchDone.going {tasks : List (Task × Received)} {start k : Nat}
    (hdone : BatchDone config tasks start k) (h : Going config tasks start)
    (hstumble : ¬(config.failFast = true ∧ Stumbles config (tasks.take (start + k))))
    (hfew : ¬TooFewBefore config tasks (start + k))
    : tasks.take (start + k) = tasks.take (start + config.maxConcurrent)
        ∧ Going config tasks (start + config.maxConcurrent) := by
  have hwhy : k = config.maxConcurrent ∨ start + k = tasks.length := by
    rcases hdone.why with hk | hall | hs
    . exact .inl hk
    . exact .inr hall
    . exact absurd hs hstumble
  have hin := hdone.inBatch
  have htake {i : Nat} (hi : start + k ≤ i) (hi' : i ≤ start + config.maxConcurrent)
      : tasks.take i = tasks.take (start + k) ∧ tasks.length - i = tasks.length - (start + k) := by
    rcases hwhy with rfl | hall
    . rw [Nat.le_antisymm hi' hi]
      exact ⟨rfl, rfl⟩
    . rw [List.take_of_length_le (by omega), List.take_of_length_le (by omega)]
      exact ⟨rfl, by omega⟩
  have hend := htake (Nat.add_le_add_left hin start) (Nat.le_refl _)
  refine ⟨hend.1.symm, Nat.dvd_add h.boundary (Nat.dvd_refl _), ?_, ?_⟩
  . intro hfast i hi
    by_cases hle : i ≤ start
    . exact h.quiet hfast i hle
    . by_cases hk : start + k ≤ i
      . rw [(htake hk hi).1]
        exact fun hs => hstumble ⟨hfast, hs⟩
      . have := hdone.quiet hfast (i - start) (by omega) (by omega)
        rwa [Nat.add_sub_cancel' (by omega)] at this
  . intro i hi hpos hdvd
    by_cases hle : i ≤ start
    . exact h.ratio i hle hpos hdvd
    . have hsize := Nat.le_of_dvd (by omega) ((Nat.dvd_sub hdvd h.boundary))
      obtain rfl : i = start + config.maxConcurrent := by omega
      unfold TooFewBefore at hfew ⊢
      rwa [hend.1, hend.2]

theorem executeBatches_stopped {tasks : List (Task × Received)} (hsize : 0 < config.maxConcurrent)
    : ∀ (fuel start : Nat), tasks.length - start ≤ fuel → Going config tasks start
        → ∃ n m, Stopped config tasks n m
          ∧ executeBatches config tasks.length (after config (tasks.take start) (tasks.take start))
                (chunksFrom config.maxConcurrent fuel (tasks.drop start))
              = some (after config (tasks.take n) (tasks.take m)) := by
  intro fuel
  induction fuel with
  | zero =>
    intro start hfuel h
    refine ⟨tasks.length, start, h.stopped_of_length_le hsize (by omega), ?_⟩
    rw [chunksFrom, executeBatches, List.take_of_length_le (by omega),
      List.take_of_length_le (Nat.le_refl _)]
  | succ fuel ih =>
    intro start hfuel h
    rw [chunksFrom]
    by_cases hstart : tasks.length ≤ start
    . refine ⟨tasks.length, start, h.stopped_of_length_le hsize hstart, ?_⟩
      rw [if_pos (by simpa using hstart), executeBatches, List.take_of_length_le (by omega),
        List.take_of_length_le (Nat.le_refl _)]
    . rw [if_neg (by simpa using hstart)]
      obtain ⟨k, hdone, hrun⟩ := @receiveBatch_done config _ _ (Nat.lt_of_not_le hstart) hsize
        (tasks.take (start + config.maxConcurrent))
      have hsubmitted : { after config (tasks.take start) (tasks.take start) with
            submitted := (after config (tasks.take start) (tasks.take start)).submitted
              ++ ((tasks.drop start).take config.maxConcurrent).map Prod.fst }
          = after config (tasks.take start) (tasks.take (start + config.maxConcurrent)) := by
        simp only [after, List.take_add, List.map_append]
      have hlength : (tasks.take (start + k)).length = start + k := by
        rw [List.length_take, Nat.min_eq_left hdone.bound]
      have hpos := hdone.pos
      have hbound := hdone.bound
      rw [executeBatches, hsubmitted, hrun]
      simp only [after, List.length_map, hlength]
      rw [if_neg (by omega)]
      by_cases hfew : TooFewBefore config tasks (start + k)
      . exact ⟨_, _, hdone.stopped h (.inr hfew), if_pos ⟨by omega, hfew⟩⟩
      . rw [if_neg (fun hc => hfew hc.2)]
        by_cases hstumble : config.failFast = true ∧ Stumbles config (tasks.take (start + k))
        . exact ⟨_, _, hdone.stopped h (.inl hstumble), if_pos hstumble⟩
        . obtain ⟨htake, hgoing⟩ := hdone.going h hstumble hfew
          obtain ⟨n, m, hstopped, hrest⟩ := ih (start + config.maxConcurrent) (by omega) hgoing
          refine ⟨n, m, hstopped, (if_neg hstumble).trans ?_⟩
          rw [htake, List.drop_drop]
          exact hrest

theorem executeBatch_stopped {opts : Option ParallelPoolConfig}
    (hsize : 0 < (opts.getD config).maxConcurrent) (tasks : List (Task × Received))
    : ∃ n m, Stopped (opts.getD config) tasks n m
        ∧ executeBatch config opts tasks
            = some (after (opts.getD config) (tasks.take n) (tasks.take m)) := by
  have hgoing : Going (opts.getD config) tasks 0 := by
    refine ⟨Nat.dvd_zero _, fun _ i hi => ?_, fun i hi hpos => absurd hpos (by omega)⟩
    rw [Nat.le_zero.mp hi]
    exact Nat.lt_irrefl 0
  obtain ⟨n, m, hstopped, hrun⟩ := executeBatches_stopped hsize tasks.length 0 (Nat.sub_le _ _) hgoing
  refine ⟨n, m, hstopped, ?_⟩
  rw [executeBatch, if_neg (Nat.pos_iff_ne_zero.mp hsize)]
  exact hrun

theorem exists_fails_of_stumbles {tasks : List (Task × Received)} {n : Nat}
    (h : Stumbles config (tasks.take n)) : ∃ entry ∈ tasks.take n, Fails config entry := by
  obtain ⟨entry, hmem, hfails, -⟩ := stumbles_iff.mp h
  exact ⟨entry, hmem, hfails⟩

theorem Stopped.sound_iff {tasks : List (Task × Received)} {n m : Nat}
    (h : Stopped config tasks n m)
    : SoundBatch config tasks (after config (tasks.take n) (tasks.take m))
        ↔ ∀ entry ∈ tasks.take n, disguised entry = false := by
  have hlength : (after config (tasks.take n) (tasks.take m)).results.length = n := by
    rw [after, List.length_map, List.length_take, Nat.min_eq_left h.bound]
  have hcounts := @counted config (tasks.take n)
  rw [List.length_take, Nat.min_eq_left h.bound] at hcounts
  constructor
  . intro hsound entry hmem
    have hall := hsound.counts
    rw [hlength] at hall
    have hzero : (tasks.take n).countP disguised = 0 := by
      simp only [after] at hall
      omega
    exact Bool.eq_false_iff.mpr (List.countP_eq_zero.mp hzero entry hmem)
  . intro hopen
    have hzero : (tasks.take n).countP disguised = 0 :=
      List.countP_eq_zero.mpr fun entry hmem => Bool.eq_false_iff.mp (hopen entry hmem)
    refine ⟨?_, ?_, ?_, ?_, ?_⟩
    . rw [hlength]
      rfl
    . rw [hlength]
      intro hn
      rcases h.why with hall | ⟨hfast, hstumble⟩ | ⟨-, -, hfew⟩
      . omega
      . exact .inl ⟨hfast, exists_fails_of_stumbles hstumble⟩
      . exact .inr hfew
    . rw [hlength]
      simp only [after]
      omega
    . simp [after, List.map_take]
    . intro hfast i entry hi hfails
      obtain ⟨hlt, rfl⟩ := List.getElem?_eq_some_iff.mp hi
      simp only [after, List.length_map, List.length_take]
      refine h.submitted i hlt (Nat.le_of_not_lt fun hin => ?_)
      have hmem : tasks[i] ∈ tasks.take (i + 1) := List.mem_take_iff_getElem.mpr ⟨i, by omega, rfl⟩
      have hopen' := hopen tasks[i] (List.mem_take_iff_getElem.mpr ⟨i, by omega, rfl⟩)
      exact h.quiet hfast (i + 1) hin (stumbles_iff.mpr ⟨tasks[i], hmem, hfails, hopen'⟩)

theorem Stopped.open_iff {tasks : List (Task × Received)} {n m : Nat} (h : Stopped config tasks n m)
    : (∀ entry ∈ tasks.take n, disguised entry = false)
        ↔ ∀ i entry, tasks[i]? = some entry → disguised entry = true
            → StopsBefore config tasks i := by
  constructor
  . intro hopen i entry hi hdisguised
    obtain ⟨hlt, rfl⟩ := List.getElem?_eq_some_iff.mp hi
    have hn : n ≤ i := Nat.le_of_not_lt fun hin => by
      rw [hopen tasks[i] (List.mem_take_iff_getElem.mpr ⟨i, by omega, rfl⟩)] at hdisguised
      cases hdisguised
    rcases h.why with hall | ⟨hfast, hstumble⟩ | ⟨hpos, hdvd, hfew⟩
    . omega
    . obtain ⟨entry, hmem, hfails⟩ := exists_fails_of_stumbles hstumble
      exact .inl ⟨hfast, entry, (List.take_prefix_take_left hn).subset hmem, hfails⟩
    . exact .inr ⟨n, hn, hpos, hdvd, hfew⟩
  . intro hstops
    have hopen : ∀ i, i < n → ∀ entry, tasks[i]? = some entry → disguised entry = false := by
      intro i
      induction i using Nat.strong_induction_on with
      | _ i ih =>
        intro hin entry hi
        refine Bool.eq_false_iff.mpr fun hdisguised => ?_
        rcases hstops i entry hi hdisguised with ⟨hfast, entry', hmem, hfails⟩ | ⟨j, hj, hpos, hdvd, hfew⟩
        . obtain ⟨j, hj, rfl⟩ := List.mem_take_iff_getElem.mp hmem
          have hj' : tasks[j]? = some tasks[j] := List.getElem?_eq_getElem (by omega)
          exact h.quiet hfast i hin (stumbles_iff.mpr
            ⟨tasks[j], hmem, hfails, ih j (by omega) (by omega) _ hj'⟩)
        . exact h.ratio j (by omega) hpos hdvd hfew
    intro entry hmem
    obtain ⟨i, hi, rfl⟩ := List.mem_take_iff_getElem.mp hmem
    exact hopen i (by omega) _ (List.getElem?_eq_getElem (by omega))

end Counts

theorem soundBatch_iff (opts : Option ParallelPoolConfig) (tasks : List (Task × Received))
    : (∃ run, executeBatch config opts tasks = some run ∧ SoundBatch (opts.getD config) tasks run)
        ↔ 1 ≤ (opts.getD config).maxConcurrent
          ∧ ∀ i entry, tasks[i]? = some entry → disguised entry = true
            → StopsBefore (opts.getD config) tasks i := by
  rcases Nat.eq_zero_or_pos (opts.getD config).maxConcurrent with hzero | hsize
  . constructor
    . rintro ⟨run, hrun, -⟩
      rw [executeBatch, if_pos hzero] at hrun
      cases hrun
    . rintro ⟨hone, -⟩
      omega
  . obtain ⟨n, m, hstopped, hrun⟩ := executeBatch_stopped hsize tasks
    constructor
    . rintro ⟨run, hrun', hsound⟩
      cases hrun.symm.trans hrun'
      exact ⟨hsize, hstopped.open_iff.mp (hstopped.sound_iff.mp hsound)⟩
    . rintro ⟨-, hstops⟩
      exact ⟨_, hrun, hstopped.sound_iff.mpr (hstopped.open_iff.mpr hstops)⟩

def upstreamTimeout : Task × Received where
  fst := {
    id := "task", traceId := "trace", taskType := "api-call", payload := .null, priority := 5
    timeoutMs := 60000, metadata := .null
  }
  snd := .result {
    taskId := "task", traceId := "trace", status := "failure", result := none
    error := some "timed out waiting for completed message m in session s", durationMs := 30000
    workerId := some "worker", blockedReason := none
  }

theorem upstreamTimeout_not_soundBatch
    : ¬∀ (config : ParallelPoolConfig) (tasks : List (Task × Received)),
        ∃ run, executeBatch config none tasks = some run ∧ SoundBatch config tasks run := by
  intro h
  obtain ⟨run, hrun, hsound⟩ := h {} [upstreamTimeout]
  have hcounts : (executeBatch {} none [upstreamTimeout]).map
      (fun run => (run.successful, run.failed, run.timedOut, run.results.length))
      = some (0, 0, 0, 1) := by
    decide +kernel
  rw [hrun] at hcounts
  have := hsound.counts
  simp only [Option.map_some, Option.some.injEq, Prod.mk.injEq] at hcounts
  omega

end ParallelPool

end AnimaAgent
