import AnimaAgent.Worker.Holders

namespace AnimaAgent

def PooledTask.NotToldBusy (maxWaitMs : UInt64) (task : PooledTask) : Prop :=
  ∀ now started, task.phase = .refused now → task.started = some started
    → (∃ result ∈ task.results, result.error = some "Worker is busy")
    → maxWaitMs ≤ elapsedMs now started

def NeverToldBusy (s : Threads WorkerPool PooledTask) : Prop :=
  ∀ task ∈ s.threads, task.NotToldBusy s.shared.maxWaitMs

def PooledTask.NotOvertaken (s : Threads WorkerPool PooledTask) (now : UInt64) (task : PooledTask)
    : Prop :=
  ∀ worker started, task.phase = .claim worker → task.started = some started
    → elapsedMs now started < s.shared.maxWaitMs
    → ∀ other ∈ s.threads, ¬ other.Holds worker

/-- No task of the pool is overtaken by another one that has taken the worker it has selected. -/
def NeverOvertaken (s : Threads WorkerPool PooledTask) : PoolAction → Prop
  | .step i now _ => ∀ task, s.threads[i]? = some task → task.NotOvertaken s now
  | _ => True

section Steps

variable {s s' : Threads WorkerPool PooledTask} {task task' : PooledTask} {pool pool' : WorkerPool}
  {now : UInt64} {outcome : TaskOutcome} {i worker : Nat}

theorem PooledTask.notToldBusy_of_not_refused {maxWaitMs : UInt64}
    (h : ∀ now, task.phase ≠ .refused now)
    : task.NotToldBusy maxWaitMs := by
  intro now started hrefused
  exact absurd hrefused (h now)

theorem PooledTask.advance_claim (hphase : task.phase = .claim worker)
    (h : task.advance now outcome pool = some (pool', task'))
    : (pool.busyAt worker = true ∧ ∃ workerId, task' = task.refuse "Worker is busy" workerId 0 now)
      ∨ pool.busyAt worker = false ∧ task' = task.enter (.begin worker) := by
  unfold advance at h
  rw [hphase] at h
  obtain ⟨agent, hagent, heq⟩ := Option.map_eq_some_iff.mp h
  unfold WorkerPool.busyAt
  rw [hagent]
  split at heq
  . next hbusy =>
    cases heq
    exact .inl ⟨hbusy, _, rfl⟩
  . next hidle =>
    cases heq
    exact .inr ⟨Bool.eq_false_iff.mpr hidle, rfl⟩

theorem PooledTask.notToldBusy_of_not_claim (hsent : task.NotSentEarly)
    (hnot : ∀ worker, task.phase ≠ .claim worker)
    (h : task.advance now outcome pool = some (pool', task')) (maxWaitMs : UInt64)
    : task'.NotToldBusy maxWaitMs := by
  cases (advance_answersTo h).1 with
  | goesOn waited waits results same =>
    apply notToldBusy_of_not_refused
    intro now' hrefused
    rw [hrefused] at waits
    cases waits
  | refuses waited error workerId durationMs refused busy =>
    subst refused
    rintro now' started _ _ ⟨result, hmem, hbusy⟩
    dsimp only [refuse] at hmem
    rw [hsent waited, List.nil_append] at hmem
    cases List.mem_singleton.mp hmem
    obtain ⟨worker, hclaim, _⟩ := busy (Option.some.inj hbusy)
    exact absurd hclaim (hnot worker)
  | sends waited worker result durationMs sent =>
    subst sent
    exact notToldBusy_of_not_refused nofun
  | releases worker phase finished =>
    subst finished
    exact notToldBusy_of_not_refused nofun
  | panics worker start phase finished =>
    subst finished
    exact notToldBusy_of_not_refused nofun

theorem PooledTask.notToldBusy_claim_iff (hheld : HeldWorkers s) (hphase : task.phase = .claim worker)
    (h : task.advance now outcome s.shared = some (pool', task'))
    : task'.NotToldBusy s.shared.maxWaitMs ↔ task.NotOvertaken s now := by
  obtain ⟨hbusy, workerId, rfl⟩ | ⟨hidle, rfl⟩ := advance_claim hphase h
  . constructor
    . intro htold worker' started _ hstarted hearly
      have hpassed := htold now started rfl hstarted
        ⟨_, List.mem_append_right _ (List.mem_singleton_self _), rfl⟩
      exact absurd hearly (UInt64.not_lt.mpr hpassed)
    . intro hfree now' started hrefused hstarted _
      cases hrefused
      obtain ⟨other, hmem, hholds⟩ := hheld.held worker hbusy
      apply UInt64.not_lt.mp
      exact fun hearly => hfree worker started hphase hstarted hearly other hmem hholds
  . refine iff_of_true (notToldBusy_of_not_refused nofun) ?_
    intro worker' started hclaim _ _ other hmem hholds
    cases hphase.symm.trans hclaim
    cases hidle.symm.trans (hheld.exclusive.alone other hmem worker hholds)

theorem PooledTask.notToldBusy_iff (hheld : HeldWorkers s) (hsent : task.NotSentEarly)
    (h : task.advance now outcome s.shared = some (pool', task'))
    : task'.NotToldBusy s.shared.maxWaitMs ↔ task.NotOvertaken s now := by
  by_cases hclaim : ∃ worker, task.phase = .claim worker
  . obtain ⟨worker, hphase⟩ := hclaim
    exact notToldBusy_claim_iff hheld hphase h
  . have hnot : ∀ worker, task.phase ≠ .claim worker := fun worker heq => hclaim ⟨worker, heq⟩
    refine iff_of_true (notToldBusy_of_not_claim hsent hnot h _) ?_
    exact fun worker started hphase => absurd hphase (hnot worker)

theorem neverToldBusy_set (h : NeverToldBusy s) (hmax : pool'.maxWaitMs = s.shared.maxWaitMs)
    (hi : s.threads[i]? = some task)
    : NeverToldBusy { shared := pool', threads := s.threads.set i task' }
      ↔ task'.NotToldBusy s.shared.maxWaitMs := by
  unfold NeverToldBusy
  dsimp only
  rw [hmax]
  constructor
  . intro hall
    exact hall task' (Threads.mem_set_self task' hi)
  . intro hself other hmem
    obtain rfl | ⟨j, _, hj⟩ := Threads.mem_set hmem
    . exact hself
    . exact h other (List.mem_of_getElem? hj)

theorem neverToldBusy_start (h : NeverToldBusy s) (hphase : ∀ now, task.phase ≠ .refused now)
    : NeverToldBusy (s.start task) := by
  intro other hmem
  obtain hold | hnew := List.mem_append.mp hmem
  . exact h other hold
  . cases List.mem_singleton.mp hnew
    exact PooledTask.notToldBusy_of_not_refused hphase

theorem neverToldBusy_step_iff {action : PoolAction} (hheld : HeldWorkers s)
    (hsent : ∀ task ∈ s.threads, task.NotSentEarly) (h : NeverToldBusy s)
    (hstep : poolStep s action = some s')
    : NeverToldBusy s' ↔ NeverOvertaken s action := by
  cases action with
  | submit task =>
    cases hstep
    exact iff_of_true (neverToldBusy_start h nofun) trivial
  | submitTo worker task =>
    cases hstep
    exact iff_of_true (neverToldBusy_start h nofun) trivial
  | step i now outcome =>
    change s.advance (fun pool task => task.advance now outcome pool) i = some s' at hstep
    obtain ⟨task, task', pool', hi, hact, rfl⟩ := Threads.advance_eq_some hstep
    have hmax := (PooledTask.advance_answersTo hact).2
    rw [neverToldBusy_set h hmax hi,
      PooledTask.notToldBusy_iff hheld (hsent task (List.mem_of_getElem? hi)) hact]
    constructor
    . intro hself other hother
      cases hi.symm.trans hother
      exact hself
    . exact fun hall => hall task hi
  | progress i phase now =>
    change s.advance (PooledTask.progress phase now) i = some s' at hstep
    obtain ⟨task, task', pool', hi, hact, rfl⟩ := Threads.advance_eq_some hstep
    obtain ⟨rfl, hmax⟩ := PooledTask.progress_eq hact
    refine iff_of_true ((neverToldBusy_set h hmax hi).mpr ?_) trivial
    exact h task' (List.mem_of_getElem? hi)
  | setRunning running =>
    cases hstep
    exact iff_of_true h trivial
  | setWorkerRunning worker running =>
    cases hstep
    exact iff_of_true h trivial

end Steps

theorem always_neverToldBusy_iff (workerIds : List String) (maxWaitMs : UInt64)
    (actions : List PoolAction)
    : Runs.Always poolStep NeverToldBusy (WorkerPool.new workerIds maxWaitMs) actions
      ↔ Runs.Guarded poolStep NeverOvertaken (WorkerPool.new workerIds maxWaitMs) actions := by
  refine Runs.always_iff_guarded
    (fun s => HeldWorkers s ∧ ∀ task ∈ s.threads, task.NotSentEarly) (fun _ => True) ?_ ?_ ?_
    (fun _ _ => trivial)
  . rintro s action s' ⟨hheld, hsent⟩ _ h hstep
    exact ⟨⟨hheld.step hstep, notSentEarly_step hsent hstep⟩,
      neverToldBusy_step_iff hheld hsent h hstep⟩
  . exact ⟨heldWorkers_new workerIds maxWaitMs, fun _ hmem => (List.not_mem_nil hmem).elim⟩
  . exact fun _ hmem => (List.not_mem_nil hmem).elim

def queryTask (id : String) : Task :=
  makeTask id "trace" { taskType := "query" }

def stepsOfTask (i n : Nat) : List PoolAction :=
  List.replicate n (.step i 0 (.returned { status := "success", result := none, error := none }))

def overtakingRun : List PoolAction :=
  [.setRunning true, .setWorkerRunning 0 true, .submit (queryTask "first"),
    .submit (queryTask "second")]
    ++ stepsOfTask 0 5 ++ stepsOfTask 1 5 ++ stepsOfTask 0 1 ++ stepsOfTask 1 1

theorem not_always_neverToldBusy
    : ¬ Runs.Always poolStep NeverToldBusy (WorkerPool.new ["worker"] 5000) overtakingRun := by
  intro h
  have hrun : (Runs.run poolStep (WorkerPool.new ["worker"] 5000) overtakingRun).bind (fun s =>
        s.threads[1]?.map (fun task =>
          (task.phase, task.started, task.results.map TaskResult.error,
            decide (s.shared.maxWaitMs ≤ elapsedMs 0 0))))
      = some (.refused 0, some 0, [some "Worker is busy"], false) := by
    decide +kernel
  obtain ⟨s, hs, htask⟩ := Option.bind_eq_some_iff.mp hrun
  obtain ⟨task, hi, hfacts⟩ := Option.map_eq_some_iff.mp htask
  obtain ⟨hphase, hfacts⟩ := Prod.mk.inj hfacts
  obtain ⟨hstarted, hfacts⟩ := Prod.mk.inj hfacts
  obtain ⟨herrors, hearly⟩ := Prod.mk.inj hfacts
  have hbusy : ∃ result ∈ task.results, result.error = some "Worker is busy" := by
    apply List.mem_map.mp
    rw [herrors]
    exact List.mem_singleton_self _
  have hlate := h.run_eq_some hs task (List.mem_of_getElem? hi) 0 0 hphase hstarted hbusy
  exact of_decide_eq_false hearly hlate

end AnimaAgent
