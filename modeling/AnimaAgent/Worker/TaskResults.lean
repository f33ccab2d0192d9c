import AnimaAgent.Worker.Holders

namespace AnimaAgent

def SubmitPhase.stepsLeft : SubmitPhase → Nat
  | .begin _ => 7
  | .start _ => 6
  | .executing _ _ => 5
  | .clear _ _ _ => 4
  | .record _ _ _ => 3
  | .send _ _ _ => 2
  | .release _ => 1
  | _ => 0

def PooledTask.AnsweredOnce (task : PooledTask) : Prop :=
  ∃ result, task.results = [result] ∧ result.taskId = task.task.id

structure SoundWorkers (s : Threads WorkerPool PooledTask) : Prop where
  single : ∀ (i j : Nat) task other, i ≠ j → s.threads[i]? = some task → s.threads[j]? = some other
    → task.Apart other
  answered : ∀ task ∈ s.threads, task.phase.answered = true → task.AnsweredOnce
  waiting : ∀ task ∈ s.threads, task.phase.answered = false → task.results = []
  goesOn : ∀ task ∈ s.threads, ∀ worker, task.Holds worker
    → ∀ now outcome, ∃ pool' task', task.advance now outcome s.shared = some (pool', task')
      ∧ task'.phase.stepsLeft < task.phase.stepsLeft
  cleared : ∀ (worker : Nat) agent, s.shared.workers[worker]? = some agent → agent.busy = false
    → agent.currentTask = none
  accepts : ∀ (worker : Nat) agent, s.shared.workers[worker]? = some agent → agent.busy = false
    → ∀ task ∈ s.threads, task.phase = .claim worker
    → ∀ now outcome, ∃ pool' task', task.advance now outcome s.shared = some (pool', task')
      ∧ task'.Holds worker

def NeverPanics (s : Threads WorkerPool PooledTask) : PoolAction → Prop
  | .step i _ .panicked => ∀ task, s.threads[i]? = some task
    → ∀ worker start, task.phase ≠ .executing worker start
  | _ => True

section Advance

variable {task : PooledTask} {pool : WorkerPool} {worker : Nat} {now : UInt64} {outcome : TaskOutcome}

theorem PooledTask.Holds.advance (h : task.Holds worker) (now : UInt64) (outcome : TaskOutcome)
    (pool : WorkerPool)
    : ∃ pool' task', task.advance now outcome pool = some (pool', task')
        ∧ task'.phase.stepsLeft < task.phase.stepsLeft := by
  unfold Holds at h
  unfold PooledTask.advance
  cases hphase : task.phase with
  | executing worker start =>
    cases outcome with
    | returned result => exact ⟨_, _, rfl, Nat.lt_succ_self _⟩
    | panicked => exact ⟨_, _, rfl, Nat.succ_pos _⟩
  | begin worker => exact ⟨_, _, rfl, Nat.lt_succ_self _⟩
  | start worker => exact ⟨_, _, rfl, Nat.lt_succ_self _⟩
  | clear worker result durationMs => exact ⟨_, _, rfl, Nat.lt_succ_self _⟩
  | record worker result durationMs => exact ⟨_, _, rfl, Nat.lt_succ_self _⟩
  | send worker result durationMs => exact ⟨_, _, rfl, Nat.lt_succ_self _⟩
  | release worker => exact ⟨_, _, rfl, Nat.lt_succ_self _⟩
  | _ =>
    rw [hphase] at h
    cases h

theorem PooledTask.advance_claim_idle {agent : WorkerAgent} (hphase : task.phase = .claim worker)
    (hagent : pool.workers[worker]? = some agent) (hidle : agent.busy = false)
    : ∃ pool' task', task.advance now outcome pool = some (pool', task') ∧ task'.Holds worker := by
  unfold advance
  rw [hphase]
  dsimp only
  rw [hagent, Option.map_some, if_neg (by rw [hidle]; exact Bool.noConfusion)]
  exact ⟨_, _, rfl, rfl⟩

end Advance

structure ShownTasks (s : Threads WorkerPool PooledTask) : Prop where
  shown : ∀ worker, s.shared.showsAt worker = true → ∃ task ∈ s.threads, task.Shows worker
  answered : ∀ task ∈ s.threads, task.phase.answered = true → task.AnsweredOnce

theorem ShownTasks.soundWorkers {s : Threads WorkerPool PooledTask} (h : ShownTasks s)
    (hheld : HeldWorkers s) (hsent : ∀ task ∈ s.threads, task.NotSentEarly)
    : SoundWorkers s where
  single i j task other hne hi hj := hheld.exclusive.apart i j task other hne hi hj
  answered := h.answered
  waiting := hsent
  goesOn task _ _ hholds now outcome := hholds.advance now outcome s.shared
  cleared := by
    intro worker agent hagent hidle
    apply Option.not_isSome_iff_eq_none.mp
    intro hcurrent
    have hshows : s.shared.showsAt worker = true := by
      unfold WorkerPool.showsAt
      rw [hagent]
      exact hcurrent
    obtain ⟨task, hmem, htask⟩ := h.shown worker hshows
    have hbusy := hheld.exclusive.alone task hmem worker htask.holds
    unfold WorkerPool.busyAt at hbusy
    rw [hagent] at hbusy
    cases hidle.symm.trans hbusy
  accepts worker agent hagent hidle task _ hphase now outcome :=
    PooledTask.advance_claim_idle hphase hagent hidle

section Steps

variable {s s' : Threads WorkerPool PooledTask} {task task' : PooledTask} {pool' : WorkerPool}
  {i : Nat} {now : UInt64} {outcome : TaskOutcome}

theorem PooledTask.AnswersTo.answeredOnce (hstep : task.AnswersTo now s.shared task')
    (hcalm : ∀ worker start, task.phase = .executing worker start → task'.phase ≠ .finished)
    (hsent : task.NotSentEarly) (hanswered : task.phase.answered = true → task.AnsweredOnce)
    (hanswered' : task'.phase.answered = true)
    : task'.AnsweredOnce := by
  cases hstep with
  | goesOn waited waits results same => cases waits.symm.trans hanswered'
  | refuses waited error workerId durationMs refused busy =>
    subst refused
    exact ⟨_, by rw [PooledTask.refuse, hsent waited]; rfl, rfl⟩
  | sends waited worker result durationMs sent =>
    subst sent
    exact ⟨_, by rw [hsent waited]; rfl, rfl⟩
  | releases worker phase finished =>
    subst finished
    exact hanswered (by rw [phase]; rfl)
  | panics worker start phase finished =>
    subst finished
    exact absurd rfl (hcalm worker start phase)

theorem ShownTasks.exists_shown_set (h : ShownTasks s) (hi : s.threads[i]? = some task)
    (hstep : task.StepsTo s.shared task' pool')
    (hcalm : ∀ worker start, task.phase = .executing worker start → task'.phase ≠ .finished)
    : ∀ worker, pool'.showsAt worker = true
      → ∃ other ∈ s.threads.set i task', other.Shows worker := by
  intro worker hshows'
  cases hstep with
  | keeps busy shows held shown =>
    rw [shows] at hshows'
    refine Threads.exists_mem_set hi ?_ (h.shown worker hshows')
    exact fun hshown => shown.trans hshown
  | claims claimed phase idle busy shows phase' =>
    rw [shows] at hshows'
    refine Threads.exists_mem_set hi ?_ (h.shown worker hshows')
    intro hshown
    unfold PooledTask.Shows at hshown
    rw [phase] at hshown
    cases hshown
  | begins begun phase busy shows phase' =>
    obtain rfl | hold := shows worker hshows'
    . refine ⟨task', Threads.mem_set_self task' hi, ?_⟩
      unfold PooledTask.Shows
      rw [phase']
      rfl
    . refine Threads.exists_mem_set hi ?_ (h.shown worker hold)
      intro hshown
      unfold PooledTask.Shows at hshown
      rw [phase] at hshown
      cases hshown
  | clears clearedWorker shown held busy shows held' shown' =>
    rw [shows, Bool.and_eq_true, Bool.not_eq_true', decide_eq_false_iff_not] at hshows'
    refine Threads.exists_mem_set hi ?_ (h.shown worker hshows'.2)
    intro hshown
    cases shown.symm.trans hshown
    exact absurd rfl hshows'.1
  | releases released phase busy shows phase' =>
    rw [shows] at hshows'
    refine Threads.exists_mem_set hi ?_ (h.shown worker hshows')
    intro hshown
    unfold PooledTask.Shows at hshown
    rw [phase] at hshown
    cases hshown
  | panics panicked start phase busy shows phase' =>
    exact absurd phase' (hcalm panicked start phase)

theorem NeverPanics.calm (hcalm : NeverPanics s (.step i now outcome))
    (hi : s.threads[i]? = some task)
    (hact : task.advance now outcome s.shared = some (pool', task'))
    : ∀ worker start, task.phase = .executing worker start → task'.phase ≠ .finished := by
  intro worker start hphase
  unfold PooledTask.advance at hact
  rw [hphase] at hact
  cases outcome with
  | returned result =>
    cases hact
    exact SubmitPhase.noConfusion
  | panicked => exact absurd hphase (hcalm task hi worker start)

theorem ShownTasks.set (h : ShownTasks s) (hsent : ∀ task ∈ s.threads, task.NotSentEarly)
    (hi : s.threads[i]? = some task)
    (hact : task.advance now outcome s.shared = some (pool', task'))
    (hcalm : ∀ worker start, task.phase = .executing worker start → task'.phase ≠ .finished)
    : ShownTasks { shared := pool', threads := s.threads.set i task' } := by
  constructor
  . exact h.exists_shown_set hi (PooledTask.advance_stepsTo hact) hcalm
  . intro other hmem
    have htask := List.mem_of_getElem? hi
    obtain rfl | ⟨j, _, hj⟩ := Threads.mem_set hmem
    . exact (PooledTask.advance_answersTo hact).1.answeredOnce hcalm (hsent task htask)
        (h.answered task htask)
    . exact h.answered other (List.mem_of_getElem? hj)

theorem ShownTasks.start (h : ShownTasks s) (hwaits : task.phase.answered = false)
    : ShownTasks (s.start task) := by
  constructor
  . intro worker hshows
    obtain ⟨other, hmem, hshown⟩ := h.shown worker hshows
    exact ⟨other, List.mem_append_left _ hmem, hshown⟩
  . intro other hmem hanswered
    obtain hold | hnew := List.mem_append.mp hmem
    . exact h.answered other hold hanswered
    . cases List.mem_singleton.mp hnew
      cases hwaits.symm.trans hanswered

theorem ShownTasks.step {action : PoolAction} (h : ShownTasks s)
    (hsent : ∀ task ∈ s.threads, task.NotSentEarly) (hcalm : NeverPanics s action)
    (hstep : poolStep s action = some s')
    : ShownTasks s' := by
  cases action with
  | submit task =>
    cases hstep
    exact h.start rfl
  | submitTo worker task =>
    cases hstep
    exact h.start rfl
  | step i now outcome =>
    change s.advance (fun pool task => task.advance now outcome pool) i = some s' at hstep
    obtain ⟨task, task', pool', hi, hact, rfl⟩ := Threads.advance_eq_some hstep
    exact h.set hsent hi hact (hcalm.calm hi hact)
  | progress i phase now =>
    change s.advance (PooledTask.progress phase now) i = some s' at hstep
    obtain ⟨task, task', pool', hi, hact, rfl⟩ := Threads.advance_eq_some hstep
    have hstepsTo := PooledTask.progress_stepsTo hact
    obtain ⟨rfl, _⟩ := PooledTask.progress_eq hact
    constructor
    . refine h.exists_shown_set hi hstepsTo ?_
      intro worker start hphase hfinished
      cases hphase.symm.trans hfinished
    . intro other hmem
      obtain rfl | ⟨j, _, hj⟩ := Threads.mem_set hmem
      . exact h.answered _ (List.mem_of_getElem? hi)
      . exact h.answered other (List.mem_of_getElem? hj)
  | setRunning running =>
    cases hstep
    exact ⟨h.shown, h.answered⟩
  | setWorkerRunning worker running =>
    cases hstep
    refine ⟨fun other hshows => h.shown other ?_, h.answered⟩
    rw [← hshows]
    exact Eq.symm (WorkerPool.any_update_eq (fun _ => rfl))

theorem SoundWorkers.neverPanics {action : PoolAction} (h : SoundWorkers s')
    (hsent : ∀ task ∈ s.threads, task.NotSentEarly) (hstep : poolStep s action = some s')
    : NeverPanics s action := by
  cases action with
  | step i now outcome =>
    cases outcome with
    | returned result => trivial
    | panicked =>
      intro task hi worker start hphase
      change s.advance (fun pool task => task.advance now .panicked pool) i = some s' at hstep
      obtain ⟨task, task', pool', hi', hact, rfl⟩ := Threads.advance_eq_some hstep
      cases hi.symm.trans hi'
      have hover : task' = task.enter .finished := by
        unfold PooledTask.advance at hact
        rw [hphase] at hact
        cases hact
        rfl
      subst hover
      obtain ⟨result, hresults, _⟩ := h.answered _ (Threads.mem_set_self _ hi) rfl
      have hnone := hsent task (List.mem_of_getElem? hi) (by rw [hphase]; rfl)
      cases hnone.symm.trans hresults
  | _ => trivial

end Steps

theorem always_soundWorkers_iff (workerIds : List String) (maxWaitMs : UInt64)
    (actions : List PoolAction)
    : Runs.Always poolStep SoundWorkers (WorkerPool.new workerIds maxWaitMs) actions
      ↔ Runs.Guarded poolStep NeverPanics (WorkerPool.new workerIds maxWaitMs) actions := by
  have hsent : ∀ task ∈ (WorkerPool.new workerIds maxWaitMs).threads, task.NotSentEarly :=
    fun _ hmem => (List.not_mem_nil hmem).elim
  constructor
  . apply Runs.guarded_of_always (I := fun s => ∀ task ∈ s.threads, task.NotSentEarly)
      (A := fun _ => True)
    . exact fun s action s' hs _ hstep => notSentEarly_step hs hstep
    . exact fun s action s' hs _ _ hstep h' => h'.neverPanics hs hstep
    . exact hsent
    . exact fun _ _ => trivial
  . intro hcalm
    apply Runs.Always.mono (P := fun s => ShownTasks s ∧ HeldWorkers s
      ∧ ∀ task ∈ s.threads, task.NotSentEarly)
    . exact fun s hs => hs.1.soundWorkers hs.2.1 hs.2.2
    . refine Runs.always_of_guarded ?_ ⟨⟨?_, ?_⟩, heldWorkers_new workerIds maxWaitMs, hsent⟩ hcalm
      . rintro s action s' ⟨hshown, hheld, hsent⟩ hguard hstep
        exact ⟨hshown.step hsent hguard hstep, hheld.step hstep, notSentEarly_step hsent hstep⟩
      . intro worker hshows
        cases (WorkerPool.any_new (fun _ => rfl) workerIds maxWaitMs worker).symm.trans hshows
      . exact fun _ hmem => (List.not_mem_nil hmem).elim

def panickingRun : List PoolAction :=
  [.setWorkerRunning 0 true, .submitTo 0 (makeTask "task" "trace" { taskType := "api-call" })]
    ++ List.replicate 5 (.step 0 0 .panicked)

/-- The worker is free again, but still has its current task, and nobody has been answered. -/
theorem not_always_soundWorkers
    : ¬ Runs.Always poolStep SoundWorkers (WorkerPool.new ["worker"] 5000) panickingRun := by
  intro h
  have hrun : (Runs.run poolStep (WorkerPool.new ["worker"] 5000) panickingRun).map (fun s =>
        (s.shared.workers.map (fun agent => (agent.busy, agent.currentTask.isSome)),
          s.threads.map (fun task => (task.phase, task.results.length))))
      = some ([(false, true)], [(.finished, 0)]) := by
    decide +kernel
  obtain ⟨s, hs, hfacts⟩ := Option.map_eq_some_iff.mp hrun
  obtain ⟨hworkers, _⟩ := Prod.mk.inj hfacts
  obtain ⟨agent, hmem, hagent⟩ := List.mem_map.mp
    (show (false, true) ∈ s.shared.workers.map (fun agent => (agent.busy, agent.currentTask.isSome)) by
      rw [hworkers]
      exact List.mem_singleton_self _)
  obtain ⟨hidle, hcurrent⟩ := Prod.mk.inj hagent
  obtain ⟨worker, hworker⟩ := List.mem_iff_getElem?.mp hmem
  have hnone := (h.run_eq_some hs).cleared worker agent hworker hidle
  rw [hnone] at hcurrent
  cases hcurrent

end AnimaAgent
