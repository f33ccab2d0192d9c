import AnimaAgent.Library.Runs
import AnimaAgent.Worker.Core

namespace AnimaAgent

def SubmitPhase.held : SubmitPhase → Option Nat
  | .begin worker => some worker
  | .start worker => some worker
  | .executing worker _ => some worker
  | .clear worker _ _ => some worker
  | .record worker _ _ => some worker
  | .send worker _ _ => some worker
  | .release worker => some worker
  | _ => none

def SubmitPhase.shown : SubmitPhase → Option Nat
  | .start worker => some worker
  | .executing worker _ => some worker
  | .clear worker _ _ => some worker
  | _ => none

def PooledTask.Holds (task : PooledTask) (worker : Nat) : Prop :=
  task.phase.held = some worker

def PooledTask.Shows (task : PooledTask) (worker : Nat) : Prop :=
  task.phase.shown = some worker

instance (task : PooledTask) (worker : Nat) : Decidable (task.Holds worker) :=
  inferInstanceAs (Decidable (_ = _))

theorem PooledTask.Shows.holds {task : PooledTask} {worker : Nat} (h : task.Shows worker)
    : task.Holds worker := by
  unfold Shows at h
  unfold Holds
  cases hphase : task.phase with
  | start _ =>
    rw [hphase] at h
    exact h
  | executing _ _ =>
    rw [hphase] at h
    exact h
  | clear _ _ _ =>
    rw [hphase] at h
    exact h
  | _ =>
    rw [hphase] at h
    cases h

namespace WorkerPool

variable (pool : WorkerPool)

def busyAt (worker : Nat) : Bool :=
  pool.workers[worker]?.any WorkerAgent.busy

def showsAt (worker : Nat) : Bool :=
  pool.workers[worker]?.any (fun agent => agent.currentTask.isSome)

variable {pool} {f : WorkerAgent → WorkerAgent} {worker other : Nat}

theorem any_update (P : WorkerAgent → Bool)
    : (pool.update worker f).workers[other]?.any P
        = pool.workers[other]?.any (fun agent => P (if worker = other then f agent else agent)) := by
  unfold update
  dsimp only
  rw [List.getElem?_modify]
  cases pool.workers[other]? with
  | none => rfl
  | some agent => rfl

theorem any_update_eq {P : WorkerAgent → Bool} (h : ∀ agent, P (f agent) = P agent)
    : (pool.update worker f).workers[other]?.any P = pool.workers[other]?.any P := by
  rw [any_update]
  congr 1
  funext agent
  split
  . exact h agent
  . rfl

theorem any_update_true {P : WorkerAgent → Bool} (h : ∀ agent, P (f agent) = true)
    (hworker : (pool.workers[worker]?).isSome)
    : (pool.update worker f).workers[other]?.any P
        = (decide (other = worker) || pool.workers[other]?.any P) := by
  rw [any_update]
  by_cases heq : worker = other
  . subst heq
    obtain ⟨agent, hagent⟩ := Option.isSome_iff_exists.mp hworker
    rw [hagent]
    simp only [if_true, Option.any_some, h, decide_true, Bool.true_or]
  . rw [decide_eq_false (Ne.symm heq), Bool.false_or]
    simp only [if_neg heq]

theorem any_update_false {P : WorkerAgent → Bool} (h : ∀ agent, P (f agent) = false)
    : (pool.update worker f).workers[other]?.any P
        = (!decide (other = worker) && pool.workers[other]?.any P) := by
  rw [any_update]
  by_cases heq : worker = other
  . subst heq
    cases pool.workers[worker]? with
    | none => simp only [Option.any_none, Bool.and_false]
    | some agent => simp only [if_true, Option.any_some, h, decide_true, Bool.not_true, Bool.false_and]
  . rw [decide_eq_false (Ne.symm heq), Bool.not_false, Bool.true_and]
    simp only [if_neg heq]

end WorkerPool

inductive PooledTask.StepsTo (task : PooledTask) (pool : WorkerPool) (task' : PooledTask)
    (pool' : WorkerPool) : Prop where
  | keeps (busy : ∀ worker, pool'.busyAt worker = pool.busyAt worker)
    (shows : ∀ worker, pool'.showsAt worker = pool.showsAt worker)
    (held : task'.phase.held = task.phase.held)
    (shown : task'.phase.shown = task.phase.shown)
  | claims (worker : Nat) (phase : task.phase = .claim worker) (idle : pool.busyAt worker = false)
    (busy : ∀ other, pool'.busyAt other = (decide (other = worker) || pool.busyAt other))
    (shows : ∀ other, pool'.showsAt other = pool.showsAt other)
    (phase' : task'.phase = .begin worker)
  | begins (worker : Nat) (phase : task.phase = .begin worker)
    (busy : ∀ other, pool'.busyAt other = pool.busyAt other)
    (shows : ∀ other, pool'.showsAt other = true → other = worker ∨ pool.showsAt other = true)
    (phase' : task'.phase = .start worker)
  | clears (worker : Nat) (shown : task.phase.shown = some worker)
    (held : task.phase.held = some worker)
    (busy : ∀ other, pool'.busyAt other = pool.busyAt other)
    (shows : ∀ other, pool'.showsAt other = (!decide (other = worker) && pool.showsAt other))
    (held' : task'.phase.held = some worker) (shown' : task'.phase.shown = none)
  | releases (worker : Nat) (phase : task.phase = .release worker)
    (busy : ∀ other, pool'.busyAt other = (!decide (other = worker) && pool.busyAt other))
    (shows : ∀ other, pool'.showsAt other = pool.showsAt other)
    (phase' : task'.phase = .finished)
  | panics (worker : Nat) (start : UInt64) (phase : task.phase = .executing worker start)
    (busy : ∀ other, pool'.busyAt other = (!decide (other = worker) && pool.busyAt other))
    (shows : ∀ other, pool'.showsAt other = pool.showsAt other)
    (phase' : task'.phase = .finished)

section Steps

variable {task task' : PooledTask} {pool pool' : WorkerPool} {now : UInt64} {outcome : TaskOutcome}

theorem PooledTask.StepsTo.reads (pool : WorkerPool) (hheld : task'.phase.held = task.phase.held)
    (hshown : task'.phase.shown = task.phase.shown)
    : task.StepsTo pool task' pool := by
  exact .keeps (fun _ => rfl) (fun _ => rfl) hheld hshown

theorem PooledTask.StepsTo.searches {phase : SubmitPhase} (pool : WorkerPool)
    (hheld : task.phase.held = none) (hshown : task.phase.shown = none)
    (hheld' : phase.held = none) (hshown' : phase.shown = none)
    : task.StepsTo pool (task.enter phase) pool := by
  exact .reads pool (hheld'.trans hheld.symm) (hshown'.trans hshown.symm)

theorem PooledTask.advance_stepsTo (h : task.advance now outcome pool = some (pool', task'))
    : task.StepsTo pool task' pool' := by
  obtain ⟨submitted, phase, started, results⟩ := task
  cases phase with
  | checkPool =>
    cases h
    split
    . exact .reads pool rfl rfl
    . exact .reads pool rfl rfl
  | scan =>
    dsimp only [advance] at h
    split at h
    . cases h
      exact .reads pool rfl rfl
    . cases h
      exact .keeps (fun _ => rfl) (fun _ => rfl) rfl rfl
  | scanRunning start offset =>
    cases h
    refine .searches pool rfl rfl ?_ ?_
    . split
      . split <;> rfl
      . rfl
    . split
      . split <;> rfl
      . rfl
  | scanBusy start offset =>
    cases h
    refine .searches pool rfl rfl ?_ ?_
    . split <;> rfl
    . split <;> rfl
  | checkElapsed =>
    cases h
    dsimp only
    split
    . exact .reads pool rfl rfl
    . exact .reads pool rfl rfl
  | waiting =>
    cases h
    exact .reads pool rfl rfl
  | checkWorker worker =>
    obtain ⟨agent, _, heq⟩ := Option.map_eq_some_iff.mp h
    cases heq
    split
    . exact .reads pool rfl rfl
    . exact .reads pool rfl rfl
  | claim worker =>
    obtain ⟨agent, hagent, heq⟩ := Option.map_eq_some_iff.mp h
    split at heq
    . cases heq
      exact .reads pool rfl rfl
    . next hidle =>
      cases heq
      refine .claims worker rfl ?_ (fun other => ?_) (fun other => ?_) rfl
      . unfold WorkerPool.busyAt
        rw [hagent]
        exact Bool.eq_false_iff.mpr hidle
      . exact WorkerPool.any_update_true (fun _ => rfl) (Option.isSome_of_eq_some hagent)
      . exact WorkerPool.any_update_eq (fun _ => rfl)
  | begin worker =>
    cases h
    refine .begins worker rfl (fun other => WorkerPool.any_update_eq (fun _ => rfl)) ?_ rfl
    intro other hshows
    by_cases heq : other = worker
    . exact .inl heq
    . refine .inr (Eq.trans ?_ hshows)
      unfold WorkerPool.showsAt
      rw [WorkerPool.any_update]
      simp only [if_neg (Ne.symm heq)]
  | start worker =>
    cases h
    exact .reads pool rfl rfl
  | executing worker start =>
    cases outcome with
    | returned result =>
      cases h
      exact .reads pool rfl rfl
    | panicked =>
      cases h
      exact .panics worker start rfl (fun _ => WorkerPool.any_update_false (fun _ => rfl))
        (fun _ => WorkerPool.any_update_eq (fun _ => rfl)) rfl
  | clear worker result durationMs =>
    cases h
    exact .clears worker rfl rfl (fun _ => WorkerPool.any_update_eq (fun _ => rfl))
      (fun _ => WorkerPool.any_update_false (fun _ => rfl)) rfl rfl
  | record worker result durationMs =>
    cases h
    exact .keeps (fun _ => WorkerPool.any_update_eq (fun _ => rfl))
      (fun _ => WorkerPool.any_update_eq (fun _ => rfl)) rfl rfl
  | send worker result durationMs =>
    cases h
    exact .reads pool rfl rfl
  | release worker =>
    cases h
    exact .releases worker rfl (fun _ => WorkerPool.any_update_false (fun _ => rfl))
      (fun _ => WorkerPool.any_update_eq (fun _ => rfl)) rfl
  | finished => cases h
  | refused _ => cases h

theorem PooledTask.progress_stepsTo {phase : String}
    (h : task.progress phase now pool = some (pool', task'))
    : task.StepsTo pool task' pool' := by
  unfold progress at h
  split at h
  . next worker start hphase =>
    cases h
    refine .keeps (fun _ => WorkerPool.any_update_eq (fun _ => rfl)) (fun _ => ?_) rfl rfl
    exact WorkerPool.any_update_eq (fun agent => Option.isSome_map)
  . cases h

end Steps

def SubmitPhase.answered : SubmitPhase → Bool
  | .release _ => true
  | .finished => true
  | .refused _ => true
  | _ => false

def PooledTask.ClaimsBusy (task : PooledTask) (pool : WorkerPool) : Prop :=
  ∃ worker, task.phase = .claim worker ∧ pool.busyAt worker = true

inductive PooledTask.AnswersTo (task : PooledTask) (now : UInt64) (pool : WorkerPool)
    (task' : PooledTask) : Prop where
  | goesOn (waited : task.phase.answered = false) (waits : task'.phase.answered = false)
    (results : task'.results = task.results) (same : task'.task = task.task)
  | refuses (waited : task.phase.answered = false) (error : String) (workerId : Option String)
    (durationMs : UInt64) (refused : task' = task.refuse error workerId durationMs now)
    (busy : error = "Worker is busy" → task.ClaimsBusy pool)
  | sends (waited : task.phase.answered = false) (worker : Nat) (result : ExecuteResult)
    (durationMs : UInt64)
    (sent : task' = { task.enter (.release worker) with
      results := task.results ++ [task.result result (pool.workerId worker) durationMs] })
  | releases (worker : Nat) (phase : task.phase = .release worker)
    (finished : task' = task.enter .finished)
  | panics (worker : Nat) (start : UInt64) (phase : task.phase = .executing worker start)
    (finished : task' = task.enter .finished)

section Answers

variable {task task' : PooledTask} {pool pool' : WorkerPool} {now : UInt64} {outcome : TaskOutcome}

theorem PooledTask.advance_answersTo (h : task.advance now outcome pool = some (pool', task'))
    : task.AnswersTo now pool task' ∧ pool'.maxWaitMs = pool.maxWaitMs := by
  obtain ⟨submitted, phase, started, results⟩ := task
  cases phase with
  | checkPool =>
    cases h
    refine ⟨?_, rfl⟩
    split
    . exact .goesOn rfl rfl rfl rfl
    . exact .refuses rfl _ _ _ rfl (fun heq => absurd heq (by decide))
  | scan =>
    dsimp only [advance] at h
    split at h
    . cases h
      exact ⟨.goesOn rfl rfl rfl rfl, rfl⟩
    . cases h
      exact ⟨.goesOn rfl rfl rfl rfl, rfl⟩
  | scanRunning start offset =>
    cases h
    refine ⟨.goesOn rfl ?_ rfl rfl, rfl⟩
    unfold enter
    dsimp only
    split
    . split <;> rfl
    . rfl
  | scanBusy start offset =>
    cases h
    refine ⟨.goesOn rfl ?_ rfl rfl, rfl⟩
    unfold enter
    dsimp only
    split <;> rfl
  | checkElapsed =>
    cases h
    refine ⟨?_, rfl⟩
    dsimp only
    split
    . exact .refuses rfl _ _ _ rfl (fun heq => absurd heq (by decide))
    . exact .goesOn rfl rfl rfl rfl
  | waiting =>
    cases h
    exact ⟨.goesOn rfl rfl rfl rfl, rfl⟩
  | checkWorker worker =>
    obtain ⟨agent, _, heq⟩ := Option.map_eq_some_iff.mp h
    cases heq
    refine ⟨?_, rfl⟩
    split
    . exact .goesOn rfl rfl rfl rfl
    . exact .refuses rfl _ _ _ rfl (fun heq => absurd heq (by decide))
  | claim worker =>
    obtain ⟨agent, hagent, heq⟩ := Option.map_eq_some_iff.mp h
    split at heq
    . next hbusy =>
      cases heq
      refine ⟨.refuses rfl _ _ _ rfl (fun _ => ⟨worker, rfl, ?_⟩), rfl⟩
      unfold WorkerPool.busyAt
      rw [hagent]
      exact hbusy
    . cases heq
      exact ⟨.goesOn rfl rfl rfl rfl, rfl⟩
  | begin worker =>
    cases h
    exact ⟨.goesOn rfl rfl rfl rfl, rfl⟩
  | start worker =>
    cases h
    exact ⟨.goesOn rfl rfl rfl rfl, rfl⟩
  | executing worker start =>
    cases outcome with
    | returned result =>
      cases h
      exact ⟨.goesOn rfl rfl rfl rfl, rfl⟩
    | panicked =>
      cases h
      exact ⟨.panics worker start rfl rfl, rfl⟩
  | clear worker result durationMs =>
    cases h
    exact ⟨.goesOn rfl rfl rfl rfl, rfl⟩
  | record worker result durationMs =>
    cases h
    exact ⟨.goesOn rfl rfl rfl rfl, rfl⟩
  | send worker result durationMs =>
    cases h
    exact ⟨.sends rfl worker result durationMs rfl, rfl⟩
  | release worker =>
    cases h
    exact ⟨.releases worker rfl rfl, rfl⟩
  | finished => cases h
  | refused _ => cases h

def PooledTask.NotSentEarly (task : PooledTask) : Prop :=
  task.phase.answered = false → task.results = []

theorem PooledTask.NotSentEarly.answersTo (h : task.NotSentEarly)
    (hstep : task.AnswersTo now pool task')
    : task'.NotSentEarly := by
  cases hstep with
  | goesOn waited waits results same => exact fun _ => results.trans (h waited)
  | refuses waited error workerId durationMs refused busy =>
    subst refused
    exact nofun
  | sends waited worker result durationMs sent =>
    subst sent
    exact nofun
  | releases worker phase finished =>
    subst finished
    exact nofun
  | panics worker start phase finished =>
    subst finished
    exact nofun

theorem PooledTask.progress_eq {phase : String}
    (h : task.progress phase now pool = some (pool', task'))
    : task' = task ∧ pool'.maxWaitMs = pool.maxWaitMs := by
  unfold progress at h
  split at h
  . cases h
    exact ⟨rfl, rfl⟩
  . cases h

end Answers

def PooledTask.HoldsBusy (pool : WorkerPool) (task : PooledTask) : Prop :=
  ∀ worker, task.Holds worker → pool.busyAt worker = true

def PooledTask.Apart (task other : PooledTask) : Prop :=
  ∀ worker, task.Holds worker → ¬ other.Holds worker

structure HeldWorkers (s : Threads WorkerPool PooledTask) : Prop where
  exclusive : s.Holds PooledTask.HoldsBusy PooledTask.Apart
  held : ∀ worker, s.shared.busyAt worker = true → ∃ task ∈ s.threads, task.Holds worker

section HeldWorkers

variable {s : Threads WorkerPool PooledTask} {pool' : WorkerPool} {task task' : PooledTask} {i : Nat}

theorem PooledTask.Apart.symm (h : task.Apart task') : task'.Apart task := by
  exact fun worker hholds' hholds => h worker hholds hholds'

theorem HeldWorkers.keeps (h : HeldWorkers s) (hi : s.threads[i]? = some task)
    (hbusy : ∀ worker, pool'.busyAt worker = s.shared.busyAt worker)
    (hheld : task'.phase.held = task.phase.held)
    : HeldWorkers { shared := pool', threads := s.threads.set i task' } := by
  have hholds : ∀ worker, task'.Holds worker ↔ task.Holds worker := by
    intro worker
    unfold PooledTask.Holds
    rw [hheld]
  constructor
  . refine h.exclusive.advance (fun _ _ h => h.symm) ?_ ?_
    . intro worker hholds'
      rw [hbusy]
      exact h.exclusive.alone task (List.mem_of_getElem? hi) worker ((hholds worker).mp hholds')
    . intro j other hne hj
      constructor
      . intro worker hother
        rw [hbusy]
        exact h.exclusive.alone other (List.mem_of_getElem? hj) worker hother
      . intro worker hholds'
        exact h.exclusive.apart i j task other hne.symm hi hj worker ((hholds worker).mp hholds')
  . intro worker hworker
    dsimp only at hworker
    rw [hbusy] at hworker
    exact Threads.exists_mem_set hi (hholds worker).mpr (h.held worker hworker)

theorem HeldWorkers.claims {worker : Nat} (h : HeldWorkers s) (hi : s.threads[i]? = some task)
    (hnone : task.phase.held = none) (hidle : s.shared.busyAt worker = false)
    (hbusy : ∀ other, pool'.busyAt other = (decide (other = worker) || s.shared.busyAt other))
    (hheld : task'.phase.held = some worker)
    : HeldWorkers { shared := pool', threads := s.threads.set i task' } := by
  constructor
  . refine h.exclusive.advance (fun _ _ h => h.symm) ?_ ?_
    . intro other hholds
      cases hheld.symm.trans hholds
      rw [hbusy, decide_eq_true rfl, Bool.true_or]
    . intro j other hne hj
      have hother := h.exclusive.alone other (List.mem_of_getElem? hj)
      constructor
      . intro w hw
        rw [hbusy, hother w hw, Bool.or_true]
      . intro w hholds hw
        cases hheld.symm.trans hholds
        cases hidle.symm.trans (hother worker hw)
  . intro other hother
    by_cases heq : other = worker
    . subst heq
      exact ⟨task', Threads.mem_set_self task' hi, hheld⟩
    . dsimp only at hother
      rw [hbusy, decide_eq_false heq, Bool.false_or] at hother
      refine Threads.exists_mem_set hi ?_ (h.held other hother)
      intro hholds
      cases hnone.symm.trans hholds

theorem HeldWorkers.frees {worker : Nat} (h : HeldWorkers s) (hi : s.threads[i]? = some task)
    (hheld : task.phase.held = some worker)
    (hbusy : ∀ other, pool'.busyAt other = (!decide (other = worker) && s.shared.busyAt other))
    (hnone : task'.phase.held = none)
    : HeldWorkers { shared := pool', threads := s.threads.set i task' } := by
  constructor
  . refine h.exclusive.advance (fun _ _ h => h.symm) ?_ ?_
    . intro w hholds
      cases hnone.symm.trans hholds
    . intro j other hne hj
      constructor
      . intro w hw
        have hother : w ≠ worker := by
          rintro rfl
          exact h.exclusive.apart i j task other hne.symm hi hj w hheld hw
        rw [hbusy, decide_eq_false hother, Bool.not_false, Bool.true_and]
        exact h.exclusive.alone other (List.mem_of_getElem? hj) w hw
      . intro w hholds
        cases hnone.symm.trans hholds
  . intro other hother
    dsimp only at hother
    rw [hbusy, Bool.and_eq_true, Bool.not_eq_true', decide_eq_false_iff_not] at hother
    refine Threads.exists_mem_set hi ?_ (h.held other hother.2)
    intro hholds
    cases hheld.symm.trans hholds
    exact absurd rfl hother.1

theorem HeldWorkers.stepsTo (h : HeldWorkers s) (hi : s.threads[i]? = some task)
    (hstep : task.StepsTo s.shared task' pool')
    : HeldWorkers { shared := pool', threads := s.threads.set i task' } := by
  cases hstep with
  | keeps busy shows held shown => exact h.keeps hi busy held
  | claims worker phase idle busy shows phase' =>
    exact h.claims hi (by rw [phase]; rfl) idle busy (by rw [phase']; rfl)
  | begins worker phase busy shows phase' =>
    exact h.keeps hi busy (by rw [phase, phase']; rfl)
  | clears worker shown held busy shows held' shown' =>
    exact h.keeps hi busy (held'.trans held.symm)
  | releases worker phase busy shows phase' =>
    exact h.frees hi (by rw [phase]; rfl) busy (by rw [phase']; rfl)
  | panics worker start phase busy shows phase' =>
    exact h.frees hi (by rw [phase]; rfl) busy (by rw [phase']; rfl)

theorem HeldWorkers.start (h : HeldWorkers s) (hnone : task.phase.held = none)
    : HeldWorkers (s.start task) := by
  constructor
  . refine h.exclusive.start ?_ ?_
    . intro worker hholds
      cases hnone.symm.trans hholds
    . intro other _
      constructor
      . intro worker hholds
        cases hnone.symm.trans hholds
      . intro worker _ hholds
        cases hnone.symm.trans hholds
  . intro worker hworker
    obtain ⟨holder, hmem, hholds⟩ := h.held worker hworker
    exact ⟨holder, List.mem_append_left _ hmem, hholds⟩

theorem HeldWorkers.share (h : HeldWorkers s)
    (hbusy : ∀ worker, pool'.busyAt worker = s.shared.busyAt worker)
    : HeldWorkers { s with shared := pool' } := by
  constructor
  . apply h.exclusive.share
    intro task hmem worker hholds
    rw [hbusy]
    exact h.exclusive.alone task hmem worker hholds
  . intro worker hworker
    exact h.held worker ((hbusy worker).symm.trans hworker)

theorem HeldWorkers.step {s' : Threads WorkerPool PooledTask} {action : PoolAction}
    (h : HeldWorkers s) (hstep : poolStep s action = some s')
    : HeldWorkers s' := by
  cases action with
  | submit task =>
    cases hstep
    exact h.start rfl
  | submitTo worker task =>
    cases hstep
    exact h.start rfl
  | step i now outcome =>
    change s.advance (fun pool task => task.advance now outcome pool) i = some s' at hstep
    obtain ⟨task, task', pool', hi, hact, rfl⟩ := Threads.advance_eq_some hstep
    exact h.stepsTo hi (PooledTask.advance_stepsTo hact)
  | progress i phase now =>
    change s.advance (PooledTask.progress phase now) i = some s' at hstep
    obtain ⟨task, task', pool', hi, hact, rfl⟩ := Threads.advance_eq_some hstep
    exact h.stepsTo hi (PooledTask.progress_stepsTo hact)
  | setRunning running =>
    cases hstep
    exact h.share (fun _ => rfl)
  | setWorkerRunning worker running =>
    cases hstep
    exact h.share (fun _ => WorkerPool.any_update_eq (fun _ => rfl))

end HeldWorkers

theorem notSentEarly_step {s s' : Threads WorkerPool PooledTask} {action : PoolAction}
    (h : ∀ task ∈ s.threads, task.NotSentEarly) (hstep : poolStep s action = some s')
    : ∀ task ∈ s'.threads, task.NotSentEarly := by
  have hset : ∀ {i : Nat} {task task' : PooledTask}, s.threads[i]? = some task
      → (task.NotSentEarly → task'.NotSentEarly)
      → ∀ other ∈ s.threads.set i task', other.NotSentEarly := by
    intro i task task' hi hkeep other hmem
    obtain rfl | ⟨j, _, hj⟩ := Threads.mem_set hmem
    . exact hkeep (h task (List.mem_of_getElem? hi))
    . exact h other (List.mem_of_getElem? hj)
  have hstart : ∀ task : PooledTask, task.results = []
      → ∀ other ∈ s.threads ++ [task], other.NotSentEarly := by
    intro task hnone other hmem
    obtain hold | hnew := List.mem_append.mp hmem
    . exact h other hold
    . cases List.mem_singleton.mp hnew
      exact fun _ => hnone
  cases action with
  | submit task =>
    cases hstep
    exact hstart _ rfl
  | submitTo worker task =>
    cases hstep
    exact hstart _ rfl
  | step i now outcome =>
    change s.advance (fun pool task => task.advance now outcome pool) i = some s' at hstep
    obtain ⟨task, task', pool', hi, hact, rfl⟩ := Threads.advance_eq_some hstep
    exact hset hi (fun hsent => hsent.answersTo (PooledTask.advance_answersTo hact).1)
  | progress i phase now =>
    change s.advance (PooledTask.progress phase now) i = some s' at hstep
    obtain ⟨task, task', pool', hi, hact, rfl⟩ := Threads.advance_eq_some hstep
    obtain ⟨rfl, _⟩ := PooledTask.progress_eq hact
    exact hset hi id
  | setRunning running =>
    cases hstep
    exact h
  | setWorkerRunning worker running =>
    cases hstep
    exact h

def WorkerPool.new (workerIds : List String) (maxWaitMs : UInt64) : Threads WorkerPool PooledTask where
  shared := { workers := workerIds.map (fun id => { id }), maxWaitMs }
  threads := []

theorem WorkerPool.any_new {P : WorkerAgent → Bool} (h : ∀ id, P { id } = false)
    (workerIds : List String) (maxWaitMs : UInt64) (worker : Nat)
    : (WorkerPool.new workerIds maxWaitMs).shared.workers[worker]?.any P = false := by
  unfold WorkerPool.new
  dsimp only
  rw [List.getElem?_map]
  cases workerIds[worker]? with
  | none => rfl
  | some id => exact h id

theorem heldWorkers_new (workerIds : List String) (maxWaitMs : UInt64)
    : HeldWorkers (WorkerPool.new workerIds maxWaitMs) := by
  refine ⟨⟨?_, ?_⟩, ?_⟩
  . intro task hmem
    cases hmem
  . intro i j a b _ hi
    cases hi
  . intro worker hworker
    cases (WorkerPool.any_new (fun _ => rfl) workerIds maxWaitMs worker).symm.trans hworker

end AnimaAgent
