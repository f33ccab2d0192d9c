import AnimaAgent.Dispatcher.CircuitBreaker
import AnimaAgent.Library.Runs
import AnimaAgent.Library.Threads

namespace AnimaAgent

inductive ExecutePhase where
  | checkState
  | checkElapsed
  | enterHalfOpen
  | clearSuccesses
  | allow
  | running
  | recordSuccess
  | clearFailures
  | countSuccess
  | close
  | clearClosedFailures
  | clearClosedSuccesses
  | recordFailure
  | countFailure (state : CircuitState)
  | compareFailures
  | openClosed
  | reopen
  | clearReopened
  | stampTrip
  | finished
  deriving DecidableEq

def ExecutePhase.inFlight : ExecutePhase → Bool
  | .checkState => false
  | .checkElapsed => false
  | .enterHalfOpen => false
  | .clearSuccesses => false
  | .allow => false
  | .finished => false
  | _ => true

/-- A call with the trial that it was admitted in, if it was admitted in one. -/
structure GuardedCall where
  phase : ExecutePhase := .checkState
  trial : Option Nat := none
  deriving DecidableEq

/-- A breaker with what its trials have seen: the trials are counted by the entries into `HalfOpen`. -/
structure TriedBreaker where
  breaker : CircuitBreaker
  trials : Nat := 0
  /-- The trials that the calls were admitted in whose successes `success_count` counts. -/
  counted : List (Option Nat) := []
  /-- The trials that ended in `Closed`, with the trials that the closing calls were admitted in. -/
  closings : List (Nat × Option Nat) := []

def GuardedCall.enter (call : GuardedCall) (phase : ExecutePhase) : GuardedCall :=
  { call with phase }

def GuardedCall.advance {α : Type} (now : UInt64) (result : Except String α) (s : TriedBreaker)
    (call : GuardedCall) : Option (TriedBreaker × GuardedCall) :=
  let breaker := s.breaker
  match call.phase with
  | .checkState =>
    some (s, call.enter (if breaker.state = .open then .checkElapsed else .allow))
  | .checkElapsed =>
    some (s, call.enter (if breaker.timeoutElapsed now then .enterHalfOpen else .allow))
  | .enterHalfOpen =>
    let (moved, breaker) := breaker.transitionTo .halfOpen
    if moved then
      some ({ s with breaker, trials := s.trials + 1 }, call.enter .clearSuccesses)
    else some (s, call.enter .allow)
  | .clearSuccesses =>
    some ({ s with breaker := { breaker with successCount := 0 }, counted := [] }, call.enter .allow)
  | .allow =>
    if breaker.allowsRequest then
      some (s, {
        phase := .running
        trial := if breaker.state = .halfOpen then some s.trials else none })
    else some (s, call.enter .finished)
  | .running =>
    some (s, call.enter (match result with
      | .ok _ => .recordSuccess
      | .error _ => .recordFailure))
  | .recordSuccess =>
    some (s, call.enter (match breaker.state with
      | .closed => .clearFailures
      | .halfOpen => .countSuccess
      | .open => .finished))
  | .clearFailures =>
    some ({ s with breaker := { breaker with failureCount := 0 } }, call.enter .finished)
  | .countSuccess =>
    let breaker := { breaker with successCount := breaker.successCount + 1 }
    some ({ s with breaker, counted := call.trial :: s.counted },
      call.enter (if breaker.config.successThreshold ≤ breaker.successCount then .close else .finished))
  | .close =>
    let (moved, breaker) := breaker.transitionTo .closed
    if moved then
      some ({ s with breaker, closings := (s.trials, call.trial) :: s.closings },
        call.enter .clearClosedFailures)
    else some (s, call.enter .finished)
  | .clearClosedFailures =>
    some ({ s with breaker := { breaker with failureCount := 0 } }, call.enter .clearClosedSuccesses)
  | .clearClosedSuccesses =>
    some ({ s with breaker := { breaker with successCount := 0 }, counted := [] },
      call.enter .finished)
  | .recordFailure => some (s, call.enter (.countFailure breaker.state))
  | .countFailure state =>
    some ({ s with breaker := { breaker with failureCount := breaker.failureCount + 1 } },
      call.enter (match state with
        | .closed => .compareFailures
        | .halfOpen => .reopen
        | .open => .finished))
  | .compareFailures =>
    some (s, call.enter (if breaker.config.failureThreshold ≤ breaker.failureCount then .openClosed
      else .finished))
  | .openClosed =>
    let (moved, breaker) := breaker.transitionTo .open
    some ({ s with breaker }, call.enter (if moved then .stampTrip else .finished))
  | .reopen => some ({ s with breaker := (breaker.transitionTo .open).2 }, call.enter .clearReopened)
  | .clearReopened =>
    some ({ s with breaker := { breaker with successCount := 0 }, counted := [] },
      call.enter .stampTrip)
  | .stampTrip =>
    some ({ s with breaker := { breaker with trippedAtMs := some now } }, call.enter .finished)
  | .finished => none

inductive ExecuteAction (α : Type) where
  | call
  | step (i : Nat) (now : UInt64) (result : Except String α)

def executeStep {α : Type} (s : Threads TriedBreaker GuardedCall)
    : ExecuteAction α → Option (Threads TriedBreaker GuardedCall)
  | .call => some (s.start {})
  | .step i now result => s.advance (GuardedCall.advance now result) i

/-- The calls in flight that are held against a trial: all of them, or those that it has admitted. -/
inductive TrialLoad where
  | everyCall
  | itsCalls
  deriving DecidableEq

def TrialLoad.counts (load : TrialLoad) (trial : Nat) (call : GuardedCall) : Bool :=
  call.phase.inFlight && (load = .everyCall || call.trial = some trial)

def inFlight (load : TrialLoad) (s : Threads TriedBreaker GuardedCall) : Nat :=
  s.threads.countP (load.counts s.shared.trials)

/-- A trial has no more calls in flight than it allows, and counts and ends with its own ones only. -/
structure SoundTrials (load : TrialLoad) (s : Threads TriedBreaker GuardedCall) : Prop where
  bounded : s.shared.breaker.state = .halfOpen
    → inFlight load s ≤ s.shared.breaker.config.halfOpenMaxCalls.toNat
  counted : s.shared.breaker.state = .halfOpen
    → ∀ trial ∈ s.shared.counted, trial = some s.shared.trials
  closings : ∀ closing ∈ s.shared.closings, closing.2 = some closing.1

/--
A breaker that half opens counts no success, and not too many calls are in flight; a trial that is full
admits no call; and no call that was admitted before the trial counts its success or closes the breaker
while it goes on.
-/
def KeepsToTrial (load : TrialLoad) (s : Threads TriedBreaker GuardedCall) (call : GuardedCall)
    : Prop :=
  match call.phase with
  | .enterHalfOpen => s.shared.breaker.state = .open → s.shared.counted = []
    ∧ (load = .everyCall → inFlight load s ≤ s.shared.breaker.config.halfOpenMaxCalls.toNat)
  | .allow => s.shared.breaker.state = .halfOpen → s.shared.breaker.allowsRequest = true
    → inFlight load s < s.shared.breaker.config.halfOpenMaxCalls.toNat
  | .countSuccess => s.shared.breaker.state = .halfOpen → call.trial = some s.shared.trials
  | .close => s.shared.breaker.state = .halfOpen → call.trial = some s.shared.trials
  | _ => True

def KeepsToTrials {α : Type} (load : TrialLoad) (s : Threads TriedBreaker GuardedCall)
    : ExecuteAction α → Prop
  | .call => True
  | .step i _ _ => ∀ call ∈ s.threads[i]?, KeepsToTrial load s call

section Decidable

instance (load : TrialLoad) (s : Threads TriedBreaker GuardedCall)
    : DecidablePred (KeepsToTrial load s) := by
  intro call
  unfold KeepsToTrial
  split <;> infer_instance

instance {α : Type} (load : TrialLoad) (s : Threads TriedBreaker GuardedCall)
    : DecidablePred (KeepsToTrials (α := α) load s) := by
  intro action
  unfold KeepsToTrials
  split <;> infer_instance

end Decidable

section Steps

variable {α : Type} {now : UInt64} {result : Except String α} {s s' : TriedBreaker}
  {call call' : GuardedCall}

inductive GuardedCall.StepsTo (call : GuardedCall) (s : TriedBreaker) (call' : GuardedCall)
    (s' : TriedBreaker) : Prop where
  | passes (config : s'.breaker.config = s.breaker.config)
    (state : s'.breaker.state = .halfOpen → s.breaker.state = .halfOpen)
    (trials : s'.trials = s.trials)
    (counted : s'.counted ⊆ s.counted)
    (closings : s'.closings = s.closings)
    (trial : call'.trial = call.trial)
    (inFlight : call'.phase.inFlight = true → call.phase.inFlight = true)
    (keeps : ∀ load (threads : Threads TriedBreaker GuardedCall), threads.shared = s
      → KeepsToTrial load threads call)
  | halfOpens (phase : call.phase = .enterHalfOpen) (state : s.breaker.state = .open)
    (shared : s' = { s with
      breaker := { s.breaker with state := .halfOpen }
      trials := s.trials + 1 })
    (call : call' = call.enter .clearSuccesses)
  | admits (phase : call.phase = .allow) (allows : s.breaker.allowsRequest = true) (shared : s' = s)
    (call : call' = {
      phase := .running
      trial := if s.breaker.state = .halfOpen then some s.trials else none })
  | counts (phase : call.phase = .countSuccess)
    (shared : s' = { s with
      breaker := { s.breaker with successCount := s.breaker.successCount + 1 }
      counted := call.trial :: s.counted })
    (trial : call'.trial = call.trial)
  | closes (phase : call.phase = .close) (state : s.breaker.state = .halfOpen)
    (shared : s' = { s with
      breaker := { s.breaker with state := .closed }
      closings := (s.trials, call.trial) :: s.closings })
    (call : call' = call.enter .clearClosedFailures)

theorem CircuitBreaker.transitionTo_of_not_valid {breaker : CircuitBreaker}
    {newState : CircuitState} (h : ¬ breaker.state.validTransition newState = true)
    : breaker.transitionTo newState = (false, breaker) := by
  unfold transitionTo
  rw [if_neg h]

theorem CircuitBreaker.transitionTo_config (breaker : CircuitBreaker) (newState : CircuitState)
    : (breaker.transitionTo newState).2.config = breaker.config := by
  unfold transitionTo
  split
  . rfl
  . rfl

theorem CircuitBreaker.transitionTo_open_state (breaker : CircuitBreaker)
    (h : (breaker.transitionTo .open).2.state = .halfOpen)
    : breaker.state = .halfOpen := by
  unfold transitionTo at h
  split at h
  . cases h
  . exact h

theorem GuardedCall.StepsTo.reads (call : GuardedCall) (phase : ExecutePhase)
    (hinFlight : phase.inFlight = true → call.phase.inFlight = true)
    (hkeeps : ∀ load (threads : Threads TriedBreaker GuardedCall), threads.shared = s
      → KeepsToTrial load threads call)
    : call.StepsTo s (call.enter phase) s := by
  exact .passes rfl id rfl (List.Subset.refl _) rfl rfl hinFlight hkeeps

theorem GuardedCall.advance_stepsTo (h : call.advance now result s = some (s', call'))
    : call.StepsTo s call' s' := by
  obtain ⟨phase, trial⟩ := call
  cases phase with
  | checkState =>
    cases h
    refine .reads ⟨.checkState, trial⟩ _ ?_ (fun _ _ _ => trivial)
    split <;> exact id
  | checkElapsed =>
    cases h
    refine .reads ⟨.checkElapsed, trial⟩ _ ?_ (fun _ _ _ => trivial)
    split <;> exact id
  | enterHalfOpen =>
    simp only [advance] at h
    by_cases hstate : s.breaker.state = .open
    . rw [CircuitBreaker.transitionTo_of_valid (by rw [hstate]; rfl)] at h
      cases h
      exact .halfOpens rfl hstate rfl rfl
    . rw [CircuitBreaker.transitionTo_of_not_valid ?_] at h
      . cases h
        refine .reads ⟨.enterHalfOpen, trial⟩ _ id ?_
        rintro load threads rfl hopen
        exact absurd hopen hstate
      . cases hother : s.breaker.state with
        | «open» => exact absurd hother hstate
        | closed => exact Bool.noConfusion
        | halfOpen => exact Bool.noConfusion
  | clearSuccesses =>
    cases h
    exact .passes rfl id rfl (List.nil_subset _) rfl rfl id (fun _ _ _ => trivial)
  | allow =>
    simp only [advance] at h
    split at h
    . next hallows =>
      cases h
      exact .admits rfl hallows rfl rfl
    . next hallows =>
      cases h
      refine .reads ⟨.allow, trial⟩ _ id ?_
      rintro load threads rfl _ hallows'
      exact absurd hallows' hallows
  | running =>
    cases h
    refine .reads ⟨.running, trial⟩ _ (fun _ => rfl) (fun _ _ _ => trivial)
  | recordSuccess =>
    cases h
    exact .reads ⟨.recordSuccess, trial⟩ _ (fun _ => rfl) (fun _ _ _ => trivial)
  | clearFailures =>
    cases h
    exact .passes rfl id rfl (List.Subset.refl _) rfl rfl (fun _ => rfl) (fun _ _ _ => trivial)
  | countSuccess =>
    cases h
    exact .counts rfl rfl rfl
  | close =>
    simp only [advance] at h
    by_cases hstate : s.breaker.state = .halfOpen
    . rw [CircuitBreaker.transitionTo_of_valid (by rw [hstate]; rfl)] at h
      cases h
      exact .closes rfl hstate rfl rfl
    . rw [CircuitBreaker.transitionTo_of_not_valid ?_] at h
      . cases h
        refine .reads ⟨.close, trial⟩ _ (fun _ => rfl) ?_
        rintro load threads rfl htrial
        exact absurd htrial hstate
      . cases hother : s.breaker.state with
        | halfOpen => exact absurd hother hstate
        | closed => exact Bool.noConfusion
        | «open» => exact Bool.noConfusion
  | clearClosedFailures =>
    cases h
    exact .passes rfl id rfl (List.Subset.refl _) rfl rfl (fun _ => rfl) (fun _ _ _ => trivial)
  | clearClosedSuccesses =>
    cases h
    exact .passes rfl id rfl (List.nil_subset _) rfl rfl (fun _ => rfl) (fun _ _ _ => trivial)
  | recordFailure =>
    cases h
    exact .reads ⟨.recordFailure, trial⟩ _ (fun _ => rfl) (fun _ _ _ => trivial)
  | countFailure state =>
    cases h
    exact .passes rfl id rfl (List.Subset.refl _) rfl rfl (fun _ => rfl) (fun _ _ _ => trivial)
  | compareFailures =>
    cases h
    exact .reads ⟨.compareFailures, trial⟩ _ (fun _ => rfl) (fun _ _ _ => trivial)
  | openClosed =>
    cases h
    refine .passes ?_ ?_ rfl (List.Subset.refl _) rfl rfl (fun _ => rfl) (fun _ _ _ => trivial)
    . exact CircuitBreaker.transitionTo_config _ _
    . exact CircuitBreaker.transitionTo_open_state _
  | reopen =>
    cases h
    refine .passes ?_ ?_ rfl (List.Subset.refl _) rfl rfl (fun _ => rfl) (fun _ _ _ => trivial)
    . exact CircuitBreaker.transitionTo_config _ _
    . exact CircuitBreaker.transitionTo_open_state _
  | clearReopened =>
    cases h
    exact .passes rfl id rfl (List.nil_subset _) rfl rfl (fun _ => rfl) (fun _ _ _ => trivial)
  | stampTrip =>
    cases h
    exact .passes rfl id rfl (List.Subset.refl _) rfl rfl (fun _ => rfl) (fun _ _ _ => trivial)
  | finished => cases h

end Steps

structure KnownTrials (s : Threads TriedBreaker GuardedCall) : Prop where
  calls : ∀ call ∈ s.threads, ∀ n, call.trial = some n → n ≤ s.shared.trials
  counted : ∀ n, some n ∈ s.shared.counted → n ≤ s.shared.trials

section Trials

variable {load : TrialLoad} {s : Threads TriedBreaker GuardedCall} {s' : TriedBreaker}
  {call call' : GuardedCall} {i : Nat}

theorem GuardedCall.StepsTo.trials_le (h : call.StepsTo s.shared call' s')
    : s.shared.trials ≤ s'.trials := by
  cases h with
  | passes _ _ trials _ _ _ _ _ => exact Nat.le_of_eq trials.symm
  | halfOpens _ _ shared _ => exact shared ▸ Nat.le_succ _
  | admits _ _ shared _ => exact shared ▸ Nat.le_refl _
  | counts _ shared _ => exact shared ▸ Nat.le_refl _
  | closes _ _ shared _ => exact shared ▸ Nat.le_refl _

theorem KnownTrials.step (h : KnownTrials s) (hi : s.threads[i]? = some call)
    (hstep : call.StepsTo s.shared call' s')
    : KnownTrials { shared := s', threads := s.threads.set i call' } := by
  have hle := hstep.trials_le
  have hcall : ∀ n, call.trial = some n → n ≤ s.shared.trials :=
    h.calls call (List.mem_of_getElem? hi)
  constructor
  . intro other hmem n hn
    obtain rfl | ⟨j, _, hj⟩ := Threads.mem_set hmem
    . refine Nat.le_trans ?_ hle
      cases hstep with
      | passes _ _ _ _ _ trial _ _ => exact hcall n (trial.symm.trans hn)
      | halfOpens _ _ _ hcall' =>
        subst hcall'
        exact hcall n hn
      | admits _ _ _ hcall' =>
        subst hcall'
        dsimp only at hn
        split at hn
        . cases hn
          exact Nat.le_refl _
        . cases hn
      | counts _ _ trial => exact hcall n (trial.symm.trans hn)
      | closes _ _ _ hcall' =>
        subst hcall'
        exact hcall n hn
    . exact Nat.le_trans (h.calls other (List.mem_of_getElem? hj) n hn) hle
  . intro n hn
    refine Nat.le_trans ?_ hle
    cases hstep with
    | passes _ _ _ counted _ _ _ _ => exact h.counted n (counted hn)
    | halfOpens _ _ shared _ =>
      subst shared
      exact h.counted n hn
    | admits _ _ shared _ =>
      subst shared
      exact h.counted n hn
    | counts _ shared _ =>
      subst shared
      obtain heq | hold := List.mem_cons.mp hn
      . exact hcall n heq.symm
      . exact h.counted n hold
    | closes _ _ shared _ =>
      subst shared
      exact h.counted n hn

theorem countP_counts_set (load : TrialLoad) (hi : s.threads[i]? = some call)
    (call' : GuardedCall) (trial : Nat)
    : (s.threads.set i call').countP (load.counts trial) + (load.counts trial call).toNat
        = s.threads.countP (load.counts trial) + (load.counts trial call').toNat := by
  exact Threads.countP_set call' hi

theorem TrialLoad.counts_of_not_inFlight {trial : Nat} (h : call.phase.inFlight = false)
    : load.counts trial call = false := by
  unfold counts
  rw [h, Bool.false_and]

theorem TrialLoad.toNat_counts_le (load : TrialLoad) (trial : Nat) (htrial : call'.trial = call.trial)
    (hinFlight : call'.phase.inFlight = true → call.phase.inFlight = true)
    : (load.counts trial call').toNat ≤ (load.counts trial call).toNat := by
  unfold counts
  rw [htrial]
  cases hphase : call'.phase.inFlight with
  | false =>
    rw [Bool.false_and]
    exact Nat.zero_le _
  | true => rw [hinFlight hphase]

theorem KnownTrials.countP_next (h : KnownTrials s) (load : TrialLoad)
    (hi : s.threads[i]? = some call) (hcall : call.phase.inFlight = false)
    (hcall' : call'.phase.inFlight = false)
    : (s.threads.set i call').countP (load.counts (s.shared.trials + 1))
        = if load = .everyCall then inFlight load s else 0 := by
  have hcount := countP_counts_set load hi call' (s.shared.trials + 1)
  rw [TrialLoad.counts_of_not_inFlight hcall, TrialLoad.counts_of_not_inFlight hcall'] at hcount
  rw [Nat.add_right_cancel hcount]
  split
  . next hload =>
    subst hload
    rfl
  . next hload =>
    rw [List.countP_eq_zero]
    intro other hmem hcounts
    unfold TrialLoad.counts at hcounts
    rw [decide_eq_false hload, Bool.false_or, Bool.and_eq_true, decide_eq_true_eq] at hcounts
    exact Nat.not_succ_le_self _ (h.calls other hmem _ hcounts.2)

theorem countP_set_le (hi : s.threads[i]? = some call) (htrial : call'.trial = call.trial)
    (hinFlight : call'.phase.inFlight = true → call.phase.inFlight = true)
    : (s.threads.set i call').countP (load.counts s.shared.trials) ≤ inFlight load s := by
  have hcount := countP_counts_set load hi call' s.shared.trials
  have hle := load.toNat_counts_le s.shared.trials htrial hinFlight
  unfold inFlight
  omega

theorem SoundTrials.halfOpens_iff (h : SoundTrials load s) (hknown : KnownTrials s)
    (hi : s.threads[i]? = some call) (phase : call.phase = .enterHalfOpen)
    (state : s.shared.breaker.state = .open)
    : SoundTrials load
        { shared := { s.shared with
            breaker := { s.shared.breaker with state := .halfOpen }
            trials := s.shared.trials + 1 }
          threads := s.threads.set i (call.enter .clearSuccesses) }
      ↔ KeepsToTrial load s call := by
  have hcount : (s.threads.set i (call.enter .clearSuccesses)).countP
      (load.counts (s.shared.trials + 1)) = if load = .everyCall then inFlight load s else 0 :=
    hknown.countP_next load hi (by rw [phase]; rfl) rfl
  unfold KeepsToTrial
  rw [phase]
  dsimp only
  constructor
  . intro hsound _
    constructor
    . apply List.eq_nil_iff_forall_not_mem.mpr
      intro other hmem
      cases hsound.counted rfl other hmem
      exact Nat.not_succ_le_self _ (hknown.counted _ hmem)
    . intro hload
      rw [if_pos hload] at hcount
      rw [← hcount]
      exact hsound.bounded rfl
  . intro hkeeps
    obtain ⟨hnone, hbound⟩ := hkeeps state
    refine ⟨fun _ => ?_, fun _ other hmem => ?_, h.closings⟩
    . unfold inFlight
      dsimp only
      rw [hcount]
      split
      . next hload => exact hbound hload
      . exact Nat.zero_le _
    . rw [hnone] at hmem
      cases hmem

theorem SoundTrials.admits_iff (h : SoundTrials load s) (hi : s.threads[i]? = some call)
    (phase : call.phase = .allow) (allows : s.shared.breaker.allowsRequest = true)
    : SoundTrials load
        { s with
          threads := s.threads.set i
            { phase := .running
              trial := if s.shared.breaker.state = .halfOpen then some s.shared.trials else none } }
      ↔ KeepsToTrial load s call := by
  unfold KeepsToTrial
  rw [phase]
  dsimp only
  by_cases htrial : s.shared.breaker.state = .halfOpen
  . have hcount := countP_counts_set load hi
      { phase := .running, trial := some s.shared.trials } s.shared.trials
    have hcounts : load.counts s.shared.trials
        { phase := .running, trial := some s.shared.trials } = true := by
      unfold TrialLoad.counts
      simp only [ExecutePhase.inFlight, decide_true, Bool.or_true, Bool.and_self]
    rw [TrialLoad.counts_of_not_inFlight (by rw [phase]; rfl), hcounts] at hcount
    rw [if_pos htrial]
    constructor
    . intro hsound _ _
      have hbound := hsound.bounded htrial
      unfold inFlight at hbound ⊢
      dsimp only at hbound
      rw [Bool.toNat_false, Nat.add_zero, Bool.toNat_true] at hcount
      rw [hcount] at hbound
      exact hbound
    . intro hkeeps
      refine ⟨fun _ => ?_, h.counted, h.closings⟩
      have hbound := hkeeps htrial allows
      unfold inFlight at hbound ⊢
      dsimp only
      rw [Bool.toNat_false, Nat.add_zero, Bool.toNat_true] at hcount
      rw [hcount]
      exact hbound
  . refine iff_of_true ⟨?_, ?_, h.closings⟩ (fun h => absurd h htrial)
    . exact fun h => absurd h htrial
    . exact fun h => absurd h htrial

theorem SoundTrials.step_iff (h : SoundTrials load s) (hknown : KnownTrials s)
    (hi : s.threads[i]? = some call) (hstep : call.StepsTo s.shared call' s')
    : SoundTrials load { shared := s', threads := s.threads.set i call' }
      ↔ KeepsToTrial load s call := by
  cases hstep with
  | passes config state trials counted closings trial flight keeps =>
    refine iff_of_true ⟨?_, ?_, ?_⟩ (keeps load s rfl)
    . intro htrial
      unfold inFlight
      dsimp only
      rw [config, trials]
      exact Nat.le_trans (countP_set_le hi trial flight) (h.bounded (state htrial))
    . intro htrial other hmem
      dsimp only
      rw [trials]
      exact h.counted (state htrial) other (counted hmem)
    . dsimp only
      rw [closings]
      exact h.closings
  | halfOpens phase state shared hcall' =>
    subst shared hcall'
    exact h.halfOpens_iff hknown hi phase state
  | admits phase allows shared hcall' =>
    subst shared hcall'
    exact h.admits_iff hi phase allows
  | counts phase shared trial =>
    subst shared
    unfold KeepsToTrial
    rw [phase]
    dsimp only
    constructor
    . intro hsound htrial
      exact hsound.counted htrial _ (List.mem_cons_self ..)
    . intro hkeeps
      refine ⟨fun htrial => ?_, fun htrial other hmem => ?_, h.closings⟩
      . refine Nat.le_trans (countP_set_le hi trial ?_) (h.bounded htrial)
        intro _
        rw [phase]
        rfl
      . obtain rfl | hold := List.mem_cons.mp hmem
        . exact hkeeps htrial
        . exact h.counted htrial other hold
  | closes phase state shared hcall' =>
    subst shared hcall'
    unfold KeepsToTrial
    rw [phase]
    dsimp only
    constructor
    . intro hsound _
      exact hsound.closings _ (List.mem_cons_self ..)
    . intro hkeeps
      refine ⟨nofun, nofun, ?_⟩
      intro closing hmem
      obtain rfl | hold := List.mem_cons.mp hmem
      . exact hkeeps state
      . exact h.closings closing hold

end Trials

section Alone

variable {α : Type} {now later : UInt64} {result : Except String α}

inductive GuardedCall.Leaves (now later : UInt64) (result : Except String α)
    : TriedBreaker → GuardedCall → CircuitBreaker → Prop
  | finished (s : TriedBreaker) (trial : Option Nat)
    : Leaves now later result s ⟨.finished, trial⟩ s.breaker
  | next {s : TriedBreaker} {call : GuardedCall} {stepped : TriedBreaker × GuardedCall}
    {left : CircuitBreaker}
    (h : call.advance (if call.phase = .checkElapsed then now else later) result s = some stepped)
    (hrest : Leaves now later result stepped.1 stepped.2 left)
    : Leaves now later result s call left

namespace GuardedCall

theorem leaves_recordSuccess (s : TriedBreaker) (trial : Option Nat)
    : Leaves now later result s ⟨.recordSuccess, trial⟩ s.breaker.recordSuccess := by
  obtain ⟨⟨config, state, failureCount, successCount, trippedAtMs⟩, trials, counted, closings⟩ := s
  cases state with
  | closed => exact .next rfl (.next rfl (.finished ..))
  | «open» => exact .next rfl (.finished ..)
  | halfOpen =>
    by_cases hle : config.successThreshold ≤ successCount + 1
    . rw [CircuitBreaker.recordSuccess_of_halfOpen rfl hle]
      refine .next rfl (.next rfl ?_)
      dsimp only [enter]
      rw [if_pos hle]
      exact .next rfl (.next rfl (.next rfl (.finished ..)))
    . rw [CircuitBreaker.recordSuccess_of_halfOpen_lt rfl hle]
      refine .next rfl (.next rfl ?_)
      dsimp only [enter]
      rw [if_neg hle]
      exact .finished ..

theorem leaves_recordFailure (s : TriedBreaker) (trial : Option Nat)
    : Leaves now later result s ⟨.recordFailure, trial⟩ (s.breaker.recordFailure later) := by
  obtain ⟨⟨config, state, failureCount, successCount, trippedAtMs⟩, trials, counted, closings⟩ := s
  cases state with
  | closed =>
    by_cases hle : config.failureThreshold ≤ failureCount + 1
    . rw [CircuitBreaker.recordFailure_of_closed rfl hle]
      refine .next rfl (.next rfl (.next rfl ?_))
      dsimp only [enter]
      rw [if_pos hle]
      exact .next rfl (.next rfl (.finished ..))
    . rw [CircuitBreaker.recordFailure_of_closed_lt rfl hle]
      refine .next rfl (.next rfl (.next rfl ?_))
      dsimp only [enter]
      rw [if_neg hle]
      exact .finished ..
  | «open» => exact .next rfl (.next rfl (.finished ..))
  | halfOpen =>
    exact .next rfl (.next rfl (.next rfl (.next rfl (.next rfl (.finished ..)))))

theorem leaves_allow (s : TriedBreaker) (trial : Option Nat)
    : Leaves now later result s ⟨.allow, trial⟩
        (if s.breaker.allowsRequest then
          match result with
          | .ok _ => s.breaker.recordSuccess
          | .error _ => s.breaker.recordFailure later
        else s.breaker) := by
  by_cases hallows : s.breaker.allowsRequest
  . rw [if_pos hallows]
    refine .next (by unfold advance; exact if_pos hallows) ?_
    cases result with
    | ok value => exact .next rfl (leaves_recordSuccess ..)
    | error error => exact .next rfl (leaves_recordFailure ..)
  . rw [if_neg hallows]
    refine .next (by unfold advance; exact if_neg hallows) ?_
    exact .finished ..

theorem leaves_execute (s : TriedBreaker)
    : Leaves now later result s {} (s.breaker.execute now later result).2 := by
  have hallow : ∀ s' : TriedBreaker, s'.breaker = s.breaker.checkTimeout now
      → Leaves now later result s' ⟨.allow, none⟩ (s.breaker.execute now later result).2 := by
    intro s' heq
    have hleaves := @leaves_allow α now later result s' none
    rw [heq] at hleaves
    unfold CircuitBreaker.execute
    dsimp only
    split
    . next hallows =>
      rw [if_pos hallows] at hleaves
      cases result with
      | ok value => exact hleaves
      | error error => exact hleaves
    . next hallows =>
      rw [if_neg hallows] at hleaves
      exact hleaves
  by_cases hopen : s.breaker.state = .open
  . by_cases helapsed : s.breaker.timeoutElapsed now
    . refine .next rfl ?_
      dsimp only [enter]
      rw [if_pos hopen]
      refine .next rfl ?_
      dsimp only [enter]
      rw [if_pos rfl, if_pos helapsed]
      refine .next (by
        unfold advance
        dsimp only
        rw [CircuitBreaker.transitionTo_of_valid (by rw [hopen]; rfl)]
        exact if_pos rfl) ?_
      refine .next rfl (hallow _ ?_)
      rw [CircuitBreaker.checkTimeout_of_elapsed hopen helapsed]
    . refine .next rfl ?_
      dsimp only [enter]
      rw [if_pos hopen]
      refine .next rfl ?_
      dsimp only [enter]
      rw [if_pos rfl, if_neg helapsed]
      refine hallow _ ?_
      rw [CircuitBreaker.checkTimeout_of_not (fun h => helapsed h.2)]
  . refine .next rfl ?_
    dsimp only [enter]
    rw [if_neg hopen]
    refine hallow _ ?_
    rw [CircuitBreaker.checkTimeout_of_not (fun h => hopen h.1)]

end GuardedCall

end Alone

def CircuitBreaker.untried (config : CircuitBreakerConfig) : Threads TriedBreaker GuardedCall :=
  { shared := { breaker := { config } }, threads := [] }

section Run

variable {α : Type} {load : TrialLoad} {s s' : Threads TriedBreaker GuardedCall}
  {action : ExecuteAction α}

theorem SoundTrials.start (h : SoundTrials load s) : SoundTrials load (s.start {}) := by
  refine ⟨fun htrial => ?_, h.counted, h.closings⟩
  unfold inFlight
  change (s.threads ++ [({} : GuardedCall)]).countP (load.counts s.shared.trials) ≤ _
  rw [List.countP_append, List.countP_singleton,
    if_neg (by rw [TrialLoad.counts_of_not_inFlight rfl]; exact Bool.noConfusion)]
  exact h.bounded htrial

theorem KnownTrials.executeStep (h : KnownTrials s) (hstep : executeStep s action = some s')
    : KnownTrials s' := by
  cases action with
  | call =>
    cases hstep
    refine ⟨?_, h.counted⟩
    intro call hmem n hn
    obtain hold | hnew := List.mem_append.mp hmem
    . exact h.calls call hold n hn
    . cases List.mem_singleton.mp hnew
      cases hn
  | step i now result =>
    obtain ⟨call, call', shared', hi, hact, rfl⟩ := Threads.advance_eq_some hstep
    exact h.step hi (GuardedCall.advance_stepsTo hact)

theorem SoundTrials.executeStep_iff (h : SoundTrials load s) (hknown : KnownTrials s)
    (hstep : executeStep s action = some s')
    : SoundTrials load s' ↔ KeepsToTrials load s action := by
  cases action with
  | call =>
    cases hstep
    exact iff_of_true h.start trivial
  | step i now result =>
    obtain ⟨call, call', shared', hi, hact, rfl⟩ := Threads.advance_eq_some hstep
    rw [h.step_iff hknown hi (GuardedCall.advance_stepsTo hact)]
    unfold KeepsToTrials
    constructor
    . intro hkeeps other hother
      cases hi.symm.trans hother
      exact hkeeps
    . intro hkeeps
      exact hkeeps call hi

theorem always_soundTrials_iff (load : TrialLoad) (config : CircuitBreakerConfig)
    (actions : List (ExecuteAction α))
    : Runs.Always executeStep (SoundTrials load) (CircuitBreaker.untried config) actions
      ↔ Runs.Guarded executeStep (KeepsToTrials load) (CircuitBreaker.untried config) actions := by
  refine Runs.always_iff_guarded KnownTrials (fun _ => True) ?_ ?_ ?_ (fun _ _ => trivial)
  . intro s action s' hs _ hsound hstep
    exact ⟨hs.executeStep hstep, hsound.executeStep_iff hs hstep⟩
  . exact ⟨fun _ hmem => (List.not_mem_nil hmem).elim, fun _ hmem => (List.not_mem_nil hmem).elim⟩
  . exact ⟨nofun, nofun, fun _ hmem => (List.not_mem_nil hmem).elim⟩

end Run

def stepsOf {α : Type} (i n : Nat) (now : UInt64) (result : Except String α)
    : List (ExecuteAction α) :=
  List.replicate n (.step i now result)

def crowdedTrial : List (ExecuteAction Unit) :=
  [.call, .call, .call] ++ stepsOf 0 8 0 (.error "timeout") ++ stepsOf 1 5 60001 (.ok ())
    ++ stepsOf 2 2 60001 (.ok ())

def lateSuccess : List (ExecuteAction Unit) :=
  [.call, .call, .call] ++ stepsOf 0 2 0 (.ok ()) ++ stepsOf 1 8 0 (.error "timeout")
    ++ stepsOf 2 5 60001 (.ok ()) ++ stepsOf 0 4 60001 (.ok ())

/-- A trial of one call has two in flight, and a call from before the trial closes the breaker. -/
theorem not_always_soundTrials
    : ¬ Runs.Always executeStep (SoundTrials .itsCalls)
        (CircuitBreaker.untried { failureThreshold := 1, halfOpenMaxCalls := 1 }) crowdedTrial
      ∧ ¬ Runs.Always executeStep (SoundTrials .itsCalls)
        (CircuitBreaker.untried { failureThreshold := 1, successThreshold := 1 }) lateSuccess := by
  constructor
  . intro h
    have hrun : (Runs.run executeStep
          (CircuitBreaker.untried { failureThreshold := 1, halfOpenMaxCalls := 1 })
          crowdedTrial).map (fun s =>
        (s.shared.breaker.state, inFlight .itsCalls s, s.shared.breaker.config.halfOpenMaxCalls.toNat))
        = some (.halfOpen, 2, 1) := by
      decide +kernel
    obtain ⟨s, hs, hfacts⟩ := Option.map_eq_some_iff.mp hrun
    obtain ⟨hstate, hfacts⟩ := Prod.mk.inj hfacts
    obtain ⟨htwo, hone⟩ := Prod.mk.inj hfacts
    have hbound := (h.run_eq_some hs).bounded hstate
    rw [htwo, hone] at hbound
    exact Nat.not_succ_le_self 1 hbound
  . intro h
    have hrun : (Runs.run executeStep
          (CircuitBreaker.untried { failureThreshold := 1, successThreshold := 1 })
          lateSuccess).map (fun s => s.shared.closings) = some [(1, none)] := by
      decide +kernel
    obtain ⟨s, hs, hclosings⟩ := Option.map_eq_some_iff.mp hrun
    have hclosing :=
      (h.run_eq_some hs).closings (1, none) (by rw [hclosings]; exact List.mem_cons_self ..)
    cases hclosing

end AnimaAgent
