import AnimaAgent.Dispatcher.BreakerStates

/-!
This module contains the ways out of the states of a circuit breaker: whether a later call may be admitted,
and whether a breaker on trial is closed again if all calls succeed. A call that is rejected is told how
long to wait, which is a millisecond short.
-/

namespace AnimaAgent

structure Execution (α : Type) where
  now : UInt64
  later : UInt64
  result : Except String α

namespace CircuitBreaker

def executeAll {α : Type} (breaker : CircuitBreaker) : List (Execution α) → CircuitBreaker
  | [] => breaker
  | execution :: rest =>
    executeAll (breaker.execute execution.now execution.later execution.result).2 rest

def LockedOut (α : Type) (breaker : CircuitBreaker) : Prop :=
  ∀ (executions : List (Execution α)) now later (result : Except String α),
    ∃ retryAfterMs,
      ((breaker.executeAll executions).execute now later result).1 = .rejected retryAfterMs

def Recovers (α : Type) (breaker : CircuitBreaker) : Prop :=
  ∃ n, ∀ executions : List (Execution α), executions.length = n
    → (∀ execution ∈ executions, ∃ value, execution.result = .ok value)
    → (breaker.executeAll executions).state = .closed

structure Recoverable (α : Type) (breaker : CircuitBreaker) : Prop where
  notLockedOut : ¬ breaker.LockedOut α
  recovers : breaker.state = .halfOpen → breaker.Recovers α

end CircuitBreaker

namespace CircuitBreakerConfig

def TrialSuffices (config : CircuitBreakerConfig) : Prop :=
  config.successThreshold ≤ config.halfOpenMaxCalls

def TimeoutEnds (config : CircuitBreakerConfig) (trippedAt : UInt64) : Prop :=
  trippedAt.toNat + config.timeoutMs.toNat + 1 < UInt64.size

instance (config : CircuitBreakerConfig) : Decidable config.TrialSuffices :=
  inferInstanceAs (Decidable (_ ≤ _))

instance (config : CircuitBreakerConfig) (trippedAt : UInt64)
    : Decidable (config.TimeoutEnds trippedAt) :=
  inferInstanceAs (Decidable (_ < _))

end CircuitBreakerConfig

def CircuitBreaker.TriesAgain (breaker : CircuitBreaker) (now : UInt64) : Prop :=
  breaker.state = .open ∧ breaker.timeoutElapsed now = true

def CircuitBreaker.OpensOnFailure (breaker : CircuitBreaker) (now : UInt64) : Prop :=
  (breaker.state = .closed ∧ breaker.config.failureThreshold ≤ breaker.failureCount + 1)
  ∨ breaker.state = .halfOpen ∨ breaker.TriesAgain now

/--
A trial that begins with a success has room for enough of them, and whenever the breaker is opened the
timeout will end.
-/
def LeavesAWayOut {α : Type} (s : BreakerHistory) : BreakerCall α → Prop
  | .execute now _ (.ok _) => s.breaker.TriesAgain now → s.breaker.config.TrialSuffices
  | .execute now later (.error _) =>
    s.breaker.OpensOnFailure now → s.breaker.config.TimeoutEnds later
  | .trip now => s.breaker.state = .closed → s.breaker.config.TimeoutEnds now
  | .reset => True

section Decidable

instance (breaker : CircuitBreaker) (now : UInt64) : Decidable (breaker.TriesAgain now) :=
  inferInstanceAs (Decidable (_ ∧ _))

instance (breaker : CircuitBreaker) (now : UInt64) : Decidable (breaker.OpensOnFailure now) :=
  inferInstanceAs (Decidable (_ ∨ _))

instance {α : Type} (s : BreakerHistory) : DecidablePred (LeavesAWayOut (α := α) s) := by
  intro call
  unfold LeavesAWayOut
  split <;> infer_instance

end Decidable

namespace CircuitBreaker

variable {α : Type} {breaker : CircuitBreaker} {now later : UInt64}

section Steps

theorem checkTimeout_of_not_open (h : breaker.state ≠ .open) (now : UInt64)
    : breaker.checkTimeout now = breaker := by
  exact checkTimeout_of_not (fun hopen => h hopen.1)

theorem allowsRequest_of_closed (h : breaker.state = .closed) : breaker.allowsRequest = true := by
  unfold allowsRequest
  rw [h]

theorem allowsRequest_of_halfOpen (h : breaker.state = .halfOpen)
    : breaker.allowsRequest = true ↔ breaker.successCount < breaker.config.halfOpenMaxCalls := by
  unfold allowsRequest
  rw [h]
  exact decide_eq_true_iff

theorem execute_of_closed (h : breaker.state = .closed) (value : α)
    : breaker.execute now later (.ok value)
        = (.ok value, { breaker with failureCount := 0 }) := by
  have hnot : breaker.state ≠ .open := by
    rw [h]
    exact CircuitState.noConfusion
  have hcheck := checkTimeout_of_not_open hnot now
  rw [execute_ok value (by rw [hcheck]; exact allowsRequest_of_closed h), hcheck,
    recordSuccess_of_closed h]

theorem execute_of_halfOpen (hstate : breaker.state = .halfOpen) (value : α)
    : (breaker.execute now later (.ok value)).2
        = if breaker.successCount < breaker.config.halfOpenMaxCalls then breaker.recordSuccess
          else breaker := by
  have hnot : breaker.state ≠ .open := by
    rw [hstate]
    exact CircuitState.noConfusion
  have hcheck := checkTimeout_of_not_open hnot now
  split
  . next hlt =>
    rw [execute_ok value (by rw [hcheck]; exact (allowsRequest_of_halfOpen hstate).mpr hlt), hcheck]
  . next hlt =>
    obtain ⟨_, heq⟩ := execute_rejected later (.ok value)
      (by rw [hcheck]; exact fun h => hlt ((allowsRequest_of_halfOpen hstate).mp h))
    rw [heq, hcheck]

end Steps

section LockedOut

theorem not_lockedOut_of_allows (now : UInt64)
    (h : (breaker.checkTimeout now).allowsRequest = true)
    : ¬ breaker.LockedOut α := by
  intro hlocked
  obtain ⟨_, heq⟩ := hlocked [] now now (.error "")
  change (breaker.execute now now (.error "")).1 = _ at heq
  rw [execute_error h] at heq
  cases heq

theorem lockedOut_of_rejected
    (h : ∀ now later (result : Except String α),
      ∃ retryAfterMs, breaker.execute now later result = (.rejected retryAfterMs, breaker))
    : breaker.LockedOut α := by
  have hsame : ∀ executions : List (Execution α), breaker.executeAll executions = breaker := by
    intro executions
    induction executions with
    | nil => rfl
    | cons execution rest ih =>
      obtain ⟨_, heq⟩ := h execution.now execution.later execution.result
      rw [executeAll, heq]
      exact ih
  intro executions now later result
  obtain ⟨retryAfterMs, heq⟩ := h now later result
  exact ⟨retryAfterMs, by rw [hsame, heq]⟩

theorem lockedOut_of_not_elapsed (hopen : breaker.state = .open)
    (h : ∀ now, breaker.timeoutElapsed now = false)
    : breaker.LockedOut α := by
  exact lockedOut_of_rejected (fun now _ result => rejected_of_not_elapsed hopen (h now) result)

theorem lockedOut_of_no_room (hstate : breaker.state = .halfOpen)
    (hroom : ¬ breaker.successCount < breaker.config.halfOpenMaxCalls)
    : breaker.LockedOut α := by
  apply lockedOut_of_rejected
  intro now later result
  have hcheck : breaker.checkTimeout now = breaker :=
    checkTimeout_of_not_open (by rw [hstate]; exact CircuitState.noConfusion) _
  have hnot : ¬ (breaker.checkTimeout now).allowsRequest = true := by
    rw [hcheck]
    exact fun h => hroom ((allowsRequest_of_halfOpen hstate).mp h)
  obtain ⟨retryAfterMs, heq⟩ := execute_rejected later result hnot
  rw [hcheck] at heq
  exact ⟨retryAfterMs, heq⟩

theorem exists_elapsed_iff {trippedAt : UInt64} (h : breaker.trippedAtMs = some trippedAt)
    : (∃ now, breaker.timeoutElapsed now = true) ↔ breaker.config.TimeoutEnds trippedAt := by
  unfold timeoutElapsed elapsedMs CircuitBreakerConfig.TimeoutEnds
  simp only [h, Option.map_some, Option.any_some, decide_eq_true_eq]
  constructor
  . rintro ⟨now, hlt⟩
    have hnow := now.toNat_lt
    change _ < 2 ^ 64
    omega
  . intro hlt
    refine ⟨UInt64.ofNat (UInt64.size - 1), ?_⟩
    have hlast : (UInt64.ofNat (UInt64.size - 1)).toNat = 2 ^ 64 - 1 := by decide
    change _ < 2 ^ 64 at hlt
    omega

end LockedOut

section Trial

theorem executeAll_stuck (executions : List (Execution α))
    (hstate : breaker.state = .halfOpen)
    (hcount : breaker.successCount ≤ breaker.config.halfOpenMaxCalls)
    (hroom : ¬ breaker.config.TrialSuffices)
    (hok : ∀ execution ∈ executions, ∃ value, execution.result = .ok value)
    : (breaker.executeAll executions).state = .halfOpen := by
  induction executions generalizing breaker with
  | nil => exact hstate
  | cons execution rest ih =>
    obtain ⟨value, hvalue⟩ := hok execution (List.mem_cons_self ..)
    have hrest := fun e he => hok e (List.mem_cons_of_mem _ he)
    rw [executeAll, hvalue, execute_of_halfOpen hstate]
    split
    . next hlt =>
      have hnext : breaker.successCount + 1 ≤ breaker.config.halfOpenMaxCalls := by
        rw [UInt64.le_iff_toNat_le, toNat_succ_of_lt hlt]
        exact UInt64.lt_iff_toNat_lt.mp hlt
      have hnot : ¬ breaker.config.successThreshold ≤ breaker.successCount + 1 :=
        fun hle => hroom (UInt64.le_trans hle hnext)
      rw [recordSuccess_of_halfOpen_lt hstate hnot]
      exact ih hstate hnext hroom hrest
    . exact ih hstate hcount hroom hrest

theorem executeAll_closed (executions : List (Execution α)) (hstate : breaker.state = .closed)
    (hok : ∀ execution ∈ executions, ∃ value, execution.result = .ok value)
    : (breaker.executeAll executions).state = .closed := by
  induction executions generalizing breaker with
  | nil => exact hstate
  | cons execution rest ih =>
    obtain ⟨value, hvalue⟩ := hok execution (List.mem_cons_self ..)
    rw [executeAll, hvalue, execute_of_closed hstate]
    exact ih hstate (fun e he => hok e (List.mem_cons_of_mem _ he))

theorem executeAll_recovers (executions : List (Execution α))
    (hstate : breaker.state = .halfOpen)
    (hcount : breaker.successCount < breaker.config.successThreshold)
    (hroom : breaker.config.TrialSuffices)
    (hok : ∀ execution ∈ executions, ∃ value, execution.result = .ok value)
    (hlength : breaker.successCount.toNat + executions.length
      = breaker.config.successThreshold.toNat)
    : (breaker.executeAll executions).state = .closed := by
  induction executions generalizing breaker with
  | nil => exact absurd hlength (Nat.ne_of_lt (UInt64.lt_iff_toNat_lt.mp hcount))
  | cons execution rest ih =>
    obtain ⟨value, hvalue⟩ := hok execution (List.mem_cons_self ..)
    have hrest := fun e he => hok e (List.mem_cons_of_mem _ he)
    rw [executeAll, hvalue, execute_of_halfOpen hstate,
      if_pos (UInt64.lt_of_lt_of_le hcount hroom)]
    by_cases hle : breaker.config.successThreshold ≤ breaker.successCount + 1
    . rw [recordSuccess_of_halfOpen hstate hle]
      exact executeAll_closed rest rfl hrest
    . rw [recordSuccess_of_halfOpen_lt hstate hle]
      refine ih hstate (UInt64.not_le.mp hle) hroom hrest ?_
      rw [toNat_succ_of_lt hcount, ← hlength, List.length_cons]
      omega

end Trial

structure HasWayOut (breaker : CircuitBreaker) : Prop where
  halfOpen : breaker.state = .halfOpen → breaker.config.TrialSuffices
  opened : breaker.state = .open
    → ∀ trippedAt, breaker.trippedAtMs = some trippedAt → breaker.config.TimeoutEnds trippedAt

theorem hasWayOut_of_closed (h : breaker.state = .closed) : breaker.HasWayOut := by
  constructor
  . intro hstate
    cases h.symm.trans hstate
  . intro hstate
    cases h.symm.trans hstate

end CircuitBreaker

namespace BreakerHistory

structure TrialInvariant (α : Type) (s : BreakerHistory) : Prop extends s.Invariant where
  maxCalls : 1 ≤ s.breaker.config.halfOpenMaxCalls
  counted : s.breaker.state = .halfOpen
    → s.breaker.successCount ≤ s.breaker.config.halfOpenMaxCalls ∧ Nonempty α

variable {α : Type} {s s' : BreakerHistory} {now later : UInt64}

theorem TrialInvariant.recoverable_iff (h : s.TrialInvariant α)
    : s.breaker.Recoverable α ↔ s.breaker.HasWayOut := by
  constructor
  . rintro ⟨hnot, hrecovers⟩
    constructor
    . intro hstate
      obtain ⟨n, hn⟩ := hrecovers hstate
      obtain ⟨hcount, ⟨value⟩⟩ := h.counted hstate
      apply Decidable.byContradiction
      intro hroom
      have hok : ∀ execution ∈ List.replicate n (Execution.mk 0 0 (.ok value)),
          ∃ value, execution.result = .ok value := by
        intro execution hmem
        exact ⟨value, by rw [List.eq_of_mem_replicate hmem]⟩
      have hstuck := CircuitBreaker.executeAll_stuck _ hstate hcount hroom hok
      cases (hn _ List.length_replicate hok).symm.trans hstuck
    . intro hopen trippedAt htripped
      rw [← CircuitBreaker.exists_elapsed_iff htripped]
      apply Classical.byContradiction
      intro hnone
      apply hnot
      apply CircuitBreaker.lockedOut_of_not_elapsed hopen
      intro now
      exact Bool.eq_false_iff.mpr (fun helapsed => hnone ⟨now, helapsed⟩)
  . rintro ⟨htrial, hopened⟩
    constructor
    . cases hstate : s.breaker.state with
      | closed =>
        apply CircuitBreaker.not_lockedOut_of_allows 0
        rw [CircuitBreaker.checkTimeout_of_not_open (by rw [hstate]; exact CircuitState.noConfusion) _]
        exact CircuitBreaker.allowsRequest_of_closed hstate
      | halfOpen =>
        apply CircuitBreaker.not_lockedOut_of_allows 0
        rw [CircuitBreaker.checkTimeout_of_not_open (by rw [hstate]; exact CircuitState.noConfusion) _]
        rw [CircuitBreaker.allowsRequest_of_halfOpen hstate]
        exact UInt64.lt_of_lt_of_le (h.halfOpen hstate).2.2 (htrial hstate)
      | «open» =>
        obtain ⟨trippedAt, htripped⟩ := Option.isSome_iff_exists.mp (h.opened hstate)
        obtain ⟨now, helapsed⟩ :=
          (CircuitBreaker.exists_elapsed_iff htripped).mpr (hopened hstate trippedAt htripped)
        apply CircuitBreaker.not_lockedOut_of_allows now
        rw [CircuitBreaker.checkTimeout_of_elapsed hstate helapsed]
        exact (CircuitBreaker.allowsRequest_of_halfOpen rfl).mpr
          (UInt64.lt_iff_toNat_lt.mpr (UInt64.le_iff_toNat_le.mp h.maxCalls))
    . intro hstate
      have hlt := (h.halfOpen hstate).2.2
      refine ⟨s.breaker.config.successThreshold.toNat - s.breaker.successCount.toNat, ?_⟩
      intro executions hlength hok
      apply CircuitBreaker.executeAll_recovers executions hstate hlt (htrial hstate) hok
      rw [hlength]
      exact Nat.add_sub_of_le (Nat.le_of_lt (UInt64.lt_iff_toNat_lt.mp hlt))

section Step

theorem check_of_triesAgain (h : s.breaker.TriesAgain now)
    : (s.check now).breaker = { s.breaker with state := .halfOpen, successCount := 0 } := by
  rw [check_of_elapsed h.1 h.2]

theorem TrialInvariant.allows_of_triesAgain (h : s.TrialInvariant α)
    (htries : s.breaker.TriesAgain now)
    : (s.check now).breaker.allowsRequest = true := by
  rw [check_of_triesAgain htries]
  exact (CircuitBreaker.allowsRequest_of_halfOpen rfl).mpr
    (UInt64.lt_iff_toNat_lt.mpr (UInt64.le_iff_toNat_le.mp h.maxCalls))

theorem check_of_not_triesAgain (h : ¬ s.breaker.TriesAgain now) : s.check now = s := by
  exact check_of_not h

theorem counted_succeed (h : s.breaker.allowsRequest = true)
    (hstate' : (s.succeed later).breaker.state = .halfOpen)
    : (s.succeed later).breaker.successCount ≤ s.breaker.config.halfOpenMaxCalls := by
  obtain hstate | hstate := not_open_of_allowsRequest h
  . rw [succeed_of_closed hstate] at hstate'
    cases hstate.symm.trans hstate'
  . have hlt := (CircuitBreaker.allowsRequest_of_halfOpen hstate).mp h
    by_cases hle : s.breaker.config.successThreshold ≤ s.breaker.successCount + 1
    . rw [succeed_of_halfOpen hstate hle] at hstate'
      cases hstate'
    . rw [succeed_of_halfOpen_lt hstate hle, UInt64.le_iff_toNat_le]
      exact (toNat_succ_of_lt hlt).trans_le (UInt64.lt_iff_toNat_lt.mp hlt)

theorem fail_not_halfOpen (h : s.breaker.allowsRequest = true)
    : (s.fail later).breaker.state ≠ .halfOpen := by
  obtain hstate | hstate := not_open_of_allowsRequest h
  . by_cases hle : s.breaker.config.failureThreshold ≤ s.breaker.failureCount + 1
    . rw [fail_of_closed hstate hle]
      exact CircuitState.noConfusion
    . rw [fail_of_closed_lt hstate hle]
      exact fun htrial => nomatch hstate.symm.trans htrial
  . rw [fail_of_halfOpen hstate]
    exact CircuitState.noConfusion

theorem TrialInvariant.step {call : BreakerCall α} (h : s.TrialInvariant α)
    (hstep : breakerStep s call = some s')
    : s'.TrialInvariant α := by
  have hconfig := breakerStep_config hstep
  refine { h.toInvariant.step hstep with
    maxCalls := hconfig ▸ h.maxCalls
    counted := ?_ }
  rw [hconfig]
  intro hstate'
  cases call with
  | execute now later result =>
    obtain ⟨hnot, rfl⟩ | ⟨hallows, ⟨⟨value, rfl⟩, rfl⟩ | ⟨_, rfl⟩⟩ :=
      breakerStep_execute_cases hstep
    . have htries : ¬ s.breaker.TriesAgain now := fun htries => hnot (h.allows_of_triesAgain htries)
      rw [check_of_not_triesAgain htries] at hstate' ⊢
      exact h.counted hstate'
    . rw [← s.check_config now]
      exact ⟨counted_succeed hallows hstate', ⟨value⟩⟩
    . exact absurd hstate' (fail_not_halfOpen hallows)
  | trip now =>
    cases hstep
    by_cases hclosed : s.breaker.state = .closed
    . rw [CircuitBreaker.trip_of_closed hclosed] at hstate'
      cases hstate'
    . rw [CircuitBreaker.trip_of_not_closed hclosed] at hstate' ⊢
      exact h.counted hstate'
  | reset =>
    cases hstep
    cases hstate'

end Step

section WayOut

theorem Invariant.hasWayOut_succeed (h : s.Invariant) (hstate : s.breaker.state = .halfOpen)
    (hallows : s.breaker.allowsRequest = true)
    : (s.succeed later).breaker.HasWayOut ↔ s.breaker.config.TrialSuffices := by
  have hlt := (CircuitBreaker.allowsRequest_of_halfOpen hstate).mp hallows
  by_cases hle : s.breaker.config.successThreshold ≤ s.breaker.successCount + 1
  . rw [succeed_of_halfOpen hstate hle]
    refine iff_of_true (CircuitBreaker.hasWayOut_of_closed rfl) ?_
    apply UInt64.le_iff_toNat_le.mpr
    rw [← succ_eq_of_le (h.halfOpen hstate).2.2 hle]
    exact UInt64.lt_iff_toNat_lt.mp hlt
  . rw [succeed_of_halfOpen_lt hstate hle]
    constructor
    . intro hway
      exact hway.halfOpen hstate
    . intro hroom
      exact ⟨fun _ => hroom, fun hopen => nomatch hstate.symm.trans hopen⟩

theorem hasWayOut_fail (hallows : s.breaker.allowsRequest = true)
    : (s.fail later).breaker.HasWayOut
      ↔ (s.breaker.state = .halfOpen
          ∨ s.breaker.config.failureThreshold ≤ s.breaker.failureCount + 1
        → s.breaker.config.TimeoutEnds later) := by
  obtain hstate | hstate := not_open_of_allowsRequest hallows
  . by_cases hle : s.breaker.config.failureThreshold ≤ s.breaker.failureCount + 1
    . rw [fail_of_closed hstate hle]
      constructor
      . intro hway _
        exact hway.opened rfl later rfl
      . intro hends
        refine ⟨nofun, fun _ trippedAt htripped => ?_⟩
        cases htripped
        exact hends (.inr hle)
    . rw [fail_of_closed_lt hstate hle]
      refine iff_of_true (CircuitBreaker.hasWayOut_of_closed hstate) ?_
      rintro (htrial | hle')
      . cases hstate.symm.trans htrial
      . exact absurd hle' hle
  . rw [fail_of_halfOpen hstate]
    constructor
    . intro hway _
      exact hway.opened rfl later rfl
    . intro hends
      refine ⟨nofun, fun _ trippedAt htripped => ?_⟩
      cases htripped
      exact hends (.inl hstate)

theorem TrialInvariant.allows_of_hasWayOut (h : s.TrialInvariant α) (hway : s.breaker.HasWayOut)
    (hnot : s.breaker.state ≠ .open)
    : (s.check now).breaker.allowsRequest = true := by
  rw [check_of_not_triesAgain (fun htries => hnot htries.1)]
  cases hstate : s.breaker.state with
  | closed => exact CircuitBreaker.allowsRequest_of_closed hstate
  | halfOpen =>
    rw [CircuitBreaker.allowsRequest_of_halfOpen hstate]
    exact UInt64.lt_of_lt_of_le (h.halfOpen hstate).2.2 (hway.halfOpen hstate)
  | «open» => exact absurd hstate hnot

theorem TrialInvariant.hasWayOut_execute {result : Except String α} (h : s.TrialInvariant α)
    (hway : s.breaker.HasWayOut) (hstep : breakerStep s (.execute now later result) = some s')
    : s'.breaker.HasWayOut ↔ LeavesAWayOut s (.execute now later result) := by
  obtain ⟨hnot, rfl⟩ | ⟨hallows, hanswer⟩ := breakerStep_execute_cases hstep
  . -- a rejected call finds the breaker open and leaves it so
    have htries : ¬ s.breaker.TriesAgain now := fun htries => hnot (h.allows_of_triesAgain htries)
    have hopen : s.breaker.state = .open := by
      apply Decidable.byContradiction
      exact fun hne => hnot (h.allows_of_hasWayOut hway hne)
    rw [check_of_not_triesAgain htries]
    refine iff_of_true hway ?_
    cases result with
    | ok value => exact fun htries' => absurd htries' htries
    | error error =>
      rintro (⟨hclosed, _⟩ | htrial | htries')
      . cases hopen.symm.trans hclosed
      . cases hopen.symm.trans htrial
      . exact absurd htries' htries
  . by_cases htries : s.breaker.TriesAgain now
    . have hstate : (s.check now).breaker.state = .halfOpen := by rw [check_of_triesAgain htries]
      obtain ⟨⟨value, rfl⟩, rfl⟩ | ⟨⟨error, rfl⟩, rfl⟩ := hanswer
      . rw [(h.check now).hasWayOut_succeed hstate hallows, s.check_config now]
        exact ⟨fun hroom _ => hroom, fun hroom => hroom htries⟩
      . rw [hasWayOut_fail hallows, s.check_config now]
        constructor
        . exact fun hends _ => hends (.inl hstate)
        . exact fun hends _ => hends (.inr (.inr htries))
    . rw [check_of_not_triesAgain htries] at hanswer hallows
      obtain ⟨⟨value, rfl⟩, rfl⟩ | ⟨⟨error, rfl⟩, rfl⟩ := hanswer
      . refine iff_of_true ?_ (fun htries' => absurd htries' htries)
        obtain hstate | hstate := not_open_of_allowsRequest hallows
        . rw [succeed_of_closed hstate]
          exact CircuitBreaker.hasWayOut_of_closed hstate
        . exact (h.hasWayOut_succeed hstate hallows).mpr (hway.halfOpen hstate)
      . rw [hasWayOut_fail hallows]
        constructor
        . rintro hends (⟨_, hle⟩ | htrial | htries')
          . exact hends (.inr hle)
          . exact hends (.inl htrial)
          . exact absurd htries' htries
        . intro hends hopens
          apply hends
          obtain hstate | hstate := not_open_of_allowsRequest hallows
          . refine .inl ⟨hstate, hopens.resolve_left ?_⟩
            exact fun htrial => nomatch hstate.symm.trans htrial
          . exact .inr (.inl hstate)

theorem TrialInvariant.hasWayOut_iff {call : BreakerCall α} (h : s.TrialInvariant α)
    (hway : s.breaker.HasWayOut) (hstep : breakerStep s call = some s')
    : s'.breaker.HasWayOut ↔ LeavesAWayOut s call := by
  cases call with
  | execute now later result => exact h.hasWayOut_execute hway hstep
  | trip now =>
    cases hstep
    by_cases hclosed : s.breaker.state = .closed
    . rw [CircuitBreaker.trip_of_closed hclosed]
      constructor
      . exact fun hway' _ => hway'.opened rfl now rfl
      . intro hends
        refine ⟨nofun, fun _ trippedAt htripped => ?_⟩
        cases htripped
        exact hends hclosed
    . rw [CircuitBreaker.trip_of_not_closed hclosed]
      exact iff_of_true hway (fun h => absurd h hclosed)
  | reset =>
    cases hstep
    exact iff_of_true (CircuitBreaker.hasWayOut_of_closed rfl) trivial

end WayOut

end BreakerHistory

theorem always_recoverable_iff {α : Type} (config : CircuitBreakerConfig)
    (hfailures : 1 ≤ config.failureThreshold) (hsuccesses : 1 ≤ config.successThreshold)
    (hcalls : 1 ≤ config.halfOpenMaxCalls) (calls : List (BreakerCall α))
    : Runs.Always breakerStep (fun s => s.breaker.Recoverable α) { breaker := { config } } calls
      ↔ Runs.Guarded breakerStep LeavesAWayOut { breaker := { config } } calls := by
  have hnew : BreakerHistory.TrialInvariant α { breaker := { config } } := by
    refine ⟨⟨hfailures, hsuccesses, fun _ => ⟨rfl, ?_⟩, nofun, rfl, nofun⟩, hcalls, nofun⟩
    exact UInt64.lt_iff_toNat_lt.mpr (UInt64.le_iff_toNat_le.mp hfailures)
  refine Runs.always_iff_guarded (BreakerHistory.TrialInvariant α) (fun _ => True) ?_ hnew ?_
    (fun _ _ => trivial)
  . intro s call s' hs _ hway hstep
    have hs' := hs.step hstep
    exact ⟨hs', hs'.recoverable_iff.trans (hs.hasWayOut_iff (hs.recoverable_iff.mp hway) hstep)⟩
  . exact hnew.recoverable_iff.mpr (CircuitBreaker.hasWayOut_of_closed rfl)

theorem always_recoverable_iff_trial
    : Runs.Always breakerStep (fun s => s.breaker.Recoverable Unit) { breaker := { config := {} } }
        trialCalls
      ↔ Runs.Guarded breakerStep LeavesAWayOut { breaker := { config := {} } } trialCalls := by
  exact always_recoverable_iff {} (by decide) (by decide) (by decide) trialCalls

def narrowTrial : CircuitBreakerConfig :=
  { successThreshold := 3, halfOpenMaxCalls := 2 }

theorem not_always_recoverable
    : ¬ Runs.Always breakerStep (fun s => s.breaker.Recoverable Unit)
        { breaker := { config := narrowTrial } }
        (trialCalls ++ [.execute 60002 60002 (.ok ())]) := by
  intro h
  have hrun : (Runs.run breakerStep { breaker := { config := narrowTrial } }
      (trialCalls ++ [.execute 60002 60002 (.ok ())])).map (fun s =>
        (s.breaker.state, decide (s.breaker.successCount < s.breaker.config.halfOpenMaxCalls)))
      = some (.halfOpen, false) := by
    decide +kernel
  obtain ⟨s, hs, hfacts⟩ := Option.map_eq_some_iff.mp hrun
  obtain ⟨hstate, hroom⟩ := Prod.mk.inj hfacts
  exact (h.run_eq_some hs).notLockedOut
    (CircuitBreaker.lockedOut_of_no_room hstate (of_decide_eq_false hroom))

namespace CircuitBreaker

/-- A call at this time is not rejected, whatever its function returns. -/
def Admits (α : Type) (breaker : CircuitBreaker) (now : UInt64) : Prop :=
  ∀ later (result : Except String α) retryAfterMs,
    (breaker.execute now later result).1 ≠ .rejected retryAfterMs

def HonorsRetryAfter (α : Type) (breaker : CircuitBreaker) : Prop :=
  ∀ now later (result : Except String α) retryAfterMs,
    (breaker.execute now later result).1 = .rejected (some retryAfterMs)
      → ∀ next : UInt64, later.toNat + retryAfterMs.toNat ≤ next.toNat
        → (breaker.execute now later result).2.Admits α next

section RetryAfter

variable {α : Type} {breaker : CircuitBreaker} {now : UInt64}

theorem admits_iff
    : breaker.Admits α now ↔ (breaker.checkTimeout now).allowsRequest = true := by
  constructor
  . intro h
    by_contra hnot
    obtain ⟨retryAfterMs, heq⟩ := execute_rejected now (.error "" : Except String α) hnot
    exact h now (.error "") retryAfterMs (congrArg Prod.fst heq)
  . intro hallows later result retryAfterMs hrejected
    cases result with
    | ok value =>
      rw [execute_ok value hallows] at hrejected
      cases hrejected
    | error error =>
      rw [execute_error hallows] at hrejected
      cases hrejected

theorem timeoutElapsed_iff
    : breaker.timeoutElapsed now = true
        ↔ ∃ trippedAt, breaker.trippedAtMs = some trippedAt
          ∧ trippedAt.toNat + breaker.config.timeoutMs.toNat < now.toNat := by
  unfold timeoutElapsed elapsedMs
  cases breaker.trippedAtMs with
  | none => simp
  | some trippedAt =>
    simp only [Option.map_some, Option.any_some, decide_eq_true_eq, Option.some.injEq,
      exists_eq_left']
    omega

theorem execute_of_rejected {later : UInt64} {result : Except String α} {retryAfterMs : Option UInt64}
    (h : (breaker.execute now later result).1 = .rejected retryAfterMs)
    : (breaker.execute now later result).2 = breaker.checkTimeout now
      ∧ (breaker.checkTimeout now).allowsRequest = false := by
  have hnot : ¬ (breaker.checkTimeout now).allowsRequest = true :=
    fun hallows => admits_iff.mpr hallows later result retryAfterMs h
  obtain ⟨_, heq⟩ := execute_rejected later result hnot
  exact ⟨congrArg Prod.snd heq, Bool.eq_false_iff.mpr hnot⟩

end RetryAfter

end CircuitBreaker

/--
A call after a rejected one is admitted exactly if the circuit is open, its timeout has passed by more than
the last millisecond, and there is room for a trial.
-/
theorem CircuitBreaker.admitted_again_iff {α : Type} {breaker : CircuitBreaker} {now later : UInt64}
    {result : Except String α} {retryAfterMs : Option UInt64}
    (hrejected : (breaker.execute now later result).1 = .rejected retryAfterMs) (next : UInt64)
    : (breaker.execute now later result).2.Admits α next
        ↔ breaker.state = .open ∧ 0 < breaker.config.halfOpenMaxCalls
          ∧ ∃ trippedAt, breaker.trippedAtMs = some trippedAt
            ∧ trippedAt.toNat + breaker.config.timeoutMs.toNat < next.toNat := by
  obtain ⟨hafter, hnot⟩ := execute_of_rejected hrejected
  rw [hafter, admits_iff, ← timeoutElapsed_iff]
  by_cases helapsed : breaker.state = .open ∧ breaker.timeoutElapsed now = true
  . -- the trial has begun, without room for a call
    rw [checkTimeout_of_elapsed helapsed.1 helapsed.2] at hnot ⊢
    rw [checkTimeout_of_not_open CircuitState.noConfusion]
    have hroom : ¬ 0 < breaker.config.halfOpenMaxCalls := by
      intro hpos
      exact absurd (decide_eq_true hpos) (Bool.eq_false_iff.mp hnot)
    exact iff_of_false (Bool.eq_false_iff.mp hnot) (fun h => hroom h.2.1)
  . rw [checkTimeout_of_not helapsed] at hnot ⊢
    by_cases hopen : breaker.state = .open
    . by_cases hnext : breaker.timeoutElapsed next = true
      . rw [checkTimeout_of_elapsed hopen hnext]
        simp only [hopen, hnext, and_true, true_and]
        exact decide_eq_true_iff
      . rw [checkTimeout_of_not (fun h => hnext h.2)]
        exact iff_of_false (Bool.eq_false_iff.mp hnot) (fun h => hnext h.2.2)
    . rw [checkTimeout_of_not_open hopen]
      exact iff_of_false (Bool.eq_false_iff.mp hnot) (fun h => hopen h.1)

def shortTimeout : CircuitBreaker :=
  CircuitBreaker.executeAll { config := { failureThreshold := 1, timeoutMs := 10 } }
    [({ now := 0, later := 0, result := .error "refused" } : Execution Unit)]

theorem CircuitBreaker.admitted_again_iff_shortTimeout
    : (shortTimeout.execute 4 4 (.ok ())).2.Admits Unit 11
        ↔ shortTimeout.state = .open ∧ 0 < shortTimeout.config.halfOpenMaxCalls
          ∧ ∃ trippedAt, shortTimeout.trippedAtMs = some trippedAt
            ∧ trippedAt.toNat + shortTimeout.config.timeoutMs.toNat < UInt64.toNat 11 := by
  have hrejected : (shortTimeout.execute 4 4 (.ok ())).1 = .rejected (some 6) := by decide
  exact admitted_again_iff hrejected 11

/-- Who is told to wait for six milliseconds at the time 4 is rejected at the time 10. -/
theorem CircuitBreaker.shortTimeout_not_honorsRetryAfter
    : ¬ shortTimeout.HonorsRetryAfter Unit := by
  intro h
  have hrejected : (shortTimeout.execute 4 4 (.ok ())).1 = .rejected (some 6) := by decide
  have hagain : ((shortTimeout.execute 4 4 (.ok ())).2.execute 10 10 (.ok ())).1
      = .rejected (some 0) := by decide
  exact h 4 4 (.ok ()) 6 hrejected 10 (by decide) 10 (.ok ()) _ hagain

end AnimaAgent
