import Mathlib.Data.List.Basic
import Mathlib.Data.UInt

namespace AnimaAgent

inductive CircuitState where
  | closed
  | open
  | halfOpen
  deriving DecidableEq

structure CircuitBreakerConfig where
  failureThreshold : UInt64 := 5
  successThreshold : UInt64 := 3
  timeoutMs : UInt64 := 60000
  halfOpenMaxCalls : UInt64 := 5
  deriving DecidableEq

inductive CircuitBreakerResult (α : Type) where
  | ok (value : α)
  | rejected (retryAfterMs : Option UInt64)
  | failed (error : String)
  deriving DecidableEq

structure CircuitBreaker where
  config : CircuitBreakerConfig
  state : CircuitState := .closed
  failureCount : UInt64 := 0
  successCount : UInt64 := 0
  trippedAtMs : Option UInt64 := none
  deriving DecidableEq

def CircuitState.validTransition : CircuitState → CircuitState → Bool
  | .closed, .open => true
  | .open, .halfOpen => true
  | .halfOpen, .closed => true
  | .halfOpen, .open => true
  | _, _ => false

namespace CircuitBreaker

variable (breaker : CircuitBreaker)

def allowsRequest : Bool :=
  match breaker.state with
  | .closed => true
  | .halfOpen => breaker.successCount < breaker.config.halfOpenMaxCalls
  | .open => false

def transitionTo (newState : CircuitState) : Bool × CircuitBreaker :=
  if breaker.state.validTransition newState then (true, { breaker with state := newState })
  else (false, breaker)

def elapsedMs (now : UInt64) : Option Nat :=
  breaker.trippedAtMs.map (fun trippedAt => now.toNat - trippedAt.toNat)

def timeoutElapsed (now : UInt64) : Bool :=
  (breaker.elapsedMs now).any (fun elapsed => breaker.config.timeoutMs.toNat < elapsed)

def checkTimeout (now : UInt64) : CircuitBreaker :=
  if breaker.state = .open ∧ breaker.timeoutElapsed now = true then
    let (moved, breaker) := breaker.transitionTo .halfOpen
    if moved then { breaker with successCount := 0 } else breaker
  else breaker

def recordFailure (now : UInt64) : CircuitBreaker :=
  let state := breaker.state
  let breaker := { breaker with failureCount := breaker.failureCount + 1 }
  match state with
  | .closed =>
    if breaker.config.failureThreshold ≤ breaker.failureCount then
      let (moved, breaker) := breaker.transitionTo .open
      if moved then { breaker with trippedAtMs := some now } else breaker
    else breaker
  | .halfOpen =>
    { (breaker.transitionTo .open).2 with successCount := 0, trippedAtMs := some now }
  | .open => breaker

def recordSuccess : CircuitBreaker :=
  match breaker.state with
  | .closed => { breaker with failureCount := 0 }
  | .halfOpen =>
    let breaker := { breaker with successCount := breaker.successCount + 1 }
    if breaker.config.successThreshold ≤ breaker.successCount then
      let (moved, breaker) := breaker.transitionTo .closed
      if moved then { breaker with failureCount := 0, successCount := 0 } else breaker
    else breaker
  | .open => breaker

def execute {α : Type} (now later : UInt64) (result : Except String α)
    : CircuitBreakerResult α × CircuitBreaker :=
  let breaker := breaker.checkTimeout now
  if breaker.allowsRequest then
    match result with
    | .ok value => (.ok value, breaker.recordSuccess)
    | .error error => (.failed error, breaker.recordFailure later)
  else
    let retryAfter := (breaker.elapsedMs later).map (fun elapsed =>
      UInt64.ofNat (breaker.config.timeoutMs.toNat - elapsed))
    (.rejected retryAfter, breaker)

def trip (now : UInt64) : CircuitBreaker :=
  if breaker.state = .closed then
    { (breaker.transitionTo .open).2 with trippedAtMs := some now }
  else breaker

def reset : CircuitBreaker :=
  { breaker with state := .closed, failureCount := 0, successCount := 0 }

section Lemmas

variable {breaker} {now : UInt64}

theorem transitionTo_of_valid {newState : CircuitState}
    (h : breaker.state.validTransition newState = true)
    : breaker.transitionTo newState = (true, { breaker with state := newState }) := by
  unfold transitionTo
  rw [if_pos h]

theorem checkTimeout_of_not (h : ¬ (breaker.state = .open ∧ breaker.timeoutElapsed now = true))
    : breaker.checkTimeout now = breaker := by
  unfold checkTimeout
  rw [if_neg h]

theorem checkTimeout_of_elapsed (hstate : breaker.state = .open)
    (helapsed : breaker.timeoutElapsed now = true)
    : breaker.checkTimeout now = { breaker with state := .halfOpen, successCount := 0 } := by
  unfold checkTimeout
  rw [if_pos ⟨hstate, helapsed⟩, transitionTo_of_valid (by rw [hstate]; rfl)]
  rfl

@[simp]
theorem checkTimeout_config (breaker : CircuitBreaker) (now : UInt64)
    : (breaker.checkTimeout now).config = breaker.config := by
  by_cases h : breaker.state = .open ∧ breaker.timeoutElapsed now = true
  . rw [checkTimeout_of_elapsed h.1 h.2]
  . rw [checkTimeout_of_not h]

theorem recordFailure_of_closed_lt (hstate : breaker.state = .closed)
    (hlt : ¬ breaker.config.failureThreshold ≤ breaker.failureCount + 1)
    : breaker.recordFailure now = { breaker with failureCount := breaker.failureCount + 1 } := by
  unfold recordFailure
  rw [hstate]
  dsimp only
  rw [if_neg hlt]

theorem recordFailure_of_closed (hstate : breaker.state = .closed)
    (hle : breaker.config.failureThreshold ≤ breaker.failureCount + 1)
    : breaker.recordFailure now = { breaker with
        state := .open
        failureCount := breaker.failureCount + 1
        trippedAtMs := some now } := by
  unfold recordFailure
  rw [hstate]
  dsimp only
  rw [if_pos hle, transitionTo_of_valid rfl]
  rfl

theorem recordFailure_of_halfOpen (hstate : breaker.state = .halfOpen)
    : breaker.recordFailure now = { breaker with
        state := .open
        failureCount := breaker.failureCount + 1
        successCount := 0
        trippedAtMs := some now } := by
  unfold recordFailure
  rw [hstate]
  dsimp only
  rw [transitionTo_of_valid rfl]

theorem recordSuccess_of_closed (hstate : breaker.state = .closed)
    : breaker.recordSuccess = { breaker with failureCount := 0 } := by
  unfold recordSuccess
  rw [hstate]

theorem recordSuccess_of_halfOpen_lt (hstate : breaker.state = .halfOpen)
    (hlt : ¬ breaker.config.successThreshold ≤ breaker.successCount + 1)
    : breaker.recordSuccess = { breaker with successCount := breaker.successCount + 1 } := by
  unfold recordSuccess
  rw [hstate]
  dsimp only
  rw [if_neg hlt]

theorem recordSuccess_of_halfOpen (hstate : breaker.state = .halfOpen)
    (hle : breaker.config.successThreshold ≤ breaker.successCount + 1)
    : breaker.recordSuccess = { breaker with
        state := .closed
        failureCount := 0
        successCount := 0 } := by
  unfold recordSuccess
  rw [hstate]
  dsimp only
  rw [if_pos hle, transitionTo_of_valid rfl]
  rfl

@[simp]
theorem recordFailure_config (breaker : CircuitBreaker) (now : UInt64)
    : (breaker.recordFailure now).config = breaker.config := by
  cases hstate : breaker.state with
  | closed =>
    by_cases hle : breaker.config.failureThreshold ≤ breaker.failureCount + 1
    . rw [recordFailure_of_closed hstate hle]
    . rw [recordFailure_of_closed_lt hstate hle]
  | halfOpen => rw [recordFailure_of_halfOpen hstate]
  | «open» =>
    unfold recordFailure
    rw [hstate]

@[simp]
theorem recordSuccess_config (breaker : CircuitBreaker)
    : breaker.recordSuccess.config = breaker.config := by
  cases hstate : breaker.state with
  | closed => rw [recordSuccess_of_closed hstate]
  | halfOpen =>
    by_cases hle : breaker.config.successThreshold ≤ breaker.successCount + 1
    . rw [recordSuccess_of_halfOpen hstate hle]
    . rw [recordSuccess_of_halfOpen_lt hstate hle]
  | «open» =>
    unfold recordSuccess
    rw [hstate]

section Execute

variable {α : Type} {later : UInt64}

theorem execute_ok (value : α) (h : (breaker.checkTimeout now).allowsRequest = true)
    : breaker.execute now later (.ok value)
        = (.ok value, (breaker.checkTimeout now).recordSuccess) := by
  unfold execute
  dsimp only
  rw [if_pos h]

theorem execute_error {error : String}
    (h : (breaker.checkTimeout now).allowsRequest = true)
    : breaker.execute (α := α) now later (.error error)
        = (.failed error, (breaker.checkTimeout now).recordFailure later) := by
  unfold execute
  dsimp only
  rw [if_pos h]

theorem execute_rejected (later : UInt64) (result : Except String α)
    (h : ¬ (breaker.checkTimeout now).allowsRequest = true)
    : ∃ retryAfterMs, breaker.execute now later result
        = (.rejected retryAfterMs, breaker.checkTimeout now) := by
  unfold execute
  dsimp only
  rw [if_neg h]
  exact ⟨_, rfl⟩

theorem rejected_of_not_elapsed (hopen : breaker.state = .open)
    (h : breaker.timeoutElapsed now = false) (result : Except String α)
    : ∃ retryAfterMs, breaker.execute now later result = (.rejected retryAfterMs, breaker) := by
  have hcheck : breaker.checkTimeout now = breaker :=
    checkTimeout_of_not (fun helapsed => Bool.noConfusion (h.symm.trans helapsed.2))
  have hnot : ¬ (breaker.checkTimeout now).allowsRequest = true := by
    rw [hcheck]
    unfold allowsRequest
    rw [hopen]
    exact Bool.noConfusion
  obtain ⟨retryAfterMs, heq⟩ := execute_rejected later result hnot
  rw [hcheck] at heq
  exact ⟨retryAfterMs, heq⟩

end Execute

theorem trip_of_closed (hstate : breaker.state = .closed)
    : breaker.trip now = { breaker with state := .open, trippedAtMs := some now } := by
  unfold trip
  rw [if_pos hstate, transitionTo_of_valid (by rw [hstate]; rfl)]

theorem trip_of_not_closed (hstate : breaker.state ≠ .closed)
    : breaker.trip now = breaker := by
  unfold trip
  rw [if_neg hstate]

@[simp]
theorem trip_config (breaker : CircuitBreaker) (now : UInt64)
    : (breaker.trip now).config = breaker.config := by
  by_cases hstate : breaker.state = .closed
  . rw [trip_of_closed hstate]
  . rw [trip_of_not_closed hstate]

end Lemmas

end CircuitBreaker

end AnimaAgent
