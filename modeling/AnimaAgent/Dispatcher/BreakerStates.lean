import AnimaAgent.Dispatcher.CircuitBreaker
import AnimaAgent.Library.Logs
import AnimaAgent.Library.Runs

namespace AnimaAgent

/-- What has happened to a breaker. A call succeeds or fails in the state that it was admitted in. -/
inductive BreakerEvent where
  | succeeded (state : CircuitState)
  | failed (state : CircuitState)
  | entered (state : CircuitState) (now : UInt64)
  | reset
  deriving DecidableEq

namespace BreakerEvent

def outcome {α : Type} (state : CircuitState) : CircuitBreakerResult α → List BreakerEvent
  | .ok _ => [.succeeded state]
  | .failed _ => [.failed state]
  | .rejected _ => []

def move (state state' : CircuitState) (now : UInt64) : List BreakerEvent :=
  if state = state' then [] else [.entered state' now]

def clearsFailures : BreakerEvent → Bool
  | .succeeded .closed => true
  | .entered .closed _ => true
  | .reset => true
  | _ => false

def startsTrial : BreakerEvent → Bool
  | .entered .halfOpen _ => true
  | _ => false

def openedAt : BreakerEvent → Option UInt64
  | .entered .open now => some now
  | _ => none

end BreakerEvent

structure BreakerHistory where
  breaker : CircuitBreaker
  log : List BreakerEvent := []

inductive BreakerCall (α : Type) where
  | execute (now later : UInt64) (result : Except String α)
  | trip (now : UInt64)
  | reset

namespace BreakerHistory

variable (s : BreakerHistory)

def check (now : UInt64) : BreakerHistory :=
  let breaker := s.breaker.checkTimeout now
  { breaker, log := BreakerEvent.move s.breaker.state breaker.state now ++ s.log }

def failures : Nat :=
  Logs.countSince BreakerEvent.clearsFailures (· = .failed .closed) s.log

def trialSuccesses : Nat :=
  Logs.countSince BreakerEvent.startsTrial (· = .succeeded .halfOpen) s.log

def trialFailures : Nat :=
  Logs.countSince BreakerEvent.startsTrial (· = .failed .halfOpen) s.log

def lastTrip : Option UInt64 :=
  s.log.findSome? BreakerEvent.openedAt

end BreakerHistory

def breakerStep {α : Type} (s : BreakerHistory) : BreakerCall α → Option BreakerHistory
  | .execute now later result =>
    let checked := s.check now
    let (answer, breaker) := s.breaker.execute now later result
    some {
      breaker
      log := BreakerEvent.move checked.breaker.state breaker.state later
        ++ BreakerEvent.outcome checked.breaker.state answer ++ checked.log }
  | .trip now =>
    let breaker := s.breaker.trip now
    some { breaker, log := BreakerEvent.move s.breaker.state breaker.state now ++ s.log }
  | .reset => some { breaker := s.breaker.reset, log := .reset :: s.log }

structure MovesBreaker {α : Type} (s : BreakerHistory) (call : BreakerCall α) (s' : BreakerHistory) :
    Prop where
  opens : s.breaker.state = .closed → s'.breaker.state = .open
    → (∃ now, call = .trip now)
      ∨ (∃ now later error, call = .execute now later (.error error))
        ∧ s'.failures = s.breaker.config.failureThreshold.toNat
  closes : s.breaker.state ≠ .closed → s'.breaker.state = .closed
    → call = .reset
      ∨ (∃ now later value, call = .execute now later (.ok value))
        ∧ s'.trialSuccesses = s.breaker.config.successThreshold.toNat ∧ s'.trialFailures = 0
  rejects : s.breaker.state = .open
    → ∃ trippedAt, s.lastTrip = some trippedAt
      ∧ ∀ now later result, call = .execute now later result
        → now.toNat - trippedAt.toNat ≤ s.breaker.config.timeoutMs.toNat
        → ∃ retryAfterMs, s.breaker.execute now later result = (.rejected retryAfterMs, s.breaker)

structure SoundBreaker (α : Type) (s : BreakerHistory) : Prop where
  closed : s.breaker.state = .closed → s.breaker.failureCount < s.breaker.config.failureThreshold
  halfOpen : s.breaker.state = .halfOpen → s.breaker.successCount < s.breaker.config.successThreshold
  opened : s.breaker.state = .open → s.breaker.trippedAtMs.isSome
  moves : ∀ (call : BreakerCall α) s', breakerStep s call = some s' → MovesBreaker s call s'

section UInt64

theorem toNat_succ_of_lt {count bound : UInt64} (h : count < bound)
    : (count + 1).toNat = count.toNat + 1 := by
  have hlt := UInt64.lt_iff_toNat_lt.mp h
  have hbound := bound.toNat_lt
  rw [UInt64.toNat_add, UInt64.toNat_one, Nat.mod_eq_of_lt (by omega)]

theorem succ_eq_of_le {count bound : UInt64} (h : count < bound) (hle : bound ≤ count + 1)
    : count.toNat + 1 = bound.toNat := by
  have hlt := UInt64.lt_iff_toNat_lt.mp h
  have hle := UInt64.le_iff_toNat_le.mp hle
  rw [toNat_succ_of_lt h] at hle
  omega

end UInt64

namespace BreakerHistory

variable (s : BreakerHistory) (now : UInt64)

def succeed : BreakerHistory :=
  let breaker := s.breaker.recordSuccess
  { breaker
    log := BreakerEvent.move s.breaker.state breaker.state now
      ++ .succeeded s.breaker.state :: s.log }

def fail : BreakerHistory :=
  let breaker := s.breaker.recordFailure now
  { breaker
    log := BreakerEvent.move s.breaker.state breaker.state now ++ .failed s.breaker.state :: s.log }

end BreakerHistory

theorem BreakerEvent.move_self (state : CircuitState) (now : UInt64)
    : BreakerEvent.move state state now = [] := by
  unfold move
  rw [if_pos rfl]

section Execute

variable {α : Type} {s s' : BreakerHistory} {now later : UInt64} {result : Except String α}

theorem breakerStep_execute_cases (h : breakerStep s (.execute now later result) = some s')
    : (¬ (s.check now).breaker.allowsRequest = true ∧ s' = s.check now)
      ∨ (s.check now).breaker.allowsRequest = true
        ∧ ((∃ value, result = .ok value) ∧ s' = (s.check now).succeed later
          ∨ (∃ error, result = .error error) ∧ s' = (s.check now).fail later) := by
  simp only [breakerStep] at h
  by_cases hallows : (s.breaker.checkTimeout now).allowsRequest = true
  . refine .inr ⟨hallows, ?_⟩
    cases result with
    | ok value =>
      rw [CircuitBreaker.execute_ok value hallows] at h
      cases h
      refine .inl ⟨⟨value, rfl⟩, ?_⟩
      unfold BreakerHistory.succeed
      simp only [BreakerEvent.outcome, List.append_assoc, List.singleton_append]
      rfl
    | error error =>
      rw [CircuitBreaker.execute_error hallows] at h
      cases h
      refine .inr ⟨⟨error, rfl⟩, ?_⟩
      unfold BreakerHistory.fail
      simp only [BreakerEvent.outcome, List.append_assoc, List.singleton_append]
      rfl
  . obtain ⟨retryAfterMs, heq⟩ := CircuitBreaker.execute_rejected later result hallows
    rw [heq] at h
    cases h
    refine .inl ⟨hallows, ?_⟩
    unfold BreakerHistory.check
    simp only [BreakerEvent.outcome, BreakerEvent.move_self, List.nil_append]

end Execute

namespace BreakerHistory

structure Invariant (s : BreakerHistory) : Prop where
  failureThreshold : 1 ≤ s.breaker.config.failureThreshold
  successThreshold : 1 ≤ s.breaker.config.successThreshold
  closed : s.breaker.state = .closed → s.breaker.failureCount.toNat = s.failures
    ∧ s.breaker.failureCount < s.breaker.config.failureThreshold
  halfOpen : s.breaker.state = .halfOpen → s.breaker.successCount.toNat = s.trialSuccesses
    ∧ s.trialFailures = 0 ∧ s.breaker.successCount < s.breaker.config.successThreshold
  tripped : s.breaker.trippedAtMs = s.lastTrip
  opened : s.breaker.state = .open → s.breaker.trippedAtMs.isSome

variable {s : BreakerHistory} {now : UInt64}

section Equations

theorem check_of_not (h : ¬ (s.breaker.state = .open ∧ s.breaker.timeoutElapsed now = true))
    : s.check now = s := by
  unfold check
  simp only [CircuitBreaker.checkTimeout_of_not h, BreakerEvent.move_self, List.nil_append]

theorem check_of_elapsed (hstate : s.breaker.state = .open)
    (helapsed : s.breaker.timeoutElapsed now = true)
    : s.check now = {
        breaker := { s.breaker with state := .halfOpen, successCount := 0 }
        log := .entered .halfOpen now :: s.log } := by
  unfold check
  simp only [CircuitBreaker.checkTimeout_of_elapsed hstate helapsed, hstate]
  rfl

theorem succeed_of_closed (hstate : s.breaker.state = .closed)
    : s.succeed now = {
        breaker := { s.breaker with failureCount := 0 }
        log := .succeeded .closed :: s.log } := by
  unfold succeed
  simp only [CircuitBreaker.recordSuccess_of_closed hstate, BreakerEvent.move_self, hstate,
    List.nil_append]

theorem succeed_of_halfOpen_lt (hstate : s.breaker.state = .halfOpen)
    (hlt : ¬ s.breaker.config.successThreshold ≤ s.breaker.successCount + 1)
    : s.succeed now = {
        breaker := { s.breaker with successCount := s.breaker.successCount + 1 }
        log := .succeeded .halfOpen :: s.log } := by
  unfold succeed
  simp only [CircuitBreaker.recordSuccess_of_halfOpen_lt hstate hlt, BreakerEvent.move_self, hstate,
    List.nil_append]

theorem succeed_of_halfOpen (hstate : s.breaker.state = .halfOpen)
    (hle : s.breaker.config.successThreshold ≤ s.breaker.successCount + 1)
    : s.succeed now = {
        breaker := { s.breaker with state := .closed, failureCount := 0, successCount := 0 }
        log := .entered .closed now :: .succeeded .halfOpen :: s.log } := by
  unfold succeed
  simp only [CircuitBreaker.recordSuccess_of_halfOpen hstate hle, hstate]
  rfl

theorem fail_of_closed_lt (hstate : s.breaker.state = .closed)
    (hlt : ¬ s.breaker.config.failureThreshold ≤ s.breaker.failureCount + 1)
    : s.fail now = {
        breaker := { s.breaker with failureCount := s.breaker.failureCount + 1 }
        log := .failed .closed :: s.log } := by
  unfold fail
  simp only [CircuitBreaker.recordFailure_of_closed_lt hstate hlt, BreakerEvent.move_self, hstate,
    List.nil_append]

theorem fail_of_closed (hstate : s.breaker.state = .closed)
    (hle : s.breaker.config.failureThreshold ≤ s.breaker.failureCount + 1)
    : s.fail now = {
        breaker := { s.breaker with
          state := .open
          failureCount := s.breaker.failureCount + 1
          trippedAtMs := some now }
        log := .entered .open now :: .failed .closed :: s.log } := by
  unfold fail
  simp only [CircuitBreaker.recordFailure_of_closed hstate hle, hstate]
  rfl

theorem fail_of_halfOpen (hstate : s.breaker.state = .halfOpen)
    : s.fail now = {
        breaker := { s.breaker with
          state := .open
          failureCount := s.breaker.failureCount + 1
          successCount := 0
          trippedAtMs := some now }
        log := .entered .open now :: .failed .halfOpen :: s.log } := by
  unfold fail
  simp only [CircuitBreaker.recordFailure_of_halfOpen hstate, hstate]
  rfl

end Equations

section Invariant

variable (h : s.Invariant)
include h

theorem Invariant.check (now : UInt64) : (s.check now).Invariant := by
  by_cases helapsed : s.breaker.state = .open ∧ s.breaker.timeoutElapsed now = true
  . rw [check_of_elapsed helapsed.1 helapsed.2]
    refine ⟨h.failureThreshold, h.successThreshold, nofun, fun _ => ⟨?_, ?_, ?_⟩, h.tripped, nofun⟩
    . exact (Logs.countSince_cons_of_stops _ rfl).symm
    . exact Logs.countSince_cons_of_stops _ rfl
    . exact UInt64.lt_iff_toNat_lt.mpr (UInt64.le_iff_toNat_le.mp h.successThreshold)
  . rw [check_of_not helapsed]
    exact h

theorem Invariant.succeed_closed (hstate : s.breaker.state = .closed)
    : (s.succeed now).Invariant := by
  rw [succeed_of_closed hstate]
  refine ⟨h.failureThreshold, h.successThreshold, fun _ => ⟨?_, ?_⟩, ?_, h.tripped, ?_⟩
  . exact (Logs.countSince_cons_of_stops _ rfl).symm
  . exact UInt64.lt_iff_toNat_lt.mpr (UInt64.le_iff_toNat_le.mp h.failureThreshold)
  . intro hopen
    cases hstate.symm.trans hopen
  . intro hopen
    cases hstate.symm.trans hopen

theorem Invariant.succeed_halfOpen (hstate : s.breaker.state = .halfOpen)
    : (s.succeed now).Invariant
      ∧ ((s.succeed now).breaker.state = .closed
        → (s.succeed now).trialSuccesses = s.breaker.config.successThreshold.toNat
          ∧ (s.succeed now).trialFailures = 0) := by
  obtain ⟨hcount, hfailures, hlt⟩ := h.halfOpen hstate
  have hfailures' : Logs.countSince BreakerEvent.startsTrial (· = .failed .halfOpen)
      (.succeeded .halfOpen :: s.log) = 0 :=
    (Logs.countSince_cons_of_not_counts _ rfl rfl).trans hfailures
  have hcount' : Logs.countSince BreakerEvent.startsTrial (· = .succeeded .halfOpen)
      (.succeeded .halfOpen :: s.log) = s.breaker.successCount.toNat + 1 := by
    rw [Logs.countSince_cons_of_counts _ rfl rfl, hcount]
    rfl
  by_cases hle : s.breaker.config.successThreshold ≤ s.breaker.successCount + 1
  . rw [succeed_of_halfOpen hstate hle]
    constructor
    . refine ⟨h.failureThreshold, h.successThreshold, fun _ => ⟨?_, ?_⟩, nofun, h.tripped, nofun⟩
      . exact (Logs.countSince_cons_of_stops _ rfl).symm
      . exact UInt64.lt_iff_toNat_lt.mpr (UInt64.le_iff_toNat_le.mp h.failureThreshold)
    . intro _
      constructor
      . refine (Logs.countSince_cons_of_not_counts _ rfl rfl).trans ?_
        rw [hcount', succ_eq_of_le hlt hle]
      . exact (Logs.countSince_cons_of_not_counts _ rfl rfl).trans hfailures'
  . rw [succeed_of_halfOpen_lt hstate hle]
    constructor
    . refine ⟨h.failureThreshold, h.successThreshold, ?_, fun _ => ⟨?_, hfailures', ?_⟩, h.tripped, ?_⟩
      . intro hclosed
        cases hstate.symm.trans hclosed
      . exact (toNat_succ_of_lt hlt).trans hcount'.symm
      . exact UInt64.not_le.mp hle
      . intro hopen
        cases hstate.symm.trans hopen
    . intro hclosed
      cases hstate.symm.trans hclosed

theorem Invariant.fail_closed (hstate : s.breaker.state = .closed)
    : (s.fail now).Invariant
      ∧ ((s.fail now).breaker.state = .open
        → (s.fail now).failures = s.breaker.config.failureThreshold.toNat) := by
  obtain ⟨hcount, hlt⟩ := h.closed hstate
  have hcount' : Logs.countSince BreakerEvent.clearsFailures (· = .failed .closed)
      (.failed .closed :: s.log) = s.breaker.failureCount.toNat + 1 := by
    rw [Logs.countSince_cons_of_counts _ rfl rfl, hcount]
    rfl
  by_cases hle : s.breaker.config.failureThreshold ≤ s.breaker.failureCount + 1
  . rw [fail_of_closed hstate hle]
    constructor
    . exact ⟨h.failureThreshold, h.successThreshold, nofun, nofun, rfl, fun _ => rfl⟩
    . intro _
      refine (Logs.countSince_cons_of_not_counts _ rfl rfl).trans ?_
      rw [hcount', succ_eq_of_le hlt hle]
  . rw [fail_of_closed_lt hstate hle]
    constructor
    . refine ⟨h.failureThreshold, h.successThreshold, fun _ => ⟨?_, ?_⟩, ?_, h.tripped, ?_⟩
      . exact (toNat_succ_of_lt hlt).trans hcount'.symm
      . exact UInt64.not_le.mp hle
      . intro hopen
        cases hstate.symm.trans hopen
      . intro hopen
        cases hstate.symm.trans hopen
    . intro hopen
      cases hstate.symm.trans hopen

theorem Invariant.fail_halfOpen (hstate : s.breaker.state = .halfOpen)
    : (s.fail now).Invariant := by
  rw [fail_of_halfOpen hstate]
  exact ⟨h.failureThreshold, h.successThreshold, nofun, nofun, rfl, fun _ => rfl⟩

theorem Invariant.reset : Invariant { breaker := s.breaker.reset, log := .reset :: s.log } := by
  refine ⟨h.failureThreshold, h.successThreshold, fun _ => ⟨?_, ?_⟩, nofun, h.tripped, nofun⟩
  . exact (Logs.countSince_cons_of_stops _ rfl).symm
  . exact UInt64.lt_iff_toNat_lt.mpr (UInt64.le_iff_toNat_le.mp h.failureThreshold)

theorem Invariant.trip (now : UInt64)
    : Invariant {
        breaker := s.breaker.trip now
        log := BreakerEvent.move s.breaker.state (s.breaker.trip now).state now ++ s.log } := by
  by_cases hclosed : s.breaker.state = .closed
  . rw [CircuitBreaker.trip_of_closed hclosed, hclosed]
    exact ⟨h.failureThreshold, h.successThreshold, nofun, nofun, rfl, fun _ => rfl⟩
  . rw [CircuitBreaker.trip_of_not_closed hclosed, BreakerEvent.move_self]
    exact h

end Invariant

theorem not_open_of_allowsRequest {breaker : CircuitBreaker} (h : breaker.allowsRequest = true)
    : breaker.state = .closed ∨ breaker.state = .halfOpen := by
  unfold CircuitBreaker.allowsRequest at h
  split at h
  . next hstate => exact .inl hstate
  . next hstate => exact .inr hstate
  . cases h

theorem check_state (s : BreakerHistory) (now : UInt64)
    : (s.check now).breaker.state = s.breaker.state
      ∨ s.breaker.state = .open ∧ (s.check now).breaker.state = .halfOpen := by
  by_cases helapsed : s.breaker.state = .open ∧ s.breaker.timeoutElapsed now = true
  . rw [check_of_elapsed helapsed.1 helapsed.2]
    exact .inr ⟨helapsed.1, rfl⟩
  . rw [check_of_not helapsed]
    exact .inl rfl

theorem check_config (s : BreakerHistory) (now : UInt64)
    : (s.check now).breaker.config = s.breaker.config := by
  exact CircuitBreaker.checkTimeout_config s.breaker now

variable {α : Type} {call : BreakerCall α} {s' : BreakerHistory}

theorem breakerStep_config (hstep : breakerStep s call = some s')
    : s'.breaker.config = s.breaker.config := by
  cases call with
  | execute now later result =>
    obtain ⟨_, rfl⟩ | ⟨_, ⟨_, rfl⟩ | ⟨_, rfl⟩⟩ := breakerStep_execute_cases hstep
    . exact s.check_config now
    . exact (CircuitBreaker.recordSuccess_config _).trans (s.check_config now)
    . exact (CircuitBreaker.recordFailure_config _ later).trans (s.check_config now)
  | trip now =>
    cases hstep
    exact CircuitBreaker.trip_config s.breaker now
  | reset =>
    cases hstep
    rfl

theorem Invariant.step (h : s.Invariant) (hstep : breakerStep s call = some s')
    : s'.Invariant := by
  cases call with
  | execute now later result =>
    obtain ⟨_, rfl⟩ | ⟨hallows, ⟨_, rfl⟩ | ⟨_, rfl⟩⟩ := breakerStep_execute_cases hstep
    . exact h.check now
    . obtain hstate | hstate := not_open_of_allowsRequest hallows
      . exact (h.check now).succeed_closed hstate
      . exact ((h.check now).succeed_halfOpen hstate).1
    . obtain hstate | hstate := not_open_of_allowsRequest hallows
      . exact ((h.check now).fail_closed hstate).1
      . exact (h.check now).fail_halfOpen hstate
  | trip now =>
    cases hstep
    exact h.trip now
  | reset =>
    cases hstep
    exact h.reset

theorem Invariant.opens (h : s.Invariant) (hstep : breakerStep s call = some s')
    (hclosed : s.breaker.state = .closed) (hopen : s'.breaker.state = .open)
    : (∃ now, call = .trip now)
      ∨ (∃ now later error, call = .execute now later (.error error))
        ∧ s'.failures = s.breaker.config.failureThreshold.toNat := by
  cases call with
  | execute now later result =>
    have hstate : (s.check now).breaker.state = .closed :=
      (s.check_state now).elim (fun heq => heq.trans hclosed)
        (fun hopen => nomatch hclosed.symm.trans hopen.1)
    obtain ⟨_, rfl⟩ | ⟨_, ⟨_, rfl⟩ | ⟨⟨error, rfl⟩, rfl⟩⟩ := breakerStep_execute_cases hstep
    . cases hstate.symm.trans hopen
    . rw [succeed_of_closed hstate] at hopen
      cases hstate.symm.trans hopen
    . refine .inr ⟨⟨now, later, error, rfl⟩, ?_⟩
      rw [← s.check_config now]
      exact ((h.check now).fail_closed hstate).2 hopen
  | trip now => exact .inl ⟨now, rfl⟩
  | reset =>
    cases hstep
    cases hopen

theorem Invariant.closes (h : s.Invariant) (hstep : breakerStep s call = some s')
    (hnot : s.breaker.state ≠ .closed) (hclosed : s'.breaker.state = .closed)
    : call = .reset
      ∨ (∃ now later value, call = .execute now later (.ok value))
        ∧ s'.trialSuccesses = s.breaker.config.successThreshold.toNat ∧ s'.trialFailures = 0 := by
  cases call with
  | execute now later result =>
    have hnot' : (s.check now).breaker.state ≠ .closed := by
      obtain heq | ⟨_, heq⟩ := s.check_state now
      . exact heq ▸ hnot
      . rw [heq]
        exact CircuitState.noConfusion
    obtain ⟨_, rfl⟩ | ⟨hallows, hanswer⟩ := breakerStep_execute_cases hstep
    . exact absurd hclosed hnot'
    . have hstate := (not_open_of_allowsRequest hallows).resolve_left hnot'
      obtain ⟨⟨value, rfl⟩, rfl⟩ | ⟨_, rfl⟩ := hanswer
      . refine .inr ⟨⟨now, later, value, rfl⟩, ?_⟩
        rw [← s.check_config now]
        exact ((h.check now).succeed_halfOpen hstate).2 hclosed
      . rw [fail_of_halfOpen hstate] at hclosed
        cases hclosed
  | trip now =>
    cases hstep
    rw [CircuitBreaker.trip_of_not_closed hnot] at hclosed
    exact absurd hclosed hnot
  | reset => exact .inl rfl

theorem Invariant.rejects (h : s.Invariant) (hopen : s.breaker.state = .open)
    : ∃ trippedAt, s.lastTrip = some trippedAt
      ∧ ∀ now later (result : Except String α),
        now.toNat - trippedAt.toNat ≤ s.breaker.config.timeoutMs.toNat
        → ∃ retryAfterMs, s.breaker.execute now later result = (.rejected retryAfterMs, s.breaker) := by
  obtain ⟨trippedAt, htripped⟩ := Option.isSome_iff_exists.mp (h.opened hopen)
  refine ⟨trippedAt, h.tripped ▸ htripped, ?_⟩
  intro now later result hle
  apply CircuitBreaker.rejected_of_not_elapsed hopen
  unfold CircuitBreaker.timeoutElapsed CircuitBreaker.elapsedMs
  rw [htripped]
  exact decide_eq_false (Nat.not_lt.mpr hle)

theorem Invariant.soundBreaker (h : s.Invariant) : SoundBreaker α s := by
  refine ⟨fun hclosed => (h.closed hclosed).2, fun htrial => (h.halfOpen htrial).2.2, h.opened, ?_⟩
  intro call s' hstep
  refine ⟨h.opens hstep, h.closes hstep, ?_⟩
  intro hopen
  obtain ⟨trippedAt, htrip, hrejects⟩ := h.rejects hopen
  exact ⟨trippedAt, htrip, fun now later result _ hle => hrejects now later result hle⟩

end BreakerHistory

theorem always_soundBreaker {α : Type} (config : CircuitBreakerConfig)
    (hfailures : 1 ≤ config.failureThreshold) (hsuccesses : 1 ≤ config.successThreshold)
    (calls : List (BreakerCall α))
    : Runs.Always breakerStep (SoundBreaker α) { breaker := { config } } calls := by
  apply Runs.Always.mono (fun _ h => BreakerHistory.Invariant.soundBreaker h)
  apply Runs.always_of_forall_step
  . intro s call s' hs hstep
    exact hs.step hstep
  . exact ⟨hfailures, hsuccesses,
      fun _ => ⟨rfl, UInt64.lt_iff_toNat_lt.mpr (UInt64.le_iff_toNat_le.mp hfailures)⟩,
      nofun, rfl, nofun⟩

def trialCalls : List (BreakerCall Unit) :=
  [.trip 0, .execute 60001 60001 (.ok ())]

theorem always_soundBreaker_trial
    : Runs.Always breakerStep (SoundBreaker Unit) { breaker := { config := {} } } trialCalls := by
  exact always_soundBreaker {} (by decide) (by decide) trialCalls

def BreakerHistory.ClosesOnTrialOnly (s : BreakerHistory) : Prop :=
  ∀ (call : BreakerCall Unit) s', breakerStep s call = some s' → s.breaker.state = .halfOpen
    → s'.breaker.state = .closed → s'.trialSuccesses = s.breaker.config.successThreshold.toNat

def BreakerHistory.failuresSinceSuccess (s : BreakerHistory) : Nat :=
  Logs.countSince (fun event => event = .succeeded .closed) (· = .failed .closed) s.log

def BreakerHistory.OpensInARowOnly (s : BreakerHistory) : Prop :=
  ∀ (call : BreakerCall Unit) s', breakerStep s call = some s' → s.breaker.state = .closed
    → s'.breaker.state = .open
    → (∃ now, call = .trip now)
      ∨ s'.failuresSinceSuccess = s.breaker.config.failureThreshold.toNat

def failingCall : BreakerCall Unit :=
  .execute 0 0 (.error "timeout")

/-- A reset closes a breaker after one of three successes, and makes it forget four failures. -/
theorem reset_not_always
    : ¬ Runs.Always breakerStep BreakerHistory.ClosesOnTrialOnly { breaker := { config := {} } } trialCalls
      ∧ ¬ Runs.Always breakerStep BreakerHistory.OpensInARowOnly { breaker := { config := {} } }
        (List.replicate 4 failingCall ++ [.reset] ++ List.replicate 4 failingCall) := by
  constructor
  . intro h
    have hrun : (Runs.run breakerStep { breaker := { config := {} } } trialCalls).map
        (fun s => (s.breaker.state, s.trialSuccesses, s.breaker.config.successThreshold.toNat))
        = some (.halfOpen, 1, 3) := by
      decide +kernel
    obtain ⟨s, hs, hfacts⟩ := Option.map_eq_some_iff.mp hrun
    obtain ⟨hstate, hfacts⟩ := Prod.mk.inj hfacts
    obtain ⟨hcount, hthreshold⟩ := Prod.mk.inj hfacts
    have hthree := h.run_eq_some hs .reset _ rfl hstate rfl
    have hone : Logs.countSince BreakerEvent.startsTrial (· = .succeeded .halfOpen)
        (.reset :: s.log) = 1 :=
      (Logs.countSince_cons_of_not_counts s.log rfl rfl).trans hcount
    cases (hone.symm.trans hthree).trans hthreshold
  . intro h
    have hrun : (Runs.run breakerStep { breaker := { config := {} } }
          (List.replicate 4 failingCall ++ [.reset] ++ List.replicate 4 failingCall)).bind (fun s =>
        (breakerStep s failingCall).map (fun s' =>
          (s.breaker.state, s'.breaker.state, s'.failuresSinceSuccess,
            s.breaker.config.failureThreshold.toNat)))
        = some (.closed, .open, 9, 5) := by
      decide +kernel
    obtain ⟨s, hs, hnext⟩ := Option.bind_eq_some_iff.mp hrun
    obtain ⟨s', hstep, hfacts⟩ := Option.map_eq_some_iff.mp hnext
    obtain ⟨hclosed, hfacts⟩ := Prod.mk.inj hfacts
    obtain ⟨hopen, hfacts⟩ := Prod.mk.inj hfacts
    obtain ⟨hcount, hthreshold⟩ := Prod.mk.inj hfacts
    obtain ⟨_, hcall⟩ | hfive := h.run_eq_some hs _ s' hstep hclosed hopen
    . cases hcall
    . cases (hcount.symm.trans hfive).trans hthreshold

end AnimaAgent
