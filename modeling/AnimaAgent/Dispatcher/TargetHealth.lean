import AnimaAgent.Dispatcher.Balancer
import AnimaAgent.Library.Runs

namespace AnimaAgent

namespace Balancer

structure TargetHealth.Sound (failureThreshold : Nat) (health : TargetHealth) : Prop where
  opened : health.circuitState = .open ↔ health.circuitOpenedAt.isSome
  closed : health.circuitState = .closed → health.consecutiveFailures < failureThreshold

def SoundRecords (balancer : Balancer) : Prop :=
  ∀ targetId health, balancer.runtimeHealth.get targetId = some health
    → health.Sound balancer.failureThreshold

variable {balancer : Balancer} {health : TargetHealth} {now : UInt64}

theorem failureThreshold_pos (balancer : Balancer) : 0 < balancer.failureThreshold := by
  unfold failureThreshold
  cases balancer.circuitBreaker with
  | none =>
    change 0 < usizeMax
    decide
  | some config => exact Nat.lt_of_lt_of_le Nat.zero_lt_one (Nat.le_max_right _ _)

section Sound

theorem sound_default (balancer : Balancer)
    : TargetHealth.Sound balancer.failureThreshold {} := by
  refine ⟨by simp, fun _ => balancer.failureThreshold_pos⟩

theorem sound_initialTargetHealth (balancer : Balancer) (now : UInt64)
    : (balancer.initialTargetHealth now).Sound balancer.failureThreshold := by
  refine ⟨?_, fun _ => balancer.failureThreshold_pos⟩
  simp [initialTargetHealth]

theorem sound_openCircuit (threshold : Nat) (health : TargetHealth) (now : UInt64)
    : (health.openCircuit now).Sound threshold := by
  refine ⟨by simp [TargetHealth.openCircuit], ?_⟩
  intro h
  cases h

theorem TargetHealth.Sound.afterSuccess (h : health.Sound balancer.failureThreshold) (now : UInt64)
    : (balancer.healthAfterSuccess now health).Sound balancer.failureThreshold := by
  unfold healthAfterSuccess
  dsimp only
  split
  . exact ⟨by simp [TargetHealth.closeCircuit], fun _ => balancer.failureThreshold_pos⟩
  . exact ⟨h.opened, fun _ => balancer.failureThreshold_pos⟩

theorem TargetHealth.Sound.afterFailure (h : health.Sound balancer.failureThreshold) (now : UInt64)
    : (balancer.healthAfterFailure now health).Sound balancer.failureThreshold := by
  unfold healthAfterFailure
  dsimp only
  split
  . exact sound_openCircuit _ _ now
  . split
    . exact sound_openCircuit _ _ now
    . next hlt => exact ⟨h.opened, fun _ => Nat.lt_of_not_le hlt⟩
  . next hopen =>
    refine ⟨h.opened, ?_⟩
    intro hclosed
    cases hopen.symm.trans hclosed

theorem TargetHealth.Sound.afterHeartbeat {threshold : Nat} (h : health.Sound threshold)
    (healthy : Bool) (now : UInt64)
    : (healthAfterHeartbeat healthy now health).Sound threshold := by
  exact ⟨h.opened, h.closed⟩

theorem healthAfterRefresh_circuit (balancer : Balancer) (now : UInt64) (health : TargetHealth)
    : let health' := balancer.healthAfterRefresh now health
      health'.consecutiveFailures = health.consecutiveFailures
      ∧ ((health'.circuitState = health.circuitState
          ∧ health'.circuitOpenedAt = health.circuitOpenedAt)
        ∨ (health.circuitState = .open ∧ balancer.cooldownElapsed health now = true
          ∧ health'.circuitState = .halfOpen ∧ health'.circuitOpenedAt = none)) := by
  have hfields : ∀ health : TargetHealth,
      ∃ healthy, (if balancer.heartbeatExpired health now then { health with healthy := false }
        else health) = { health with healthy } := by
    intro health
    split
    . exact ⟨_, rfl⟩
    . exact ⟨_, rfl⟩
  unfold healthAfterRefresh
  dsimp only
  split
  . next hopen =>
    obtain ⟨healthy, heq⟩ := hfields { health with
      lastCheckedAt := some now
      circuitState := .halfOpen
      circuitOpenedAt := none
      consecutiveSuccesses := 0 }
    rw [heq]
    exact ⟨rfl, .inr ⟨hopen.1, hopen.2, rfl, rfl⟩⟩
  . obtain ⟨healthy, heq⟩ := hfields { health with lastCheckedAt := some now }
    rw [heq]
    exact ⟨rfl, .inl ⟨rfl, rfl⟩⟩

theorem TargetHealth.Sound.afterRefresh {threshold : Nat} (h : health.Sound threshold)
    (balancer : Balancer) (now : UInt64)
    : (balancer.healthAfterRefresh now health).Sound threshold := by
  obtain ⟨hfailures, ⟨hstate, hopened⟩ | ⟨_, _, hstate, hopened⟩⟩ :=
    healthAfterRefresh_circuit balancer now health
  . constructor
    . rw [hstate, hopened]
      exact h.opened
    . rw [hstate, hfailures]
      exact h.closed
  . constructor
    . rw [hstate, hopened]
      simp
    . rw [hstate]
      intro h
      cases h

end Sound

section Update

variable {targetId : String} {update : TargetHealth → TargetHealth}

theorem get_updateHealth (balancer : Balancer) (targetId : String) (now : UInt64)
    (update : TargetHealth → TargetHealth) (other : String)
    : (balancer.updateHealth targetId now update).runtimeHealth.get other
        = if other = targetId ∧ (balancer.targets.get targetId).isSome ∧ balancer.runtime.isSome then
            some (update
              ((balancer.runtimeHealth.get targetId).getD (balancer.initialTargetHealth now)))
          else balancer.runtimeHealth.get other := by
  unfold updateHealth
  by_cases hthere : (balancer.targets.get targetId).isSome && balancer.runtime.isSome
  . rw [if_pos hthere]
    rw [Bool.and_eq_true] at hthere
    dsimp only
    rw [IndexMap.get_insert_eq]
    by_cases hother : other = targetId
    . rw [if_pos hother, if_pos ⟨hother, hthere⟩]
    . rw [if_neg hother, if_neg (fun h => hother h.1)]
  . rw [if_neg hthere, if_neg]
    rw [Bool.and_eq_true] at hthere
    exact fun h => hthere h.2

theorem SoundRecords.updateHealth (h : balancer.SoundRecords) (targetId : String) (now : UInt64)
    (hupdate : ∀ health : TargetHealth, health.Sound balancer.failureThreshold
      → (update health).Sound balancer.failureThreshold)
    : (balancer.updateHealth targetId now update).SoundRecords := by
  have hruntime := (balancer.runtime_updateHealth targetId now update).1
  intro other health hget
  rw [show (balancer.updateHealth targetId now update).failureThreshold = balancer.failureThreshold by
    unfold failureThreshold circuitBreaker
    rw [hruntime]]
  rw [get_updateHealth] at hget
  split at hget
  . cases hget
    apply hupdate
    cases hrecord : balancer.runtimeHealth.get targetId with
    | none => exact balancer.sound_initialTargetHealth now
    | some record => exact h targetId record hrecord
  . exact h other health hget

end Update

section Refresh

def failuresOf (balancer : Balancer) (targetId : String) : Nat :=
  ((balancer.runtimeHealth.get targetId).map TargetHealth.consecutiveFailures).getD 0

structure RefreshedTo (balancer : Balancer) (now : UInt64) (balancer' : Balancer) : Prop where
  runtime : balancer'.runtime = balancer.runtime
  targets : balancer'.targets = balancer.targets
  sound : balancer.SoundRecords → balancer'.SoundRecords
  failures : ∀ targetId, balancer'.failuresOf targetId = balancer.failuresOf targetId
  circuits : ∀ targetId health, balancer.runtimeHealth.get targetId = some health
    → ∃ health', balancer'.runtimeHealth.get targetId = some health'
      ∧ (health'.circuitState = health.circuitState ∧ health'.circuitOpenedAt = health.circuitOpenedAt
        ∨ health.circuitState = .open ∧ balancer.cooldownElapsed health now = true
          ∧ health'.circuitState = .halfOpen)

theorem cooldownElapsed_eq {balancer' : Balancer} (h : balancer'.runtime = balancer.runtime)
    {health' : TargetHealth} (hopened : health'.circuitOpenedAt = health.circuitOpenedAt) (now : UInt64)
    : balancer'.cooldownElapsed health' now = balancer.cooldownElapsed health now := by
  unfold cooldownElapsed circuitBreaker
  rw [h, hopened]

theorem RefreshedTo.refl (balancer : Balancer) (now : UInt64) : balancer.RefreshedTo now balancer := by
  exact ⟨rfl, rfl, id, fun _ => rfl, fun _ health hget => ⟨health, hget, .inl ⟨rfl, rfl⟩⟩⟩

theorem RefreshedTo.trans {b₁ b₂ b₃ : Balancer} (h : b₁.RefreshedTo now b₂)
    (h' : b₂.RefreshedTo now b₃)
    : b₁.RefreshedTo now b₃ where
  runtime := h'.runtime.trans h.runtime
  targets := h'.targets.trans h.targets
  sound := fun hsound => h'.sound (h.sound hsound)
  failures := fun targetId => (h'.failures targetId).trans (h.failures targetId)
  circuits := by
    intro targetId health hget
    obtain ⟨health₂, hget₂, hmoved⟩ := h.circuits targetId health hget
    obtain ⟨health₃, hget₃, hmoved'⟩ := h'.circuits targetId health₂ hget₂
    refine ⟨health₃, hget₃, ?_⟩
    obtain ⟨hstate, hopened⟩ | ⟨hopen, helapsed, hhalf⟩ := hmoved
    . obtain ⟨hstate', hopened'⟩ | ⟨hopen', helapsed', hhalf'⟩ := hmoved'
      . exact .inl ⟨hstate'.trans hstate, hopened'.trans hopened⟩
      . rw [cooldownElapsed_eq h.runtime hopened] at helapsed'
        exact .inr ⟨hstate.symm.trans hopen', helapsed', hhalf'⟩
    . obtain ⟨hstate', _⟩ | ⟨hopen', _⟩ := hmoved'
      . exact .inr ⟨hopen, helapsed, hstate'.trans hhalf⟩
      . cases hhalf.symm.trans hopen'

theorem refreshTargetHealth_refreshedTo (balancer : Balancer) (targetId : String) (now : UInt64)
    : balancer.RefreshedTo now (balancer.refreshTargetHealth targetId now) where
  runtime := (balancer.runtime_updateHealth targetId now _).1
  targets := (balancer.runtime_updateHealth targetId now _).2
  sound := fun hsound => hsound.updateHealth targetId now
    (fun _ hhealth => hhealth.afterRefresh balancer now)
  failures := by
    intro other
    unfold failuresOf refreshTargetHealth
    rw [get_updateHealth]
    split
    . next hother =>
      rw [hother.1, Option.map_some, Option.getD_some, (healthAfterRefresh_circuit _ _ _).1]
      cases balancer.runtimeHealth.get targetId with
      | none => rfl
      | some health => rfl
    . rfl
  circuits := by
    intro other health hget
    unfold refreshTargetHealth
    rw [get_updateHealth]
    split
    . next hother =>
      rw [← hother.1, hget, Option.getD_some]
      obtain ⟨_, hsame | ⟨hopen, helapsed, hhalf, _⟩⟩ := healthAfterRefresh_circuit balancer now health
      . exact ⟨_, rfl, .inl hsame⟩
      . exact ⟨_, rfl, .inr ⟨hopen, helapsed, hhalf⟩⟩
    . exact ⟨health, hget, .inl ⟨rfl, rfl⟩⟩

theorem refreshTargets_refreshedTo (balancer : Balancer) (now : UInt64)
    : balancer.RefreshedTo now (balancer.refreshTargets now) := by
  unfold refreshTargets
  induction balancer.targets.keys generalizing balancer with
  | nil => exact .refl balancer now
  | cons targetId targetIds ih =>
    exact (refreshTargetHealth_refreshedTo balancer targetId now).trans (ih _)

theorem selectTarget_refreshedTo (balancer : Balancer) (key : Option String) (now : UInt64)
    : balancer.RefreshedTo now (balancer.selectTarget key now).2 := by
  have hrefresh : balancer.RefreshedTo now (balancer.refreshOnSelect now) := by
    unfold refreshOnSelect
    split
    . exact balancer.refreshTargets_refreshedTo now
    . exact .refl balancer now
  exact ⟨hrefresh.runtime, hrefresh.targets, hrefresh.sound, hrefresh.failures, hrefresh.circuits⟩

end Refresh

end Balancer

inductive BalancerCall where
  | addTarget (target : Target) (now : UInt64)
  | removeTarget (targetId : String)
  | recordTargetSuccess (targetId : String) (now : UInt64)
  | recordTargetFailure (targetId : String) (now : UInt64)
  | recordTargetHeartbeat (targetId : String) (healthy : Bool) (now : UInt64)
  | refreshTargetHealth (targetId : String) (now : UInt64)
  | refreshTargets (now : UInt64)
  | selectTarget (key : Option String) (now : UInt64)

/-- A balancer, and how often each target has failed since it was added and had its last success. -/
structure HealthHistory where
  balancer : Balancer
  failuresInARow : String → Nat := fun _ => 0

namespace HealthHistory

variable (s : HealthHistory)

def setFailures (balancer : Balancer) (targetId : String) (failures : Nat) : HealthHistory where
  balancer
  failuresInARow := fun other =>
    if other = targetId ∧ (s.balancer.targets.get targetId).isSome then failures
    else s.failuresInARow other

end HealthHistory

def healthStep (s : HealthHistory) : BalancerCall → Option HealthHistory
  | .addTarget target now => some { s with balancer := s.balancer.addTarget target now }
  | .removeTarget targetId => some (s.setFailures (s.balancer.removeTarget targetId) targetId 0)
  | .recordTargetSuccess targetId now =>
    some (s.setFailures (s.balancer.recordTargetSuccess targetId now) targetId 0)
  | .recordTargetFailure targetId now =>
    some (s.setFailures (s.balancer.recordTargetFailure targetId now) targetId
      (s.failuresInARow targetId + 1))
  | .recordTargetHeartbeat targetId healthy now =>
    some { s with balancer := s.balancer.recordTargetHeartbeat targetId healthy now }
  | .refreshTargetHealth targetId now =>
    some { s with balancer := s.balancer.refreshTargetHealth targetId now }
  | .refreshTargets now => some { s with balancer := s.balancer.refreshTargets now }
  | .selectTarget key now => some { s with balancer := (s.balancer.selectTarget key now).2 }

def BalancerCall.Refreshes (call : BalancerCall) (targetId : String) (now : UInt64) : Prop :=
  call = .refreshTargetHealth targetId now ∨ call = .refreshTargets now
    ∨ ∃ key, call = .selectTarget key now

structure MovesCircuit (s : HealthHistory) (call : BalancerCall) (targetId : String)
    (health health' : Balancer.TargetHealth) : Prop where
  opened : health.circuitState ≠ .open → health'.circuitState = .open
    → (∃ now, call = .recordTargetFailure targetId now ∧ health'.circuitOpenedAt = some now)
      ∧ (health.circuitState = .halfOpen
        ∨ s.failuresInARow targetId + 1 = s.balancer.failureThreshold)
  left : health.circuitState = .open → health'.circuitState ≠ .open
    → health'.circuitState = .halfOpen
      ∧ ∃ config openedAt now, s.balancer.circuitBreaker = some config
        ∧ health.circuitOpenedAt = some openedAt ∧ call.Refreshes targetId now
        ∧ config.cooldownMs.toNat ≤ now.toNat - openedAt.toNat

structure SoundHealth (s : HealthHistory) : Prop where
  sound : ∀ targetId health, s.balancer.targetHealth targetId = some health
    → health.Sound s.balancer.failureThreshold
  moves : ∀ call s', healthStep s call = some s' → ∀ targetId health health',
    s.balancer.targetHealth targetId = some health → s'.balancer.targetHealth targetId = some health'
    → MovesCircuit s call targetId health health'

section Moves

open Balancer

variable {s s' : HealthHistory} {call : BalancerCall} {targetId : String}
  {health health' : TargetHealth}

theorem MovesCircuit.of_eq (h : health'.circuitState = health.circuitState)
    : MovesCircuit s call targetId health health' := by
  refine ⟨fun hne hopen => absurd (h.symm.trans hopen) hne, fun hopen hne => absurd (h.trans hopen) hne⟩

theorem MovesCircuit.of_refreshedTo {now : UInt64} {balancer' : Balancer}
    (h : s.balancer.RefreshedTo now balancer') (hcall : call.Refreshes targetId now)
    (hget : s.balancer.runtimeHealth.get targetId = some health)
    (hget' : balancer'.runtimeHealth.get targetId = some health')
    : MovesCircuit s call targetId health health' := by
  obtain ⟨_, hsome, hmoved⟩ := h.circuits targetId health hget
  cases hsome.symm.trans hget'
  obtain ⟨hstate, _⟩ | ⟨hopen, helapsed, hhalf⟩ := hmoved
  . exact .of_eq hstate
  . refine ⟨fun hne => absurd hopen hne, fun _ _ => ⟨hhalf, ?_⟩⟩
    unfold cooldownElapsed at helapsed
    split at helapsed
    . next config openedAt hconfig hopened =>
      exact ⟨config, openedAt, now, hconfig, hopened, hcall, of_decide_eq_true helapsed⟩
    . cases helapsed

theorem movesCircuit_afterSuccess (s : HealthHistory) (call : BalancerCall) (targetId : String)
    (now : UInt64) (health : TargetHealth)
    : MovesCircuit s call targetId health (s.balancer.healthAfterSuccess now health) := by
  unfold healthAfterSuccess
  dsimp only
  split
  . next hhalf =>
    constructor
    . intro _ hopen
      cases hopen
    . intro hopen
      cases hopen.symm.trans hhalf.1
  . exact .of_eq rfl

theorem movesCircuit_afterFailure (now : UInt64)
    (hcount : s.failuresInARow targetId = health.consecutiveFailures)
    (hsound : health.Sound s.balancer.failureThreshold)
    : MovesCircuit s (.recordTargetFailure targetId now) targetId health
        (s.balancer.healthAfterFailure now health) := by
  unfold healthAfterFailure
  dsimp only
  split
  . next hhalf =>
    refine ⟨fun _ _ => ⟨⟨now, rfl, rfl⟩, .inl hhalf⟩, fun hopen => ?_⟩
    cases hopen.symm.trans hhalf
  . next hclosed =>
    split
    . next hle =>
      refine ⟨fun _ _ => ⟨⟨now, rfl, rfl⟩, .inr ?_⟩, fun hopen => ?_⟩
      . have hlt := hsound.closed hclosed
        omega
      . cases hopen.symm.trans hclosed
    . exact .of_eq rfl
  . exact .of_eq rfl

structure HealthInvariant (s : HealthHistory) : Prop where
  sound : s.balancer.SoundRecords
  counted : s.balancer.runtime.isSome
    → ∀ targetId, s.failuresInARow targetId = s.balancer.failuresOf targetId

theorem failuresOf_eq {balancer : Balancer}
    (h : balancer.runtimeHealth.get targetId = some health)
    : balancer.failuresOf targetId = health.consecutiveFailures := by
  unfold failuresOf
  rw [h]
  rfl

theorem movesCircuit_updateHealth {updatedId : String} {now : UInt64}
    {update : TargetHealth → TargetHealth}
    (hget : s.balancer.runtimeHealth.get targetId = some health)
    (hget' : (s.balancer.updateHealth updatedId now update).runtimeHealth.get targetId = some health')
    (hupdate : targetId = updatedId → MovesCircuit s call targetId health (update health))
    : MovesCircuit s call targetId health health' := by
  rw [get_updateHealth] at hget'
  split at hget'
  . next hid =>
    rw [← hid.1, hget, Option.getD_some] at hget'
    cases hget'
    exact hupdate hid.1
  . cases hget.symm.trans hget'
    exact .of_eq rfl

theorem get_addTarget {balancer : Balancer} {target : Target} {now : UInt64}
    (hget : balancer.runtimeHealth.get targetId = some health)
    : (balancer.addTarget target now).runtimeHealth.get targetId = some health := by
  unfold addTarget
  dsimp only
  split
  . next hnone =>
    rw [Bool.and_eq_true] at hnone
    dsimp only
    rw [IndexMap.get_insert_eq, if_neg]
    . exact hget
    . rintro rfl
      rw [hget] at hnone
      cases hnone.2
  . exact hget

theorem get_removeTarget {balancer : Balancer} {removedId : String}
    (hget' : (balancer.removeTarget removedId).runtimeHealth.get targetId = some health)
    : balancer.runtimeHealth.get targetId = some health := by
  unfold removeTarget at hget'
  split at hget'
  . dsimp only at hget'
    rw [IndexMap.get_shiftRemove_eq] at hget'
    split at hget'
    . cases hget'
    . exact hget'
  . exact hget'

theorem runtime_healthStep (h : healthStep s call = some s')
    : s'.balancer.runtime = s.balancer.runtime := by
  cases call with
  | addTarget target now =>
    cases h
    dsimp only
    unfold addTarget
    dsimp only
    split
    . rfl
    . rfl
  | removeTarget removedId =>
    cases h
    change (s.balancer.removeTarget removedId).runtime = _
    unfold removeTarget
    split
    . rfl
    . rfl
  | recordTargetSuccess updatedId now =>
    cases h
    exact (runtime_updateHealth _ _ _ _).1
  | recordTargetFailure updatedId now =>
    cases h
    exact (runtime_updateHealth _ _ _ _).1
  | recordTargetHeartbeat updatedId healthy now =>
    cases h
    exact (runtime_updateHealth _ _ _ _).1
  | refreshTargetHealth updatedId now =>
    cases h
    exact (runtime_updateHealth _ _ _ _).1
  | refreshTargets now =>
    cases h
    exact (s.balancer.refreshTargets_refreshedTo now).runtime
  | selectTarget key now =>
    cases h
    exact (s.balancer.selectTarget_refreshedTo key now).runtime

theorem HealthInvariant.movesCircuit (hs : HealthInvariant s) (h : healthStep s call = some s')
    (hruntime : s.balancer.runtime.isSome)
    (hget : s.balancer.runtimeHealth.get targetId = some health)
    (hget' : s'.balancer.runtimeHealth.get targetId = some health')
    : MovesCircuit s call targetId health health' := by
  cases call with
  | addTarget target now =>
    cases h
    cases (get_addTarget hget).symm.trans hget'
    exact .of_eq rfl
  | removeTarget removedId =>
    cases h
    cases hget.symm.trans (get_removeTarget hget')
    exact .of_eq rfl
  | recordTargetSuccess updatedId now =>
    cases h
    exact movesCircuit_updateHealth hget hget'
      (fun _ => movesCircuit_afterSuccess s _ targetId now health)
  | recordTargetFailure updatedId now =>
    cases h
    refine movesCircuit_updateHealth hget hget' ?_
    rintro rfl
    refine movesCircuit_afterFailure now ?_ (hs.sound targetId health hget)
    rw [hs.counted hruntime, failuresOf_eq hget]
  | recordTargetHeartbeat updatedId healthy now =>
    cases h
    exact movesCircuit_updateHealth hget hget' (fun _ => .of_eq rfl)
  | refreshTargetHealth updatedId now =>
    cases h
    by_cases hid : targetId = updatedId
    . subst hid
      exact .of_refreshedTo (s.balancer.refreshTargetHealth_refreshedTo targetId now) (.inl rfl) hget
        hget'
    . exact movesCircuit_updateHealth hget hget' (fun heq => absurd heq hid)
  | refreshTargets now =>
    cases h
    exact .of_refreshedTo (s.balancer.refreshTargets_refreshedTo now) (.inr (.inl rfl)) hget hget'
  | selectTarget key now =>
    cases h
    exact .of_refreshedTo (s.balancer.selectTarget_refreshedTo key now) (.inr (.inr ⟨key, rfl⟩)) hget
      hget'

theorem failuresOf_updateHealth (balancer : Balancer) (updatedId : String) (now : UInt64)
    (update : TargetHealth → TargetHealth) (other : String)
    : (balancer.updateHealth updatedId now update).failuresOf other
        = if other = updatedId ∧ (balancer.targets.get updatedId).isSome ∧ balancer.runtime.isSome then
            (update ((balancer.runtimeHealth.get updatedId).getD
              (balancer.initialTargetHealth now))).consecutiveFailures
          else balancer.failuresOf other := by
  unfold failuresOf
  rw [get_updateHealth]
  split
  . rfl
  . rfl

theorem failuresOf_updateHealth_eq (balancer : Balancer) (updatedId : String) (now : UInt64)
    (update : TargetHealth → TargetHealth)
    (hupdate : ∀ health, (update health).consecutiveFailures = health.consecutiveFailures)
    (other : String)
    : (balancer.updateHealth updatedId now update).failuresOf other = balancer.failuresOf other := by
  rw [failuresOf_updateHealth]
  split
  . next hother =>
    rw [hupdate, hother.1]
    unfold failuresOf
    cases balancer.runtimeHealth.get updatedId with
    | none => rfl
    | some health => rfl
  . rfl

theorem HealthInvariant.counted_setFailures (hs : HealthInvariant s) {updatedId : String}
    {now : UInt64} {update : TargetHealth → TargetHealth} {failures : Nat}
    (hruntime : s.balancer.runtime.isSome)
    (hupdate : (update ((s.balancer.runtimeHealth.get updatedId).getD
      (s.balancer.initialTargetHealth now))).consecutiveFailures = failures) (other : String)
    : (s.setFailures (s.balancer.updateHealth updatedId now update) updatedId
          failures).failuresInARow other
        = (s.balancer.updateHealth updatedId now update).failuresOf other := by
  rw [failuresOf_updateHealth]
  unfold HealthHistory.setFailures
  dsimp only
  simp only [hruntime, and_true, hupdate, hs.counted hruntime other]

theorem failuresOf_addTarget (balancer : Balancer) (target : Target) (now : UInt64) (other : String)
    : (balancer.addTarget target now).failuresOf other = balancer.failuresOf other := by
  unfold addTarget failuresOf
  dsimp only
  split
  . next hnone =>
    rw [Bool.and_eq_true, Option.isNone_iff_eq_none] at hnone
    dsimp only
    rw [IndexMap.get_insert_eq]
    split
    . next hother =>
      rw [hother, hnone.2]
      rfl
    . rfl
  . rfl

theorem failuresOf_removeTarget (balancer : Balancer) (removedId other : String)
    : (balancer.removeTarget removedId).failuresOf other
        = if other = removedId ∧ (balancer.targets.get removedId).isSome then 0
          else balancer.failuresOf other := by
  unfold removeTarget failuresOf
  by_cases hthere : (balancer.targets.get removedId).isSome
  . rw [if_pos hthere]
    dsimp only
    rw [IndexMap.get_shiftRemove_eq]
    by_cases hother : other = removedId
    . rw [if_pos hother, if_pos ⟨hother, hthere⟩]
      rfl
    . rw [if_neg hother, if_neg (fun h => hother h.1)]
  . rw [if_neg hthere, if_neg (fun h => hthere h.2)]

theorem Balancer.SoundRecords.addTarget {balancer : Balancer} (h : balancer.SoundRecords) (target : Target)
    (now : UInt64)
    : (balancer.addTarget target now).SoundRecords := by
  intro targetId health hget
  unfold Balancer.addTarget at hget ⊢
  dsimp only at hget ⊢
  split at hget
  . next hnone =>
    rw [if_pos hnone]
    obtain ⟨_, rfl⟩ | hold := IndexMap.get_insert hget
    . exact balancer.sound_initialTargetHealth now
    . exact h targetId health hold
  . next hnone =>
    rw [if_neg hnone]
    exact h targetId health hget

theorem Balancer.SoundRecords.removeTarget {balancer : Balancer} (h : balancer.SoundRecords)
    (removedId : String)
    : (balancer.removeTarget removedId).SoundRecords := by
  intro targetId health hget
  have hhealth := h targetId health (get_removeTarget hget)
  unfold Balancer.removeTarget
  split
  . exact hhealth
  . exact hhealth

theorem HealthInvariant.of_refreshedTo (hs : HealthInvariant s) {now : UInt64} {balancer' : Balancer}
    (h : s.balancer.RefreshedTo now balancer')
    : HealthInvariant { s with balancer := balancer' } := by
  refine ⟨h.sound hs.sound, ?_⟩
  intro hruntime targetId
  rw [h.runtime] at hruntime
  exact (hs.counted hruntime targetId).trans (h.failures targetId).symm

theorem HealthInvariant.step (hs : HealthInvariant s) (h : healthStep s call = some s')
    : HealthInvariant s' := by
  cases call with
  | addTarget target now =>
    cases h
    refine ⟨hs.sound.addTarget target now, ?_⟩
    intro hruntime targetId
    dsimp only
    rw [failuresOf_addTarget]
    refine hs.counted ?_ targetId
    rw [← @runtime_healthStep s _ (.addTarget target now) rfl]
    exact hruntime
  | removeTarget removedId =>
    cases h
    refine ⟨hs.sound.removeTarget removedId, ?_⟩
    intro hruntime targetId
    rw [@runtime_healthStep s _ (.removeTarget removedId) rfl] at hruntime
    unfold HealthHistory.setFailures
    dsimp only
    rw [failuresOf_removeTarget, hs.counted hruntime]
  | recordTargetSuccess updatedId now =>
    cases h
    refine ⟨hs.sound.updateHealth updatedId now (fun _ hhealth => hhealth.afterSuccess now), ?_⟩
    intro hruntime
    rw [@runtime_healthStep s _ (.recordTargetSuccess updatedId now) rfl] at hruntime
    refine hs.counted_setFailures hruntime ?_
    unfold healthAfterSuccess
    dsimp only
    split
    . rfl
    . rfl
  | recordTargetFailure updatedId now =>
    cases h
    refine ⟨hs.sound.updateHealth updatedId now (fun _ hhealth => hhealth.afterFailure now), ?_⟩
    intro hruntime
    rw [@runtime_healthStep s _ (.recordTargetFailure updatedId now) rfl] at hruntime
    refine hs.counted_setFailures hruntime ?_
    rw [hs.counted hruntime updatedId]
    have hfailures : ∀ health, (s.balancer.healthAfterFailure now health).consecutiveFailures
        = health.consecutiveFailures + 1 := by
      intro health
      unfold healthAfterFailure
      dsimp only
      split
      . rfl
      . split
        . rfl
        . rfl
      . rfl
    rw [hfailures]
    unfold failuresOf
    cases s.balancer.runtimeHealth.get updatedId with
    | none => rfl
    | some health => rfl
  | recordTargetHeartbeat updatedId healthy now =>
    cases h
    refine ⟨hs.sound.updateHealth updatedId now (fun _ hhealth => hhealth.afterHeartbeat healthy now),
      ?_⟩
    intro hruntime targetId
    rw [@runtime_healthStep s _ (.recordTargetHeartbeat updatedId healthy now) rfl] at hruntime
    exact (hs.counted hruntime targetId).trans
      (failuresOf_updateHealth_eq s.balancer updatedId now (healthAfterHeartbeat healthy now)
        (fun _ => rfl) targetId).symm
  | refreshTargetHealth updatedId now =>
    cases h
    exact hs.of_refreshedTo (s.balancer.refreshTargetHealth_refreshedTo updatedId now)
  | refreshTargets now =>
    cases h
    exact hs.of_refreshedTo (s.balancer.refreshTargets_refreshedTo now)
  | selectTarget key now =>
    cases h
    exact hs.of_refreshedTo (s.balancer.selectTarget_refreshedTo key now)

theorem HealthInvariant.soundHealth (hs : HealthInvariant s) : SoundHealth s := by
  constructor
  . intro targetId health hhealth
    unfold targetHealth at hhealth
    split at hhealth
    . exact hs.sound targetId health hhealth
    . obtain ⟨_, _, rfl⟩ := Option.map_eq_some_iff.mp hhealth
      exact s.balancer.sound_default
  . intro call s' hstep targetId health health' hhealth hhealth'
    unfold targetHealth at hhealth hhealth'
    rw [runtime_healthStep hstep] at hhealth'
    split at hhealth
    . next hruntime =>
      rw [if_pos hruntime] at hhealth'
      exact hs.movesCircuit hstep hruntime hhealth hhealth'
    . next hruntime =>
      rw [if_neg hruntime] at hhealth'
      obtain ⟨_, _, rfl⟩ := Option.map_eq_some_iff.mp hhealth
      obtain ⟨_, _, rfl⟩ := Option.map_eq_some_iff.mp hhealth'
      exact .of_eq rfl

end Moves

theorem always_soundHealth (strategy : BalancerStrategy) (runtime : Option Balancer.RuntimeConfig)
    (calls : List BalancerCall)
    : Runs.Always healthStep SoundHealth { balancer := .new strategy runtime } calls := by
  apply Runs.Always.mono (fun _ h => HealthInvariant.soundHealth h)
  apply Runs.always_of_forall_step
  . intro s call s' hs hstep
    exact hs.step hstep
  . refine ⟨?_, fun _ _ => rfl⟩
    intro targetId health hget
    cases hget

end AnimaAgent
