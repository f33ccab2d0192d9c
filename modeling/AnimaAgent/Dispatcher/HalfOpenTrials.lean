import AnimaAgent.Dispatcher.TargetHealth

namespace AnimaAgent

open Balancer

def Balancer.circuitOf (balancer : Balancer) (targetId : String) : Option CircuitState :=
  (balancer.targetHealth targetId).map TargetHealth.circuitState

/-- A balancer, and how many sends to each target were successful in a row since it was half opened. -/
structure TrialHistory extends HealthHistory where
  sends : String → Nat := fun _ => 0

def BalancerCall.sendsTo (targetId : String) : BalancerCall → Bool
  | .recordTargetSuccess sentId _ => sentId = targetId
  | _ => false

def BalancerCall.failsAt (targetId : String) : BalancerCall → Bool
  | .recordTargetFailure failedId _ => failedId = targetId
  | _ => false

def TrialHistory.sendsAfter (s : TrialHistory) (call : BalancerCall) (balancer' : Balancer)
    (targetId : String) : Nat :=
  if balancer'.circuitOf targetId = some .halfOpen ∧ s.balancer.circuitOf targetId ≠ some .halfOpen then 0
  else if (s.balancer.targets.get targetId).isNone then s.sends targetId
  else if call.sendsTo targetId then s.sends targetId + 1
  else if call.failsAt targetId then 0
  else s.sends targetId

def trialStep (s : TrialHistory) (call : BalancerCall) : Option TrialHistory :=
  (healthStep s.toHealthHistory call).map (fun history =>
    { toHealthHistory := history, sends := s.sendsAfter call history.balancer })

/-- A half open circuit is closed by the last of enough successful sends only. -/
def ClosedBySends (s : TrialHistory) : Prop :=
  ∀ call s', trialStep s call = some s' → ∀ targetId,
    s.balancer.circuitOf targetId = some .halfOpen → s'.balancer.circuitOf targetId = some .closed
    → call.sendsTo targetId = true ∧ s.balancer.successThreshold ≤ s'.sends targetId

/-- The call is no heartbeat that counts as a send on trial, unless a single send is enough. -/
def TrialHistory.CountsSendsOnly (s : TrialHistory) : BalancerCall → Prop
  | .recordTargetHeartbeat targetId true _ =>
    s.balancer.circuitOf targetId = some .halfOpen → s.balancer.successThreshold ≤ 1
  | _ => True

instance (s : TrialHistory) : ∀ call, Decidable (s.CountsSendsOnly call)
  | .recordTargetHeartbeat targetId true _ =>
    inferInstanceAs (Decidable (s.balancer.circuitOf targetId = some .halfOpen
      → s.balancer.successThreshold ≤ 1))
  | .recordTargetHeartbeat _ false _ => inferInstanceAs (Decidable True)
  | .addTarget _ _ => inferInstanceAs (Decidable True)
  | .removeTarget _ => inferInstanceAs (Decidable True)
  | .recordTargetSuccess _ _ => inferInstanceAs (Decidable True)
  | .recordTargetFailure _ _ => inferInstanceAs (Decidable True)
  | .refreshTargetHealth _ _ => inferInstanceAs (Decidable True)
  | .refreshTargets _ => inferInstanceAs (Decidable True)
  | .selectTarget _ _ => inferInstanceAs (Decidable True)

section Records

structure Balancer.KeepsTrial (targetId : String) (balancer balancer' : Balancer) : Prop where
  kept : ∀ health, balancer.runtimeHealth.get targetId = some health
    → health.circuitState = .halfOpen
    → ∃ health', balancer'.runtimeHealth.get targetId = some health'
      ∧ health'.circuitState = .halfOpen
      ∧ health'.consecutiveSuccesses = health.consecutiveSuccesses
  begun : ∀ health', balancer'.runtimeHealth.get targetId = some health'
    → health'.circuitState = .halfOpen
    → (∃ health, balancer.runtimeHealth.get targetId = some health ∧ health.circuitState = .halfOpen)
      ∨ health'.consecutiveSuccesses = 0

variable {targetId : String} {balancer balancer' : Balancer}

theorem Balancer.KeepsTrial.of_get
    (h : balancer'.runtimeHealth.get targetId = balancer.runtimeHealth.get targetId)
    : KeepsTrial targetId balancer balancer' where
  kept := by
    intro health hget hhalf
    rw [← h] at hget
    exact ⟨health, hget, hhalf, rfl⟩
  begun := by
    intro health hget hhalf
    rw [h] at hget
    exact .inl ⟨health, hget, hhalf⟩

theorem Balancer.KeepsTrial.trans {b₁ b₂ b₃ : Balancer} (h : KeepsTrial targetId b₁ b₂)
    (h' : KeepsTrial targetId b₂ b₃)
    : KeepsTrial targetId b₁ b₃ where
  kept := by
    intro health₁ hget₁ hhalf₁
    obtain ⟨health₂, hget₂, hhalf₂, hcount₂⟩ := h.kept health₁ hget₁ hhalf₁
    obtain ⟨health₃, hget₃, hhalf₃, hcount₃⟩ := h'.kept health₂ hget₂ hhalf₂
    exact ⟨health₃, hget₃, hhalf₃, hcount₃.trans hcount₂⟩
  begun := by
    intro health₃ hget₃ hhalf₃
    obtain ⟨health₂, hget₂, hhalf₂⟩ | hzero := h'.begun health₃ hget₃ hhalf₃
    . obtain hbefore | hzero := h.begun health₂ hget₂ hhalf₂
      . exact .inl hbefore
      . -- a trial that has just begun is kept by what follows
        obtain ⟨_, hget, _, hcount⟩ := h'.kept health₂ hget₂ hhalf₂
        cases hget.symm.trans hget₃
        exact .inr (hcount.trans hzero)
    . exact .inr hzero

theorem Balancer.healthAfterRefresh_trial (balancer : Balancer) (now : UInt64) (health : TargetHealth)
    : let health' := balancer.healthAfterRefresh now health
      (health'.circuitState = health.circuitState
        ∧ health'.consecutiveSuccesses = health.consecutiveSuccesses)
      ∨ (health.circuitState = .open ∧ health'.consecutiveSuccesses = 0) := by
  have hexpired : ∀ health : TargetHealth,
      let health' := if balancer.heartbeatExpired health now then { health with healthy := false }
        else health
      health'.circuitState = health.circuitState
        ∧ health'.consecutiveSuccesses = health.consecutiveSuccesses := by
    intro health
    dsimp only
    split
    . exact ⟨rfl, rfl⟩
    . exact ⟨rfl, rfl⟩
  unfold healthAfterRefresh
  dsimp only
  split
  . next hopen => exact .inr ⟨hopen.1, (hexpired _).2⟩
  . exact .inl (hexpired _)

theorem Balancer.get_updateHealth_cases (balancer : Balancer) (updatedId : String) (now : UInt64)
    (update : TargetHealth → TargetHealth) (targetId : String)
    : (updatedId = targetId ∧ (balancer.targets.get targetId).isSome
        ∧ (balancer.updateHealth updatedId now update).runtimeHealth.get targetId
          = some (update
            ((balancer.runtimeHealth.get targetId).getD (balancer.initialTargetHealth now))))
      ∨ (balancer.runtime.isSome → updatedId = targetId → balancer.targets.get targetId = none)
        ∧ balancer.KeepsTrial targetId (balancer.updateHealth updatedId now update) := by
  have hget := get_updateHealth balancer updatedId now update targetId
  split at hget
  . next hupdated =>
    obtain ⟨rfl, hthere, _⟩ := hupdated
    exact .inl ⟨rfl, hthere, hget⟩
  . next hother =>
    refine .inr ⟨?_, .of_get hget⟩
    rintro hruntime rfl
    rw [← Option.not_isSome_iff_eq_none]
    exact fun hthere => hother ⟨rfl, hthere, hruntime⟩

theorem Balancer.get_eq_some_of_halfOpen {now : UInt64}
    (hhalf : ((balancer.runtimeHealth.get targetId).getD
      (balancer.initialTargetHealth now)).circuitState = .halfOpen)
    : balancer.runtimeHealth.get targetId
        = some ((balancer.runtimeHealth.get targetId).getD (balancer.initialTargetHealth now)) := by
  cases hget : balancer.runtimeHealth.get targetId with
  | none =>
    rw [hget] at hhalf
    cases hhalf
  | some health => rfl

theorem Balancer.keepsTrial_refreshTargetHealth (balancer : Balancer) (targetId refreshedId : String)
    (now : UInt64)
    : KeepsTrial targetId balancer (balancer.refreshTargetHealth refreshedId now) := by
  obtain ⟨rfl, _, hget⟩ | ⟨_, hkeeps⟩ := balancer.get_updateHealth_cases refreshedId now
    (balancer.healthAfterRefresh now) targetId
  . have htrial := balancer.healthAfterRefresh_trial now
      ((balancer.runtimeHealth.get refreshedId).getD (balancer.initialTargetHealth now))
    constructor
    . intro health hbefore hhalf
      rw [hbefore, Option.getD_some] at hget htrial
      obtain ⟨hstate, hcount⟩ | ⟨hopen, _⟩ := htrial
      . exact ⟨_, hget, hstate.trans hhalf, hcount⟩
      . cases hopen.symm.trans hhalf
    . intro health' hafter hhalf
      cases Option.some.inj (hget.symm.trans hafter)
      obtain ⟨hstate, _⟩ | ⟨_, hzero⟩ := htrial
      . rw [hstate] at hhalf
        exact .inl ⟨_, get_eq_some_of_halfOpen hhalf, hhalf⟩
      . exact .inr hzero
  . exact hkeeps

theorem Balancer.keepsTrial_refreshTargets (balancer : Balancer) (targetId : String) (now : UInt64)
    : KeepsTrial targetId balancer (balancer.refreshTargets now) := by
  unfold refreshTargets
  induction balancer.targets.keys generalizing balancer with
  | nil => exact .of_get rfl
  | cons refreshedId targetIds ih =>
    exact (balancer.keepsTrial_refreshTargetHealth targetId refreshedId now).trans (ih _)

theorem Balancer.keepsTrial_selectTarget (balancer : Balancer) (key : Option String)
    (targetId : String) (now : UInt64)
    : KeepsTrial targetId balancer (balancer.selectTarget key now).2 := by
  have hrefresh : KeepsTrial targetId balancer (balancer.refreshOnSelect now) := by
    unfold refreshOnSelect
    split
    . exact balancer.keepsTrial_refreshTargets targetId now
    . exact .of_get rfl
  exact ⟨hrefresh.kept, hrefresh.begun⟩

theorem Balancer.keepsTrial_addTarget (balancer : Balancer) (targetId : String) (target : Target)
    (now : UInt64)
    : KeepsTrial targetId balancer (balancer.addTarget target now) := by
  unfold addTarget
  dsimp only
  split
  . next hnone =>
    rw [Bool.and_eq_true, Option.isNone_iff_eq_none] at hnone
    by_cases hid : targetId = target.id
    . subst hid
      constructor
      . intro health hbefore
        cases hnone.2.symm.trans hbefore
      . intro health' hafter hhalf
        dsimp only at hafter
        rw [IndexMap.get_insert_eq, if_pos rfl] at hafter
        cases hafter
        cases hhalf
    . refine .of_get ?_
      dsimp only
      rw [IndexMap.get_insert_eq, if_neg hid]
  . exact .of_get rfl

end Records

section Trials

variable {s s' : TrialHistory} {call : BalancerCall} {targetId : String} {health : TargetHealth}

inductive TrialMove (targetId : String) (balancer : Balancer) (call : BalancerCall)
    (balancer' : Balancer) : Prop where
  | removed (h : balancer'.runtimeHealth.get targetId = none)
  | keeps (hcall : balancer.runtime.isSome → call.failsAt targetId = true
      → balancer.targets.get targetId = none)
    (h : balancer.KeepsTrial targetId balancer')
  | success (now : UInt64) (hcall : call.sendsTo targetId = true)
    (hthere : (balancer.targets.get targetId).isSome)
    (h : balancer'.runtimeHealth.get targetId = some (balancer.healthAfterSuccess now
      ((balancer.runtimeHealth.get targetId).getD (balancer.initialTargetHealth now))))
  | failure (now : UInt64)
    (h : balancer'.runtimeHealth.get targetId = some (balancer.healthAfterFailure now
      ((balancer.runtimeHealth.get targetId).getD (balancer.initialTargetHealth now))))
  | heartbeat (now : UInt64) (healthy : Bool) (hcall : call = .recordTargetHeartbeat targetId healthy now)
    (h : balancer'.runtimeHealth.get targetId = some (healthAfterHeartbeat healthy now
      ((balancer.runtimeHealth.get targetId).getD (balancer.initialTargetHealth now))))

theorem TrialMove.of_keepsTrial {balancer balancer' : Balancer} (hcall : call.failsAt targetId = false)
    (h : balancer.KeepsTrial targetId balancer')
    : TrialMove targetId balancer call balancer' := by
  refine .keeps (fun _ hfails => ?_) h
  cases hcall.symm.trans hfails

theorem trialMove_of_healthStep {history history' : HealthHistory}
    (h : healthStep history call = some history') (targetId : String)
    : TrialMove targetId history.balancer call history'.balancer := by
  cases call with
  | addTarget target now =>
    cases h
    exact .of_keepsTrial rfl (history.balancer.keepsTrial_addTarget targetId target now)
  | removeTarget removedId =>
    cases h
    change TrialMove _ _ _ (history.balancer.removeTarget removedId)
    unfold removeTarget
    split
    . by_cases hid : targetId = removedId
      . refine .removed ?_
        dsimp only
        rw [IndexMap.get_shiftRemove_eq, if_pos hid]
      . refine .of_keepsTrial rfl (.of_get ?_)
        dsimp only
        rw [IndexMap.get_shiftRemove_eq, if_neg hid]
    . exact .of_keepsTrial rfl (.of_get rfl)
  | recordTargetSuccess updatedId now =>
    cases h
    obtain ⟨rfl, hthere, hget⟩ | ⟨_, hkeeps⟩ := history.balancer.get_updateHealth_cases updatedId now
      (history.balancer.healthAfterSuccess now) targetId
    . exact .success now (decide_eq_true rfl) hthere hget
    . exact .of_keepsTrial rfl hkeeps
  | recordTargetFailure updatedId now =>
    cases h
    obtain ⟨rfl, _, hget⟩ | ⟨habsent, hkeeps⟩ := history.balancer.get_updateHealth_cases updatedId now
      (history.balancer.healthAfterFailure now) targetId
    . exact .failure now hget
    . exact .keeps (fun hruntime hfails => habsent hruntime (of_decide_eq_true hfails)) hkeeps
  | recordTargetHeartbeat updatedId healthy now =>
    cases h
    obtain ⟨rfl, _, hget⟩ | ⟨_, hkeeps⟩ := history.balancer.get_updateHealth_cases updatedId now
      (healthAfterHeartbeat healthy now) targetId
    . exact .heartbeat now healthy rfl hget
    . exact .of_keepsTrial rfl hkeeps
  | refreshTargetHealth refreshedId now =>
    cases h
    exact .of_keepsTrial rfl (history.balancer.keepsTrial_refreshTargetHealth targetId refreshedId now)
  | refreshTargets now =>
    cases h
    exact .of_keepsTrial rfl (history.balancer.keepsTrial_refreshTargets targetId now)
  | selectTarget key now =>
    cases h
    exact .of_keepsTrial rfl (history.balancer.keepsTrial_selectTarget key targetId now)

theorem Balancer.circuitOf_eq_some_halfOpen_iff {balancer : Balancer}
    : balancer.circuitOf targetId = some .halfOpen
        ↔ balancer.runtime.isSome ∧ ∃ health, balancer.runtimeHealth.get targetId = some health
            ∧ health.circuitState = .halfOpen := by
  unfold circuitOf targetHealth
  split
  . next hruntime => simp [hruntime]
  . next hruntime => cases balancer.targets.get targetId <;> simp [hruntime]

theorem Balancer.circuitOf_eq {balancer : Balancer} (hruntime : balancer.runtime.isSome)
    (hget : balancer.runtimeHealth.get targetId = some health)
    : balancer.circuitOf targetId = some health.circuitState := by
  unfold circuitOf targetHealth
  rw [if_pos hruntime, hget]
  rfl

theorem healthAfterSuccess_cases (balancer : Balancer) (now : UInt64) (health : TargetHealth)
    : let health' := balancer.healthAfterSuccess now health
      (health'.circuitState = health.circuitState
        ∧ health'.consecutiveSuccesses = health.consecutiveSuccesses + 1)
      ∨ health'.circuitState = .closed
        ∧ balancer.successThreshold ≤ health.consecutiveSuccesses + 1 := by
  unfold healthAfterSuccess
  dsimp only
  split
  . next hcloses => exact .inr ⟨rfl, hcloses.2⟩
  . exact .inl ⟨rfl, rfl⟩

theorem healthAfterFailure_ne_halfOpen (balancer : Balancer) (now : UInt64) (health : TargetHealth)
    : (balancer.healthAfterFailure now health).circuitState ≠ .halfOpen := by
  unfold healthAfterFailure
  dsimp only
  split
  . nofun
  . next hclosed =>
    split
    . nofun
    . intro hhalf
      cases hclosed.symm.trans hhalf
  . next hopen =>
    intro hhalf
    cases hopen.symm.trans hhalf

def TrialsCounted (s : TrialHistory) : Prop :=
  ∀ targetId health, s.balancer.runtime.isSome → s.balancer.runtimeHealth.get targetId = some health
    → health.circuitState = .halfOpen
    → s.balancer.successThreshold ≤ 1 ∨ health.consecutiveSuccesses ≤ s.sends targetId

theorem trialStep_eq_some (h : trialStep s call = some s')
    : healthStep s.toHealthHistory call = some s'.toHealthHistory
      ∧ s'.sends = s.sendsAfter call s'.balancer := by
  obtain ⟨history, hstep, rfl⟩ := Option.map_eq_some_iff.mp h
  exact ⟨hstep, rfl⟩

theorem TrialHistory.sendsAfter_of_sendsTo {balancer' : Balancer}
    (hbefore : s.balancer.circuitOf targetId = some .halfOpen)
    (hthere : (s.balancer.targets.get targetId).isSome) (hcall : call.sendsTo targetId = true)
    : s.sendsAfter call balancer' targetId = s.sends targetId + 1 := by
  unfold sendsAfter
  rw [if_neg (fun h => h.2 hbefore), if_neg, if_pos hcall]
  rw [Option.isNone_iff_eq_none, ← Option.not_isSome_iff_eq_none]
  exact not_not_intro hthere

theorem TrialHistory.sends_le_sendsAfter {balancer' : Balancer}
    (hbefore : s.balancer.circuitOf targetId = some .halfOpen)
    (hcall : call.failsAt targetId = true → s.balancer.targets.get targetId = none)
    : s.sends targetId ≤ s.sendsAfter call balancer' targetId := by
  unfold sendsAfter
  rw [if_neg (fun h => h.2 hbefore)]
  split
  . exact Nat.le_refl _
  . next hthere =>
    split
    . exact Nat.le_succ _
    . split
      . next hfails =>
        rw [hcall hfails] at hthere
        exact absurd rfl hthere
      . exact Nat.le_refl _

theorem successThreshold_trialStep (h : trialStep s call = some s')
    : s'.balancer.successThreshold = s.balancer.successThreshold := by
  unfold successThreshold circuitBreaker
  rw [runtime_healthStep (trialStep_eq_some h).1]

theorem TrialsCounted.step (hs : TrialsCounted s) (hguard : s.CountsSendsOnly call)
    (h : trialStep s call = some s')
    : TrialsCounted s' := by
  obtain ⟨hstep, hsends⟩ := trialStep_eq_some h
  intro targetId health' hruntime hget' hhalf'
  rw [runtime_healthStep hstep] at hruntime
  rw [successThreshold_trialStep h, hsends]
  cases trialMove_of_healthStep hstep targetId with
  | removed hnone => cases hnone.symm.trans hget'
  | keeps hcall hkeeps =>
    obtain ⟨health, hget, hhalf⟩ | hzero := hkeeps.begun health' hget' hhalf'
    . obtain ⟨_, hsome, _, hcount⟩ := hkeeps.kept health hget hhalf
      cases hsome.symm.trans hget'
      rw [hcount]
      apply (hs targetId health hruntime hget hhalf).imp_right
      intro hle
      refine Nat.le_trans hle (TrialHistory.sends_le_sendsAfter ?_ (hcall hruntime))
      rw [circuitOf_eq hruntime hget, hhalf]
    . rw [hzero]
      exact .inr (Nat.zero_le _)
  | success now hcall hthere hget =>
    cases Option.some.inj (hget.symm.trans hget')
    obtain ⟨hstate, hcount⟩ | ⟨hclosed, _⟩ := healthAfterSuccess_cases s.balancer now
      ((s.balancer.runtimeHealth.get targetId).getD (s.balancer.initialTargetHealth now))
    . rw [hstate] at hhalf'
      have hbefore := get_eq_some_of_halfOpen hhalf'
      apply (hs targetId _ hruntime hbefore hhalf').imp_right
      intro hle
      rw [hcount, TrialHistory.sendsAfter_of_sendsTo _ hthere hcall]
      . exact Nat.succ_le_succ hle
      . rw [circuitOf_eq hruntime hbefore, hhalf']
    . cases hclosed.symm.trans hhalf'
  | failure now hget =>
    cases Option.some.inj (hget.symm.trans hget')
    exact absurd hhalf' (healthAfterFailure_ne_halfOpen _ now _)
  | heartbeat now healthy hcall hget =>
    cases Option.some.inj (hget.symm.trans hget')
    cases healthy with
    | false => exact .inr (Nat.zero_le _)
    | true =>
      -- the heartbeat is counted, which the guard allows if a single send is enough
      subst hcall
      have hbefore := get_eq_some_of_halfOpen hhalf'
      refine .inl (hguard ?_)
      rw [circuitOf_eq hruntime hbefore]
      exact congrArg some hhalf'

theorem TrialsCounted.closedBySends (hs : TrialsCounted s) : ClosedBySends s := by
  intro call s' h targetId hhalf hclosed
  obtain ⟨hstep, hsends⟩ := trialStep_eq_some h
  obtain ⟨hruntime, health, hget, hstate⟩ := circuitOf_eq_some_halfOpen_iff.mp hhalf
  have hruntime' : s'.balancer.runtime.isSome := by
    rw [runtime_healthStep hstep]
    exact hruntime
  cases trialMove_of_healthStep hstep targetId with
  | removed hnone =>
    unfold circuitOf targetHealth at hclosed
    rw [if_pos hruntime', hnone] at hclosed
    cases hclosed
  | keeps _ hkeeps =>
    obtain ⟨health', hget', hhalf', _⟩ := hkeeps.kept health hget hstate
    rw [circuitOf_eq hruntime' hget', hhalf'] at hclosed
    cases hclosed
  | success now hcall hthere hget' =>
    refine ⟨hcall, ?_⟩
    rw [hget, Option.getD_some] at hget'
    rw [circuitOf_eq hruntime' hget'] at hclosed
    obtain ⟨hsame, _⟩ | ⟨_, hreached⟩ := healthAfterSuccess_cases s.balancer now health
    . rw [hsame, hstate] at hclosed
      cases hclosed
    . rw [hsends, TrialHistory.sendsAfter_of_sendsTo hhalf hthere hcall]
      have hcounted := hs targetId health hruntime hget hstate
      omega
  | failure now hget' =>
    rw [hget, Option.getD_some] at hget'
    rw [circuitOf_eq hruntime' hget'] at hclosed
    unfold healthAfterFailure at hclosed
    simp only [hstate] at hclosed
    cases hclosed
  | heartbeat now healthy _ hget' =>
    rw [hget, Option.getD_some] at hget'
    rw [circuitOf_eq hruntime' hget'] at hclosed
    cases hstate.symm.trans (Option.some.inj hclosed)

end Trials

/--
Along the runs in which no heartbeat counts as a send on trial, half open circuits are closed by enough
successful sends only.
-/
theorem always_closedBySends (strategy : BalancerStrategy) (runtime : Option Balancer.RuntimeConfig)
    (calls : List BalancerCall)
    (hguarded : Runs.Guarded trialStep TrialHistory.CountsSendsOnly
      { balancer := .new strategy runtime } calls)
    : Runs.Always trialStep ClosedBySends { balancer := .new strategy runtime } calls := by
  apply Runs.Always.mono (fun _ h => TrialsCounted.closedBySends h)
  apply Runs.always_of_guarded _ _ hguarded
  . intro s call s' hs hguard hstep
    exact hs.step hguard hstep
  . intro targetId health _ hget
    cases hget

def trialConfig : Balancer.RuntimeConfig where
  circuitBreaker := some { failureThreshold := 1, successThreshold := 2, cooldownMs := 10 }

theorem always_closedBySends_twoSends
    : Runs.Always trialStep ClosedBySends { balancer := .new .roundRobin trialConfig }
        [.addTarget { id := "alpha" } 0, .recordTargetHeartbeat "alpha" true 1,
          .recordTargetFailure "alpha" 2, .refreshTargetHealth "alpha" 12,
          .recordTargetSuccess "alpha" 13, .recordTargetSuccess "alpha" 14] := by
  exact always_closedBySends _ _ _ (by decide +kernel)

/-- Two sends in a row are needed, but `alpha` is closed by a heartbeat and one send. -/
theorem not_always_closedBySends
    : ¬ Runs.Always trialStep ClosedBySends { balancer := .new .roundRobin trialConfig }
        [.addTarget { id := "alpha" } 0, .recordTargetFailure "alpha" 2,
          .refreshTargetHealth "alpha" 12, .recordTargetHeartbeat "alpha" true 13] := by
  intro h
  have hrun : (Runs.run trialStep { balancer := .new .roundRobin trialConfig }
        [.addTarget { id := "alpha" } 0, .recordTargetFailure "alpha" 2,
          .refreshTargetHealth "alpha" 12, .recordTargetHeartbeat "alpha" true 13]).bind (fun s =>
      (trialStep s (.recordTargetSuccess "alpha" 14)).map (fun s' =>
        (s.balancer.circuitOf "alpha", s'.balancer.circuitOf "alpha", s'.sends "alpha",
          s.balancer.successThreshold)))
      = some (some .halfOpen, some .closed, 1, 2) := by
    decide +kernel
  obtain ⟨s, hs, hnext⟩ := Option.bind_eq_some_iff.mp hrun
  obtain ⟨s', hstep, hfacts⟩ := Option.map_eq_some_iff.mp hnext
  obtain ⟨hhalf, hfacts⟩ := Prod.mk.inj hfacts
  obtain ⟨hclosed, hfacts⟩ := Prod.mk.inj hfacts
  obtain ⟨hsends, hthreshold⟩ := Prod.mk.inj hfacts
  have hreached := (h.run_eq_some hs _ s' hstep "alpha" hhalf hclosed).2
  rw [hsends, hthreshold] at hreached
  exact absurd hreached (by decide)

end AnimaAgent
