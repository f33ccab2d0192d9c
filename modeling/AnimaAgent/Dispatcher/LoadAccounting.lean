import AnimaAgent.Dispatcher.Balancer
import AnimaAgent.Library.Runs
import Mathlib.Data.List.Induction

namespace AnimaAgent

inductive BalancedDispatch where
  | started (message : DispatchMessage)
  | refreshing (message : DispatchMessage) (now : UInt64) (targetIds : List String)
  /-- `Balancer::select_target` copies the targets. -/
  | copying (message : DispatchMessage)
  | refreshingOnSelect (message : DispatchMessage) (copied : IndexMap String Target) (now : UInt64)
    (targetIds : List String)
  | reading (message : DispatchMessage) (copied : IndexMap String Target) (now : UInt64)
  | weighing (message : DispatchMessage) (copied : IndexMap String Target)
    (runtimeHealth : IndexMap String Balancer.TargetHealth) (now : UInt64)
  /-- `before_send` is called. -/
  | chosen (message : DispatchMessage) (target : Target)
  | sending (message : DispatchMessage) (target : Option Target)
  /-- `after_dispatch` is called. -/
  | completing (target : Option Target) (success sendAttempted : Bool)
  | updating (target : Target) (success : Bool)
  | done (target : Option Target) (success : Bool)

structure BalancedAnswers where
  now : UInt64 := 0
  findChannel : String → String → ChannelLookup := fun _ _ =>
    { reason := .channelMissing, channel := none }

def BalancedDispatch.advance (channels : List String) (answers : BalancedAnswers) (balancer : Balancer)
    : BalancedDispatch → Option (Balancer × BalancedDispatch)
  | .started message =>
    some (balancer,
      if message.channel ∈ channels then .refreshing message answers.now balancer.targets.keys
      else .sending message none)
  | .refreshing message now (targetId :: targetIds) =>
    some (balancer.refreshTargetHealth targetId now, .refreshing message now targetIds)
  | .refreshing message _ [] => some (balancer, .copying message)
  | .copying message =>
    let checkOnSelect := (balancer.healthPolicy.map Balancer.HealthPolicy.checkOnSelect).getD false
    some (balancer, .refreshingOnSelect message balancer.targets answers.now
      (if checkOnSelect then balancer.targets.keys else []))
  | .refreshingOnSelect message copied now (targetId :: targetIds) =>
    some (balancer.refreshTargetHealth targetId now,
      .refreshingOnSelect message copied now targetIds)
  | .refreshingOnSelect message copied now [] => some (balancer, .reading message copied now)
  | .reading message copied now =>
    some (balancer, .weighing message copied balancer.runtimeHealth now)
  | .weighing message copied runtimeHealth now =>
    let selection := balancer.chooseTarget copied runtimeHealth balancer.roundRobinCursor
      message.selectionKey now
    some ({ balancer with roundRobinCursor := selection.cursor },
      match selection.target with
      | some target => .chosen message target
      | none => .sending message none)
  | .chosen message target =>
    some ({ balancer with
        targets := Balancer.updateLoad balancer.targets target.id .inc answers.now },
      .sending message (some target))
  | .sending message target =>
    let accountId := (target.map Target.id).getD message.accountId
    match (answers.findChannel message.channel accountId).channel with
    | none => some (balancer, .completing target false false)
    | some channel =>
      let result := channel message.target message.content
        { media := message.media, stage := some message.stage }
      some (balancer, .completing target result.success true)
  | .completing none success _ => some (balancer, .done none success)
  | .completing (some target) true _ =>
    some (balancer.recordTargetSuccess target.id answers.now, .updating target true)
  | .completing (some target) false sendAttempted =>
    some (if sendAttempted then balancer.recordTargetFailure target.id answers.now else balancer,
      .updating target false)
  | .updating target success =>
    some ({ balancer with
        targets := Balancer.updateLoad balancer.targets target.id (if success then .dec else .error)
          answers.now },
      .done (some target) success)
  | .done _ _ => none

inductive LoadAction where
  | dispatch (message : DispatchMessage)
  | step (i : Nat) (answers : BalancedAnswers)

def loadStep (channels : List String) (s : Threads Balancer BalancedDispatch)
    : LoadAction → Option (Threads Balancer BalancedDispatch)
  | .dispatch message => some (s.start (.started message))
  | .step i answers => s.advance (BalancedDispatch.advance channels answers) i

namespace BalancedDispatch

def counted : BalancedDispatch → Option (String × Option Bool)
  | .sending _ (some target) => some (target.id, none)
  | .completing (some target) _ _ => some (target.id, none)
  | .updating target _ => some (target.id, none)
  | .done (some target) success => some (target.id, some (!success))
  | _ => none

def inFlight (targetId : String) (dispatch : BalancedDispatch) : Bool :=
  decide (dispatch.counted = some (targetId, none))

def hasSelected (targetId : String) (dispatch : BalancedDispatch) : Bool :=
  decide (dispatch.counted.map Prod.fst = some targetId)

def hasFailed (targetId : String) (dispatch : BalancedDispatch) : Bool :=
  decide (dispatch.counted = some (targetId, some true))

end BalancedDispatch

structure AccountsFor (threads : List BalancedDispatch) (targetId : String) (before load : TargetLoad)
    : Prop where
  active : load.active = before.active + threads.countP (BalancedDispatch.inFlight targetId)
  total : load.total = before.total + threads.countP (BalancedDispatch.hasSelected targetId)
  errors : load.errors = before.errors + threads.countP (BalancedDispatch.hasFailed targetId)

/-- What the loads say about the calls, where `before` is the balancer before all of them. -/
structure AccountsForLoads (before : Balancer) (s : Threads Balancer BalancedDispatch) : Prop where
  loads : ∀ targetId target, before.targets.get targetId = some target
    → ∃ target', s.shared.targets.get targetId = some target'
      ∧ AccountsFor s.threads targetId target.load target'.load
  decrements : ∀ target success, .updating target success ∈ s.threads
    → ∃ target', s.shared.targets.get target.id = some target' ∧ 0 < target'.load.active
  idle : ∀ targetId target target', before.targets.get targetId = some target
    → target.load.active = 0 → s.shared.targets.get targetId = some target'
    → (∀ dispatch ∈ s.threads, dispatch.inFlight targetId = false) → target'.load.active = 0

namespace Balancer

section Choice

theorem mem_of_selectRoundRobin {cursor : Option Nat} {targets : List Target} {target : Target}
    (h : (selectRoundRobin cursor targets).1 = some target)
    : target ∈ targets := by
  unfold selectRoundRobin at h
  split at h
  . cases h
  . exact List.mem_of_getElem? h

theorem mem_of_selectLeastConnections {targets : List Target} {target : Target}
    (h : selectLeastConnections targets = some target)
    : target ∈ targets := by
  unfold selectLeastConnections at h
  induction targets using List.reverseRecOn generalizing target with
  | nil => cases h
  | append_singleton targets last ih =>
    rw [List.foldl_concat] at h
    split at h
    . cases h
      exact List.mem_append_right _ (List.mem_singleton_self _)
    . next best hbest =>
      split at h
      . cases h
        exact List.mem_append_right _ (List.mem_singleton_self _)
      . cases h
        exact List.mem_append_left _ (ih hbest)

theorem mem_of_selectByStrategy {balancer : Balancer} {cursor : Option Nat} {targets : List Target}
    {key : Option String} {target : Target}
    (h : (balancer.selectByStrategy cursor targets key).1 = some target)
    : target ∈ targets := by
  unfold selectByStrategy at h
  split at h
  . exact mem_of_selectRoundRobin h
  . obtain ⟨other, hmem, hreplicate⟩ := List.mem_flatMap.mp (mem_of_selectRoundRobin h)
    cases List.eq_of_mem_replicate hreplicate
    exact hmem
  . exact mem_of_selectLeastConnections h
  . obtain ⟨index, _, hget⟩ := Option.bind_eq_some_iff.mp h
    exact List.mem_of_getElem? hget

theorem get_of_chooseTarget {balancer : Balancer} {targets : IndexMap String Target}
    {runtimeHealth : IndexMap String TargetHealth} {cursor : Option Nat} {key : Option String}
    {now : UInt64} {target : Target}
    (h : (balancer.chooseTarget targets runtimeHealth cursor key now).target = some target)
    : ∃ targetId, targets.get targetId = some target := by
  obtain ⟨targetId, _, hget⟩ := List.mem_filterMap.mp (mem_of_selectByStrategy h)
  exact ⟨targetId, hget⟩

end Choice

theorem get_updateLoad (targets : IndexMap String Target) (targetId : String) (op : LoadUpdate)
    (now : UInt64) (other : String)
    : (updateLoad targets targetId op now).get other
        = if other = targetId then
            (targets.get targetId).map (fun target =>
              { target with load := target.load.update now op })
          else targets.get other := by
  unfold updateLoad
  cases hget : targets.get targetId with
  | none =>
    dsimp only
    split
    . next hother => rw [hother, hget, Option.map_none]
    . rfl
  | some target =>
    dsimp only
    rw [IndexMap.get_insert_eq, Option.map_some]

def Keyed (targets : IndexMap String Target) : Prop :=
  ∀ targetId target, targets.get targetId = some target → target.id = targetId

theorem Keyed.addTarget {balancer : Balancer} (h : Keyed balancer.targets) (target : Target)
    (now : UInt64)
    : Keyed (balancer.addTarget target now).targets := by
  have htargets : (balancer.addTarget target now).targets = balancer.targets.insert target.id target := by
    unfold Balancer.addTarget
    dsimp only
    split
    . rfl
    . rfl
  rw [htargets]
  intro targetId other hget
  obtain ⟨rfl, rfl⟩ | hold := IndexMap.get_insert hget
  . rfl
  . exact h targetId other hold

end Balancer

section Invariant

variable {known : String → Prop} {threads : List BalancedDispatch} {i : Nat}
  {dispatch dispatch' : BalancedDispatch}

def BalancedDispatch.Knows (known : String → Prop) : BalancedDispatch → Prop
  | .refreshingOnSelect _ copied _ _ => ∀ targetId target, copied.get targetId = some target
    → known target.id
  | .reading _ copied _ => ∀ targetId target, copied.get targetId = some target → known target.id
  | .weighing _ copied _ _ => ∀ targetId target, copied.get targetId = some target → known target.id
  | .chosen _ target => known target.id
  | .sending _ (some target) => known target.id
  | .completing (some target) _ _ => known target.id
  | .updating target _ => known target.id
  | _ => True

theorem AccountsFor.step {targetId : String} {before load load' : TargetLoad}
    (h : AccountsFor threads targetId before load) (hi : threads[i]? = some dispatch)
    (hactive : load'.active + (dispatch.inFlight targetId).toNat
      = load.active + (dispatch'.inFlight targetId).toNat)
    (htotal : load'.total + (dispatch.hasSelected targetId).toNat
      = load.total + (dispatch'.hasSelected targetId).toNat)
    (herrors : load'.errors + (dispatch.hasFailed targetId).toNat
      = load.errors + (dispatch'.hasFailed targetId).toNat)
    : AccountsFor (threads.set i dispatch') targetId before load' := by
  have hcount : ∀ P : BalancedDispatch → Bool,
      (threads.set i dispatch').countP P + (P dispatch).toNat
        = threads.countP P + (P dispatch').toNat :=
    fun P => Threads.countP_set (σ := Unit) (s := { shared := (), threads }) dispatch' hi
  have h₁ := hcount (BalancedDispatch.inFlight targetId)
  have h₂ := hcount (BalancedDispatch.hasSelected targetId)
  have h₃ := hcount (BalancedDispatch.hasFailed targetId)
  obtain ⟨h₄, h₅, h₆⟩ := h
  constructor <;> omega

inductive BalancedDispatch.StepsTo (dispatch : BalancedDispatch) (balancer : Balancer)
    (dispatch' : BalancedDispatch) (balancer' : Balancer) : Prop where
  | keeps (targets : balancer'.targets = balancer.targets)
    (counted : dispatch'.counted = dispatch.counted)
  | selects (target : Target) (now : UInt64)
    (targets : balancer'.targets = Balancer.updateLoad balancer.targets target.id .inc now)
    (before : dispatch.counted = none) (after : dispatch'.counted = some (target.id, none))
  | completes (target : Target) (success : Bool) (now : UInt64)
    (targets : balancer'.targets
      = Balancer.updateLoad balancer.targets target.id (if success then .dec else .error) now)
    (before : dispatch.counted = some (target.id, none))
    (after : dispatch'.counted = some (target.id, some (!success)))

theorem BalancedDispatch.advance_stepsTo {channels : List String} {answers : BalancedAnswers}
    {balancer balancer' : Balancer} (h : dispatch.advance channels answers balancer
      = some (balancer', dispatch'))
    : dispatch.StepsTo balancer dispatch' balancer' := by
  cases dispatch with
  | started message =>
    cases h
    refine .keeps rfl ?_
    split
    . rfl
    . rfl
  | refreshing message now targetIds =>
    cases targetIds with
    | nil =>
      cases h
      exact .keeps rfl rfl
    | cons targetId targetIds =>
      cases h
      exact .keeps (Balancer.runtime_updateHealth _ _ _ _).2 rfl
  | copying message =>
    cases h
    exact .keeps rfl rfl
  | refreshingOnSelect message copied now targetIds =>
    cases targetIds with
    | nil =>
      cases h
      exact .keeps rfl rfl
    | cons targetId targetIds =>
      cases h
      exact .keeps (Balancer.runtime_updateHealth _ _ _ _).2 rfl
  | reading message copied now =>
    cases h
    exact .keeps rfl rfl
  | weighing message copied runtimeHealth now =>
    cases h
    refine .keeps rfl ?_
    split
    . rfl
    . rfl
  | chosen message target =>
    cases h
    exact .selects target answers.now rfl rfl rfl
  | sending message target =>
    have hcounted : ∀ success sendAttempted,
        (BalancedDispatch.completing target success sendAttempted).counted
          = (BalancedDispatch.sending message target).counted := by
      intro success sendAttempted
      cases target with
      | none => rfl
      | some target => rfl
    simp only [advance] at h
    split at h
    . cases h
      exact .keeps rfl (hcounted _ _)
    . cases h
      exact .keeps rfl (hcounted _ _)
  | completing target success sendAttempted =>
    cases target with
    | none =>
      cases h
      exact .keeps rfl rfl
    | some target =>
      cases success with
      | true =>
        cases h
        exact .keeps (Balancer.runtime_updateHealth _ _ _ _).2 rfl
      | false =>
        cases h
        refine .keeps ?_ rfl
        split
        . exact (Balancer.runtime_updateHealth _ _ _ _).2
        . rfl
  | updating target success =>
    cases h
    exact .completes target success answers.now rfl rfl rfl
  | done target success => cases h

theorem BalancedDispatch.Knows.advance {channels : List String} {answers : BalancedAnswers}
    {balancer balancer' : Balancer} (h : dispatch.Knows known)
    (hbalancer : ∀ targetId target, balancer.targets.get targetId = some target → known target.id)
    (hstep : dispatch.advance channels answers balancer = some (balancer', dispatch'))
    : dispatch'.Knows known := by
  cases dispatch with
  | started message =>
    cases hstep
    split
    . trivial
    . trivial
  | refreshing message now targetIds =>
    cases targetIds with
    | nil =>
      cases hstep
      trivial
    | cons targetId targetIds =>
      cases hstep
      trivial
  | copying message =>
    cases hstep
    exact hbalancer
  | refreshingOnSelect message copied now targetIds =>
    cases targetIds with
    | nil =>
      cases hstep
      exact h
    | cons targetId targetIds =>
      cases hstep
      exact h
  | reading message copied now =>
    cases hstep
    exact h
  | weighing message copied runtimeHealth now =>
    cases hstep
    split
    . next target hchosen =>
      obtain ⟨targetId, hget⟩ := Balancer.get_of_chooseTarget hchosen
      exact h targetId target hget
    . trivial
  | chosen message target =>
    cases hstep
    exact h
  | sending message target =>
    simp only [BalancedDispatch.advance] at hstep
    split at hstep
    . cases hstep
      cases target with
      | none => trivial
      | some target => exact h
    . cases hstep
      cases target with
      | none => trivial
      | some target => exact h
  | completing target success sendAttempted =>
    cases target with
    | none =>
      cases hstep
      trivial
    | some target =>
      cases success with
      | true =>
        cases hstep
        exact h
      | false =>
        cases hstep
        exact h
  | updating target success =>
    cases hstep
    trivial
  | done target success => cases hstep

structure LoadInvariant (before : Balancer) (s : Threads Balancer BalancedDispatch) : Prop where
  keyed : Balancer.Keyed s.shared.targets
  known : ∀ targetId target, s.shared.targets.get targetId = some target
    → (before.targets.get target.id).isSome
  knows : ∀ dispatch ∈ s.threads, dispatch.Knows (fun targetId => (before.targets.get targetId).isSome)
  loads : ∀ targetId target, before.targets.get targetId = some target
    → ∃ target', s.shared.targets.get targetId = some target'
      ∧ AccountsFor s.threads targetId target.load target'.load

theorem AccountsFor.of_counted {targetId : String} {before load : TargetLoad}
    (h : AccountsFor threads targetId before load) (hi : threads[i]? = some dispatch)
    (hcounted : dispatch'.counted = dispatch.counted)
    : AccountsFor (threads.set i dispatch') targetId before load := by
  apply h.step hi
  . unfold BalancedDispatch.inFlight
    rw [hcounted]
  . unfold BalancedDispatch.hasSelected
    rw [hcounted]
  . unfold BalancedDispatch.hasFailed
    rw [hcounted]

theorem AccountsFor.selects {targetId selectedId : String} {before load : TargetLoad}
    (h : AccountsFor threads targetId before load) (hi : threads[i]? = some dispatch)
    (hbefore : dispatch.counted = none) (hafter : dispatch'.counted = some (selectedId, none))
    (now : UInt64)
    : AccountsFor (threads.set i dispatch') targetId before
        (if targetId = selectedId then load.update now .inc else load) := by
  by_cases hid : targetId = selectedId
  . subst hid
    rw [if_pos rfl]
    apply h.step hi
    . simp [BalancedDispatch.inFlight, hbefore, hafter, TargetLoad.update]
    . simp [BalancedDispatch.hasSelected, hbefore, hafter, TargetLoad.update]
    . simp [BalancedDispatch.hasFailed, hbefore, hafter, TargetLoad.update]
  . have hne : selectedId ≠ targetId := fun heq => hid heq.symm
    rw [if_neg hid]
    apply h.step hi
    . simp [BalancedDispatch.inFlight, hbefore, hafter, hne]
    . simp [BalancedDispatch.hasSelected, hbefore, hafter, hne]
    . simp [BalancedDispatch.hasFailed, hbefore, hafter]

theorem AccountsFor.completes {targetId selectedId : String} {before load : TargetLoad}
    {success : Bool} (h : AccountsFor threads targetId before load) (hi : threads[i]? = some dispatch)
    (hbefore : dispatch.counted = some (selectedId, none))
    (hafter : dispatch'.counted = some (selectedId, some (!success))) (now : UInt64)
    : AccountsFor (threads.set i dispatch') targetId before
        (if targetId = selectedId then load.update now (if success then .dec else .error)
          else load) := by
  by_cases hid : targetId = selectedId
  . subst hid
    rw [if_pos rfl]
    -- the call itself is in flight, so that the count is not zero
    have hpos : 0 < load.active := by
      have hcount : 0 < threads.countP (BalancedDispatch.inFlight targetId) := by
        refine List.countP_pos_iff.mpr ⟨dispatch, List.mem_of_getElem? hi, ?_⟩
        simp [BalancedDispatch.inFlight, hbefore]
      rw [h.active]
      omega
    cases success with
    | true =>
      apply h.step hi
      . simp [BalancedDispatch.inFlight, hbefore, hafter, TargetLoad.update]
        omega
      . simp [BalancedDispatch.hasSelected, hbefore, hafter, TargetLoad.update]
      . simp [BalancedDispatch.hasFailed, hbefore, hafter, TargetLoad.update]
    | false =>
      apply h.step hi
      . simp [BalancedDispatch.inFlight, hbefore, hafter, TargetLoad.update]
        omega
      . simp [BalancedDispatch.hasSelected, hbefore, hafter, TargetLoad.update]
      . simp [BalancedDispatch.hasFailed, hbefore, hafter, TargetLoad.update]
  . have hne : selectedId ≠ targetId := fun heq => hid heq.symm
    rw [if_neg hid]
    apply h.step hi
    . simp [BalancedDispatch.inFlight, hbefore, hafter, hne]
    . simp [BalancedDispatch.hasSelected, hbefore, hafter]
    . simp [BalancedDispatch.hasFailed, hbefore, hafter, hne]

variable {before : Balancer} {s s' : Threads Balancer BalancedDispatch}

theorem LoadInvariant.accountsForLoads (h : LoadInvariant before s) : AccountsForLoads before s := by
  refine ⟨h.loads, ?_, ?_⟩
  . intro target success hmem
    obtain ⟨target₀, hbefore⟩ := Option.isSome_iff_exists.mp (h.knows _ hmem)
    obtain ⟨target', hget, haccounts⟩ := h.loads target.id target₀ hbefore
    refine ⟨target', hget, ?_⟩
    have hcount : 0 < s.threads.countP (BalancedDispatch.inFlight target.id) :=
      List.countP_pos_iff.mpr ⟨_, hmem, decide_eq_true rfl⟩
    rw [haccounts.active]
    omega
  . intro targetId target target' hbefore hzero hget hnone
    obtain ⟨_, hget', haccounts⟩ := h.loads targetId target hbefore
    cases hget.symm.trans hget'
    rw [haccounts.active, hzero, Nat.zero_add, List.countP_eq_zero]
    intro dispatch hmem hflight
    exact Bool.false_ne_true ((hnone dispatch hmem).symm.trans hflight)

theorem LoadInvariant.start (h : LoadInvariant before s) (message : DispatchMessage)
    : LoadInvariant before (s.start (.started message)) where
  keyed := h.keyed
  known := h.known
  knows := by
    intro dispatch hmem
    obtain hold | hnew := List.mem_append.mp hmem
    . exact h.knows dispatch hold
    . rw [List.mem_singleton.mp hnew]
      trivial
  loads := by
    intro targetId target hbefore
    obtain ⟨target', hget, hactive, htotal, herrors⟩ := h.loads targetId target hbefore
    refine ⟨target', hget, ?_⟩
    unfold Threads.start
    constructor
    . rw [List.countP_append]
      exact hactive
    . rw [List.countP_append]
      exact htotal
    . rw [List.countP_append]
      exact herrors

theorem LoadInvariant.keyed_updateLoad (h : LoadInvariant before s) (selectedId : String)
    (op : LoadUpdate) (now : UInt64)
    : Balancer.Keyed (Balancer.updateLoad s.shared.targets selectedId op now)
      ∧ ∀ targetId target, (Balancer.updateLoad s.shared.targets selectedId op now).get targetId
          = some target → (before.targets.get target.id).isSome := by
  have hold : ∀ targetId target,
      (Balancer.updateLoad s.shared.targets selectedId op now).get targetId = some target
      → ∃ old, s.shared.targets.get targetId = some old ∧ target.id = old.id := by
    intro targetId target hget
    rw [Balancer.get_updateLoad] at hget
    split at hget
    . next hid =>
      obtain ⟨old, hsome, rfl⟩ := Option.map_eq_some_iff.mp hget
      exact ⟨old, hid ▸ hsome, rfl⟩
    . exact ⟨target, hget, rfl⟩
  constructor
  . intro targetId target hget
    obtain ⟨old, hsome, hid⟩ := hold targetId target hget
    rw [hid]
    exact h.keyed targetId old hsome
  . intro targetId target hget
    obtain ⟨old, hsome, hid⟩ := hold targetId target hget
    rw [hid]
    exact h.known targetId old hsome

theorem LoadInvariant.advance (h : LoadInvariant before s) {channels : List String}
    {answers : BalancedAnswers} {balancer' : Balancer} (hi : s.threads[i]? = some dispatch)
    (hstep : dispatch.advance channels answers s.shared = some (balancer', dispatch'))
    : LoadInvariant before { shared := balancer', threads := s.threads.set i dispatch' } := by
  have hknown := h.knows dispatch (List.mem_of_getElem? hi)
  have hknows : ∀ other ∈ s.threads.set i dispatch',
      other.Knows (fun targetId => (before.targets.get targetId).isSome) := by
    intro other hmem
    obtain rfl | ⟨j, _, hj⟩ := Threads.mem_set hmem
    . exact hknown.advance h.known hstep
    . exact h.knows other (List.mem_of_getElem? hj)
  cases dispatch.advance_stepsTo hstep with
  | keeps htargets hcounted =>
    refine ⟨?_, ?_, hknows, ?_⟩
    . dsimp only
      rw [htargets]
      exact h.keyed
    . dsimp only
      rw [htargets]
      exact h.known
    . intro targetId target hbefore
      obtain ⟨target', hget, haccounts⟩ := h.loads targetId target hbefore
      exact ⟨target', htargets ▸ hget, haccounts.of_counted hi hcounted⟩
  | selects selected now htargets hnone hcounted =>
    obtain ⟨hkeyed, hknown'⟩ := h.keyed_updateLoad selected.id .inc now
    refine ⟨htargets ▸ hkeyed, htargets ▸ hknown', hknows, ?_⟩
    intro targetId target hbefore
    obtain ⟨target', hget, haccounts⟩ := h.loads targetId target hbefore
    have hafter := haccounts.selects hi hnone hcounted now
    dsimp only
    rw [htargets, Balancer.get_updateLoad]
    by_cases hid : targetId = selected.id
    . rw [if_pos hid] at hafter ⊢
      rw [← hid, hget]
      exact ⟨_, rfl, hafter⟩
    . rw [if_neg hid] at hafter ⊢
      exact ⟨target', hget, hafter⟩
  | completes selected success now htargets hflight hcounted =>
    obtain ⟨hkeyed, hknown'⟩ := h.keyed_updateLoad selected.id (if success then .dec else .error) now
    refine ⟨htargets ▸ hkeyed, htargets ▸ hknown', hknows, ?_⟩
    intro targetId target hbefore
    obtain ⟨target', hget, haccounts⟩ := h.loads targetId target hbefore
    have hafter := haccounts.completes hi hflight hcounted now
    dsimp only
    rw [htargets, Balancer.get_updateLoad]
    by_cases hid : targetId = selected.id
    . rw [if_pos hid] at hafter ⊢
      rw [← hid, hget]
      exact ⟨_, rfl, hafter⟩
    . rw [if_neg hid] at hafter ⊢
      exact ⟨target', hget, hafter⟩

theorem LoadInvariant.step {channels : List String} {action : LoadAction} (h : LoadInvariant before s)
    (hstep : loadStep channels s action = some s')
    : LoadInvariant before s' := by
  cases action with
  | dispatch message =>
    cases hstep
    exact h.start message
  | step i answers =>
    obtain ⟨dispatch, dispatch', balancer', hi, hadvance, rfl⟩ := Threads.advance_eq_some hstep
    exact h.advance hi hadvance

end Invariant

def Balancer.withTargets (strategy : BalancerStrategy) (runtime : Option Balancer.RuntimeConfig)
    (targets : List Target) (now : UInt64) : Balancer :=
  targets.foldl (fun balancer target => balancer.addTarget target now) (.new strategy runtime)

theorem Balancer.keyed_withTargets (strategy : BalancerStrategy)
    (runtime : Option Balancer.RuntimeConfig) (targets : List Target) (now : UInt64)
    : Balancer.Keyed (Balancer.withTargets strategy runtime targets now).targets := by
  unfold withTargets
  induction targets using List.reverseRecOn with
  | nil =>
    intro targetId target hget
    cases hget
  | append_singleton targets target ih =>
    rw [List.foldl_concat]
    exact ih.addTarget target now

theorem always_accountsForLoads (strategy : BalancerStrategy)
    (runtime : Option Balancer.RuntimeConfig) (targets : List Target) (now : UInt64)
    (channels : List String) (actions : List LoadAction)
    : Runs.Always (loadStep channels)
        (AccountsForLoads (.withTargets strategy runtime targets now))
        { shared := .withTargets strategy runtime targets now, threads := [] } actions := by
  have hkeyed := Balancer.keyed_withTargets strategy runtime targets now
  generalize Balancer.withTargets strategy runtime targets now = before at hkeyed ⊢
  apply Runs.Always.mono (fun _ h => LoadInvariant.accountsForLoads h)
  apply Runs.always_of_forall_step
  . intro s action s' hs hstep
    exact hs.step hstep
  . refine ⟨hkeyed, ?_, ?_, ?_⟩
    . intro targetId target hget
      rw [hkeyed targetId target hget, hget]
      rfl
    . intro dispatch hmem
      cases hmem
    . intro targetId target hget
      exact ⟨target, hget, rfl, rfl, rfl⟩

end AnimaAgent
