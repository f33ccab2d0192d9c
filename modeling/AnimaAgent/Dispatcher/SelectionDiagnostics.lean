import AnimaAgent.Dispatcher.LoadAccounting

namespace AnimaAgent

inductive TargetExcludeReason where
  | statusBusy
  | statusOffline
  | unhealthy
  | heartbeatExpired
  | circuitOpen
  | preferClosedOverHalfOpen
  | hashingKeyMissing
  deriving DecidableEq

inductive SelectionReason where
  | roundRobin
  | weightedRoundRobin
  | leastConnections
  | hashing
  deriving DecidableEq

namespace Balancer

structure TargetDiagnostic where
  targetId : String
  eligible : Bool
  excludedReasons : List TargetExcludeReason
  status : TargetStatus
  healthy : Bool
  circuitState : CircuitState
  active : Nat
  weight : Nat
  capacity : Nat
  deriving DecidableEq

structure SelectionDiagnostic where
  selectionKey : Option String
  strategy : BalancerStrategy
  candidateIds : List String
  selectedTargetId : Option String
  selectedReason : Option SelectionReason
  targetDiagnostics : IndexMap String TargetDiagnostic
  missReason : Option BalancerMissReason

variable (balancer : Balancer)

def seemsHealthy (health : TargetHealth) (now : UInt64) : Bool :=
  !balancer.runtime.isSome || (health.healthy && !balancer.heartbeatExpired health now)

def targetHealthSnapshot : IndexMap String TargetHealth :=
  if balancer.runtime.isNone then balancer.targets.mapValues (fun _ => {}) else balancer.runtimeHealth

def targetExcludedReasons (target : Target) (health : TargetHealth) (now : UInt64)
    (preferClosed : Bool) (closedSet candidateSet : List String) (hashingKeyMissing : Bool)
    : List TargetExcludeReason :=
  (match target.status with
    | .busy => [.statusBusy]
    | .offline => [.statusOffline]
    | .available => [])
  ++ (if target.status = .available ∧ balancer.runtime.isSome then
      (if balancer.heartbeatExpired health now then [.heartbeatExpired]
        else if !health.healthy then [.unhealthy] else [])
      ++ (if health.circuitState = .open then [.circuitOpen] else [])
      ++ (if preferClosed ∧ health.circuitState = .halfOpen ∧ target.id ∉ closedSet then
          [.preferClosedOverHalfOpen]
        else [])
    else [])
  ++ (if target.status = .available ∧ hashingKeyMissing ∧ target.id ∈ candidateSet then
      [.hashingKeyMissing]
    else [])

def selectionReasonForStrategy : SelectionReason :=
  match balancer.strategy with
  | .roundRobin => .roundRobin
  | .weighted => .weightedRoundRobin
  | .leastConnections => .leastConnections
  | .hashing => .hashing

def targetDiagnostic (runtimeHealth : IndexMap String TargetHealth) (candidates : Candidates)
    (hashingKeyMissing : Bool) (now : UInt64) (targetId : String) (target : Target)
    : TargetDiagnostic :=
  let health := (runtimeHealth.get targetId).getD {}
  let excludedReasons := balancer.targetExcludedReasons target health now
    (!candidates.closedIds.isEmpty) candidates.closedIds candidates.ids hashingKeyMissing
  { targetId
    eligible := excludedReasons.isEmpty
    excludedReasons
    status := target.status
    healthy := balancer.seemsHealthy health now
    circuitState := health.circuitState
    active := target.load.active
    weight := target.weight
    capacity := target.capacity }

def computeSelection (targets : IndexMap String Target) (key : Option String) (now : UInt64)
    : Option Target × SelectionDiagnostic :=
  let balancer := balancer.refreshOnSelect now
  let runtimeHealth := balancer.targetHealthSnapshot
  let candidates := balancer.candidates targets runtimeHealth now
  let hashingKeyMissing :=
    decide (balancer.strategy = .hashing) && key.isNone && !candidates.ids.isEmpty
  let selected := (balancer.selectByStrategy balancer.roundRobinCursor
    (candidates.ids.filterMap targets.get) key).1
  (selected,
    { selectionKey := key
      strategy := balancer.strategy
      candidateIds := candidates.ids
      selectedTargetId := selected.map Target.id
      selectedReason := selected.map (fun _ => balancer.selectionReasonForStrategy)
      targetDiagnostics := targets.mapEntries
        (balancer.targetDiagnostic runtimeHealth candidates hashingKeyMissing now)
      missReason := if selected.isSome then none
        else some (balancer.determineMissReason targets.entries.length candidates key) })

def usable (runtimeHealth : IndexMap String TargetHealth) (now : UInt64) (state : CircuitState)
    (target : Target)
    : Bool :=
  decide (target.status = .available)
    && balancer.seemsHealthy ((runtimeHealth.get target.id).getD {}) now
    && decide (((runtimeHealth.get target.id).getD {}).circuitState = state)

section Candidates

variable (runtimeHealth : IndexMap String TargetHealth) (now : UInt64)

theorem foldl_count (values : List Target) (candidates : Candidates)
    : values.foldl (fun candidates target =>
          if target.status = .available then
            candidates.count target.id
              (balancer.seemsHealthy ((runtimeHealth.get target.id).getD {}) now)
              ((runtimeHealth.get target.id).getD {}).circuitState
          else
            candidates) candidates
        = { available := candidates.available
              + values.countP (fun target => decide (target.status = .available))
            healthy := candidates.healthy
              + values.countP (fun target => decide (target.status = .available)
                && balancer.seemsHealthy ((runtimeHealth.get target.id).getD {}) now)
            openCircuits := candidates.openCircuits
              + values.countP (balancer.usable runtimeHealth now .open)
            closedIds := candidates.closedIds
              ++ (values.filter (balancer.usable runtimeHealth now .closed)).map Target.id
            halfOpenIds := candidates.halfOpenIds
              ++ (values.filter (balancer.usable runtimeHealth now .halfOpen)).map Target.id } := by
  induction values generalizing candidates with
  | nil => simp
  | cons target values ih =>
    rw [List.foldl_cons, ih]
    by_cases hstatus : target.status = .available
    . cases hhealthy : balancer.seemsHealthy ((runtimeHealth.get target.id).getD {}) now with
      | false => simp [Candidates.count, usable, hstatus, hhealthy]; omega
      | true =>
        cases hcircuit : ((runtimeHealth.get target.id).getD {}).circuitState with
        | closed => simp [Candidates.count, usable, hstatus, hhealthy, hcircuit]; omega
        | «open» => simp [Candidates.count, usable, hstatus, hhealthy, hcircuit]; omega
        | halfOpen => simp [Candidates.count, usable, hstatus, hhealthy, hcircuit]; omega
    . simp [usable, hstatus]

def candidateTargets (targets : IndexMap String Target) : List Target :=
  let closed := targets.values.filter (balancer.usable runtimeHealth now .closed)
  if closed.isEmpty then targets.values.filter (balancer.usable runtimeHealth now .halfOpen) else closed

theorem candidates_eq (targets : IndexMap String Target)
    : balancer.candidates targets runtimeHealth now
        = { available := targets.values.countP (fun target => decide (target.status = .available))
            healthy := targets.values.countP (fun target => decide (target.status = .available)
              && balancer.seemsHealthy ((runtimeHealth.get target.id).getD {}) now)
            openCircuits := targets.values.countP (balancer.usable runtimeHealth now .open)
            closedIds :=
              (targets.values.filter (balancer.usable runtimeHealth now .closed)).map Target.id
            halfOpenIds :=
              (targets.values.filter (balancer.usable runtimeHealth now .halfOpen)).map Target.id } := by
  refine (balancer.foldl_count runtimeHealth now targets.values {}).trans ?_
  simp

theorem candidates_ids (targets : IndexMap String Target)
    : (balancer.candidates targets runtimeHealth now).ids
        = (balancer.candidateTargets runtimeHealth now targets).map Target.id := by
  rw [candidates_eq]
  unfold Candidates.ids candidateTargets
  dsimp only
  rw [List.isEmpty_map]
  split
  . rfl
  . rfl

variable {balancer runtimeHealth now} {targets : IndexMap String Target} {target : Target}

theorem mem_candidateTargets_iff
    : target ∈ balancer.candidateTargets runtimeHealth now targets
        ↔ target ∈ targets.values
          ∧ (balancer.usable runtimeHealth now .closed target = true
            ∨ (balancer.usable runtimeHealth now .halfOpen target = true
              ∧ ∀ other ∈ targets.values, balancer.usable runtimeHealth now .closed other = false)) := by
  have hempty : (targets.values.filter (balancer.usable runtimeHealth now .closed)).isEmpty = true
      ↔ ∀ other ∈ targets.values, balancer.usable runtimeHealth now .closed other = false := by
    simp
  unfold candidateTargets
  dsimp only
  split
  . next hnone =>
    have hnone := hempty.mp hnone
    rw [List.mem_filter]
    apply and_congr_right
    intro hmem
    simp only [hnone target hmem, Bool.false_eq_true, false_or]
    exact ⟨fun h => ⟨h, hnone⟩, fun h => h.1⟩
  . next hsome =>
    rw [List.mem_filter]
    apply and_congr_right
    intro hmem
    exact ⟨.inl, fun h => h.resolve_right (fun hhalf => hsome (hempty.mpr hhalf.2))⟩

end Candidates

section Keyed

def KeyedById (targets : IndexMap String Target) : Prop :=
  ∀ targetId target, targets.get targetId = some target → target.id = targetId

theorem KeyedById.get_eq_some_iff {targets : IndexMap String Target} (h : KeyedById targets)
    {target : Target}
    : targets.get target.id = some target ↔ target ∈ targets.values := by
  rw [IndexMap.mem_values_iff]
  constructor
  . exact fun hget => ⟨target.id, hget⟩
  . rintro ⟨targetId, hget⟩
    rwa [h targetId target hget]

theorem KeyedById.filterMap_get {targets : IndexMap String Target} (h : KeyedById targets)
    {chosen : List Target} (hchosen : ∀ target ∈ chosen, target ∈ targets.values)
    : (chosen.map Target.id).filterMap targets.get = chosen := by
  rw [List.filterMap_map]
  calc
    chosen.filterMap (fun target => targets.get target.id) = chosen.filterMap some := by
      apply List.filterMap_congr
      intro target hmem
      exact h.get_eq_some_iff.mpr (hchosen target hmem)
    _ = chosen := List.filterMap_some

theorem keyedById_insert {targets : IndexMap String Target} (h : KeyedById targets) (target : Target)
    : KeyedById (targets.insert target.id target) := by
  intro targetId other hget
  rw [IndexMap.get_insert_eq] at hget
  split at hget
  . next heq =>
    cases hget
    exact heq.symm
  . exact h targetId other hget

theorem keyedById_empty : KeyedById .empty := by
  intro targetId target hget
  rw [IndexMap.get_empty] at hget
  cases hget

theorem keyedById_addTarget (h : KeyedById balancer.targets) (target : Target) (now : UInt64)
    : KeyedById (balancer.addTarget target now).targets := by
  unfold addTarget
  dsimp only
  split
  . exact keyedById_insert h target
  . exact keyedById_insert h target

theorem keyedById_removeTarget (h : KeyedById balancer.targets) (targetId : String)
    : KeyedById (balancer.removeTarget targetId).targets := by
  unfold removeTarget
  split
  . intro other target hget
    dsimp only at hget
    rw [IndexMap.get_shiftRemove_eq] at hget
    split at hget
    . cases hget
    . exact h other target hget
  . exact h

theorem keyedById_updateLoad {targets : IndexMap String Target} (h : KeyedById targets)
    (targetId : String) (op : LoadUpdate) (now : UInt64)
    : KeyedById (updateLoad targets targetId op now) := by
  intro other target hget
  rw [get_updateLoad] at hget
  split at hget
  . next heq =>
    obtain ⟨old, hold, rfl⟩ := Option.map_eq_some_iff.mp hget
    exact (h targetId old hold).trans heq.symm
  . exact h other target hget

end Keyed

section Strategy

theorem selectRoundRobin_isSome_iff (cursor : Option Nat) (targets : List Target)
    : (selectRoundRobin cursor targets).1.isSome = true ↔ targets ≠ [] := by
  unfold selectRoundRobin Router.roundRobinIndex
  cases targets with
  | nil => simp
  | cons target targets =>
    rw [if_neg (by simp)]
    cases cursor with
    | none => simp
    | some index =>
      have hlt : (index + 1) % (target :: targets).length < (target :: targets).length :=
        Nat.mod_lt _ (by simp)
      simpa using hlt

theorem selectLeastConnections_isSome_iff (targets : List Target)
    : (selectLeastConnections targets).isSome = true ↔ targets ≠ [] := by
  unfold selectLeastConnections
  induction targets using List.reverseRecOn with
  | nil => simp
  | append_singleton targets last ih =>
    rw [List.foldl_concat]
    split
    . simp
    . split
      . simp
      . simp

theorem selectByStrategy_isSome_iff (cursor : Option Nat) (targets : List Target) (key : Option String)
    : (balancer.selectByStrategy cursor targets key).1.isSome = true
        ↔ targets ≠ [] ∧ ¬(balancer.strategy = .hashing ∧ key = none) := by
  unfold selectByStrategy
  cases hstrategy : balancer.strategy with
  | roundRobin => simpa using selectRoundRobin_isSome_iff cursor targets
  | weighted =>
    have hexpanded : targets.flatMap (fun target => List.replicate (max target.weight 1) target) ≠ []
        ↔ targets ≠ [] := by
      rw [not_iff_not]
      cases targets with
      | nil => simp
      | cons target targets => simp
    simpa [selectWeighted, hexpanded] using selectRoundRobin_isSome_iff cursor
      (targets.flatMap (fun target => List.replicate (max target.weight 1) target))
  | leastConnections => simpa using selectLeastConnections_isSome_iff targets
  | hashing =>
    cases key with
    | none => simp [selectHashing]
    | some key =>
      cases targets with
      | nil => simp [selectHashing, Router.constantHashingIndex]
      | cons target targets =>
        have hlt : (Router.stableHash key).toNat % (target :: targets).length
            < (target :: targets).length := Nat.mod_lt _ (by simp)
        simpa [selectHashing, Router.constantHashingIndex] using hlt

end Strategy

def Situation (targets : IndexMap String Target) (runtimeHealth : IndexMap String TargetHealth)
    (key : Option String) (now : UInt64)
    : BalancerMissReason → Prop
  | .noTargetsConfigured => targets.values = []
  | .noAvailableTargets =>
    targets.values ≠ [] ∧ ∀ target ∈ targets.values, target.status ≠ .available
  | .noHealthyTargets =>
    (∃ target ∈ targets.values, target.status = .available)
      ∧ ∀ target ∈ targets.values, target.status = .available
        → balancer.seemsHealthy ((runtimeHealth.get target.id).getD {}) now = false
  | .allCircuitsOpen =>
    (∃ target ∈ targets.values, balancer.usable runtimeHealth now .open target = true)
      ∧ ∀ target ∈ targets.values, balancer.usable runtimeHealth now .closed target = false
        ∧ balancer.usable runtimeHealth now .halfOpen target = false
  | .hashingKeyMissing =>
    (balancer.strategy = .hashing ∧ key = none)
      ∧ ∃ target ∈ targets.values, balancer.usable runtimeHealth now .closed target = true
        ∨ balancer.usable runtimeHealth now .halfOpen target = true
  | .noEligibleTargets => False
  | .strategyReturnedNone => False

/-- The selection and its diagnostic agree with each other, and with the targets. -/
structure SelectionAgrees (targets : IndexMap String Target)
    (runtimeHealth : IndexMap String TargetHealth) (key : Option String) (now : UInt64)
    (selection : Option Target × SelectionDiagnostic)
    : Prop where
  selected : ∀ target, selection.1 = some target → targets.get target.id = some target
    ∧ selection.2.selectedTargetId = some target.id ∧ target.id ∈ selection.2.candidateIds
    ∧ ∃ diagnostic, selection.2.targetDiagnostics.get target.id = some diagnostic
      ∧ diagnostic.eligible = true
  eligible : ∀ targetId diagnostic, selection.2.targetDiagnostics.get targetId = some diagnostic
    → (diagnostic.eligible = true ↔ targetId ∈ selection.2.candidateIds
      ∧ ¬(balancer.strategy = .hashing ∧ key = none))
  halfOpen : ∀ target, selection.1 = some target
    → ((runtimeHealth.get target.id).getD {}).circuitState = .halfOpen
    → ∀ other ∈ targets.values, balancer.usable runtimeHealth now .closed other = false
  missed : ∀ reason, selection.2.missReason = some reason
    ↔ balancer.Situation targets runtimeHealth key now reason

section Agrees

variable {balancer : Balancer} {targets : IndexMap String Target}
  {runtimeHealth : IndexMap String TargetHealth} {key : Option String} {now : UInt64} {target : Target}

theorem mem_candidates_ids_iff (hkeyed : KeyedById targets) (hmem : target ∈ targets.values)
    : target.id ∈ (balancer.candidates targets runtimeHealth now).ids
        ↔ target ∈ balancer.candidateTargets runtimeHealth now targets := by
  rw [candidates_ids, List.mem_map]
  constructor
  . rintro ⟨other, hother, hid⟩
    have hvalues := (mem_candidateTargets_iff.mp hother).1
    have hget := hkeyed.get_eq_some_iff.mpr hvalues
    rw [hid, hkeyed.get_eq_some_iff.mpr hmem] at hget
    cases hget
    exact hother
  . exact fun h => ⟨target, h, rfl⟩

theorem targetExcludedReasons_isEmpty_iff (health : TargetHealth) (preferClosed : Bool)
    (closedSet candidateSet : List String) (hashingKeyMissing : Bool)
    : (balancer.targetExcludedReasons target health now preferClosed closedSet candidateSet
          hashingKeyMissing).isEmpty = true
        ↔ target.status = .available
          ∧ (balancer.runtime.isSome = true → balancer.heartbeatExpired health now = false
            ∧ health.healthy = true ∧ health.circuitState ≠ .open
            ∧ ¬(preferClosed = true ∧ health.circuitState = .halfOpen ∧ target.id ∉ closedSet))
          ∧ ¬(hashingKeyMissing = true ∧ target.id ∈ candidateSet) := by
  unfold targetExcludedReasons
  rw [List.isEmpty_iff, List.append_eq_nil_iff, List.append_eq_nil_iff]
  cases hstatus : target.status with
  | busy => simp
  | offline => simp
  | available =>
    by_cases hruntime : balancer.runtime.isSome = true
    . cases hexpired : balancer.heartbeatExpired health now with
      | true => simp [hruntime]
      | false =>
        cases hhealthy : health.healthy with
        | true => simp [hruntime]
        | false => simp [hruntime]
    . simp [hruntime]

theorem usable_iff {state : CircuitState}
    : balancer.usable runtimeHealth now state target = true
        ↔ target.status = .available
          ∧ balancer.seemsHealthy ((runtimeHealth.get target.id).getD {}) now = true
          ∧ ((runtimeHealth.get target.id).getD {}).circuitState = state := by
  unfold usable
  simp [and_assoc]

theorem mem_closedIds_iff (hkeyed : KeyedById targets) (hmem : target ∈ targets.values)
    : target.id ∈ (balancer.candidates targets runtimeHealth now).closedIds
        ↔ balancer.usable runtimeHealth now .closed target = true := by
  rw [candidates_eq]
  dsimp only
  rw [List.mem_map]
  constructor
  . rintro ⟨other, hother, hid⟩
    obtain ⟨hvalues, husable⟩ := List.mem_filter.mp hother
    have hget := hkeyed.get_eq_some_iff.mpr hvalues
    rw [hid, hkeyed.get_eq_some_iff.mpr hmem] at hget
    cases hget
    exact husable
  . exact fun h => ⟨target, List.mem_filter.mpr ⟨hmem, h⟩, rfl⟩

theorem closedIds_isEmpty_iff
    : (balancer.candidates targets runtimeHealth now).closedIds.isEmpty = true
        ↔ ∀ other ∈ targets.values, balancer.usable runtimeHealth now .closed other = false := by
  rw [candidates_eq]
  simp

def DefaultHealth (balancer : Balancer) (runtimeHealth : IndexMap String TargetHealth) : Prop :=
  balancer.runtime.isSome = false → ∀ targetId, (runtimeHealth.get targetId).getD {} = {}

theorem defaultHealth_targetHealthSnapshot (balancer : Balancer)
    : balancer.DefaultHealth balancer.targetHealthSnapshot := by
  intro hruntime targetId
  unfold targetHealthSnapshot
  rw [if_pos (by simpa using hruntime), IndexMap.get_mapValues]
  cases balancer.targets.get targetId with
  | none => rfl
  | some target => rfl

theorem notExcluded_iff (hkeyed : KeyedById targets) (hmem : target ∈ targets.values)
    (hdefault : balancer.DefaultHealth runtimeHealth)
    : (target.status = .available
          ∧ (balancer.runtime.isSome = true
            → balancer.heartbeatExpired ((runtimeHealth.get target.id).getD {}) now = false
            ∧ ((runtimeHealth.get target.id).getD {}).healthy = true
            ∧ ((runtimeHealth.get target.id).getD {}).circuitState ≠ .open
            ∧ ¬((!(balancer.candidates targets runtimeHealth now).closedIds.isEmpty) = true
              ∧ ((runtimeHealth.get target.id).getD {}).circuitState = .halfOpen
              ∧ target.id ∉ (balancer.candidates targets runtimeHealth now).closedIds)))
        ↔ target ∈ balancer.candidateTargets runtimeHealth now targets := by
  rw [mem_candidateTargets_iff, and_iff_right hmem, mem_closedIds_iff hkeyed hmem, usable_iff,
    usable_iff, ← closedIds_isEmpty_iff]
  have hhealth : balancer.seemsHealthy ((runtimeHealth.get target.id).getD {}) now = true
      ↔ (balancer.runtime.isSome = true
        → balancer.heartbeatExpired ((runtimeHealth.get target.id).getD {}) now = false
        ∧ ((runtimeHealth.get target.id).getD {}).healthy = true) := by
    unfold seemsHealthy
    cases balancer.runtime.isSome with
    | false => simp
    | true => simp [and_comm]
  rw [hhealth]
  cases hruntime : balancer.runtime.isSome with
  | false => simp [hdefault hruntime target.id]
  | true =>
    cases ((runtimeHealth.get target.id).getD {}).circuitState with
    | closed => simp
    | «open» => simp
    | halfOpen => simp [and_assoc]

theorem eligible_targetDiagnostic_iff (hkeyed : KeyedById targets) (hmem : target ∈ targets.values)
    (hdefault : balancer.DefaultHealth runtimeHealth)
    : (balancer.targetDiagnostic runtimeHealth (balancer.candidates targets runtimeHealth now)
          (decide (balancer.strategy = .hashing) && key.isNone
            && !(balancer.candidates targets runtimeHealth now).ids.isEmpty)
          now target.id target).eligible = true
        ↔ target.id ∈ (balancer.candidates targets runtimeHealth now).ids
          ∧ ¬(balancer.strategy = .hashing ∧ key = none) := by
  unfold targetDiagnostic
  dsimp only
  rw [targetExcludedReasons_isEmpty_iff, ← and_assoc, notExcluded_iff hkeyed hmem hdefault,
    ← mem_candidates_ids_iff hkeyed hmem]
  apply and_congr_right
  intro hcandidate
  have hnonempty : (balancer.candidates targets runtimeHealth now).ids.isEmpty = false := by
    rw [List.isEmpty_eq_false_iff]
    exact List.ne_nil_of_mem hcandidate
  simp [hnonempty, hcandidate]

section Counts

theorem candidateTargets_eq_nil_iff
    : balancer.candidateTargets runtimeHealth now targets = []
        ↔ ∀ target ∈ targets.values, balancer.usable runtimeHealth now .closed target = false
          ∧ balancer.usable runtimeHealth now .halfOpen target = false := by
  constructor
  . intro hnil
    have hnot := fun target => (@mem_candidateTargets_iff balancer runtimeHealth now targets target).mpr
    rw [hnil] at hnot
    have hclosed : ∀ target ∈ targets.values,
        balancer.usable runtimeHealth now .closed target = false := by
      intro target hmem
      exact Bool.eq_false_iff.mpr (fun h => List.not_mem_nil (hnot target ⟨hmem, .inl h⟩))
    intro target hmem
    refine ⟨hclosed target hmem, Bool.eq_false_iff.mpr (fun h => ?_)⟩
    exact List.not_mem_nil (hnot target ⟨hmem, .inr ⟨h, hclosed⟩⟩)
  . intro h
    rw [List.eq_nil_iff_forall_not_mem]
    intro target hmem
    obtain ⟨hvalues, husable⟩ := mem_candidateTargets_iff.mp hmem
    obtain ⟨hclosed, hhalf⟩ := h target hvalues
    rw [hclosed, hhalf] at husable
    simp at husable

theorem ids_isEmpty_iff
    : (balancer.candidates targets runtimeHealth now).ids.isEmpty = true
        ↔ balancer.candidateTargets runtimeHealth now targets = [] := by
  rw [candidates_ids, List.isEmpty_map, List.isEmpty_iff]

theorem available_eq_zero_iff
    : (balancer.candidates targets runtimeHealth now).available = 0
        ↔ ∀ target ∈ targets.values, target.status ≠ .available := by
  rw [candidates_eq]
  simp [List.countP_eq_zero]

theorem healthy_eq_zero_iff
    : (balancer.candidates targets runtimeHealth now).healthy = 0
        ↔ ∀ target ∈ targets.values, target.status = .available
          → balancer.seemsHealthy ((runtimeHealth.get target.id).getD {}) now = false := by
  rw [candidates_eq]
  simp [List.countP_eq_zero]

theorem openCircuits_pos_iff
    : 0 < (balancer.candidates targets runtimeHealth now).openCircuits
        ↔ ∃ target ∈ targets.values, balancer.usable runtimeHealth now .open target = true := by
  rw [candidates_eq]
  exact List.countP_pos_iff

theorem length_entries_eq_zero_iff : targets.entries.length = 0 ↔ targets.values = [] := by
  unfold IndexMap.values
  rw [List.map_eq_nil_iff, List.length_eq_zero_iff]

theorem usable_of_healthy (hstatus : target.status = .available)
    (hhealthy : balancer.seemsHealthy ((runtimeHealth.get target.id).getD {}) now = true)
    : balancer.usable runtimeHealth now ((runtimeHealth.get target.id).getD {}).circuitState target
        = true := by
  exact usable_iff.mpr ⟨hstatus, hhealthy, rfl⟩

theorem usable_of_noRuntime (hdefault : balancer.DefaultHealth runtimeHealth)
    (hruntime : balancer.runtime.isSome = false) (hstatus : target.status = .available)
    : balancer.usable runtimeHealth now .closed target = true := by
  refine usable_iff.mpr ⟨hstatus, ?_, ?_⟩
  . unfold seemsHealthy
    rw [hruntime]
    rfl
  . rw [hdefault hruntime]

end Counts

theorem situation_determineMissReason (hdefault : balancer.DefaultHealth runtimeHealth)
    (hmissed : balancer.candidateTargets runtimeHealth now targets = []
      ∨ (balancer.strategy = .hashing ∧ key = none))
    : balancer.Situation targets runtimeHealth key now (balancer.determineMissReason
        targets.entries.length (balancer.candidates targets runtimeHealth now) key) := by
  unfold determineMissReason
  split
  . next htotal => exact length_entries_eq_zero_iff.mp htotal
  next htotal =>
  have hvalues : targets.values ≠ [] := mt length_entries_eq_zero_iff.mpr htotal
  split
  . next hkey =>
    obtain ⟨hstrategy, hnone, hids⟩ := hkey
    have hcandidates : balancer.candidateTargets runtimeHealth now targets ≠ [] := by
      rw [Ne, ← ids_isEmpty_iff]
      simpa using hids
    obtain ⟨target, hmem⟩ := List.exists_mem_of_ne_nil _ hcandidates
    obtain ⟨hmem, husable⟩ := mem_candidateTargets_iff.mp hmem
    exact ⟨⟨hstrategy, by simpa using hnone⟩, target, hmem, husable.imp_right (fun h => h.1)⟩
  next hkey =>
  have hnone : balancer.candidateTargets runtimeHealth now targets = [] := by
    by_contra hcandidates
    obtain ⟨hstrategy, rfl⟩ := hmissed.resolve_left hcandidates
    refine hkey ⟨hstrategy, rfl, ?_⟩
    simpa using mt ids_isEmpty_iff.mp hcandidates
  have hunusable := candidateTargets_eq_nil_iff.mp hnone
  have hids := ids_isEmpty_iff.mpr hnone
  split
  . next havailable => exact ⟨hvalues, available_eq_zero_iff.mp havailable⟩
  next havailable =>
  obtain ⟨target, hmem, hstatus⟩ : ∃ target ∈ targets.values, target.status = .available := by
    simpa using mt available_eq_zero_iff.mpr havailable
  have hruntime : balancer.runtime.isSome = true := by
    by_contra hruntime
    have husable : balancer.usable runtimeHealth now .closed target = true :=
      usable_of_noRuntime hdefault (Bool.eq_false_iff.mpr hruntime) hstatus
    rw [(hunusable target hmem).1] at husable
    cases husable
  split
  . next hhealthy => exact ⟨⟨target, hmem, hstatus⟩, healthy_eq_zero_iff.mp hhealthy.2⟩
  next hhealthy =>
  have hsome : ∃ target ∈ targets.values, balancer.usable runtimeHealth now .open target = true := by
    obtain ⟨target, hmem, hstatus, hhealthy⟩ : ∃ target ∈ targets.values, target.status = .available
        ∧ balancer.seemsHealthy ((runtimeHealth.get target.id).getD {}) now = true := by
      simpa using mt healthy_eq_zero_iff.mpr (fun h => hhealthy ⟨hruntime, h⟩)
    have husable := usable_of_healthy hstatus hhealthy
    refine ⟨target, hmem, ?_⟩
    cases hcircuit : ((runtimeHealth.get target.id).getD {}).circuitState with
    | closed => rw [hcircuit, (hunusable target hmem).1] at husable; cases husable
    | halfOpen => rw [hcircuit, (hunusable target hmem).2] at husable; cases husable
    | «open» => rwa [hcircuit] at husable
  rw [if_pos ⟨hruntime, hids, openCircuits_pos_iff.mpr hsome⟩]
  exact ⟨hsome, hunusable⟩

theorem candidateTargets_eq_nil_of_situation {reason : BalancerMissReason}
    (h : balancer.Situation targets runtimeHealth key now reason)
    (hreason : reason ≠ .hashingKeyMissing)
    : balancer.candidateTargets runtimeHealth now targets = [] := by
  rw [candidateTargets_eq_nil_iff]
  cases reason with
  | noTargetsConfigured =>
    have hnil : targets.values = [] := h
    rw [hnil]
    exact List.forall_mem_nil _
  | noAvailableTargets =>
    have hunusable : ∀ target ∈ targets.values, ∀ state,
        balancer.usable runtimeHealth now state target = false := fun target hmem state =>
      Bool.eq_false_iff.mpr (fun husable => h.2 target hmem (usable_iff.mp husable).1)
    exact fun target hmem => ⟨hunusable target hmem _, hunusable target hmem _⟩
  | noHealthyTargets =>
    have hunusable : ∀ target ∈ targets.values, ∀ state,
        balancer.usable runtimeHealth now state target = false := by
      intro target hmem state
      refine Bool.eq_false_iff.mpr (fun husable => ?_)
      obtain ⟨hstatus, hhealthy, _⟩ := usable_iff.mp husable
      rw [h.2 target hmem hstatus] at hhealthy
      cases hhealthy
    exact fun target hmem => ⟨hunusable target hmem _, hunusable target hmem _⟩
  | allCircuitsOpen => exact h.2
  | hashingKeyMissing => exact absurd rfl hreason
  | noEligibleTargets => cases h
  | strategyReturnedNone => cases h

theorem missed_of_situation {reason : BalancerMissReason}
    (h : balancer.Situation targets runtimeHealth key now reason)
    : balancer.candidateTargets runtimeHealth now targets = []
        ∨ (balancer.strategy = .hashing ∧ key = none) := by
  by_cases hreason : reason = .hashingKeyMissing
  . subst hreason
    exact .inr h.1
  . exact .inl (candidateTargets_eq_nil_of_situation h hreason)

theorem determineMissReason_of_situation (hdefault : balancer.DefaultHealth runtimeHealth)
    {reason : BalancerMissReason} (h : balancer.Situation targets runtimeHealth key now reason)
    : balancer.determineMissReason targets.entries.length
        (balancer.candidates targets runtimeHealth now) key = reason := by
  have htotal : ∀ {target}, target ∈ targets.values → targets.entries.length ≠ 0 := fun hmem =>
    mt length_entries_eq_zero_iff.mp (List.ne_nil_of_mem hmem)
  have hkey : reason ≠ .hashingKeyMissing
      → ¬(balancer.strategy = .hashing ∧ key.isNone = true
        ∧ (!(balancer.candidates targets runtimeHealth now).ids.isEmpty) = true) := by
    intro hreason hkey
    have hids := ids_isEmpty_iff.mpr (candidateTargets_eq_nil_of_situation h hreason)
    rw [hids] at hkey
    simp at hkey
  have hruntime : ∀ {target}, target ∈ targets.values → target.status = .available
      → balancer.usable runtimeHealth now .closed target = false → balancer.runtime.isSome = true := by
    intro target hmem hstatus hclosed
    by_contra hruntime
    have husable := @usable_of_noRuntime balancer runtimeHealth now target hdefault
      (Bool.eq_false_iff.mpr hruntime) hstatus
    rw [hclosed] at husable
    cases husable
  unfold determineMissReason
  cases reason with
  | noTargetsConfigured => rw [if_pos (length_entries_eq_zero_iff.mpr h)]
  | noAvailableTargets =>
    have hnonempty : targets.entries.length ≠ 0 := mt length_entries_eq_zero_iff.mp h.1
    rw [if_neg hnonempty, if_neg (hkey (by decide)), if_pos (available_eq_zero_iff.mpr h.2)]
  | noHealthyTargets =>
    have hnone := candidateTargets_eq_nil_iff.mp (candidateTargets_eq_nil_of_situation h (by decide))
    obtain ⟨⟨target, hmem, hstatus⟩, hunhealthy⟩ := h
    rw [if_neg (htotal hmem), if_neg (hkey (by decide)),
      if_neg (fun havailable => available_eq_zero_iff.mp havailable target hmem hstatus),
      if_pos ⟨hruntime hmem hstatus (hnone target hmem).1, healthy_eq_zero_iff.mpr hunhealthy⟩]
  | allCircuitsOpen =>
    have hnone := candidateTargets_eq_nil_of_situation h (by decide)
    have hids := ids_isEmpty_iff.mpr hnone
    obtain ⟨⟨target, hmem, husable⟩, hunusable⟩ := h
    obtain ⟨hstatus, hhealthy, _⟩ := usable_iff.mp husable
    rw [if_neg (htotal hmem), if_neg (hkey (by decide)),
      if_neg (fun havailable => available_eq_zero_iff.mp havailable target hmem hstatus),
      if_neg (fun hzero => Bool.false_ne_true
        ((healthy_eq_zero_iff.mp hzero.2 target hmem hstatus).symm.trans hhealthy)),
      if_pos ⟨hruntime hmem hstatus (hunusable target hmem).1, hids,
        openCircuits_pos_iff.mpr ⟨target, hmem, husable⟩⟩]
  | hashingKeyMissing =>
    obtain ⟨⟨hstrategy, rfl⟩, target, hmem, husable⟩ := h
    have hids : (balancer.candidates targets runtimeHealth now).ids.isEmpty = false := by
      refine Bool.eq_false_iff.mpr (fun hids => ?_)
      have hnone := candidateTargets_eq_nil_iff.mp (ids_isEmpty_iff.mp hids) target hmem
      rw [hnone.1, hnone.2] at husable
      simp at husable
    rw [if_neg (htotal hmem), if_pos ⟨hstrategy, rfl, by simp [hids]⟩]
  | noEligibleTargets => cases h
  | strategyReturnedNone => cases h

end Agrees

section Main

variable (balancer : Balancer) (targets : IndexMap String Target) (key : Option String) (now : UInt64)

theorem filterMap_candidates_ids (runtimeHealth : IndexMap String TargetHealth)
    (hkeyed : KeyedById targets)
    : (balancer.candidates targets runtimeHealth now).ids.filterMap targets.get
        = balancer.candidateTargets runtimeHealth now targets := by
  rw [candidates_ids]
  exact hkeyed.filterMap_get (fun target hmem => (mem_candidateTargets_iff.mp hmem).1)

/--
For all targets under their identifiers and every health of them: the selection is a candidate and
eligible, exactly the candidates are eligible (if a needed key is there), a half-open circuit is tried
only without a closed one, and a miss has the reason of its situation.
-/
theorem computeSelection_agrees (hkeyed : KeyedById targets)
    : (balancer.refreshOnSelect now).SelectionAgrees targets
        (balancer.refreshOnSelect now).targetHealthSnapshot key now
        (balancer.computeSelection targets key now) := by
  unfold computeSelection
  generalize balancer.refreshOnSelect now = refreshed
  have hdefault := defaultHealth_targetHealthSnapshot refreshed
  dsimp only
  generalize refreshed.targetHealthSnapshot = runtimeHealth at hdefault ⊢
  have hids := filterMap_candidates_ids refreshed targets now runtimeHealth hkeyed
  rw [hids]
  have hsome := @selectByStrategy_isSome_iff refreshed refreshed.roundRobinCursor
    (refreshed.candidateTargets runtimeHealth now targets) key
  have hmem : ∀ target, (refreshed.selectByStrategy refreshed.roundRobinCursor
      (refreshed.candidateTargets runtimeHealth now targets) key).1 = some target
      → target ∈ refreshed.candidateTargets runtimeHealth now targets :=
    fun target => mem_of_selectByStrategy
  generalize (refreshed.selectByStrategy refreshed.roundRobinCursor
    (refreshed.candidateTargets runtimeHealth now targets) key).1 = selected at hsome hmem
  have heligible : ∀ target ∈ targets.values, _ :=
    fun target hvalues => @eligible_targetDiagnostic_iff refreshed targets runtimeHealth key now target
      hkeyed hvalues hdefault
  constructor
  . rintro target rfl
    have hcandidate := hmem target rfl
    have hvalues := (mem_candidateTargets_iff.mp hcandidate).1
    have hget := hkeyed.get_eq_some_iff.mpr hvalues
    have hid := (mem_candidates_ids_iff hkeyed hvalues).mpr hcandidate
    refine ⟨hget, rfl, hid, _, ?_, (heligible target hvalues).mpr ⟨hid, (hsome.mp rfl).2⟩⟩
    rw [IndexMap.get_mapEntries, hget]
    rfl
  . intro targetId diagnostic hdiagnostic
    dsimp only at hdiagnostic ⊢
    rw [IndexMap.get_mapEntries, Option.map_eq_some_iff] at hdiagnostic
    obtain ⟨target, hget, rfl⟩ := hdiagnostic
    obtain rfl := hkeyed targetId target hget
    exact heligible target (hkeyed.get_eq_some_iff.mp hget)
  . rintro target rfl hhalf
    obtain ⟨_, husable⟩ := mem_candidateTargets_iff.mp (hmem target rfl)
    refine (husable.resolve_left (fun hclosed => ?_)).2
    have hstate := (usable_iff.mp hclosed).2.2
    rw [hhalf] at hstate
    cases hstate
  . intro reason
    dsimp only
    have hmissed : selected.isSome = false
        ↔ refreshed.candidateTargets runtimeHealth now targets = []
          ∨ (refreshed.strategy = .hashing ∧ key = none) := by
      rw [← Bool.not_eq_true, hsome, not_and_or, not_not, not_not]
    constructor
    . intro hreason
      split at hreason
      . cases hreason
      . next hnone =>
        cases hreason
        exact situation_determineMissReason hdefault (hmissed.mp (Bool.eq_false_iff.mpr hnone))
    . intro hsituation
      rw [hmissed.mpr (missed_of_situation hsituation), if_neg Bool.false_ne_true,
        determineMissReason_of_situation hdefault hsituation]

theorem runtime_refreshOnSelect : (balancer.refreshOnSelect now).runtime = balancer.runtime := by
  unfold refreshOnSelect refreshTargets
  split
  . exact List.foldlRecOn balancer.targets.keys _
      (motive := fun refreshed : Balancer => refreshed.runtime = balancer.runtime) rfl
      (fun refreshed h targetId _ => (refreshed.runtime_updateHealth targetId now _).1.trans h)
  . rfl

theorem selectTarget_eq_computeSelection
    (hempty : balancer.runtime = none → balancer.runtimeHealth = .empty)
    : (balancer.selectTarget key now).1.target
          = (balancer.computeSelection balancer.targets key now).1
        ∧ (balancer.selectTarget key now).1.missReason
          = (balancer.computeSelection balancer.targets key now).2.missReason := by
  have hhealth : ∀ targetId, ((balancer.refreshOnSelect now).runtimeHealth.get targetId).getD {}
      = ((balancer.refreshOnSelect now).targetHealthSnapshot.get targetId).getD {} := by
    intro targetId
    cases hruntime : balancer.runtime with
    | some config =>
      unfold targetHealthSnapshot
      rw [runtime_refreshOnSelect, hruntime]
      rfl
    | none =>
      have hrefreshed : balancer.refreshOnSelect now = balancer := by
        unfold refreshOnSelect healthPolicy
        rw [hruntime]
        rfl
      rw [hrefreshed, hempty hruntime, IndexMap.get_empty,
        defaultHealth_targetHealthSnapshot balancer (by rw [hruntime]; rfl)]
      rfl
  have hcandidates : (balancer.refreshOnSelect now).candidates balancer.targets
        (balancer.refreshOnSelect now).runtimeHealth now
      = (balancer.refreshOnSelect now).candidates balancer.targets
        (balancer.refreshOnSelect now).targetHealthSnapshot now := by
    unfold candidates
    simp only [hhealth]
  unfold selectTarget computeSelection chooseTarget
  dsimp only
  rw [hcandidates]
  exact ⟨rfl, rfl⟩

end Main

def threeTargets : Balancer :=
  { ((new .roundRobin (some { circuitBreaker := some {} })).addTarget { id := "a", status := .busy }
      0 |>.addTarget { id := "b" } 0 |>.addTarget { id := "c" } 0) with
    runtimeHealth := IndexMap.empty.insert "b" { circuitState := .halfOpen } }

theorem computeSelection_agrees_threeTargets
    : (threeTargets.computeSelection threeTargets.targets none 5).1.map Target.id = some "c"
        ∧ (threeTargets.refreshOnSelect 5).SelectionAgrees threeTargets.targets
          (threeTargets.refreshOnSelect 5).targetHealthSnapshot none 5
          (threeTargets.computeSelection threeTargets.targets none 5) := by
  have hkeyed : KeyedById threeTargets.targets :=
    keyedById_addTarget _ (keyedById_addTarget _ (keyedById_addTarget _ keyedById_empty _ _) _ _) _ _
  refine ⟨?_, computeSelection_agrees threeTargets threeTargets.targets none 5 hkeyed⟩
  decide +kernel

end Balancer

end AnimaAgent
