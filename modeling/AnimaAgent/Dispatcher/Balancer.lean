import AnimaAgent.Dispatcher.Core

namespace AnimaAgent

namespace Router

def stableHash (input : String) : UInt64 :=
  input.toUTF8.toList.foldl (fun hash byte => (hash ^^^ byte.toUInt64) * 0x100000001b3)
    0xcbf29ce484222325

def roundRobinIndex (lastIndex : Option Nat) (len : Nat) : Option Nat :=
  if len = 0 then none
  else
    some (match lastIndex with
      | some index => (index + 1) % len
      | none => 0)

def constantHashingIndex (key : String) (len : Nat) : Option Nat :=
  if len = 0 then none else some ((stableHash key).toNat % len)

end Router

inductive TargetStatus where
  | available
  | busy
  | offline
  deriving DecidableEq

structure TargetLoad where
  active : Nat := 0
  total : Nat := 0
  errors : Nat := 0
  lastErrorAt : Option UInt64 := none
  deriving DecidableEq

structure Target where
  id : String
  weight : Nat := 1
  capacity : Nat := 10
  status : TargetStatus := .available
  load : TargetLoad := {}
  deriving DecidableEq

inductive BalancerStrategy where
  | roundRobin
  | weighted
  | leastConnections
  | hashing
  deriving DecidableEq

inductive LoadUpdate where
  | inc
  | dec
  | error
  | reset
  deriving DecidableEq

def TargetLoad.update (load : TargetLoad) (now : UInt64) : LoadUpdate → TargetLoad
  | .inc => { load with active := load.active + 1, total := load.total + 1 }
  | .dec => { load with active := load.active - 1 }
  | .error =>
    { load with active := load.active - 1, errors := load.errors + 1, lastErrorAt := some now }
  | .reset => { load with active := 0 }

namespace Balancer

inductive CircuitState where
  | closed
  | open
  | halfOpen
  deriving DecidableEq

structure CircuitBreakerConfig where
  failureThreshold : Nat := 3
  successThreshold : Nat := 1
  cooldownMs : UInt64 := 30000

structure HealthPolicy where
  heartbeatTtlMs : UInt64 := 30000
  checkOnSelect : Bool := true

structure RuntimeConfig where
  circuitBreaker : Option CircuitBreakerConfig := none
  health : Option HealthPolicy := none

def RuntimeConfig.enabled (config : RuntimeConfig) : Bool :=
  config.circuitBreaker.isSome || config.health.isSome

structure TargetHealth where
  healthy : Bool := true
  lastCheckedAt : Option UInt64 := none
  lastHeartbeatAt : Option UInt64 := none
  consecutiveFailures : Nat := 0
  consecutiveSuccesses : Nat := 0
  circuitState : CircuitState := .closed
  circuitOpenedAt : Option UInt64 := none
  deriving DecidableEq

end Balancer

open Balancer in
structure Balancer where
  strategy : BalancerStrategy := .roundRobin
  runtime : Option RuntimeConfig := none
  targets : IndexMap String Target := .empty
  runtimeHealth : IndexMap String TargetHealth := .empty
  roundRobinCursor : Option Nat := none
  selections : Nat := 0
  failures : Nat := 0

namespace Balancer

def new (strategy : BalancerStrategy) (runtime : Option RuntimeConfig) : Balancer where
  strategy
  runtime := runtime.filter RuntimeConfig.enabled

def usizeMax : Nat :=
  UInt64.size - 1

variable (balancer : Balancer)

section Thresholds

def circuitBreaker : Option CircuitBreakerConfig :=
  balancer.runtime.bind RuntimeConfig.circuitBreaker

def healthPolicy : Option HealthPolicy :=
  balancer.runtime.bind RuntimeConfig.health

def failureThreshold : Nat :=
  (balancer.circuitBreaker.map (fun config => max config.failureThreshold 1)).getD usizeMax

def successThreshold : Nat :=
  (balancer.circuitBreaker.map (fun config => max config.successThreshold 1)).getD usizeMax

def heartbeatExpired (health : TargetHealth) (now : UInt64) : Bool :=
  match balancer.healthPolicy, health.lastHeartbeatAt with
  | some policy, some lastHeartbeatAt =>
    let referenceNow := max (health.lastCheckedAt.getD now).toNat now.toNat
    policy.heartbeatTtlMs.toNat < referenceNow - lastHeartbeatAt.toNat
  | _, _ => false

def cooldownElapsed (health : TargetHealth) (now : UInt64) : Bool :=
  match balancer.circuitBreaker, health.circuitOpenedAt with
  | some circuitBreaker, some openedAt => circuitBreaker.cooldownMs.toNat ≤ now.toNat - openedAt.toNat
  | _, _ => false

end Thresholds

section Health

def initialTargetHealth (now : UInt64) : TargetHealth :=
  { lastCheckedAt := some now
    lastHeartbeatAt := if balancer.healthPolicy.isSome then some now else none }

def TargetHealth.openCircuit (health : TargetHealth) (now : UInt64) : TargetHealth :=
  { health with circuitState := .open, circuitOpenedAt := some now, consecutiveSuccesses := 0 }

def TargetHealth.closeCircuit (health : TargetHealth) : TargetHealth :=
  { health with circuitState := .closed, circuitOpenedAt := none, consecutiveFailures := 0 }

def healthAfterSuccess (now : UInt64) (health : TargetHealth) : TargetHealth :=
  let health := { health with
    lastCheckedAt := some now
    healthy := true
    consecutiveFailures := 0
    consecutiveSuccesses := health.consecutiveSuccesses + 1 }
  if health.circuitState = .halfOpen ∧ balancer.successThreshold ≤ health.consecutiveSuccesses then
    health.closeCircuit
  else
    health

def healthAfterFailure (now : UInt64) (health : TargetHealth) : TargetHealth :=
  let health := { health with
    lastCheckedAt := some now
    consecutiveFailures := health.consecutiveFailures + 1
    consecutiveSuccesses := 0 }
  match health.circuitState with
  | .halfOpen => health.openCircuit now
  | .closed =>
    if balancer.failureThreshold ≤ health.consecutiveFailures then health.openCircuit now else health
  | .open => health

def healthAfterHeartbeat (healthy : Bool) (now : UInt64) (health : TargetHealth) : TargetHealth :=
  { health with
    healthy
    lastCheckedAt := some now
    lastHeartbeatAt := some now
    consecutiveSuccesses := if healthy then health.consecutiveSuccesses + 1 else 0 }

def healthAfterRefresh (now : UInt64) (health : TargetHealth) : TargetHealth :=
  let health := { health with lastCheckedAt := some now }
  let health :=
    if health.circuitState = .open ∧ balancer.cooldownElapsed health now then
      { health with circuitState := .halfOpen, circuitOpenedAt := none, consecutiveSuccesses := 0 }
    else
      health
  if balancer.heartbeatExpired health now then { health with healthy := false } else health

def updateHealth (targetId : String) (now : UInt64) (update : TargetHealth → TargetHealth)
    : Balancer :=
  if (balancer.targets.get targetId).isSome && balancer.runtime.isSome then
    { balancer with
      runtimeHealth := balancer.runtimeHealth.insert targetId
        (update ((balancer.runtimeHealth.get targetId).getD (balancer.initialTargetHealth now))) }
  else
    balancer

theorem runtime_updateHealth (targetId : String) (now : UInt64)
    (update : TargetHealth → TargetHealth)
    : (balancer.updateHealth targetId now update).runtime = balancer.runtime
      ∧ (balancer.updateHealth targetId now update).targets = balancer.targets := by
  unfold updateHealth
  split
  . exact ⟨rfl, rfl⟩
  . exact ⟨rfl, rfl⟩

def recordTargetSuccess (targetId : String) (now : UInt64) : Balancer :=
  balancer.updateHealth targetId now (balancer.healthAfterSuccess now)

def recordTargetFailure (targetId : String) (now : UInt64) : Balancer :=
  balancer.updateHealth targetId now (balancer.healthAfterFailure now)

def recordTargetHeartbeat (targetId : String) (healthy : Bool) (now : UInt64) : Balancer :=
  balancer.updateHealth targetId now (healthAfterHeartbeat healthy now)

def refreshTargetHealth (targetId : String) (now : UInt64) : Balancer :=
  balancer.updateHealth targetId now (balancer.healthAfterRefresh now)

def refreshTargets (now : UInt64) : Balancer :=
  balancer.targets.keys.foldl (fun balancer targetId => balancer.refreshTargetHealth targetId now)
    balancer

def targetHealth (targetId : String) : Option TargetHealth :=
  if balancer.runtime.isSome then balancer.runtimeHealth.get targetId
  else (balancer.targets.get targetId).map (fun _ => {})

end Health

section Targets

def addTarget (target : Target) (now : UInt64) : Balancer :=
  let balancer := { balancer with targets := balancer.targets.insert target.id target }
  if balancer.runtime.isSome && (balancer.runtimeHealth.get target.id).isNone then
    { balancer with
      runtimeHealth := balancer.runtimeHealth.insert target.id (balancer.initialTargetHealth now) }
  else
    balancer

def realignCursor (len : Nat) (cursor : Option Nat) : Option Nat :=
  if len = 0 then none else cursor.map (fun index => min index (len - 1))

def removeTarget (targetId : String) : Balancer :=
  if (balancer.targets.get targetId).isSome then
    let targets := balancer.targets.shiftRemove targetId
    { balancer with
      targets
      roundRobinCursor := realignCursor targets.entries.length balancer.roundRobinCursor
      runtimeHealth := balancer.runtimeHealth.shiftRemove targetId }
  else
    balancer

def updateLoad (targets : IndexMap String Target) (targetId : String) (op : LoadUpdate) (now : UInt64)
    : IndexMap String Target :=
  match targets.get targetId with
  | some target => targets.insert targetId { target with load := target.load.update now op }
  | none => targets

end Targets

section Selection

structure Candidates where
  available : Nat := 0
  healthy : Nat := 0
  openCircuits : Nat := 0
  closedIds : List String := []
  halfOpenIds : List String := []

def Candidates.count (candidates : Candidates) (targetId : String) (healthy : Bool)
    (circuitState : CircuitState) : Candidates :=
  let candidates := { candidates with available := candidates.available + 1 }
  if !healthy then candidates
  else
    let candidates := { candidates with healthy := candidates.healthy + 1 }
    match circuitState with
    | .closed => { candidates with closedIds := candidates.closedIds ++ [targetId] }
    | .halfOpen => { candidates with halfOpenIds := candidates.halfOpenIds ++ [targetId] }
    | .open => { candidates with openCircuits := candidates.openCircuits + 1 }

def Candidates.ids (candidates : Candidates) : List String :=
  if candidates.closedIds.isEmpty then candidates.halfOpenIds else candidates.closedIds

def candidates (targets : IndexMap String Target) (runtimeHealth : IndexMap String TargetHealth)
    (now : UInt64) : Candidates :=
  targets.values.foldl (fun candidates target =>
    if target.status = .available then
      let health := (runtimeHealth.get target.id).getD {}
      let healthy := !balancer.runtime.isSome
        || (health.healthy && !balancer.heartbeatExpired health now)
      candidates.count target.id healthy health.circuitState
    else
      candidates) {}

def selectRoundRobin (cursor : Option Nat) (targets : List Target) : Option Target × Option Nat :=
  match Router.roundRobinIndex cursor targets.length with
  | none => (none, cursor)
  | some next => (targets[next]?, some next)

def selectWeighted (cursor : Option Nat) (targets : List Target) : Option Target × Option Nat :=
  selectRoundRobin cursor
    (targets.flatMap (fun target => List.replicate (max target.weight 1) target))

def selectLeastConnections (targets : List Target) : Option Target :=
  targets.foldl (fun least target =>
    match least with
    | none => some target
    | some best => if target.load.active < best.load.active then some target else some best) none

def selectHashing (targets : List Target) (key : Option String) : Option Target :=
  (key.bind (fun key => Router.constantHashingIndex key targets.length)).bind (fun index => targets[index]?)

def selectByStrategy (cursor : Option Nat) (targets : List Target) (key : Option String)
    : Option Target × Option Nat :=
  match balancer.strategy with
  | .roundRobin => selectRoundRobin cursor targets
  | .weighted => selectWeighted cursor targets
  | .leastConnections => (selectLeastConnections targets, cursor)
  | .hashing => (selectHashing targets key, cursor)

def determineMissReason (totalTargets : Nat) (candidates : Candidates) (key : Option String)
    : BalancerMissReason :=
  if totalTargets = 0 then .noTargetsConfigured
  else if balancer.strategy = .hashing ∧ key.isNone ∧ !candidates.ids.isEmpty then
    .hashingKeyMissing
  else if candidates.available = 0 then .noAvailableTargets
  else if balancer.runtime.isSome ∧ candidates.healthy = 0 then .noHealthyTargets
  else if balancer.runtime.isSome ∧ candidates.ids.isEmpty ∧ 0 < candidates.openCircuits then
    .allCircuitsOpen
  else if balancer.runtime.isSome ∧ candidates.ids.isEmpty then .noEligibleTargets
  else if candidates.ids.isEmpty then .noAvailableTargets
  else .strategyReturnedNone

structure TargetSelection where
  target : Option Target
  missReason : Option BalancerMissReason
  cursor : Option Nat

def chooseTarget (targets : IndexMap String Target) (runtimeHealth : IndexMap String TargetHealth)
    (cursor : Option Nat) (key : Option String) (now : UInt64) : TargetSelection :=
  let candidates := balancer.candidates targets runtimeHealth now
  let (target, cursor) :=
    balancer.selectByStrategy cursor (candidates.ids.filterMap targets.get) key
  { target
    missReason := if target.isSome then none
      else some (balancer.determineMissReason targets.entries.length candidates key)
    cursor }

def refreshOnSelect (now : UInt64) : Balancer :=
  if (balancer.healthPolicy.map HealthPolicy.checkOnSelect).getD false then
    balancer.refreshTargets now
  else
    balancer

def selectTarget (key : Option String) (now : UInt64) : TargetSelection × Balancer :=
  let refreshed := balancer.refreshOnSelect now
  let selection := refreshed.chooseTarget balancer.targets refreshed.runtimeHealth
    refreshed.roundRobinCursor key now
  (selection,
    { refreshed with
      roundRobinCursor := selection.cursor
      selections := refreshed.selections + if selection.target.isSome then 1 else 0
      failures := refreshed.failures + if selection.target.isSome then 0 else 1 })

end Selection

end Balancer

end AnimaAgent
