import AnimaAgent.Channel.Session
import Mathlib.Logic.Function.Basic

namespace AnimaAgent

inductive SessionUpdate where
  | updateContext (contextUpdate : Value)
  | setContext (newContext : Value)
  | addToHistory (message : Value)
  | touch

inductive SessionAction where
  | create (channel : String) (opts : SessionCreateOptions) (uuid : String) (now : UInt64)
  | findOrCreate (channelName : String) (opts : FindSessionOptions) (uuid : String) (now : UInt64)
  | update (sessionId : String) (update : SessionUpdate) (now : UInt64)
  | close (sessionId : String)
  | closeAll

structure AccountedSessions where
  store : SessionStoreState
  accountOf : String → String

namespace AccountedSessions

open SessionStoreState

def new : AccountedSessions where
  store := .new
  accountOf := fun _ => "default"

variable (s : AccountedSessions)

def create (channel : String) (opts : SessionCreateOptions) (uuid : String) (now : UInt64)
    : AccountedSessions where
  store := (s.store.createSession channel opts uuid now).2
  accountOf :=
    Function.update s.accountOf (opts.id.getD uuid) (opts.accountId.getD "default")

def findOrCreate (channelName : String) (opts : FindSessionOptions) (uuid : String) (now : UInt64)
    : AccountedSessions where
  store := (s.store.findOrCreateSession channelName opts uuid now).2
  accountOf :=
    match s.store.findSession opts with
    | some _ => s.accountOf
    | none => Function.update s.accountOf uuid (opts.accountId.getD "default")

def updateStore (sessionId : String) (now : UInt64) : SessionUpdate → SessionStoreState
  | .updateContext contextUpdate => (s.store.updateSessionContext sessionId contextUpdate now).2
  | .setContext newContext => (s.store.setSessionContext sessionId newContext now).2
  | .addToHistory message => (s.store.addToHistory sessionId message now).2
  | .touch => (s.store.touchSession sessionId now).2

def step : SessionAction → Option AccountedSessions
  | .create channel opts uuid now => some (s.create channel opts uuid now)
  | .findOrCreate channelName opts uuid now => some (s.findOrCreate channelName opts uuid now)
  | .update sessionId update now =>
    some { s with store := s.updateStore sessionId now update }
  | .close sessionId => some { s with store := (s.store.closeSession sessionId).2 }
  | .closeAll => some { s with store := s.store.closeAllSessions.2 }

theorem findOrCreate_of_some {session : Session} {opts : FindSessionOptions}
    (h : s.store.findSession opts = some session) (channelName uuid : String) (now : UInt64)
    : s.findOrCreate channelName opts uuid now = s := by
  unfold findOrCreate findOrCreateSession
  rw [h]

theorem findOrCreate_of_none {opts : FindSessionOptions} (h : s.store.findSession opts = none)
    (channelName uuid : String) (now : UInt64)
    : s.findOrCreate channelName opts uuid now
        = s.create channelName { routingKey := opts.routingKey, accountId := opts.accountId }
          uuid now := by
  unfold findOrCreate findOrCreateSession
  rw [h]
  rfl

def StoredFor (channel account id : String) : Prop :=
  ∃ session, s.store.sessions.get id = some session ∧ session.channel = channel
    ∧ s.accountOf id = account

/--
Every session is listed once, under its channel and account, and nothing else is. A routing key names a
session that has it, and the routing key of every session names one.
-/
structure IndexesAgree : Prop where
  listed_iff : ∀ channel account id,
    id ∈ s.store.listed channel account ↔ s.StoredFor channel account id
  nodup : ∀ channel account, (s.store.listed channel account).Nodup
  routed : ∀ routingKey id, s.store.byRoutingKey.get routingKey = some id
    → ∃ session, s.store.sessions.get id = some session ∧ session.routingKey = routingKey
  routable : ∀ id session, s.store.sessions.get id = some session
    → ∃ other, s.store.byRoutingKey.get session.routingKey = some other

def RoutesAlone (sessionId : String) : Prop :=
  ∀ session other session', s.store.sessions.get sessionId = some session → other ≠ sessionId
    → s.store.sessions.get other = some session' → session'.routingKey ≠ session.routingKey

/-- No session is created under an identifier in use, or closed while another one has its routing key. -/
def KeepsIndexes : SessionAction → Prop
  | .create _ opts uuid _ => s.store.sessions.get (opts.id.getD uuid) = none
  | .findOrCreate _ opts uuid _ =>
    s.store.findSession opts = none → s.store.sessions.get uuid = none
  | .close sessionId => s.RoutesAlone sessionId
  | _ => True

end AccountedSessions

namespace SessionStoreState

section Lists

variable {state : SessionStoreState}

variable (state) in
theorem listed_createSession (channel : String) (opts : SessionCreateOptions) (uuid : String)
    (now : UInt64) (channel' account' : String)
    : (state.createSession channel opts uuid now).2.listed channel' account'
        = if channel' = channel ∧ account' = opts.accountId.getD "default" then
            state.listed channel' account' ++ [opts.id.getD uuid]
          else
            state.listed channel' account' := by
  unfold listed createSession
  dsimp only
  rw [IndexMap.get_insert_eq]
  by_cases hchannel : channel' = channel
  . subst hchannel
    rw [if_pos rfl, Option.getD_some, IndexMap.get_insert_eq]
    by_cases haccount : account' = opts.accountId.getD "default"
    . rw [if_pos haccount, if_pos ⟨rfl, haccount⟩, Option.getD_some, haccount]
    . rw [if_neg haccount, if_neg (fun h => haccount h.2)]
  . rw [if_neg hchannel, if_neg (fun h => hchannel h.1)]

theorem get_retainOthers (sessionId account : String) (accounts : IndexMap String (List String))
    : ((retainOthers sessionId accounts).get account).getD []
        = ((accounts.get account).getD []).filter (fun id => id != sessionId) := by
  unfold retainOthers
  dsimp only
  rw [IndexMap.get_foldl_shiftRemove, IndexMap.get_mapValues]
  have hkept : ((accounts.get account).map (fun ids => ids.filter (fun id => id != sessionId))).getD []
      = ((accounts.get account).getD []).filter (fun id => id != sessionId) := by
    cases accounts.get account with
    | none => rfl
    | some ids => rfl
  split
  . next hempty =>
    obtain ⟨entry, hentry, rfl⟩ := List.mem_map.mp hempty
    obtain ⟨hmem, hnil⟩ := List.mem_filter.mp hentry
    have hget := IndexMap.get_eq_some_iff.mpr hmem
    rw [IndexMap.get_mapValues] at hget
    rw [← hkept, hget, Option.getD_none, Option.getD_some, List.isEmpty_iff.mp hnil]
  . exact hkept

theorem listed_closeSession {sessionId : String} {session : Session}
    (h : state.sessions.get sessionId = some session) (channel account : String)
    : (state.closeSession sessionId).2.listed channel account
        = if channel = session.channel then
            (state.listed channel account).filter (fun id => id != sessionId)
          else
            state.listed channel account := by
  unfold listed closeSession
  rw [h]
  dsimp only
  cases hchannel : state.byChannel.get session.channel with
  | none =>
    dsimp only
    split
    . next heq =>
      rw [heq, hchannel]
      rfl
    . rfl
  | some accounts =>
    dsimp only
    rw [IndexMap.get_insert_eq]
    split
    . next heq => rw [heq, hchannel, Option.getD_some, Option.getD_some, get_retainOthers]
    . rfl

theorem closeSession_of_none {sessionId : String} (h : state.sessions.get sessionId = none)
    : (state.closeSession sessionId).2 = state := by
  unfold closeSession
  rw [h]

variable (state) in
theorem get_sessions_updateWith (sessionId : String) (context : Value → Value) (now : UInt64)
    (id : String)
    : (state.updateWith sessionId context now).2.sessions.get id
        = if id = sessionId then
            (state.sessions.get id).map (fun session =>
              { session with context := context session.context, lastActive := now })
          else
            state.sessions.get id := by
  unfold updateWith
  cases h : state.sessions.get sessionId with
  | none =>
    dsimp only
    split
    . next hid => rw [hid, h, Option.map_none]
    . rfl
  | some session =>
    dsimp only
    rw [IndexMap.get_insert_eq]
    split
    . next hid => rw [hid, h, Option.map_some]
    . rfl

variable (state) in
theorem byRoutingKey_updateWith (sessionId : String) (context : Value → Value) (now : UInt64)
    : (state.updateWith sessionId context now).2.byRoutingKey = state.byRoutingKey := by
  unfold updateWith
  cases state.sessions.get sessionId with
  | none => rfl
  | some session => rfl

variable (state) in
theorem byChannel_updateWith (sessionId : String) (context : Value → Value) (now : UInt64)
    : (state.updateWith sessionId context now).2.byChannel = state.byChannel := by
  unfold updateWith
  cases state.sessions.get sessionId with
  | none => rfl
  | some session => rfl

end Lists

end SessionStoreState

namespace AccountedSessions

open SessionStoreState

variable {s s' : AccountedSessions}

theorem indexesAgree_empty (accountOf : String → String)
    : IndexesAgree { store := .new, accountOf := accountOf } where
  listed_iff := by
    intro channel account id
    refine iff_of_false List.not_mem_nil ?_
    rintro ⟨session, hget, -⟩
    cases hget
  nodup := fun _ _ => List.nodup_nil
  routed := fun _ _ hget => by cases hget
  routable := fun _ _ hget => by cases hget

section Create

variable {opts : SessionCreateOptions} {uuid : String}

theorem get_sessions_create (channel : String) (now : UInt64) (id : String)
    : (s.create channel opts uuid now).store.sessions.get id
        = if id = opts.id.getD uuid then
            some (s.store.createSession channel opts uuid now).1
          else
            s.store.sessions.get id := by
  exact IndexMap.get_insert_eq ..

theorem storedFor_create_of_ne {id : String} (hid : id ≠ opts.id.getD uuid)
    (channel : String) (now : UInt64) (channel' account : String)
    : (s.create channel opts uuid now).StoredFor channel' account id
        ↔ s.StoredFor channel' account id := by
  unfold StoredFor
  rw [get_sessions_create, if_neg hid]
  unfold create
  dsimp only
  rw [Function.update_of_ne hid]

theorem storedFor_create_self (channel : String) (now : UInt64) (channel' account : String)
    : (s.create channel opts uuid now).StoredFor channel' account (opts.id.getD uuid)
        ↔ channel' = channel ∧ account = opts.accountId.getD "default" := by
  unfold StoredFor
  rw [get_sessions_create, if_pos rfl]
  unfold create
  dsimp only
  rw [Function.update_self]
  constructor
  . rintro ⟨session, hget, rfl, rfl⟩
    cases hget
    exact ⟨rfl, rfl⟩
  . rintro ⟨rfl, rfl⟩
    exact ⟨_, rfl, rfl, rfl⟩

theorem indexesAgree_create (h : s.IndexesAgree)
    (hnew : s.store.sessions.get (opts.id.getD uuid) = none) (channel : String) (now : UInt64)
    : (s.create channel opts uuid now).IndexesAgree := by
  have hunlisted : ∀ channel account, opts.id.getD uuid ∉ s.store.listed channel account := by
    intro channel account hmem
    obtain ⟨session, hget, -⟩ := (h.listed_iff channel account _).mp hmem
    rw [hnew] at hget
    cases hget
  have hlisted := listed_createSession s.store channel opts uuid now
  constructor
  . intro channel' account id
    unfold create
    rw [hlisted]
    by_cases hid : id = opts.id.getD uuid
    . rw [hid]
      refine Iff.trans ?_ (storedFor_create_self channel now channel' account).symm
      split
      . next hhere => exact iff_of_true (List.mem_append_right _ (List.mem_singleton_self _)) hhere
      . next hother => exact iff_of_false (hunlisted channel' account) hother
    . refine Iff.trans ?_ (storedFor_create_of_ne hid channel now channel' account).symm
      rw [← h.listed_iff]
      split
      . rw [List.mem_append, List.mem_singleton, or_iff_left hid]
      . rfl
  . intro channel' account
    unfold create
    rw [hlisted]
    split
    . refine List.nodup_append.mpr ⟨h.nodup _ _, List.nodup_singleton _, ?_⟩
      intro id hid other hother heq
      rw [heq, List.mem_singleton.mp hother] at hid
      exact hunlisted channel' account hid
    . exact h.nodup _ _
  . intro routingKey id hget
    rw [get_sessions_create]
    have hrouted := IndexMap.get_insert_eq s.store.byRoutingKey
      (opts.routingKey.getD (makeSessionRoutingKey (opts.id.getD uuid))) routingKey
      (opts.id.getD uuid)
    rw [show (s.create channel opts uuid now).store.byRoutingKey.get routingKey = _ from hrouted]
      at hget
    split at hget
    . next hkey =>
      cases hget
      rw [if_pos rfl]
      exact ⟨_, rfl, hkey.symm⟩
    . obtain ⟨session, hsession, hkey⟩ := h.routed routingKey id hget
      rw [if_neg (by rintro rfl; rw [hnew] at hsession; cases hsession)]
      exact ⟨session, hsession, hkey⟩
  . intro id session hget
    rw [get_sessions_create] at hget
    have hrouted := IndexMap.get_insert_eq s.store.byRoutingKey
      (opts.routingKey.getD (makeSessionRoutingKey (opts.id.getD uuid))) session.routingKey
      (opts.id.getD uuid)
    rw [show (s.create channel opts uuid now).store.byRoutingKey.get session.routingKey = _
      from hrouted]
    split
    . exact ⟨_, rfl⟩
    . next hkey =>
      split at hget
      . cases hget
        exact absurd rfl hkey
      . exact h.routable id session hget

theorem not_indexesAgree_create (h : s.IndexesAgree) {session : Session}
    (hold : s.store.sessions.get (opts.id.getD uuid) = some session) (channel : String)
    (now : UInt64)
    : ¬ (s.create channel opts uuid now).IndexesAgree := by
  intro h'
  have hlisted := listed_createSession s.store channel opts uuid now session.channel
    (s.accountOf (opts.id.getD uuid))
  have hmem : opts.id.getD uuid
      ∈ s.store.listed session.channel (s.accountOf (opts.id.getD uuid)) :=
    (h.listed_iff _ _ _).mpr ⟨session, hold, rfl, rfl⟩
  by_cases hhere : session.channel = channel
      ∧ s.accountOf (opts.id.getD uuid) = opts.accountId.getD "default"
  . rw [if_pos hhere] at hlisted
    have hnodup := h'.nodup session.channel (s.accountOf (opts.id.getD uuid))
    unfold create at hnodup
    rw [hlisted] at hnodup
    exact (List.nodup_append.mp hnodup).2.2 _ hmem _ (List.mem_singleton_self _) rfl
  . rw [if_neg hhere] at hlisted
    rw [← hlisted] at hmem
    exact hhere ((storedFor_create_self channel now _ _).mp ((h'.listed_iff _ _ _).mp hmem))

theorem indexesAgree_create_iff (h : s.IndexesAgree) (channel : String) (now : UInt64)
    : (s.create channel opts uuid now).IndexesAgree
        ↔ s.store.sessions.get (opts.id.getD uuid) = none := by
  cases hget : s.store.sessions.get (opts.id.getD uuid) with
  | none => exact iff_of_true (indexesAgree_create h hget channel now) rfl
  | some session =>
    exact iff_of_false (not_indexesAgree_create h hget channel now) (Option.some_ne_none session)

end Create

theorem indexesAgree_updateWith (h : s.IndexesAgree) (sessionId : String)
    (context : Value → Value) (now : UInt64)
    : IndexesAgree { s with store := (s.store.updateWith sessionId context now).2 } := by
  have hget := get_sessions_updateWith s.store sessionId context now
  have hchannel := byChannel_updateWith s.store sessionId context now
  have hkey := byRoutingKey_updateWith s.store sessionId context now
  generalize (s.store.updateWith sessionId context now).2 = store at hget hchannel hkey ⊢
  have hlisted : ∀ channel account, store.listed channel account = s.store.listed channel account := by
    intro channel account
    unfold listed
    rw [hchannel]
  have hsame : ∀ id session, store.sessions.get id = some session
      → ∃ old, s.store.sessions.get id = some old ∧ old.channel = session.channel
        ∧ old.routingKey = session.routingKey := by
    intro id session hsession
    rw [hget] at hsession
    split at hsession
    . obtain ⟨old, hold, rfl⟩ := Option.map_eq_some_iff.mp hsession
      exact ⟨old, hold, rfl, rfl⟩
    . exact ⟨session, hsession, rfl, rfl⟩
  have hsame' : ∀ id old, s.store.sessions.get id = some old
      → ∃ session, store.sessions.get id = some session ∧ session.channel = old.channel
        ∧ session.routingKey = old.routingKey := by
    intro id old hold
    rw [hget, hold]
    split
    . exact ⟨_, rfl, rfl, rfl⟩
    . exact ⟨old, rfl, rfl, rfl⟩
  constructor
  . intro channel account id
    dsimp only
    rw [hlisted, h.listed_iff]
    constructor
    . rintro ⟨old, hold, rfl, haccount⟩
      obtain ⟨session, hsession, hsessionChannel, -⟩ := hsame' id old hold
      exact ⟨session, hsession, hsessionChannel, haccount⟩
    . rintro ⟨session, hsession, rfl, haccount⟩
      obtain ⟨old, hold, holdChannel, -⟩ := hsame id session hsession
      exact ⟨old, hold, holdChannel, haccount⟩
  . intro channel account
    dsimp only
    rw [hlisted]
    exact h.nodup channel account
  . intro routingKey id hrouted
    dsimp only at hrouted ⊢
    rw [hkey] at hrouted
    obtain ⟨old, hold, rfl⟩ := h.routed routingKey id hrouted
    obtain ⟨session, hsession, -, hsessionKey⟩ := hsame' id old hold
    exact ⟨session, hsession, hsessionKey⟩
  . intro id session hsession
    obtain ⟨old, hold, -, holdKey⟩ := hsame id session hsession
    dsimp only
    rw [hkey, ← holdKey]
    exact h.routable id old hold

theorem indexesAgree_update (h : s.IndexesAgree) (sessionId : String) (now : UInt64)
    (update : SessionUpdate)
    : IndexesAgree { s with store := s.updateStore sessionId now update } := by
  cases update with
  | updateContext contextUpdate => exact indexesAgree_updateWith h sessionId _ now
  | setContext newContext => exact indexesAgree_updateWith h sessionId _ now
  | addToHistory message => exact indexesAgree_updateWith h sessionId _ now
  | touch => exact indexesAgree_updateWith h sessionId _ now

theorem indexesAgree_close_iff (h : s.IndexesAgree) (sessionId : String)
    : IndexesAgree { s with store := (s.store.closeSession sessionId).2 }
        ↔ s.RoutesAlone sessionId := by
  cases hclosed : s.store.sessions.get sessionId with
  | none =>
    rw [closeSession_of_none hclosed]
    refine iff_of_true h ?_
    intro session other session' hget
    rw [hclosed] at hget
    cases hget
  | some closed =>
    have hlisted := listed_closeSession hclosed
    have hget : ∀ id, (s.store.closeSession sessionId).2.sessions.get id
        = if id = sessionId then none else s.store.sessions.get id := by
      intro id
      unfold closeSession
      rw [hclosed]
      exact IndexMap.get_shiftRemove_eq ..
    have hkey : ∀ routingKey, (s.store.closeSession sessionId).2.byRoutingKey.get routingKey
        = if routingKey = closed.routingKey then none else s.store.byRoutingKey.get routingKey := by
      intro routingKey
      unfold closeSession
      rw [hclosed]
      exact IndexMap.get_shiftRemove_eq ..
    generalize (s.store.closeSession sessionId).2 = store at hlisted hget hkey ⊢
    constructor
    . intro h' session other session' hsession hne hother hsame
      rw [hclosed] at hsession
      cases hsession
      obtain ⟨id, hid⟩ := h'.routable other session' (by dsimp only; rw [hget, if_neg hne, hother])
      dsimp only at hid
      rw [hkey, if_pos hsame] at hid
      cases hid
    . intro halone
      constructor
      . intro channel account id
        dsimp only
        unfold StoredFor
        dsimp only
        rw [hlisted, hget]
        by_cases hid : id = sessionId
        . rw [if_pos hid]
          refine iff_of_false ?_ (by rintro ⟨session, hsession, -⟩; cases hsession)
          split
          . simp [hid]
          . next hchannel =>
            rw [h.listed_iff, hid]
            rintro ⟨session, hsession, rfl, -⟩
            rw [hclosed] at hsession
            cases hsession
            exact hchannel rfl
        . rw [if_neg hid]
          refine Iff.trans ?_ (h.listed_iff channel account id)
          split
          . simp [hid]
          . rfl
      . intro channel account
        dsimp only
        rw [hlisted]
        split
        . exact (h.nodup channel account).filter _
        . exact h.nodup channel account
      . intro routingKey id hrouted
        dsimp only at hrouted ⊢
        rw [hkey] at hrouted
        split at hrouted
        . cases hrouted
        . next hne =>
          obtain ⟨session, hsession, rfl⟩ := h.routed routingKey id hrouted
          rw [hget]
          split
          . next hid =>
            rw [hid, hclosed] at hsession
            cases hsession
            exact absurd rfl hne
          . exact ⟨session, hsession, rfl⟩
      . intro id session hsession
        dsimp only at hsession ⊢
        rw [hget] at hsession
        split at hsession
        . cases hsession
        . next hid =>
          rw [hkey, if_neg (halone closed id session hclosed hid hsession)]
          exact h.routable id session hsession

theorem indexesAgree_step_iff {action : SessionAction} (h : s.IndexesAgree)
    (hstep : s.step action = some s')
    : s'.IndexesAgree ↔ s.KeepsIndexes action := by
  cases action with
  | create channel opts uuid now =>
    cases hstep
    exact indexesAgree_create_iff h channel now
  | findOrCreate channelName opts uuid now =>
    cases hstep
    unfold KeepsIndexes
    cases hfind : s.store.findSession opts with
    | some session =>
      rw [findOrCreate_of_some s hfind]
      exact iff_of_true h (fun hnone => absurd (hfind.symm.trans hnone) (Option.some_ne_none session))
    | none =>
      rw [findOrCreate_of_none s hfind, indexesAgree_create_iff h channelName now]
      exact ⟨fun hnone _ => hnone, fun himp => himp hfind⟩
  | update sessionId update now =>
    cases hstep
    exact iff_of_true (indexesAgree_update h sessionId now update) trivial
  | close sessionId =>
    cases hstep
    exact indexesAgree_close_iff h sessionId
  | closeAll =>
    cases hstep
    exact iff_of_true (indexesAgree_empty s.accountOf) trivial

/--
The three indexes agree throughout exactly those runs in which no session takes the identifier of
another one, and none is closed that shares its routing key.
-/
theorem always_indexesAgree_iff (actions : List SessionAction)
    : Runs.Always step IndexesAgree new actions ↔ Runs.Guarded step KeepsIndexes new actions := by
  refine Runs.always_iff_guarded (fun _ => True) (fun _ => True) ?_ trivial
    (indexesAgree_empty _) (fun _ _ => trivial)
  intro s action s' _ _ hagree hstep
  exact ⟨trivial, indexesAgree_step_iff hagree hstep⟩

/-- Of two sessions with one routing key, the second one is not found by it once the first is closed. -/
theorem not_always_indexesAgree
    : ¬ Runs.Always step IndexesAgree new
        [.create "web" { id := some "first", routingKey := some "room" } "" 0,
         .create "web" { id := some "second", routingKey := some "room" } "" 0,
         .close "first"] := by
  intro h
  have hagree := ((h.2 _ rfl).2 _ rfl).2 _ rfl
  obtain ⟨other, hother⟩ := hagree.routable "second" _ rfl
  have hnone := IndexMap.get_shiftRemove_eq
    (IndexMap.empty.insert "room" "first" |>.insert "room" "second") "room" "room"
  rw [if_pos rfl] at hnone
  cases hother.symm.trans hnone

end AccountedSessions

end AnimaAgent
