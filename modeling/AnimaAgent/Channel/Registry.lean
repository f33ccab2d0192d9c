import AnimaAgent.Dispatcher.OutboundLoop

namespace AnimaAgent

structure ChannelLookupSnapshot where
  requestedChannel : String
  requestedAccountId : Option String
  matchedAccountId : Option String
  reason : ChannelLookupReason
  deriving DecidableEq

structure ChannelRegistryEntry where
  channel : String
  accountId : String
  deriving DecidableEq

structure ChannelRegistry (χ : Type) where
  channels : IndexMap String (IndexMap String χ)

namespace ChannelRegistry

variable {χ : Type}

def new : ChannelRegistry χ where
  channels := .empty

section Operations

variable (channelName : χ → String) (registry : ChannelRegistry χ)

def register (channel : χ) (accountId : Option String) : ChannelRegistry χ where
  channels :=
    let accounts := (registry.channels.get (channelName channel)).getD .empty
    registry.channels.insert (channelName channel)
      (accounts.insert (accountId.getD "default") channel)

def unregister (channelName : String) : ChannelRegistry χ where
  channels := registry.channels.shiftRemove channelName

def unregisterWithAccount (channelName accountId : String) : ChannelRegistry χ where
  channels :=
    if accountId = "default" then
      registry.channels.shiftRemove channelName
    else
      match registry.channels.get channelName with
      | none => registry.channels
      | some accounts => registry.channels.insert channelName (accounts.shiftRemove accountId)

def findChannelWithLookup (channelName : String) (accountId : Option String)
    : Option χ × ChannelLookupSnapshot :=
  let snapshot (matchedAccountId : Option String) (reason : ChannelLookupReason) :=
    ChannelLookupSnapshot.mk channelName accountId matchedAccountId reason
  match registry.channels.get channelName with
  | none => (none, snapshot none .channelMissing)
  | some accounts =>
    let requested := accountId.getD "default"
    match accounts.get requested with
    | some channel => (some channel, snapshot (some requested) .exactMatch)
    | none =>
      match accounts.get "default" with
      | some channel => (some channel, snapshot (some "default") .defaultFallback)
      | none =>
        match accounts.entries.head? with
        | some (matched, channel) => (some channel, snapshot (some matched) .firstAvailableFallback)
        | none => (none, snapshot none .channelMissing)

def findChannel (channelName : String) (accountId : Option String) : Option χ :=
  (registry.findChannelWithLookup channelName accountId).1

def entries : List ChannelRegistryEntry :=
  registry.channels.entries.flatMap (fun (channel, accounts) =>
    accounts.keys.map (fun accountId => { channel, accountId }))

end Operations

end ChannelRegistry

inductive RegistryAction (χ : Type) where
  | register (channel : χ) (accountId : Option String)
  | unregister (channelName : String)
  | unregisterWithAccount (channelName accountId : String)

section History

variable {χ : Type} (channelName : χ → String)

namespace ChannelRegistry

def act (registry : ChannelRegistry χ) : RegistryAction χ → ChannelRegistry χ
  | .register channel accountId => registry.register channelName channel accountId
  | .unregister name => registry.unregister name
  | .unregisterWithAccount name accountId => registry.unregisterWithAccount name accountId

def after : List (RegistryAction χ) → ChannelRegistry χ
  | [] => new
  | action :: earlier => (after earlier).act channelName action

end ChannelRegistry

namespace RegistryAction

def effect (name accountId : String) : RegistryAction χ → Option (Option χ)
  | .register channel account =>
    if channelName channel = name ∧ account.getD "default" = accountId then
      some (some channel)
    else
      none
  | .unregister removed => if removed = name then some none else none
  | .unregisterWithAccount removed account =>
    if removed = name ∧ (account = "default" ∨ account = accountId) then some none else none

end RegistryAction

def registered (name accountId : String) : List (RegistryAction χ) → Option χ
  | [] => none
  | action :: earlier =>
    (action.effect channelName name accountId).getD (registered name accountId earlier)

def registeredFor (name accountId : String) : List (RegistryAction χ) → Nat
  | [] => 0
  | action :: earlier =>
    if (registered channelName name accountId (action :: earlier)).isSome then
      registeredFor name accountId earlier + 1
    else
      0

inductive Selects (history : List (RegistryAction χ)) (name : String) (accountId : Option String)
    : Option χ × ChannelLookupSnapshot → Prop where
  | exactMatch (channel : χ)
    (h : registered channelName name (accountId.getD "default") history = some channel)
    : Selects history name accountId
        (some channel, ⟨name, accountId, some (accountId.getD "default"), .exactMatch⟩)
  | defaultFallback (channel : χ)
    (hnone : registered channelName name (accountId.getD "default") history = none)
    (h : registered channelName name "default" history = some channel)
    : Selects history name accountId
        (some channel, ⟨name, accountId, some "default", .defaultFallback⟩)
  | firstAvailableFallback (channel : χ) (first : String)
    (hnone : registered channelName name (accountId.getD "default") history = none)
    (hdefault : registered channelName name "default" history = none)
    (h : registered channelName name first history = some channel)
    (hfirst : ∀ other, other ≠ first → registered channelName name other history ≠ none →
      registeredFor channelName name other history < registeredFor channelName name first history)
    : Selects history name accountId
        (some channel, ⟨name, accountId, some first, .firstAvailableFallback⟩)
  | channelMissing (hnone : ∀ other, registered channelName name other history = none)
    : Selects history name accountId (none, ⟨name, accountId, none, .channelMissing⟩)

namespace ChannelRegistry

def accounts (registry : ChannelRegistry χ) (name : String) : IndexMap String χ :=
  (registry.channels.get name).getD .empty

variable (registry : ChannelRegistry χ)

theorem accounts_register (channel : χ) (accountId : Option String) (name : String)
    : (registry.register channelName channel accountId).accounts name
        = if channelName channel = name then
            (registry.accounts name).insert (accountId.getD "default") channel
          else
            registry.accounts name := by
  unfold accounts register
  rw [IndexMap.get_insert_eq]
  by_cases hname : name = channelName channel
  . rw [if_pos hname, if_pos hname.symm, hname]
    rfl
  . rw [if_neg hname, if_neg (Ne.symm hname)]

theorem accounts_unregister (removed name : String)
    : (registry.unregister removed).accounts name
        = if removed = name then .empty else registry.accounts name := by
  unfold accounts unregister
  rw [IndexMap.get_shiftRemove_eq]
  by_cases hname : name = removed
  . rw [if_pos hname, if_pos hname.symm]
    rfl
  . rw [if_neg hname, if_neg (Ne.symm hname)]

theorem accounts_unregisterWithAccount (removed accountId name : String)
    : (registry.unregisterWithAccount removed accountId).accounts name
        = if removed = name then
            if accountId = "default" then .empty else (registry.accounts name).shiftRemove accountId
          else
            registry.accounts name := by
  by_cases hdefault : accountId = "default"
  . have hremoved : registry.unregisterWithAccount removed accountId = registry.unregister removed := by
      unfold unregisterWithAccount unregister
      rw [if_pos hdefault]
    rw [hremoved, accounts_unregister, if_pos hdefault]
  . unfold accounts unregisterWithAccount
    rw [if_neg hdefault, if_neg hdefault]
    cases hchannel : registry.channels.get removed with
    | none =>
      by_cases hname : removed = name
      . rw [if_pos hname, ← hname, hchannel]
        rfl
      . rw [if_neg hname]
    | some accounts =>
      simp only [IndexMap.get_insert_eq]
      by_cases hname : removed = name
      . rw [if_pos hname, if_pos hname.symm, ← hname, hchannel]
        rfl
      . rw [if_neg hname, if_neg (Ne.symm hname)]

theorem get_accounts_act (action : RegistryAction χ) (name accountId : String)
    : ((registry.act channelName action).accounts name).get accountId
        = (action.effect channelName name accountId).getD ((registry.accounts name).get accountId) := by
  cases action with
  | register channel account =>
    rw [act, accounts_register, RegistryAction.effect]
    by_cases hname : channelName channel = name
    . rw [if_pos hname, IndexMap.get_insert_eq]
      by_cases haccount : accountId = account.getD "default"
      . rw [if_pos haccount, if_pos ⟨hname, haccount.symm⟩]
        rfl
      . rw [if_neg haccount, if_neg (fun h => haccount h.2.symm)]
        rfl
    . rw [if_neg hname, if_neg (fun h => hname h.1)]
      rfl
  | unregister removed =>
    rw [act, accounts_unregister, RegistryAction.effect]
    by_cases hname : removed = name
    . rw [if_pos hname, if_pos hname]
      rfl
    . rw [if_neg hname, if_neg hname]
      rfl
  | unregisterWithAccount removed account =>
    rw [act, accounts_unregisterWithAccount, RegistryAction.effect]
    by_cases hname : removed = name
    . rw [if_pos hname]
      by_cases hdefault : account = "default"
      . rw [if_pos hdefault, if_pos ⟨hname, .inl hdefault⟩]
        rfl
      . rw [if_neg hdefault, IndexMap.get_shiftRemove_eq]
        by_cases haccount : accountId = account
        . rw [if_pos haccount, if_pos ⟨hname, .inr haccount.symm⟩]
          rfl
        . rw [if_neg haccount, if_neg]
          . rfl
          . rintro ⟨-, hgone | hgone⟩
            . exact hdefault hgone
            . exact haccount hgone.symm
    . rw [if_neg hname, if_neg (fun h => hname h.1)]
      rfl

theorem get_accounts_after (history : List (RegistryAction χ)) (name accountId : String)
    : ((after channelName history).accounts name).get accountId
        = registered channelName name accountId history := by
  induction history with
  | nil => rfl
  | cons action earlier ih => rw [after, get_accounts_act, ih, registered]

theorem keys_accounts_act (action : RegistryAction χ) (name : String)
    : ((registry.act channelName action).accounts name).keys.Sublist (registry.accounts name).keys
        ∨ ∃ accountId, accountId ∉ (registry.accounts name).keys
          ∧ ((registry.act channelName action).accounts name).keys
            = (registry.accounts name).keys ++ [accountId] := by
  cases action with
  | register channel account =>
    rw [act, accounts_register]
    by_cases hname : channelName channel = name
    . rw [if_pos hname, IndexMap.keys_insert]
      by_cases hmem : account.getD "default" ∈ (registry.accounts name).keys
      . rw [if_pos hmem]
        exact .inl (List.Sublist.refl _)
      . rw [if_neg hmem]
        exact .inr ⟨_, hmem, rfl⟩
    . rw [if_neg hname]
      exact .inl (List.Sublist.refl _)
  | unregister removed =>
    rw [act, accounts_unregister]
    by_cases hname : removed = name
    . rw [if_pos hname]
      exact .inl (List.nil_sublist _)
    . rw [if_neg hname]
      exact .inl (List.Sublist.refl _)
  | unregisterWithAccount removed account =>
    rw [act, accounts_unregisterWithAccount]
    by_cases hname : removed = name
    . rw [if_pos hname]
      by_cases hdefault : account = "default"
      . rw [if_pos hdefault]
        exact .inl (List.nil_sublist _)
      . rw [if_neg hdefault, IndexMap.keys_shiftRemove]
        exact .inl List.filter_sublist
    . rw [if_neg hname]
      exact .inl (List.Sublist.refl _)

theorem mem_keys_after_iff (history : List (RegistryAction χ)) (name accountId : String)
    : accountId ∈ ((after channelName history).accounts name).keys
        ↔ registered channelName name accountId history ≠ none := by
  rw [← get_accounts_after, Ne, IndexMap.get_eq_none_iff, not_not]

theorem registeredFor_cons {action : RegistryAction χ} {earlier : List (RegistryAction χ)}
    {name accountId : String} (h : registered channelName name accountId (action :: earlier) ≠ none)
    : registeredFor channelName name accountId (action :: earlier)
        = registeredFor channelName name accountId earlier + 1 := by
  rw [registeredFor, if_pos (Option.isSome_iff_ne_none.mpr h)]

theorem registeredFor_of_none {history : List (RegistryAction χ)} {name accountId : String}
    (h : registered channelName name accountId history = none)
    : registeredFor channelName name accountId history = 0 := by
  cases history with
  | nil => rfl
  | cons action earlier => rw [registeredFor, h, if_neg (by simp)]

theorem registeredFor_pos {history : List (RegistryAction χ)} {name accountId : String}
    (h : registered channelName name accountId history ≠ none)
    : 0 < registeredFor channelName name accountId history := by
  cases history with
  | nil => exact absurd rfl h
  | cons action earlier =>
    rw [registeredFor_cons channelName h]
    exact Nat.succ_pos _

theorem pairwise_keys_after (history : List (RegistryAction χ)) (name : String)
    : ((after channelName history).accounts name).keys.Pairwise (fun a b =>
        registeredFor channelName name b history < registeredFor channelName name a history) := by
  induction history with
  | nil => exact List.Pairwise.nil
  | cons action earlier ih =>
    have hheld := mem_keys_after_iff channelName (action :: earlier) name
    have hheldBefore := mem_keys_after_iff channelName earlier name
    rw [after] at hheld ⊢
    rcases keys_accounts_act channelName (after channelName earlier) action name with
      hsublist | ⟨accountId, hnew, hkeys⟩
    . refine (ih.sublist hsublist).imp_of_mem ?_
      intro a b ha hb hlt
      rw [registeredFor_cons channelName ((hheld a).mp ha),
        registeredFor_cons channelName ((hheld b).mp hb)]
      exact Nat.succ_lt_succ hlt
    . rw [hkeys] at hheld ⊢
      have hage : registeredFor channelName name accountId earlier = 0 := by
        refine registeredFor_of_none channelName ?_
        by_contra hregistered
        exact hnew ((hheldBefore accountId).mpr hregistered)
      have hlast := registeredFor_cons channelName ((hheld accountId).mp (by simp))
      refine List.pairwise_append.mpr ⟨?_, List.pairwise_singleton _ _, ?_⟩
      . refine ih.imp_of_mem ?_
        intro a b ha hb hlt
        rw [registeredFor_cons channelName ((hheld a).mp (List.mem_append_left _ ha)),
          registeredFor_cons channelName ((hheld b).mp (List.mem_append_left _ hb))]
        exact Nat.succ_lt_succ hlt
      . intro a ha b hb
        rw [List.mem_singleton.mp hb, hlast, hage,
          registeredFor_cons channelName ((hheld a).mp (List.mem_append_left _ ha))]
        exact Nat.succ_lt_succ (registeredFor_pos channelName ((hheldBefore a).mp ha))

theorem findChannelWithLookup_eq (name : String) (accountId : Option String)
    : registry.findChannelWithLookup name accountId
        = match (registry.accounts name).get (accountId.getD "default") with
          | some channel =>
            (some channel, ⟨name, accountId, some (accountId.getD "default"), .exactMatch⟩)
          | none =>
            match (registry.accounts name).get "default" with
            | some channel => (some channel, ⟨name, accountId, some "default", .defaultFallback⟩)
            | none =>
              match (registry.accounts name).entries.head? with
              | some (matched, channel) =>
                (some channel, ⟨name, accountId, some matched, .firstAvailableFallback⟩)
              | none => (none, ⟨name, accountId, none, .channelMissing⟩) := by
  unfold findChannelWithLookup accounts
  cases registry.channels.get name with
  | none => rfl
  | some accounts => rfl

theorem findChannelWithLookup_selects (history : List (RegistryAction χ)) (name : String)
    (accountId : Option String)
    : Selects channelName history name accountId
        ((after channelName history).findChannelWithLookup name accountId) := by
  rw [findChannelWithLookup_eq, get_accounts_after, get_accounts_after]
  cases hrequested : registered channelName name (accountId.getD "default") history with
  | some channel => exact .exactMatch channel hrequested
  | none =>
    cases hdefault : registered channelName name "default" history with
    | some channel => exact .defaultFallback channel hrequested hdefault
    | none =>
      have hheld := mem_keys_after_iff channelName history name
      have hget := get_accounts_after channelName history name
      have horder := pairwise_keys_after channelName history name
      cases hentries : ((after channelName history).accounts name).entries with
      | nil =>
        refine .channelMissing ?_
        intro other
        by_contra hregistered
        have hmem := (hheld other).mpr hregistered
        rw [IndexMap.keys, hentries] at hmem
        cases hmem
      | cons entry rest =>
        obtain ⟨first, channel⟩ := entry
        rw [IndexMap.keys, hentries, List.map_cons, List.pairwise_cons] at horder
        have hfirst : registered channelName name first history = some channel := by
          rw [← hget, IndexMap.get_eq_some_iff, hentries]
          exact List.mem_cons_self ..
        refine .firstAvailableFallback channel first hrequested hdefault hfirst ?_
        intro other hne hregistered
        have hmem := (hheld other).mpr hregistered
        rw [IndexMap.keys, hentries, List.map_cons] at hmem
        exact horder.1 other ((List.mem_cons.mp hmem).resolve_left hne)

theorem mem_entries_iff {entry : ChannelRegistryEntry}
    : entry ∈ registry.entries ↔ entry.accountId ∈ (registry.accounts entry.channel).keys := by
  unfold entries accounts
  rw [List.mem_flatMap]
  constructor
  . rintro ⟨⟨name, accounts⟩, hmem, hentry⟩
    obtain ⟨accountId, haccount, rfl⟩ := List.mem_map.mp hentry
    rw [IndexMap.get_eq_some_iff.mpr hmem]
    exact haccount
  . intro haccount
    cases hchannel : registry.channels.get entry.channel with
    | none =>
      rw [hchannel] at haccount
      cases haccount
    | some accounts =>
      rw [hchannel] at haccount
      exact ⟨(entry.channel, accounts), IndexMap.get_eq_some_iff.mp hchannel,
        List.mem_map.mpr ⟨entry.accountId, haccount, rfl⟩⟩

theorem nodup_entries : registry.entries.Nodup := by
  unfold entries
  rw [List.nodup_flatMap]
  constructor
  . intro ⟨name, accounts⟩ _
    refine accounts.nodup.map ?_
    intro a b hab
    exact (ChannelRegistryEntry.mk.inj hab).2
  . have hnames := registry.channels.nodup
    rw [List.Nodup, List.pairwise_map] at hnames
    refine hnames.imp ?_
    intro a b hne entry ha hb
    obtain ⟨_, _, rfl⟩ := List.mem_map.mp ha
    obtain ⟨_, _, hentry⟩ := List.mem_map.mp hb
    exact hne (ChannelRegistryEntry.mk.inj hentry).1.symm

theorem after_registered (history : List (RegistryAction χ))
    : (∀ name accountId, Selects channelName history name accountId
        ((after channelName history).findChannelWithLookup name accountId))
        ∧ (after channelName history).entries.Nodup
        ∧ ∀ entry : ChannelRegistryEntry, entry ∈ (after channelName history).entries
          ↔ registered channelName entry.channel entry.accountId history ≠ none := by
  refine ⟨findChannelWithLookup_selects channelName history, nodup_entries _, ?_⟩
  intro entry
  rw [mem_entries_iff, mem_keys_after_iff]

end ChannelRegistry

end History

structure DispatchStats where
  dispatched : Nat := 0
  errors : Nat := 0
  channelNotFound : Nat := 0
  deriving DecidableEq

structure Delivery (χ : Type) where
  channel : χ
  target : String
  content : String
  options : SendOptions

section Dispatch

variable {χ : Type}

def dispatchOutboundMessage (msg : OutboundMessage) (registry : ChannelRegistry χ)
    (answer : χ → SendResult) (stats : DispatchStats)
    : (SendResult × Option (Delivery χ)) × DispatchStats :=
  match registry.findChannel msg.channel (some msg.accountId) with
  | none =>
    (({ success := false, error := some "Channel not found" }, none),
      { stats with channelNotFound := stats.channelNotFound + 1 })
  | some channel =>
    let target := (msg.replyTarget.or msg.senderId).getD ""
    let result := answer channel
    ((result, some ⟨channel, target, msg.content, { media := msg.media, stage := some msg.stage }⟩),
      if result.success then
        { stats with dispatched := stats.dispatched + 1 }
      else
        { stats with errors := stats.errors + 1 })

inductive OutboundEvent (χ : Type) where
  | registry (action : RegistryAction χ)
  | dispatch (msg : OutboundMessage) (answer : χ → SendResult)

structure OutboundRun (χ : Type) where
  registry : ChannelRegistry χ := .new
  stats : DispatchStats := {}
  results : List (SendResult × Option (Delivery χ)) := []

variable (channelName : χ → String)

namespace OutboundRun

def step (run : OutboundRun χ) : OutboundEvent χ → OutboundRun χ
  | .registry action => { run with registry := run.registry.act channelName action }
  | .dispatch msg answer =>
    let (result, stats) := dispatchOutboundMessage msg run.registry answer run.stats
    { run with stats, results := result :: run.results }

def after : List (OutboundEvent χ) → OutboundRun χ
  | [] => {}
  | event :: earlier => (after earlier).step channelName event

end OutboundRun

namespace OutboundEvent

def registryAction? : OutboundEvent χ → Option (RegistryAction χ)
  | registry action => some action
  | dispatch .. => none

def messages
    : List (OutboundEvent χ) → List (OutboundMessage × (χ → SendResult) × List (RegistryAction χ))
  | [] => []
  | registry _ :: earlier => messages earlier
  | dispatch msg answer :: earlier =>
    (msg, answer, earlier.filterMap registryAction?) :: messages earlier

end OutboundEvent

/-- A message is sent over the channel that is selected for it, or there is none. -/
inductive HandedOver
    : OutboundMessage × (χ → SendResult) × List (RegistryAction χ) → SendResult × Option (Delivery χ) →
      Prop where
  | sent (msg : OutboundMessage) (answer : χ → SendResult) (history : List (RegistryAction χ))
    (channel : χ) (snapshot : ChannelLookupSnapshot)
    (h : Selects channelName history msg.channel (some msg.accountId) (some channel, snapshot))
    : HandedOver (msg, answer, history)
        (answer channel,
          some ⟨channel, (msg.replyTarget.or msg.senderId).getD "", msg.content,
            { media := msg.media, stage := some msg.stage }⟩)
  | notFound (msg : OutboundMessage) (answer : χ → SendResult) (history : List (RegistryAction χ))
    (h : ∀ accountId, registered channelName msg.channel accountId history = none)
    : HandedOver (msg, answer, history)
        ({ success := false, error := some "Channel not found" }, none)

structure DispatchStats.Counts (stats : DispatchStats)
    (results : List (SendResult × Option (Delivery χ))) : Prop where
  dispatched : stats.dispatched
    = results.countP (fun result => result.2.isSome && result.1.success)
  errors : stats.errors = results.countP (fun result => result.2.isSome && !result.1.success)
  channelNotFound : stats.channelNotFound = results.countP (fun result => result.2.isNone)

theorem registry_after (events : List (OutboundEvent χ))
    : (OutboundRun.after channelName events).registry
        = ChannelRegistry.after channelName (events.filterMap OutboundEvent.registryAction?) := by
  induction events with
  | nil => rfl
  | cons event earlier ih =>
    cases event with
    | registry action =>
      change (OutboundRun.after channelName earlier).registry.act channelName action = _
      rw [ih]
      rfl
    | dispatch msg answer => exact ih

theorem dispatchOutboundMessage_handedOver (msg : OutboundMessage) (answer : χ → SendResult)
    (history : List (RegistryAction χ)) (stats : DispatchStats)
    : HandedOver channelName (msg, answer, history)
        (dispatchOutboundMessage msg (ChannelRegistry.after channelName history) answer stats).1 := by
  have hselects := ChannelRegistry.findChannelWithLookup_selects channelName history msg.channel
    (some msg.accountId)
  unfold dispatchOutboundMessage ChannelRegistry.findChannel
  cases hfound : (ChannelRegistry.after channelName history).findChannelWithLookup msg.channel
      (some msg.accountId) with
  | mk channel snapshot =>
    rw [hfound] at hselects
    cases channel with
    | some channel => exact .sent msg answer history channel snapshot hselects
    | none =>
      cases hselects with
      | channelMissing hnone => exact .notFound msg answer history hnone

theorem DispatchStats.Counts.dispatch {results : List (SendResult × Option (Delivery χ))}
    {stats : DispatchStats} (h : stats.Counts results) (msg : OutboundMessage)
    (registry : ChannelRegistry χ) (answer : χ → SendResult)
    : (dispatchOutboundMessage msg registry answer stats).2.Counts
        ((dispatchOutboundMessage msg registry answer stats).1 :: results) := by
  obtain ⟨hdispatched, herrors, hnotFound⟩ := h
  unfold dispatchOutboundMessage
  cases registry.findChannel msg.channel (some msg.accountId) with
  | none => exact ⟨by simpa using hdispatched, by simpa using herrors, by simpa using hnotFound⟩
  | some channel =>
    cases hsuccess : (answer channel).success with
    | true =>
      simp only [hsuccess, if_true]
      exact ⟨by simpa [hsuccess] using hdispatched, by simpa [hsuccess] using herrors,
        by simpa using hnotFound⟩
    | false =>
      simp only [hsuccess, if_neg Bool.false_ne_true]
      exact ⟨by simpa [hsuccess] using hdispatched, by simpa [hsuccess] using herrors,
        by simpa using hnotFound⟩

theorem handedOver_after (events : List (OutboundEvent χ))
    : List.Forall₂ (HandedOver channelName) (OutboundEvent.messages events)
        (OutboundRun.after channelName events).results
        ∧ (OutboundRun.after channelName events).stats.Counts
          (OutboundRun.after channelName events).results := by
  induction events with
  | nil => exact ⟨.nil, rfl, rfl, rfl⟩
  | cons event earlier ih =>
    obtain ⟨hhanded, hcounts⟩ := ih
    cases event with
    | registry action => exact ⟨hhanded, hcounts⟩
    | dispatch msg answer =>
      refine ⟨.cons ?_ hhanded, hcounts.dispatch msg _ answer⟩
      rw [registry_after]
      exact dispatchOutboundMessage_handedOver channelName msg answer _ _

def ChannelRegistry.channelLookup (registry : ChannelRegistry χ)
    (sendMessage : χ → String → String → SendOptions → SendResult) (name accountId : String)
    : ChannelLookup where
  reason := (registry.findChannelWithLookup name (some accountId)).2.reason
  channel := (registry.findChannelWithLookup name (some accountId)).1.map sendMessage

theorem Dispatcher.send_registry (now : UInt64) (message : DispatchMessage) (selection : Selection)
    (dispatcher : Dispatcher) (history : List (RegistryAction χ))
    (sendMessage : χ → String → String → SendOptions → SendResult)
    : ∃ found snapshot,
        Selects channelName history message.channel
            (some (selection.selectedTargetId.getD message.accountId)) (found, snapshot)
          ∧ (dispatcher.send now message selection
              ((ChannelRegistry.after channelName history).channelLookup sendMessage)).1
            = found.elim { success := false, error := some "Channel not found" } (fun channel =>
                sendMessage channel message.target message.content
                  { media := message.media, stage := some message.stage }) := by
  have hselects := ChannelRegistry.findChannelWithLookup_selects channelName history message.channel
    (some (selection.selectedTargetId.getD message.accountId))
  unfold send ChannelRegistry.channelLookup
  generalize (ChannelRegistry.after channelName history).findChannelWithLookup message.channel
    (some (selection.selectedTargetId.getD message.accountId)) = lookup at hselects ⊢
  obtain ⟨found, snapshot⟩ := lookup
  refine ⟨found, snapshot, hselects, ?_⟩
  cases found with
  | none => rfl
  | some channel =>
    simp only [Option.map_some]
    split
    . rfl
    . rfl

end Dispatch

end AnimaAgent
