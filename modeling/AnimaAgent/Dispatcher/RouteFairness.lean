import AnimaAgent.Dispatcher.QueueOrder
import AnimaAgent.Library.Turns

/-!
This module contains the order in which the routes get their turns. The turn goes round the routes as
long as the route that had the last one is still one of those that are served. It starts again with the
first route when that route has been emptied or has nothing more to send at the priority.
-/

namespace AnimaAgent

namespace DispatchQueue

def urgentRoutes (queue : DispatchQueue) (now : UInt64) : List String :=
  match queue.globalPriority now with
  | some priority => queue.eligibleRoutes now priority
  | none => []

def urgentEnvelopes (queue : DispatchQueue) (now : UInt64) : List DispatchEnvelope :=
  let ready := queue.envelopes.filter (fun envelope => envelope.ready now)
  ready.filter (fun envelope => ready.all (fun other => envelope.priority ≤ other.priority))

def waitingRoutes (queue : DispatchQueue) (now : UInt64) : List String :=
  (queue.urgentEnvelopes now).map (fun envelope => envelope.message.channel)

def FrontsUrgent (queue : DispatchQueue) (now : UInt64) : Prop :=
  ∀ envelope ∈ queue.envelopes, envelope.ready now = true
    → ∃ head, queue.ReadyHead now head ∧ head.priority ≤ envelope.priority

def position (queue : DispatchQueue) (route : String) : Nat :=
  queue.routes.keys.idxOf route

def KeepsCursor (queue : DispatchQueue) (now : UInt64) (last : String) : Prop :=
  queue.lastRouteKey = some last ∧ last ∈ queue.urgentRoutes now

def LooksAtBefore (queue : DispatchQueue) (now : UInt64) (first second : String) : Prop :=
  (∀ last, queue.KeepsCursor now last
    → Circle.Before (queue.position last) (queue.position first) (queue.position second))
  ∧ ((∀ last, ¬ queue.KeepsCursor now last) → queue.position first < queue.position second)

variable {queue : DispatchQueue} {now : UInt64}

theorem urgentRoutes_sublist (queue : DispatchQueue) (now : UInt64)
    : (queue.urgentRoutes now).Sublist queue.routes.keys := by
  unfold urgentRoutes
  split
  . unfold eligibleRoutes routeMinPriorities IndexMap.keys
    refine (List.filter_sublist.map Prod.fst).trans ?_
    induction queue.routes.entries with
    | nil => exact List.Sublist.refl _
    | cons entry entries ih =>
      cases hmin : minPriority now entry.2 with
      | none =>
        rw [List.filterMap_cons_none (by rw [hmin]; rfl), List.map_cons]
        exact ih.cons _
      | some priority =>
        rw [List.filterMap_cons_some (by rw [hmin]; rfl), List.map_cons, List.map_cons]
        exact ih.cons_cons _
  . exact List.nil_sublist _

theorem mem_urgentEnvelopes {envelope : DispatchEnvelope}
    : envelope ∈ queue.urgentEnvelopes now
        ↔ envelope ∈ queue.envelopes ∧ envelope.ready now = true
          ∧ ∀ other ∈ queue.envelopes, other.ready now = true → envelope.priority ≤ other.priority := by
  simp only [urgentEnvelopes, List.mem_filter, List.all_eq_true, decide_eq_true_eq, and_imp, and_assoc]

theorem mem_routes_of_mem_envelopes (h : queue.Placed) {envelope : DispatchEnvelope}
    (hmem : envelope ∈ queue.envelopes)
    : envelope.message.channel ∈ queue.routes.keys := by
  rw [mem_envelopes_iff h] at hmem
  unfold waiting at hmem
  cases hget : queue.routes.get envelope.message.channel with
  | none =>
    rw [DispatchEnvelope.place, hget] at hmem
    cases hmem
  | some priorities => exact IndexMap.mem_keys_iff.mpr ⟨priorities, hget⟩

theorem mem_routes_of_mem_waitingRoutes (h : queue.Placed) {route : String}
    (hmem : route ∈ queue.waitingRoutes now)
    : route ∈ queue.routes.keys := by
  obtain ⟨envelope, henvelope, rfl⟩ := List.mem_map.mp hmem
  exact mem_routes_of_mem_envelopes h (mem_urgentEnvelopes.mp henvelope).1

theorem mem_urgentEnvelopes_of_dequeue (h : queue.Placed) (hfronts : queue.FrontsUrgent now)
    {envelope : DispatchEnvelope} (hdequeue : (queue.dequeue now).1 = some envelope)
    : envelope ∈ queue.urgentEnvelopes now := by
  obtain ⟨⟨hhead, hready⟩, hleast⟩ := dequeue_urgent h hdequeue
  refine mem_urgentEnvelopes.mpr ⟨(mem_envelopes_iff h).mpr (List.mem_of_head? hhead), hready, ?_⟩
  intro other hmem hother
  obtain ⟨head, hhead', hle⟩ := hfronts other hmem hother
  exact UInt8.le_trans (hleast head hhead') hle

theorem waitingRoutes_of_dequeue_eq_none (hfronts : queue.FrontsUrgent now)
    (hdequeue : (queue.dequeue now).1 = none)
    : queue.waitingRoutes now = [] := by
  refine List.map_eq_nil_iff.mpr (List.eq_nil_iff_forall_not_mem.mpr ?_)
  intro envelope hmem
  obtain ⟨hmem, hready, _⟩ := mem_urgentEnvelopes.mp hmem
  obtain ⟨head, hhead, _⟩ := hfronts envelope hmem hready
  exact (dequeue_eq_none hdequeue).2 head hhead

theorem keys_enqueue (queue : DispatchQueue) (envelope : DispatchEnvelope)
    : (queue.enqueue envelope).routes.keys = queue.routes.keys
      ∨ (queue.enqueue envelope).routes.keys = queue.routes.keys ++ [envelope.message.channel] := by
  unfold enqueue
  dsimp only
  rw [IndexMap.keys_insert]
  split
  . exact .inl rfl
  . exact .inr rfl

structure Serves (queue : DispatchQueue) (now : UInt64) (envelope : DispatchEnvelope)
    (queue' : DispatchQueue) : Prop where
  urgent : envelope.message.channel ∈ queue.urgentRoutes now
  first : ∀ route ∈ queue.urgentRoutes now, route ≠ envelope.message.channel
    → queue.LooksAtBefore now envelope.message.channel route
  placed : queue'.Placed
  /-- The route keeps its place and becomes the last one, or it is emptied and there is no last one. -/
  routes : (queue'.routes.keys = queue.routes.keys
      ∧ queue'.lastRouteKey = some envelope.message.channel)
    ∨ (queue'.lastRouteKey = none
      ∧ ∀ route ∈ queue.routes.keys, route ≠ envelope.message.channel → route ∈ queue'.routes.keys)

theorem looksAtBefore_of_select {route other : String}
    (hselect : selectNextRoute (queue.urgentRoutes now) queue.lastRouteKey = some route)
    (hother : other ∈ queue.urgentRoutes now) (hne : other ≠ route)
    : queue.LooksAtBefore now route other := by
  have hsub := queue.urgentRoutes_sublist now
  have hnodup : queue.routes.keys.Nodup := queue.routes.nodup
  unfold selectNextRoute at hselect
  split at hselect
  . next i hi =>
    obtain ⟨last, hlast, hidx⟩ := Option.bind_eq_some_iff.mp hi
    obtain ⟨hlt, hget, _⟩ := List.findIdx?_eq_some_iff_getElem.mp hidx
    have hget' : (queue.urgentRoutes now)[i]? = some last := by
      rw [List.getElem?_eq_getElem hlt, eq_of_beq hget]
    have hkeeps : queue.KeepsCursor now last := ⟨hlast, List.mem_of_getElem? hget'⟩
    refine ⟨?_, fun hlost => absurd hkeeps (hlost last)⟩
    rintro last' ⟨hlast', _⟩
    cases hlast.symm.trans hlast'
    exact Circle.before_of_next hnodup hsub hget' hselect hother hne
  . next hnone =>
    refine ⟨?_, fun _ => Circle.idxOf_head_lt hnodup hsub hselect hother hne⟩
    rintro last ⟨hlast, hmem⟩
    rw [hlast, Option.bind_some] at hnone
    exact absurd hmem (List.idxOf?_eq_none_iff.mp hnone)

theorem dequeue_serves (h : queue.Placed)
    : (queue.urgentRoutes now = [] ∧ queue.dequeue now = (none, queue))
      ∨ ∃ envelope queue', queue.dequeue now = (some envelope, queue')
          ∧ queue.Serves now envelope queue' := by
  obtain ⟨hglobal, heq⟩ | ⟨route, priority, priorities, envelope, rest, hglobal, hmem, hselect, hroute,
    hget, _, heq⟩ := queue.dequeue_cases now
  . exact .inl ⟨by rw [urgentRoutes, hglobal], heq⟩
  . refine .inr ⟨envelope, _, heq, ?_⟩
    have hurgent : queue.urgentRoutes now = queue.eligibleRoutes now priority := by
      rw [urgentRoutes, hglobal]
    have hwaiting : queue.waiting (route, priority) = envelope :: rest := by
      rw [waiting_eq hroute, hget, Option.getD_some]
    have hplace := h (route, priority) envelope (hwaiting ▸ List.mem_cons_self ..)
    obtain rfl : envelope.message.channel = route := congrArg Prod.fst hplace
    rw [← hurgent] at hmem hselect
    refine ⟨hmem, fun other => looksAtBefore_of_select hselect, h.popFront hroute hget, ?_⟩
    rw [popFront_eq]
    split
    . refine .inr ⟨rfl, ?_⟩
      intro other hother hne
      dsimp only
      rw [IndexMap.keys_shiftRemove]
      exact List.mem_filter.mpr ⟨hother, decide_eq_true hne⟩
    . refine .inl ⟨?_, rfl⟩
      dsimp only
      rw [IndexMap.keys_insert, if_pos (IndexMap.mem_keys_iff.mpr ⟨priorities, hroute⟩)]

theorem LooksAtBefore.trans {a b c : String} (hab : queue.LooksAtBefore now a b)
    (hbc : queue.LooksAtBefore now b c)
    : queue.LooksAtBefore now a c := by
  refine ⟨fun last hlast => (hab.1 last hlast).trans (hbc.1 last hlast), fun hlost => ?_⟩
  exact Nat.lt_trans (hab.2 hlost) (hbc.2 hlost)

theorem position_ne {a b : String} (ha : a ∈ queue.routes.keys) (hne : a ≠ b)
    : queue.position a ≠ queue.position b := by
  exact fun heq => hne ((List.idxOf_inj ha).mp heq)

theorem position_enqueue (queue : DispatchQueue) (envelope : DispatchEnvelope) (route : String)
    : (queue.enqueue envelope).position route = queue.position route
      ∨ (queue.routes.keys.length ≤ queue.position route
        ∧ queue.routes.keys.length ≤ (queue.enqueue envelope).position route) := by
  unfold position
  obtain hkeys | hkeys := queue.keys_enqueue envelope
  . rw [hkeys]
    exact .inl rfl
  . rw [hkeys, List.idxOf_append]
    by_cases hmem : route ∈ queue.routes.keys
    . rw [if_pos hmem]
      exact .inl rfl
    . rw [if_neg hmem, List.idxOf_eq_length hmem]
      exact .inr ⟨Nat.le_refl _, Nat.le_add_left _ _⟩

end DispatchQueue

structure TurnHistory where
  queue : DispatchQueue := {}
  turns : List (Turn String) := []

def turnStep (s : TurnHistory) : QueueCall → Option TurnHistory
  | .enqueue envelope => some { s with queue := s.queue.enqueue envelope }
  | .dequeue now =>
    let result := s.queue.dequeue now
    some
      { queue := result.2
        turns := s.turns ++
          [{ waiting := s.queue.waitingRoutes now
             served := result.1.map (fun envelope => envelope.message.channel) }] }

structure FairTurns (turns : List (Turn String)) : Prop where
  neverTwice : Turns.NeverTwice turns
  window : ∀ before window after (routes : List String), turns = before ++ window ++ after
    → routes.Nodup
    → (∀ turn ∈ window, ∀ route, route ∈ turn.waiting ↔ route ∈ routes)
    → window.length = routes.length → (window.map Turn.served).Perm (routes.map some)

/--
The envelopes that `dequeue` sees are as urgent as any. If the last route cannot have the next turn, the
routes that were passed over come before those that have passed them; and none that was passed over is
jumped because `dequeue` sees nothing of it.
-/
def KeepsTurns (s : TurnHistory) : QueueCall → Prop
  | .enqueue _ => True
  | .dequeue now => s.queue.FrontsUrgent now
    ∧ (s.queue.urgentRoutes now ≠ [] → ∀ c a, Turns.PassedOver s.turns c a
      → ((∀ last, ¬ s.queue.KeepsCursor now last) → s.queue.position c < s.queue.position a)
        ∧ ∃ route ∈ s.queue.urgentRoutes now, route = c ∨ s.queue.LooksAtBefore now route c)

structure TurnInvariant (s : TurnHistory) : Prop where
  placed : s.queue.Placed
  lastRoute : ∀ last, s.queue.lastRouteKey = some last → last ∈ s.queue.routes.keys
  passed : ∀ c a, Turns.PassedOver s.turns c a → c ∈ s.queue.routes.keys
  inTurn : ∀ last, s.queue.lastRouteKey = some last → ∀ c a, Turns.PassedOver s.turns c a
    → Circle.Before (s.queue.position last) (s.queue.position c) (s.queue.position a)
  neverTwice : Turns.NeverTwice s.turns
  served : ∀ turn ∈ s.turns, turn.waiting ≠ [] → ∃ route ∈ turn.waiting, turn.served = some route

theorem TurnInvariant.fairTurns {s : TurnHistory} (h : TurnInvariant s) : FairTurns s.turns := by
  refine ⟨h.neverTwice, ?_⟩
  intro before window after routes hturns hnodup hwaiting hlength
  refine Turns.NeverTwice.window_perm (hturns ▸ h.neverTwice) hnodup hwaiting ?_ hlength
  intro turn hmem
  refine h.served turn ?_
  rw [hturns]
  exact List.mem_append_left _ (List.mem_append_right _ hmem)

theorem turnInvariant_new : TurnInvariant {} where
  placed := by
    intro place envelope hmem
    cases hmem
  lastRoute := by
    intro last hlast
    cases hlast
  passed := fun c a h => absurd h (Turns.not_passedOver_nil c a)
  inTurn := by
    intro last hlast
    cases hlast
  neverTwice := Turns.neverTwice_nil
  served := by
    intro turn hmem
    cases hmem

theorem TurnInvariant.enqueue {s : TurnHistory} (h : TurnInvariant s) (envelope : DispatchEnvelope)
    : TurnInvariant { s with queue := s.queue.enqueue envelope } := by
  have hkeys : ∀ route ∈ s.queue.routes.keys, route ∈ (s.queue.enqueue envelope).routes.keys := by
    intro route hmem
    obtain hkeys | hkeys := s.queue.keys_enqueue envelope
    . rw [hkeys]
      exact hmem
    . rw [hkeys]
      exact List.mem_append_left _ hmem
  have hposition : ∀ route ∈ s.queue.routes.keys,
      (s.queue.enqueue envelope).position route = s.queue.position route
        ∧ s.queue.position route < s.queue.routes.keys.length := by
    intro route hmem
    have hlt : s.queue.position route < s.queue.routes.keys.length :=
      List.idxOf_lt_length_of_mem hmem
    obtain hsame | ⟨hle, _⟩ := s.queue.position_enqueue envelope route
    . exact ⟨hsame, hlt⟩
    . omega
  constructor
  . exact h.placed.enqueue envelope
  . exact fun last hlast => hkeys last (h.lastRoute last hlast)
  . exact fun c a hpassed => hkeys c (h.passed c a hpassed)
  . intro last hlast c a hpassed
    have hbefore := h.inTurn last hlast c a hpassed
    obtain ⟨hlast', hltlast⟩ := hposition last (h.lastRoute last hlast)
    obtain ⟨hc, hltc⟩ := hposition c (h.passed c a hpassed)
    dsimp only
    rw [hlast', hc]
    obtain ha | ⟨hle, hle'⟩ := s.queue.position_enqueue envelope a
    . rw [ha]
      exact hbefore
    . exact hbefore.beyond hltlast hltc hle hle'
  . exact h.neverTwice
  . exact h.served

theorem TurnInvariant.serve {s : TurnHistory} (h : TurnInvariant s) {now : UInt64}
    {envelope : DispatchEnvelope} {queue' : DispatchQueue} (hserves : s.queue.Serves now envelope queue')
    (hwaits : envelope.message.channel ∈ s.queue.waitingRoutes now)
    (hkeeps : KeepsTurns s (.dequeue now))
    : TurnInvariant
        { queue := queue'
          turns := s.turns ++ [{ waiting := s.queue.waitingRoutes now
                                 served := some envelope.message.channel }] } := by
  have hguard := hkeeps.2 (List.ne_nil_of_mem hserves.urgent)
  -- a route that was passed over and is not served now is looked at later than the one that is
  have hlater : ∀ c a, Turns.PassedOver s.turns c a → c ≠ envelope.message.channel
      → s.queue.LooksAtBefore now envelope.message.channel c := by
    intro c a hpassed hne
    obtain ⟨route, hmem, heq⟩ := (hguard c a hpassed).2
    by_cases hserved : route = envelope.message.channel
    . subst hserved
      exact heq.elim (fun heq => absurd heq.symm hne) id
    . have hfirst := hserves.first route hmem hserved
      obtain rfl | hbefore := heq
      . exact hfirst
      . exact hfirst.trans hbefore
  have hkept : ∀ c a, Turns.PassedOver (s.turns ++ [{ waiting := s.queue.waitingRoutes now
                                                      served := some envelope.message.channel }]) c a
      → c ∈ s.queue.routes.keys ∧ c ≠ envelope.message.channel := by
    intro c a hpassed
    obtain ⟨hserved, hmem, hne⟩ | ⟨hne, hold⟩ := Turns.passedOver_concat hpassed
    . cases hserved
      exact ⟨DispatchQueue.mem_routes_of_mem_waitingRoutes h.placed hmem, hne⟩
    . exact ⟨h.passed c a hold, fun heq => hne (congrArg some heq.symm)⟩
  constructor
  . exact hserves.placed
  . intro last hlast
    obtain ⟨hkeys, hroute⟩ | ⟨hnone, _⟩ := hserves.routes
    . cases hroute.symm.trans hlast
      dsimp only
      rw [hkeys]
      exact DispatchQueue.mem_routes_of_mem_waitingRoutes h.placed hwaits
    . cases hnone.symm.trans hlast
  . intro c a hpassed
    obtain ⟨hmem, hne⟩ := hkept c a hpassed
    obtain ⟨hkeys, _⟩ | ⟨_, hkeys⟩ := hserves.routes
    . dsimp only
      rw [hkeys]
      exact hmem
    . exact hkeys c hmem hne
  . intro last hlast c a hpassed
    obtain ⟨hmem, hne⟩ := hkept c a hpassed
    obtain ⟨hkeys, hroute⟩ | ⟨hnone, _⟩ := hserves.routes
    . cases hroute.symm.trans hlast
      unfold DispatchQueue.position
      dsimp only
      rw [hkeys]
      obtain ⟨hserved, _⟩ | ⟨_, hold⟩ := Turns.passedOver_concat hpassed
      . cases hserved
        exact Circle.before_start (DispatchQueue.position_ne hmem hne)
      . have hbefore := hlater c a hold hne
        by_cases hcursor : ∃ last, s.queue.KeepsCursor now last
        . obtain ⟨last, hlast⟩ := hcursor
          exact (hbefore.1 last hlast).advance (h.inTurn last hlast.1 c a hold)
        . have hlost := not_exists.mp hcursor
          exact Circle.Before.of_lt (hbefore.2 hlost) ((hguard c a hold).1 hlost)
    . cases hnone.symm.trans hlast
  . refine h.neverTwice.concat ?_
    rintro _ ⟨⟩ c _ hne hpassed
    have hbefore := hlater c _ hpassed hne
    by_cases hcursor : ∃ last, s.queue.KeepsCursor now last
    . obtain ⟨last, hlast⟩ := hcursor
      exact (hbefore.1 last hlast).asymm (h.inTurn last hlast.1 c _ hpassed)
    . have hlost := not_exists.mp hcursor
      exact Nat.lt_asymm (hbefore.2 hlost) ((hguard c _ hpassed).1 hlost)
  . intro turn hmem hne
    obtain hold | hnew := List.mem_append.mp hmem
    . exact h.served turn hold hne
    . rw [List.mem_singleton.mp hnew]
      exact ⟨_, hwaits, rfl⟩

theorem TurnInvariant.idle {s : TurnHistory} (h : TurnInvariant s)
    : TurnInvariant { s with turns := s.turns ++ [{ waiting := [], served := none }] } := by
  have hold : ∀ c a, Turns.PassedOver (s.turns ++ [{ waiting := [], served := none }]) c a
      → Turns.PassedOver s.turns c a := by
    intro c a hpassed
    obtain ⟨hserved, _⟩ | ⟨_, hold⟩ := Turns.passedOver_concat hpassed
    . cases hserved
    . exact hold
  constructor
  . exact h.placed
  . exact h.lastRoute
  . exact fun c a hpassed => h.passed c a (hold c a hpassed)
  . exact fun last hlast c a hpassed => h.inTurn last hlast c a (hold c a hpassed)
  . refine h.neverTwice.concat ?_
    rintro _ ⟨⟩
  . intro turn hmem hne
    obtain hmem | hnew := List.mem_append.mp hmem
    . exact h.served turn hmem hne
    . rw [List.mem_singleton.mp hnew] at hne
      exact absurd rfl hne

theorem TurnInvariant.step {s s' : TurnHistory} {call : QueueCall} (h : TurnInvariant s)
    (hkeeps : KeepsTurns s call) (hstep : turnStep s call = some s')
    : TurnInvariant s' := by
  cases call with
  | enqueue envelope =>
    cases hstep
    exact h.enqueue envelope
  | dequeue now =>
    cases hstep
    obtain ⟨_, heq⟩ | ⟨envelope, queue', heq, hserves⟩ := DispatchQueue.dequeue_serves h.placed
    . have hnone := DispatchQueue.waitingRoutes_of_dequeue_eq_none hkeeps.1 (congrArg Prod.fst heq)
      rw [heq, hnone]
      exact h.idle
    . have hurgent := DispatchQueue.mem_urgentEnvelopes_of_dequeue h.placed hkeeps.1
        (congrArg Prod.fst heq)
      rw [heq]
      exact h.serve hserves (List.mem_map_of_mem hurgent) hkeeps

theorem always_fairTurns {calls : List QueueCall}
    (h : Runs.Guarded turnStep KeepsTurns {} calls)
    : Runs.Always turnStep (fun s => FairTurns s.turns) {} calls := by
  apply Runs.Always.mono (fun _ h => TurnInvariant.fairTurns h)
  refine Runs.always_of_guarded ?_ turnInvariant_new h
  intro s call s' hs hkeeps hstep
  exact hs.step hkeeps hstep

def envelopeTo (channel : String) : DispatchEnvelope :=
  .fromMessage 0 { id := "message", channel, accountId := "default", content := "hello" }

theorem DispatchQueue.frontsUrgent_of_forall {queue : DispatchQueue} {now : UInt64}
    (h : ∀ envelope ∈ queue.envelopes, ∃ head ∈ queue.envelopes,
      (queue.waiting head.place).head? = some head ∧ head.ready now = true
        ∧ head.priority ≤ envelope.priority)
    : queue.FrontsUrgent now := by
  intro envelope hmem _
  obtain ⟨head, _, hhead, hready, hle⟩ := h envelope hmem
  exact ⟨head, ⟨hhead, hready⟩, hle⟩

theorem always_fairTurns_two
    : Runs.Always turnStep (fun s => FairTurns s.turns) {}
        [.enqueue (envelopeTo "alpha"), .enqueue (envelopeTo "alpha"), .enqueue (envelopeTo "beta"),
          .dequeue 0, .dequeue 0] := by
  apply always_fairTurns
  rintro _ ⟨⟩
  refine ⟨trivial, ?_⟩
  rintro _ ⟨⟩
  refine ⟨trivial, ?_⟩
  rintro _ ⟨⟩
  refine ⟨trivial, ?_⟩
  intro s hs
  refine ⟨⟨DispatchQueue.frontsUrgent_of_forall ?_,
    fun _ c a hpassed => absurd hpassed (Turns.not_passedOver_nil c a)⟩, ?_⟩
  . decide +kernel
  intro s' _
  have hfacts : some ([{ waiting := ["alpha", "alpha", "beta"], served := some "alpha" }],
      ["alpha", "beta"], some "alpha") = (some s).map (fun s =>
        (s.turns, s.queue.urgentRoutes 0, s.queue.lastRouteKey)) := by
    rw [← hs]
    decide +kernel
  injection hfacts with hfacts
  obtain ⟨hturns, hfacts⟩ := Prod.mk.inj hfacts
  obtain ⟨hurgent, hlast⟩ := Prod.mk.inj hfacts
  refine ⟨⟨DispatchQueue.frontsUrgent_of_forall ?_, ?_⟩, trivial⟩
  . cases hs
    decide +kernel
  . intro _ c a hpassed
    rw [← hturns] at hpassed
    obtain ⟨_, hmem, _⟩ | ⟨_, hold⟩ := @Turns.passedOver_concat _ [] _ c a hpassed
    . have hurgent' : c ∈ s.queue.urgentRoutes 0 := by
        rw [← hurgent]
        exact List.mem_of_mem_cons_of_mem hmem (List.mem_cons_self ..)
      refine ⟨fun hlost => absurd ⟨hlast.symm, ?_⟩ (hlost "alpha"), c, hurgent', .inl rfl⟩
      rw [← hurgent]
      exact List.mem_cons_self ..
    . exact absurd hold (Turns.not_passedOver_nil c a)

/--
`beta` is emptied, so that the turn goes back to `alpha`, although `gamma` has been waiting since `alpha`
had its last turn.
-/
theorem not_always_fairTurns
    : ¬ Runs.Always turnStep (fun s => FairTurns s.turns) {}
        [.enqueue (envelopeTo "alpha"), .enqueue (envelopeTo "alpha"), .enqueue (envelopeTo "beta"),
          .enqueue (envelopeTo "gamma"), .dequeue 0, .dequeue 0, .dequeue 0] := by
  intro h
  have hrun : (Runs.run turnStep {}
      [.enqueue (envelopeTo "alpha"), .enqueue (envelopeTo "alpha"), .enqueue (envelopeTo "beta"),
        .enqueue (envelopeTo "gamma"), .dequeue 0, .dequeue 0, .dequeue 0]).map TurnHistory.turns
      = some
        [{ waiting := ["alpha", "alpha", "beta", "gamma"], served := some "alpha" },
          { waiting := ["alpha", "beta", "gamma"], served := some "beta" },
          { waiting := ["alpha", "gamma"], served := some "alpha" }] := by
    decide +kernel
  obtain ⟨s, hs, hturns⟩ := Option.map_eq_some_iff.mp hrun
  have hfair := (h.run_eq_some hs).neverTwice
  rw [hturns] at hfair
  refine hfair [_, _] _ [] rfl "alpha" rfl "gamma" (by decide) (by decide) ?_
  exact ⟨[], _, [_], rfl, rfl, by decide, by decide, by decide⟩

end AnimaAgent
