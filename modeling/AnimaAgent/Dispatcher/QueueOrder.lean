import AnimaAgent.Dispatcher.Queue
import AnimaAgent.Library.Fifo
import AnimaAgent.Library.Runs

namespace AnimaAgent

def DispatchEnvelope.place (envelope : DispatchEnvelope) : String × UInt8 :=
  (envelope.message.channel, envelope.priority)

namespace DispatchQueue

def waiting (queue : DispatchQueue) (place : String × UInt8) : List DispatchEnvelope :=
  ((queue.routes.get place.1).bind (fun priorities => priorities.get place.2)).getD []

def envelopes (queue : DispatchQueue) : List DispatchEnvelope :=
  queue.routes.entries.flatMap (fun entry => entry.2.entries.flatMap Prod.snd)

def ReadyHead (queue : DispatchQueue) (now : UInt64) (envelope : DispatchEnvelope) : Prop :=
  (queue.waiting envelope.place).head? = some envelope ∧ envelope.ready now = true

structure NoneEmpty (queue : DispatchQueue) : Prop where
  routes : ∀ route priorities, queue.routes.get route = some priorities → priorities.entries ≠ []
  priorities : ∀ route priorities priority waiting, queue.routes.get route = some priorities
    → priorities.get priority = some waiting → waiting ≠ []

def Placed (queue : DispatchQueue) : Prop :=
  ∀ place, ∀ envelope ∈ queue.waiting place, envelope.place = place

variable {queue : DispatchQueue} {now : UInt64}

theorem waiting_eq {route : String} {priorities : IndexMap UInt8 (List DispatchEnvelope)}
    (hroute : queue.routes.get route = some priorities) (priority : UInt8)
    : queue.waiting (route, priority) = (priorities.get priority).getD [] := by
  simp [waiting, hroute]

section Enqueue

theorem waiting_enqueue (queue : DispatchQueue) (envelope : DispatchEnvelope)
    : (queue.enqueue envelope).waiting
        = Fifo.put DispatchEnvelope.place queue.waiting envelope := by
  funext ⟨route, priority⟩
  unfold waiting enqueue Fifo.put DispatchEnvelope.place
  rw [IndexMap.get_insert_eq]
  by_cases hroute : route = envelope.message.channel
  . subst hroute
    rw [if_pos rfl, Option.bind_some, IndexMap.get_insert_eq]
    by_cases hpriority : priority = envelope.priority
    . subst hpriority
      cases hget : queue.routes.get envelope.message.channel with
      | none => simp [hget]
      | some priorities => simp [hget]
    . cases hget : queue.routes.get envelope.message.channel with
      | none => simp [hget, hpriority]
      | some priorities => simp [hget, hpriority]
  . simp [hroute]

theorem Placed.enqueue (h : queue.Placed) (envelope : DispatchEnvelope)
    : (queue.enqueue envelope).Placed := by
  intro place other hmem
  rw [waiting_enqueue] at hmem
  unfold Fifo.put at hmem
  split at hmem
  . next hplace =>
    obtain hold | hnew := List.mem_append.mp hmem
    . exact h place other hold
    . rw [List.mem_singleton.mp hnew, hplace]
  . exact h place other hmem

theorem NoneEmpty.enqueue (h : queue.NoneEmpty) (envelope : DispatchEnvelope)
    : (queue.enqueue envelope).NoneEmpty := by
  constructor
  . intro route priorities hroute hempty
    obtain ⟨rfl, rfl⟩ | hold := IndexMap.get_insert hroute
    . have hget := congrArg (IndexMap.lookup envelope.priority) hempty
      change IndexMap.get _ envelope.priority = none at hget
      rw [IndexMap.get_insert_eq, if_pos rfl] at hget
      cases hget
    . exact h.routes route priorities hold hempty
  . intro route priorities priority waiting hroute hpriority
    obtain ⟨rfl, rfl⟩ | hold := IndexMap.get_insert hroute
    . obtain ⟨rfl, rfl⟩ | hold := IndexMap.get_insert hpriority
      . simp
      . cases hget : queue.routes.get envelope.message.channel with
        | none =>
          rw [hget] at hold
          cases hold
        | some priorities' =>
          rw [hget] at hold
          exact h.priorities _ priorities' priority waiting hget hold
    . exact h.priorities route priorities priority waiting hold hpriority

end Enqueue

section Choice

theorem mem_routeMinPriorities {route : String} {priority : UInt8}
    : (route, priority) ∈ queue.routeMinPriorities now
        ↔ ∃ priorities, queue.routes.get route = some priorities
            ∧ minPriority now priorities = some priority := by
  unfold routeMinPriorities
  rw [List.mem_filterMap]
  constructor
  . rintro ⟨entry, hmem, hmin⟩
    obtain ⟨priority', hpriority, heq⟩ := Option.map_eq_some_iff.mp hmin
    cases heq
    exact ⟨entry.2, IndexMap.get_eq_some_iff.mpr hmem, hpriority⟩
  . rintro ⟨priorities, hget, hmin⟩
    exact ⟨(route, priorities), IndexMap.get_eq_some_iff.mp hget, by simp [hmin]⟩

theorem mem_eligibleRoutes {route : String} {priority : UInt8}
    : route ∈ queue.eligibleRoutes now priority
        ↔ (route, priority) ∈ queue.routeMinPriorities now := by
  unfold eligibleRoutes
  simp

theorem mem_readyPriorities {priorities : IndexMap UInt8 (List DispatchEnvelope)} {priority : UInt8}
    : priority ∈ priorities.entries.filterMap (fun entry =>
          if entry.2.head?.any (fun envelope => envelope.ready now) then some entry.1 else none)
        ↔ ∃ envelope rest, priorities.get priority = some (envelope :: rest)
            ∧ envelope.ready now = true := by
  rw [List.mem_filterMap]
  constructor
  . rintro ⟨⟨priority', waiting⟩, hmem, hready⟩
    obtain ⟨hany, heq⟩ := Option.ite_none_right_eq_some.mp hready
    cases heq
    cases waiting with
    | nil => cases hany
    | cons envelope rest =>
      exact ⟨envelope, rest, IndexMap.get_eq_some_iff.mpr hmem, hany⟩
  . rintro ⟨envelope, rest, hget, hready⟩
    exact ⟨(priority, envelope :: rest), IndexMap.get_eq_some_iff.mp hget, by simp [hready]⟩

theorem exists_routeMinPriority {route : String} {priority : UInt8} {envelope : DispatchEnvelope}
    (hhead : (queue.waiting (route, priority)).head? = some envelope)
    (hready : envelope.ready now = true)
    : ∃ least, (route, least) ∈ queue.routeMinPriorities now ∧ least ≤ priority := by
  obtain ⟨rest, hwaiting⟩ := List.head?_eq_some_iff.mp hhead
  unfold waiting at hwaiting
  cases hget : queue.routes.get route with
  | none => simp [hget] at hwaiting
  | some priorities =>
    have hpriority : priorities.get priority = some (envelope :: rest) := by
      cases hpriority : priorities.get priority with
      | none => simp [hget, hpriority] at hwaiting
      | some waiting => simpa [hget, hpriority] using hwaiting
    have hmem := mem_readyPriorities.mpr ⟨envelope, rest, hpriority, hready⟩
    cases hmin : minPriority now priorities with
    | none =>
      rw [List.min?_eq_none_iff.mp hmin] at hmem
      cases hmem
    | some least =>
      exact ⟨least, mem_routeMinPriorities.mpr ⟨priorities, hget, hmin⟩,
        (List.min?_eq_some_iff.mp hmin).2 priority hmem⟩

theorem globalPriority_eq_some {priority : UInt8} (h : queue.globalPriority now = some priority)
    : queue.eligibleRoutes now priority ≠ []
        ∧ ∀ route priority', (route, priority') ∈ queue.routeMinPriorities now
            → priority ≤ priority' := by
  obtain ⟨hmem, hleast⟩ := List.min?_eq_some_iff.mp h
  constructor
  . obtain ⟨⟨route, _⟩, hentry, rfl⟩ := List.mem_map.mp hmem
    exact List.ne_nil_of_mem (mem_eligibleRoutes.mpr hentry)
  . intro route priority' hentry
    exact hleast priority' (List.mem_map.mpr ⟨_, hentry, rfl⟩)

theorem selectNextRoute_mem {eligibleRoutes : List String} (hne : eligibleRoutes ≠ [])
    (last : Option String)
    : ∃ route ∈ eligibleRoutes, selectNextRoute eligibleRoutes last = some route := by
  have hpos : 0 < eligibleRoutes.length := List.length_pos_of_ne_nil hne
  have hget : ∀ i, i < eligibleRoutes.length
      → ∃ route ∈ eligibleRoutes, eligibleRoutes[i]? = some route := by
    intro i hi
    exact ⟨eligibleRoutes[i], List.getElem_mem hi, List.getElem?_eq_getElem hi⟩
  unfold selectNextRoute
  split
  . exact hget _ (Nat.mod_lt _ hpos)
  . exact hget 0 hpos

theorem dequeue_cases (queue : DispatchQueue) (now : UInt64)
    : (queue.globalPriority now = none ∧ queue.dequeue now = (none, queue))
      ∨ ∃ route priority priorities envelope rest,
          queue.globalPriority now = some priority
          ∧ route ∈ queue.eligibleRoutes now priority
          ∧ selectNextRoute (queue.eligibleRoutes now priority) queue.lastRouteKey = some route
          ∧ queue.routes.get route = some priorities
          ∧ priorities.get priority = some (envelope :: rest)
          ∧ envelope.ready now = true
          ∧ queue.dequeue now
              = (some envelope, queue.popFront route priority priorities (envelope :: rest)) := by
  unfold dequeue
  cases hglobal : queue.globalPriority now with
  | none => exact .inl ⟨rfl, rfl⟩
  | some priority =>
    obtain ⟨hne, _⟩ := globalPriority_eq_some hglobal
    obtain ⟨route, hmem, hselect⟩ := selectNextRoute_mem hne queue.lastRouteKey
    obtain ⟨priorities, hroute, hmin⟩ := mem_routeMinPriorities.mp (mem_eligibleRoutes.mp hmem)
    obtain ⟨envelope, rest, hget, hready⟩ :=
      mem_readyPriorities.mp (List.min?_eq_some_iff.mp hmin).1
    refine .inr ⟨route, priority, priorities, envelope, rest, rfl, hmem, hselect, hroute, hget,
      hready, ?_⟩
    simp [hselect, hroute, hget]

theorem globalPriority_eq_none (h : queue.globalPriority now = none) (envelope : DispatchEnvelope)
    : ¬ queue.ReadyHead now envelope := by
  rintro ⟨hhead, hready⟩
  obtain ⟨least, hmem, _⟩ := exists_routeMinPriority hhead hready
  have hnil := List.map_eq_nil_iff.mp (List.min?_eq_none_iff.mp h)
  rw [hnil] at hmem
  cases hmem

theorem dequeue_urgent {envelope : DispatchEnvelope}
    (hplaced : queue.Placed)
    (h : (queue.dequeue now).1 = some envelope)
    : queue.ReadyHead now envelope
        ∧ ∀ other, queue.ReadyHead now other → envelope.priority ≤ other.priority := by
  obtain ⟨_, heq⟩ | ⟨route, priority, priorities, head, rest, hglobal, _, _, hroute, hget, hready,
    heq⟩ := dequeue_cases queue now
  . rw [heq] at h
    cases h
  . rw [heq] at h
    cases h
    have hwaiting : queue.waiting (route, priority) = envelope :: rest := by
      rw [waiting_eq hroute, hget, Option.getD_some]
    have hplace := hplaced (route, priority) envelope (hwaiting ▸ List.mem_cons_self ..)
    refine ⟨⟨by rw [hplace, hwaiting, List.head?_cons], hready⟩, ?_⟩
    rintro other ⟨hother, hready'⟩
    obtain ⟨least, hmem, hle⟩ := exists_routeMinPriority hother hready'
    have hpriority : envelope.priority = priority := congrArg Prod.snd hplace
    rw [hpriority]
    exact UInt8.le_trans ((globalPriority_eq_some hglobal).2 _ _ hmem) hle

end Choice

section PopFront

variable {route : String} {priority : UInt8} {priorities : IndexMap UInt8 (List DispatchEnvelope)}
  {envelope : DispatchEnvelope} {rest : List DispatchEnvelope}

def remaining (priority : UInt8) (priorities : IndexMap UInt8 (List DispatchEnvelope))
    (rest : List DispatchEnvelope) : IndexMap UInt8 (List DispatchEnvelope) :=
  if rest.isEmpty then priorities.shiftRemove priority else priorities.insert priority rest

theorem popFront_eq (queue : DispatchQueue) (route : String) (priority : UInt8)
    (priorities : IndexMap UInt8 (List DispatchEnvelope)) (envelope : DispatchEnvelope)
    (rest : List DispatchEnvelope)
    : queue.popFront route priority priorities (envelope :: rest)
        = if (remaining priority priorities rest).entries.isEmpty then
            { routes := queue.routes.shiftRemove route, lastRouteKey := none }
          else
            { routes := queue.routes.insert route (remaining priority priorities rest)
              lastRouteKey := some route } := by
  rfl

theorem get_remaining (priority other : UInt8)
    (priorities : IndexMap UInt8 (List DispatchEnvelope)) (rest : List DispatchEnvelope)
    : ((remaining priority priorities rest).get other).getD []
        = if other = priority then rest else (priorities.get other).getD [] := by
  unfold remaining
  by_cases hrest : rest.isEmpty
  . rw [if_pos hrest, IndexMap.get_shiftRemove_eq]
    split
    . exact (List.isEmpty_iff.mp hrest).symm
    . rfl
  . rw [if_neg hrest, IndexMap.get_insert_eq]
    split
    . rfl
    . rfl

theorem ne_nil_of_get_remaining
    (hpriorities : ∀ other waiting, priorities.get other = some waiting → waiting ≠ [])
    {other : UInt8} {waiting : List DispatchEnvelope}
    (h : (remaining priority priorities rest).get other = some waiting)
    : waiting ≠ [] := by
  unfold remaining at h
  split at h
  . rw [IndexMap.get_shiftRemove_eq] at h
    split at h
    . cases h
    . exact hpriorities other waiting h
  . next hrest =>
    obtain ⟨_, rfl⟩ | hold := IndexMap.get_insert h
    . exact fun hnil => hrest (List.isEmpty_iff.mpr hnil)
    . exact hpriorities other waiting hold

theorem waiting_popFront (hroute : queue.routes.get route = some priorities)
    : (queue.popFront route priority priorities (envelope :: rest)).waiting
        = fun place => if place = (route, priority) then rest else queue.waiting place := by
  funext ⟨route', priority'⟩
  have hget := get_remaining priority priority' priorities rest
  simp only [popFront_eq, Prod.mk.injEq]
  by_cases hroute' : route' = route
  . subst hroute'
    simp only [waiting_eq hroute, true_and]
    rw [← hget]
    split
    . next hempty =>
      unfold waiting
      rw [IndexMap.get_shiftRemove_eq, if_pos rfl, Option.bind_none, Option.getD_none]
      unfold IndexMap.get
      rw [List.isEmpty_iff.mp hempty]
      rfl
    . unfold waiting
      rw [IndexMap.get_insert_eq, if_pos rfl, Option.bind_some]
  . have hplace : ¬ (route' = route ∧ priority' = priority) := fun h => hroute' h.1
    rw [if_neg hplace]
    split
    . unfold waiting
      rw [IndexMap.get_shiftRemove_eq, if_neg hroute']
    . unfold waiting
      rw [IndexMap.get_insert_eq, if_neg hroute']

theorem waiting_popFront_eq_take (hroute : queue.routes.get route = some priorities)
    (hwaiting : queue.waiting (route, priority) = envelope :: rest)
    : (queue.popFront route priority priorities (envelope :: rest)).waiting
        = Fifo.take queue.waiting (route, priority) := by
  rw [waiting_popFront hroute]
  funext place
  unfold Fifo.take
  split
  . next heq => rw [heq, hwaiting, List.tail_cons]
  . rfl

theorem Placed.popFront (h : queue.Placed) (hroute : queue.routes.get route = some priorities)
    (hget : priorities.get priority = some (envelope :: rest))
    : (queue.popFront route priority priorities (envelope :: rest)).Placed := by
  intro place other hmem
  rw [waiting_popFront hroute] at hmem
  dsimp only at hmem
  split at hmem
  . next hplace =>
    refine h place other ?_
    rw [hplace, waiting_eq hroute, hget]
    exact List.mem_cons_of_mem _ hmem
  . exact h place other hmem

theorem NoneEmpty.popFront (h : queue.NoneEmpty) (hroute : queue.routes.get route = some priorities)
    : (queue.popFront route priority priorities (envelope :: rest)).NoneEmpty := by
  rw [popFront_eq]
  split
  . constructor
    . intro route' priorities' hget
      rw [IndexMap.get_shiftRemove_eq] at hget
      split at hget
      . cases hget
      . exact h.routes route' priorities' hget
    . intro route' priorities' priority' waiting hget hpriority
      rw [IndexMap.get_shiftRemove_eq] at hget
      split at hget
      . cases hget
      . exact h.priorities route' priorities' priority' waiting hget hpriority
  . next hempty =>
    constructor
    . intro route' priorities' hget
      obtain ⟨_, rfl⟩ | hold := IndexMap.get_insert hget
      . exact fun hnil => hempty (List.isEmpty_iff.mpr hnil)
      . exact h.routes route' priorities' hold
    . intro route' priorities' priority' waiting hget hpriority
      obtain ⟨_, rfl⟩ | hold := IndexMap.get_insert hget
      . refine ne_nil_of_get_remaining ?_ hpriority
        exact fun other waiting hother => h.priorities route priorities other waiting hroute hother
      . exact h.priorities route' priorities' priority' waiting hold hpriority

end PopFront

section Count

theorem len_eq (queue : DispatchQueue) : queue.len = queue.envelopes.length := by
  unfold len envelopes IndexMap.values
  rw [List.flatMap_map, List.flatten_eq_flatMap, List.flatMap_assoc]
  simp only [List.flatMap_map, id_eq]

theorem Placed.of_mem (h : queue.Placed) {route : String} {priority : UInt8}
    {priorities : IndexMap UInt8 (List DispatchEnvelope)} {waiting : List DispatchEnvelope}
    (hroute : (route, priorities) ∈ queue.routes.entries)
    (hpriority : (priority, waiting) ∈ priorities.entries)
    : ∀ envelope ∈ waiting, envelope.place = (route, priority) := by
  have hget := waiting_eq (IndexMap.get_eq_some_iff.mpr hroute) priority
  rw [IndexMap.get_eq_some_iff.mpr hpriority, Option.getD_some] at hget
  rw [← hget]
  exact h (route, priority)

theorem under_envelopes (h : queue.Placed) (place : String × UInt8)
    : Fifo.under DispatchEnvelope.place place queue.envelopes = queue.waiting place := by
  obtain ⟨route, priority⟩ := place
  -- the envelopes of other places are filtered out
  have hother : ∀ entry ∈ queue.routes.entries, ∀ entry' ∈ entry.2.entries,
      entry.1 ≠ route ∨ entry'.1 ≠ priority
      → Fifo.under DispatchEnvelope.place (route, priority) entry'.2 = [] := by
    intro entry hentry entry' hentry' hne
    refine List.filter_eq_nil_iff.mpr ?_
    intro envelope hmem heq
    have hplace := (h.of_mem hentry hentry' envelope hmem).symm.trans (of_decide_eq_true heq)
    obtain ⟨hroute, hpriority⟩ := Prod.mk.inj hplace
    exact hne.elim (fun hne => hne hroute) (fun hne => hne hpriority)
  unfold Fifo.under envelopes at *
  rw [List.filter_flatMap,
    IndexMap.flatMap_entries_eq queue.routes
      (fun _ priorities => (priorities.entries.flatMap Prod.snd).filter _) route ?_]
  . unfold waiting
    cases hroute : queue.routes.get route with
    | none => rfl
    | some priorities =>
      have hmem := IndexMap.get_eq_some_iff.mp hroute
      rw [Option.map_some, Option.getD_some, List.filter_flatMap,
        IndexMap.flatMap_entries_eq priorities (fun _ waiting => waiting.filter _) priority
          (fun entry' hentry' hne => hother _ hmem entry' hentry' (.inr hne)), Option.bind_some]
      cases hpriority : priorities.get priority with
      | none => rfl
      | some waiting =>
        refine List.filter_eq_self.mpr ?_
        intro envelope henvelope
        exact decide_eq_true
          (h.of_mem hmem (IndexMap.get_eq_some_iff.mp hpriority) envelope henvelope)
  . intro entry hentry hne
    rw [List.filter_flatMap, List.flatMap_eq_nil_iff]
    exact fun entry' hentry' => hother entry hentry entry' hentry' (.inl hne)

theorem count_envelopes (h : queue.Placed) (envelope : DispatchEnvelope)
    : queue.envelopes.count envelope = (queue.waiting envelope.place).count envelope := by
  rw [← under_envelopes h, Fifo.count_under]

theorem envelopes_enqueue (h : queue.Placed) (envelope : DispatchEnvelope)
    : (queue.enqueue envelope).envelopes.Perm (envelope :: queue.envelopes) := by
  rw [List.perm_iff_count]
  intro other
  rw [count_envelopes (h.enqueue envelope), waiting_enqueue, List.count_cons, count_envelopes h]
  unfold Fifo.put
  split
  . rw [List.count_append, List.count_singleton]
  . next hplace =>
    have hne : envelope ≠ other := fun heq => hplace (heq ▸ rfl)
    rw [beq_eq_false_iff_ne.mpr hne]
    rfl

theorem Placed.dequeue (h : queue.Placed) (now : UInt64) : (queue.dequeue now).2.Placed := by
  obtain ⟨_, heq⟩ | ⟨route, priority, priorities, envelope, rest, _, _, _, hroute, hget, _, heq⟩ :=
    queue.dequeue_cases now
  . rw [heq]
    exact h
  . rw [heq]
    exact h.popFront hroute hget

theorem waiting_dequeue {envelope : DispatchEnvelope} (h : queue.Placed)
    (hdequeue : (queue.dequeue now).1 = some envelope)
    : (queue.dequeue now).2.waiting = Fifo.take queue.waiting envelope.place := by
  obtain ⟨_, heq⟩ | ⟨route, priority, priorities, head, rest, _, _, _, hroute, hget, _, heq⟩ :=
    queue.dequeue_cases now
  . rw [heq] at hdequeue
    cases hdequeue
  . rw [heq] at hdequeue ⊢
    cases hdequeue
    have hwaiting : queue.waiting (route, priority) = envelope :: rest := by
      rw [waiting_eq hroute, hget, Option.getD_some]
    rw [h (route, priority) envelope (hwaiting ▸ List.mem_cons_self ..)]
    exact waiting_popFront_eq_take hroute hwaiting

theorem dequeue_eq_none (h : (queue.dequeue now).1 = none)
    : (queue.dequeue now).2 = queue ∧ ∀ envelope, ¬ queue.ReadyHead now envelope := by
  obtain ⟨hglobal, heq⟩ | ⟨_, _, _, _, _, _, _, _, _, _, _, heq⟩ := queue.dequeue_cases now
  . rw [heq]
    exact ⟨rfl, globalPriority_eq_none hglobal⟩
  . rw [heq] at h
    cases h

theorem envelopes_dequeue (h : queue.Placed) {envelope : DispatchEnvelope}
    (hdequeue : (queue.dequeue now).1 = some envelope)
    : queue.envelopes.Perm (envelope :: (queue.dequeue now).2.envelopes) := by
  have hafter := h.dequeue now
  obtain ⟨_, heq⟩ | ⟨route, priority, priorities, head, rest, _, _, _, hroute, hget, _, heq⟩ :=
    queue.dequeue_cases now
  . rw [heq] at hdequeue
    cases hdequeue
  . rw [heq] at hdequeue hafter ⊢
    cases hdequeue
    dsimp only at hafter ⊢
    rw [List.perm_iff_count]
    intro other
    have hwaiting : queue.waiting (route, priority) = envelope :: rest := by
      rw [waiting_eq hroute, hget, Option.getD_some]
    have hplace := h (route, priority) envelope (hwaiting ▸ List.mem_cons_self ..)
    rw [List.count_cons, count_envelopes h, count_envelopes hafter, waiting_popFront hroute]
    dsimp only
    split
    . next hother => rw [hother, hwaiting, List.count_cons]
    . next hother =>
      have hne : envelope ≠ other := fun heq => hother (heq ▸ hplace)
      rw [beq_eq_false_iff_ne.mpr hne]
      rfl

theorem countP_of_forall {β : Type} [DecidableEq β] {f : DispatchEnvelope → β}
    {envelopes : List DispatchEnvelope} {key : β} (h : ∀ envelope ∈ envelopes, f envelope = key)
    (other : β)
    : envelopes.countP (fun envelope => decide (f envelope = other))
        = if key = other then envelopes.length else 0 := by
  split
  . next heq =>
    exact List.countP_eq_length.mpr (fun e he => decide_eq_true ((h e he).trans heq))
  . next hne =>
    refine List.countP_eq_zero.mpr ?_
    exact fun e he heq => hne ((h e he).symm.trans (of_decide_eq_true heq))

structure CountedRoute (before : IndexMap UInt8 Nat) (counts : IndexMap UInt8 Nat × Nat)
    (envelopes : List DispatchEnvelope) : Prop where
  byPriority : ∀ priority, (counts.1.get priority).getD 0 = (before.get priority).getD 0
    + envelopes.countP (fun envelope => decide (envelope.priority = priority))
  total : counts.1.total = before.total + envelopes.length
  route : counts.2 = envelopes.length

theorem countedRoute (before : IndexMap UInt8 Nat)
    {entries : List (UInt8 × List DispatchEnvelope)}
    (h : ∀ entry ∈ entries, ∀ envelope ∈ entry.2, envelope.priority = entry.1)
    : CountedRoute before (countRoute before entries) (entries.flatMap Prod.snd) := by
  unfold countRoute
  induction entries using List.reverseRecOn with
  | nil => exact ⟨fun _ => rfl, rfl, rfl⟩
  | append_singleton entries entry ih =>
    obtain ⟨hpriority, htotal, hroute⟩ :=
      ih (fun entry hmem => h entry (List.mem_append_left _ hmem))
    have hentry := countP_of_forall (h entry (List.mem_append_right _ (List.mem_singleton_self _)))
    rw [List.foldl_concat, List.flatMap_append, List.flatMap_singleton]
    constructor
    . intro priority
      rw [IndexMap.get_addTo, hpriority, List.countP_append, hentry, Nat.add_assoc]
    . rw [IndexMap.total_addTo, htotal, List.length_append, Nat.add_assoc]
    . rw [hroute, List.length_append]

structure CountedRoutes (counts : IndexMap UInt8 Nat × IndexMap String Nat)
    (routes : List (String × IndexMap UInt8 (List DispatchEnvelope)))
    (envelopes : List DispatchEnvelope) : Prop where
  byPriority : ∀ priority, (counts.1.get priority).getD 0
    = envelopes.countP (fun envelope => decide (envelope.priority = priority))
  byRoute : ∀ route, (counts.2.get route).getD 0
    = envelopes.countP (fun envelope => decide (envelope.message.channel = route))
  fresh : ∀ route, route ∉ routes.map Prod.fst → counts.2.get route = none
  priorities : counts.1.total = envelopes.length
  routes : counts.2.total = envelopes.length

theorem countedRoutes {entries : List (String × IndexMap UInt8 (List DispatchEnvelope))}
    (hnodup : (entries.map Prod.fst).Nodup)
    (h : ∀ entry ∈ entries, ∀ entry' ∈ entry.2.entries, ∀ envelope ∈ entry'.2,
      envelope.place = (entry.1, entry'.1))
    : CountedRoutes
        (entries.foldl (fun counts entry =>
          let route := countRoute counts.1 entry.2.entries
          (route.1, counts.2.insert entry.1 route.2)) (IndexMap.empty, IndexMap.empty))
        entries (entries.flatMap (fun entry => entry.2.entries.flatMap Prod.snd)) := by
  induction entries using List.reverseRecOn with
  | nil => exact ⟨fun _ => rfl, fun _ => rfl, fun _ _ => rfl, rfl, rfl⟩
  | append_singleton entries entry ih =>
    rw [List.map_append, List.map_singleton, List.nodup_append] at hnodup
    obtain ⟨hentries, _, hnew⟩ := hnodup
    obtain ⟨hpriority, hroute, hfresh, hpriorities, hroutes⟩ :=
      ih hentries (fun entry hmem => h entry (List.mem_append_left _ hmem))
    have hplace := h entry (List.mem_append_right _ (List.mem_singleton_self _))
    rw [List.foldl_concat, List.flatMap_append, List.flatMap_singleton]
    generalize List.foldl _ _ entries = counts at hpriority hroute hfresh hpriorities hroutes ⊢
    obtain ⟨hpriority', htotal, hcount⟩ := countedRoute counts.1
      (fun entry' hmem envelope henvelope => congrArg Prod.snd (hplace entry' hmem envelope henvelope))
    have hchannel : ∀ envelope ∈ entry.2.entries.flatMap Prod.snd,
        envelope.message.channel = entry.1 := by
      intro envelope hmem
      obtain ⟨entry', hentry', henvelope⟩ := List.mem_flatMap.mp hmem
      exact congrArg Prod.fst (hplace entry' hentry' envelope henvelope)
    have hnone : counts.2.get entry.1 = none :=
      hfresh entry.1 (fun hmem => hnew _ hmem _ (List.mem_singleton_self _) rfl)
    dsimp only
    constructor
    . intro priority
      rw [hpriority', hpriority, List.countP_append]
    . intro route
      rw [IndexMap.insert_eq_addTo hnone, IndexMap.get_addTo, hroute, hcount, List.countP_append,
        countP_of_forall hchannel]
    . intro route hnot
      rw [List.map_append, List.mem_append, not_or] at hnot
      rw [IndexMap.get_insert_eq, if_neg (fun heq => hnot.2 (by simp [heq])), hfresh route hnot.1]
    . rw [htotal, hpriorities, List.length_append]
    . rw [IndexMap.insert_eq_addTo hnone, IndexMap.total_addTo, hroutes, hcount,
        List.length_append]

end Count

end DispatchQueue

structure DispatchQueueSnapshot.Counts (snapshot : DispatchQueueSnapshot)
    (envelopes : List DispatchEnvelope) : Prop where
  totalLen : snapshot.totalLen = envelopes.length
  byPriority : ∀ priority, (snapshot.byPriority.get priority).getD 0
    = envelopes.countP (fun envelope => decide (envelope.priority = priority))
  byRoute : ∀ route, (snapshot.byRoute.get route).getD 0
    = envelopes.countP (fun envelope => decide (envelope.message.channel = route))
  priorities : snapshot.byPriority.total = snapshot.totalLen
  routes : snapshot.byRoute.total = snapshot.totalLen

theorem DispatchQueue.snapshot_counts {queue : DispatchQueue} (h : queue.Placed)
    : queue.snapshot.Counts queue.envelopes := by
  have hcounted := countedRoutes queue.routes.nodup
    (fun entry hentry entry' hentry' => h.of_mem hentry hentry')
  exact ⟨hcounted.routes, hcounted.byPriority, hcounted.byRoute,
    hcounted.priorities.trans hcounted.routes.symm, rfl⟩

inductive QueueCall where
  | enqueue (envelope : DispatchEnvelope)
  | dequeue (now : UInt64)

structure QueueHistory where
  queue : DispatchQueue := {}
  enqueued : List DispatchEnvelope := []
  dequeued : List DispatchEnvelope := []

def queueStep (s : QueueHistory) : QueueCall → Option QueueHistory
  | .enqueue envelope =>
    some { s with
      queue := s.queue.enqueue envelope
      enqueued := s.enqueued ++ [envelope] }
  | .dequeue now =>
    let result := s.queue.dequeue now
    some { s with
      queue := result.2
      dequeued := s.dequeued ++ result.1.toList }

structure OrderlyQueue (s : QueueHistory) : Prop where
  fifo : ∀ place, Fifo.under DispatchEnvelope.place place s.enqueued
    = Fifo.under DispatchEnvelope.place place s.dequeued ++ s.queue.waiting place
  conserved : s.enqueued.Perm (s.dequeued ++ s.queue.envelopes)
  len : s.queue.len = s.queue.envelopes.length
  snapshot : s.queue.snapshot.Counts s.queue.envelopes
  urgent : ∀ now envelope, (s.queue.dequeue now).1 = some envelope
    → s.queue.ReadyHead now envelope
      ∧ ∀ other, s.queue.ReadyHead now other → envelope.priority ≤ other.priority
  noneEmpty : s.queue.NoneEmpty

structure QueueInvariant (s : QueueHistory) : Prop where
  conserved : Fifo.Conserved DispatchEnvelope.place s.enqueued s.dequeued s.queue.waiting
  noneEmpty : s.queue.NoneEmpty

theorem queueInvariant_new : QueueInvariant {} := by
  refine ⟨Fifo.conserved_nil, ?_, ?_⟩
  . intro route priorities hget
    cases hget
  . intro route priorities priority waiting hget
    cases hget

theorem QueueInvariant.placed {s : QueueHistory} (h : QueueInvariant s) : s.queue.Placed := by
  intro place envelope hmem
  exact h.conserved.key_eq hmem

theorem QueueInvariant.step {s s' : QueueHistory} {call : QueueCall} (h : QueueInvariant s)
    (hstep : queueStep s call = some s')
    : QueueInvariant s' := by
  cases call with
  | enqueue envelope =>
    cases hstep
    refine ⟨?_, h.noneEmpty.enqueue envelope⟩
    rw [DispatchQueue.waiting_enqueue]
    exact h.conserved.put envelope
  | dequeue now =>
    cases hstep
    obtain ⟨_, heq⟩ | ⟨route, priority, priorities, envelope, rest, _, _, _, hroute, hget, _, heq⟩ :=
      s.queue.dequeue_cases now
    . rw [heq, Option.toList_none, List.append_nil]
      exact ⟨h.conserved, h.noneEmpty⟩
    . rw [heq, Option.toList_some]
      refine ⟨?_, h.noneEmpty.popFront hroute⟩
      have hwaiting : s.queue.waiting (route, priority) = envelope :: rest := by
        rw [DispatchQueue.waiting_eq hroute, hget, Option.getD_some]
      rw [DispatchQueue.waiting_popFront_eq_take hroute hwaiting]
      exact h.conserved.take (by rw [hwaiting, List.head?_cons])

theorem QueueInvariant.orderly {s : QueueHistory} (h : QueueInvariant s) : OrderlyQueue s where
  fifo := h.conserved
  conserved := h.conserved.perm (DispatchQueue.under_envelopes h.placed)
  len := s.queue.len_eq
  snapshot := DispatchQueue.snapshot_counts h.placed
  urgent := fun _ _ => DispatchQueue.dequeue_urgent h.placed
  noneEmpty := h.noneEmpty

theorem always_orderlyQueue (calls : List QueueCall)
    : Runs.Always queueStep OrderlyQueue {} calls := by
  apply Runs.Always.mono (fun _ h => QueueInvariant.orderly h)
  apply Runs.always_of_forall_step
  . intro s call s' h hstep
    exact h.step hstep
  . exact queueInvariant_new

section Hidden

/-- The envelope waits behind an envelope of its own place that may not be sent yet. -/
def DispatchQueue.HiddenBehind (queue : DispatchQueue) (now : UInt64) (envelope : DispatchEnvelope)
    : Prop :=
  ∃ head, (queue.waiting envelope.place).head? = some head ∧ head.ready now = false
    ∧ envelope ∈ (queue.waiting envelope.place).tail

variable {queue : DispatchQueue} {now : UInt64} {envelope : DispatchEnvelope}

theorem DispatchQueue.mem_envelopes_iff (h : queue.Placed)
    : envelope ∈ queue.envelopes ↔ envelope ∈ queue.waiting envelope.place := by
  rw [← List.count_pos_iff, count_envelopes h, List.count_pos_iff]

theorem DispatchQueue.readyHead_or_hiddenBehind (h : queue.Placed) (hmem : envelope ∈ queue.envelopes)
    (hready : envelope.ready now = true)
    : (∃ head, queue.ReadyHead now head) ∨ queue.HiddenBehind now envelope := by
  rw [mem_envelopes_iff h] at hmem
  cases hwaiting : queue.waiting envelope.place with
  | nil =>
    rw [hwaiting] at hmem
    cases hmem
  | cons head rest =>
    by_cases hhead : head.ready now = true
    . have hplace := h envelope.place head (hwaiting ▸ List.mem_cons_self ..)
      exact .inl ⟨head, by rw [hplace, hwaiting, List.head?_cons], hhead⟩
    . refine .inr ⟨head, by rw [hwaiting, List.head?_cons], eq_false_of_ne_true hhead, ?_⟩
      rw [hwaiting] at hmem ⊢
      obtain rfl | hrest := List.mem_cons.mp hmem
      . exact absurd hready hhead
      . exact hrest

theorem DispatchQueue.dequeue_eq_none_iff (h : queue.Placed)
    : (queue.dequeue now).1 = none
        ↔ ∀ envelope ∈ queue.envelopes, envelope.ready now = true → queue.HiddenBehind now envelope := by
  constructor
  . intro hnone envelope hmem hready
    obtain ⟨head, hhead⟩ | hhidden := readyHead_or_hiddenBehind h hmem hready
    . exact absurd hhead ((dequeue_eq_none hnone).2 head)
    . exact hhidden
  . intro hhidden
    cases hdequeue : (queue.dequeue now).1 with
    | none => rfl
    | some envelope =>
      obtain ⟨⟨hhead, hready⟩, _⟩ := dequeue_urgent h hdequeue
      have hmem : envelope ∈ queue.envelopes :=
        (envelopes_dequeue h hdequeue).mem_iff.mpr (List.mem_cons_self ..)
      obtain ⟨head, hhead', hwaits, _⟩ := hhidden envelope hmem hready
      cases hhead.symm.trans hhead'
      cases hready.symm.trans hwaits

end Hidden

theorem always_dequeue_eq_none_iff (calls : List QueueCall)
    : Runs.Always queueStep
        (fun s => ∀ now, (s.queue.dequeue now).1 = none
          ↔ ∀ envelope ∈ s.queue.envelopes,
              envelope.ready now = true → s.queue.HiddenBehind now envelope)
        {} calls := by
  apply Runs.Always.mono (fun s (h : QueueInvariant s) _ => DispatchQueue.dequeue_eq_none_iff h.placed)
  apply Runs.always_of_forall_step
  . intro s call s' h hstep
    exact h.step hstep
  . exact queueInvariant_new

def retriedEnvelope : DispatchEnvelope :=
  (DispatchEnvelope.fromMessage 0
    { id := "first", channel := "cli", accountId := "default", content := "one" }).withRetryPolicy 1 50

/-- The retry of the first message is due at 60, so that the second one is not given at 20. -/
theorem retry_hides_ready
    : ¬ Runs.Always queueStep
        (fun s => ∀ now, (s.queue.dequeue now).1 = none
          → ∀ envelope ∈ s.queue.envelopes, ¬ envelope.ready now = true)
        {} [.enqueue retriedEnvelope, .dequeue 10,
          .enqueue ((retriedEnvelope.nextRetry 10).getD retriedEnvelope),
          .enqueue (.fromMessage 20
            { id := "second", channel := "cli", accountId := "default", content := "two" })] := by
  intro h
  have hnone := h.run_eq_some rfl 20 rfl
  refine hnone (.fromMessage 20
    { id := "second", channel := "cli", accountId := "default", content := "two" }) ?_ ?_
  . decide +kernel
  . decide +kernel

end AnimaAgent
