import AnimaAgent.Library.Newest
import AnimaAgent.Web.JobStore

namespace AnimaAgent

namespace RecentEvents

variable (events : List RuntimeTimelineEvent)

def latestPlan : Option (RuntimeTimelineEvent × Nat) :=
  events.zipIdx.reverse.find? (fun item => item.1.isPlanCreated)

def isLatestPlan (item : RuntimeTimelineEvent × Nat) : Bool :=
  decide (latestPlan events = some item)

/-- The views are the ones of the most recent events and the latest creation of a plan. -/
def ShowsMostRecent (views : List JobEventView) : Prop :=
  ∃ kept, Newest.KeepsRecent Prod.snd (isLatestPlan events) maxJobEvents events.zipIdx kept
    ∧ views = kept.map (fun item => item.1.toView)

def recent : List RuntimeTimelineEvent :=
  Newest.keep maxJobEvents events

def olderPlan : Option RuntimeTimelineEvent :=
  if (recent events).any RuntimeTimelineEvent.isPlanCreated then
    none
  else
    (Newest.cut maxJobEvents events).reverse.find? RuntimeTimelineEvent.isPlanCreated

/-- Recent events with the same time read the same from both ends, and an older plan is none of them. -/
structure TiesAlike : Prop where
  ties : ∀ time, (((recent events).map RuntimeTimelineEvent.toView).filter (fun view =>
      decide (view.recordedAtMs = time))).reverse
    = ((recent events).map RuntimeTimelineEvent.toView).filter (fun view =>
      decide (view.recordedAtMs = time))
  olderPlan : ∀ plan ∈ olderPlan events, ∀ second ∈ (recent events)[1]?,
    plan.recordedAtMs < second.recordedAtMs

def order (event : RuntimeTimelineEvent) : ℕᵒᵈ :=
  OrderDual.toDual event.recordedAtMs.toNat

def viewOrder (view : JobEventView) : ℕᵒᵈ :=
  OrderDual.toDual view.recordedAtMs.toNat

variable {events}

theorem mergeSort_eq_sorted (items : List RuntimeTimelineEvent)
    : items.mergeSort (fun a b => decide (a.recordedAtMs ≤ b.recordedAtMs))
        = Newest.sorted order items := by
  rfl

theorem reverse_take_eq : events.reverse.take maxJobEvents = (recent events).reverse := by
  exact List.take_reverse

theorem find?_reverse_eq (hnone : (recent events).any RuntimeTimelineEvent.isPlanCreated = false)
    : events.reverse.find? RuntimeTimelineEvent.isPlanCreated
        = (Newest.cut maxJobEvents events).reverse.find? RuntimeTimelineEvent.isPlanCreated := by
  have hrecent : (recent events).reverse.find? RuntimeTimelineEvent.isPlanCreated = none := by
    rw [List.find?_eq_none]
    intro event hmem
    exact List.any_eq_false.mp hnone event (List.mem_reverse.mp hmem)
  conv_lhs => rw [← Newest.cut_append_keep maxJobEvents events]
  rw [List.reverse_append, List.find?_append]
  change (Option.or ((recent events).reverse.find? _) _) = _
  rw [hrecent, Option.none_or]

theorem olderPlan_eq_some_iff {plan : RuntimeTimelineEvent}
    : olderPlan events = some plan
        ↔ (∀ event ∈ recent events, event.isPlanCreated = false)
          ∧ (Newest.cut maxJobEvents events).reverse.find? RuntimeTimelineEvent.isPlanCreated
            = some plan := by
  unfold olderPlan
  split
  . next hany =>
    refine iff_of_false (by simp) ?_
    rintro ⟨hall, -⟩
    obtain ⟨event, hmem, hplan⟩ := List.any_eq_true.mp hany
    rw [hall event hmem] at hplan
    cases hplan
  . next hany =>
    rw [Bool.not_eq_true, List.any_eq_false] at hany
    exact (and_iff_right (fun event hmem => Bool.eq_false_iff.mpr (hany event hmem))).symm

theorem length_recent_le : (recent events).length ≤ maxJobEvents := by
  unfold recent
  rw [Newest.length_keep]
  omega

theorem olderPlan_spec {plan : RuntimeTimelineEvent} (h : olderPlan events = some plan)
    : plan ∈ Newest.cut maxJobEvents events ∧ plan.isPlanCreated = true := by
  obtain ⟨-, hfind⟩ := olderPlan_eq_some_iff.mp h
  exact ⟨List.mem_reverse.mp (List.mem_of_find?_eq_some hfind), List.find?_some hfind⟩

theorem length_recent_of_olderPlan {plan : RuntimeTimelineEvent} (h : olderPlan events = some plan)
    : (recent events).length = maxJobEvents := by
  have hmem := List.length_pos_of_mem (olderPlan_spec h).1
  rw [Newest.length_cut] at hmem
  unfold recent
  rw [Newest.length_keep]
  omega

theorem collectRecentJobEvents_eq
    : collectRecentJobEvents events
        = match olderPlan events with
          | none => (Newest.sorted order (recent events).reverse).map RuntimeTimelineEvent.toView
          | some plan => (dropExcess 1 (Newest.sorted order ((recent events).reverse ++ [plan]))).map
            RuntimeTimelineEvent.toView := by
  have hinjected : (if (recent events).reverse.any RuntimeTimelineEvent.isPlanCreated then none
      else events.reverse.find? RuntimeTimelineEvent.isPlanCreated) = olderPlan events := by
    unfold olderPlan
    rw [List.any_reverse]
    split
    . rfl
    . next hany => exact find?_reverse_eq (Bool.eq_false_iff.mpr hany)
  unfold collectRecentJobEvents
  rw [reverse_take_eq]
  dsimp only
  rw [hinjected, mergeSort_eq_sorted]
  cases holder : olderPlan events with
  | none =>
    rw [Option.toList_none, List.append_nil, (Newest.sorted_perm _ _).length_eq, List.length_reverse,
      Nat.sub_eq_zero_of_le length_recent_le]
    rfl
  | some plan =>
    rw [Option.toList_some, (Newest.sorted_perm _ _).length_eq, List.length_append,
      List.length_reverse, length_recent_of_olderPlan holder]
    rfl

theorem pairwise_zipIdx (items : List RuntimeTimelineEvent)
    : items.zipIdx.Pairwise (fun a b => a.2 < b.2) := by
  rw [← List.pairwise_map (f := Prod.snd), List.zipIdx_map_snd]
  exact List.pairwise_lt_range'

theorem showsMostRecent_iff_eq {older later lead : List RuntimeTimelineEvent} {views : List JobEventView}
    (hevents : events = older ++ later)
    (hlead : (older.zipIdx.filter (isLatestPlan events)).map Prod.fst = lead)
    (hlength : views.length = lead.length + later.length) (hlimit : views.length ≤ maxJobEvents)
    : ShowsMostRecent events views ↔ views = (lead ++ later).map RuntimeTimelineEvent.toView := by
  have hitems : events.zipIdx = older.zipIdx ++ later.zipIdx older.length := by
    rw [hevents, List.zipIdx_append, Nat.zero_add]
  have hpositions := pairwise_zipIdx events
  rw [hitems] at hpositions
  have hcount : lead.length = (older.zipIdx.filter (isLatestPlan events)).length := by
    rw [← hlead, List.length_map]
  have hviews : (older.zipIdx.filter (isLatestPlan events) ++ later.zipIdx older.length).map
      (fun item => item.1.toView) = (lead ++ later).map RuntimeTimelineEvent.toView := by
    rw [← hlead]
    conv_rhs => rw [← List.zipIdx_map_fst older.length later]
    rw [← List.map_append, List.map_map]
    rfl
  unfold ShowsMostRecent
  rw [hitems]
  constructor
  . rintro ⟨kept, hkept, rfl⟩
    rw [List.length_map] at hlength
    rw [hkept.eq_append hpositions (by rw [hlength, hcount, List.length_zipIdx]), hviews]
  . intro heq
    refine ⟨_, Newest.keepsRecent_append hpositions ?_, ?_⟩
    . rw [← hcount, List.length_zipIdx, ← hlength]
      exact hlimit
    . rw [hviews]
      exact heq

theorem zipIdx_eq
    : events.zipIdx = (Newest.cut maxJobEvents events).zipIdx
        ++ (recent events).zipIdx (Newest.cut maxJobEvents events).length := by
  conv_lhs => rw [← Newest.cut_append_keep maxJobEvents events, List.zipIdx_append, Nat.zero_add]
  rfl

theorem latestPlan_of_recent (hrecent : ∀ event ∈ recent events, event.isPlanCreated = false)
    : latestPlan events = (Newest.cut maxJobEvents events).zipIdx.reverse.find?
        (fun item => item.1.isPlanCreated) := by
  have hnone : ((recent events).zipIdx (Newest.cut maxJobEvents events).length).reverse.find?
      (fun item => item.1.isPlanCreated) = none := by
    rw [List.find?_eq_none]
    intro item hitem
    rw [hrecent item.1 (List.fst_mem_of_mem_zipIdx (List.mem_reverse.mp hitem))]
    exact Bool.false_ne_true
  unfold latestPlan
  rw [zipIdx_eq, List.reverse_append, List.find?_append, hnone, Option.none_or]

theorem olderPlan_eq_map (hrecent : ∀ event ∈ recent events, event.isPlanCreated = false)
    : olderPlan events = (latestPlan events).map Prod.fst := by
  have hany : ¬(recent events).any RuntimeTimelineEvent.isPlanCreated = true := by
    rw [Bool.not_eq_true, List.any_eq_false]
    exact fun event hmem => Bool.eq_false_iff.mp (hrecent event hmem)
  unfold olderPlan
  rw [if_neg hany, latestPlan_of_recent hrecent]
  conv_lhs => rw [← List.zipIdx_map_fst 0 (Newest.cut maxJobEvents events), ← List.map_reverse,
    List.find?_map]
  rfl

theorem filter_isLatestPlan_of_none (h : olderPlan events = none)
    : (Newest.cut maxJobEvents events).zipIdx.filter (isLatestPlan events) = [] := by
  rw [List.filter_eq_nil_iff]
  intro item hitem hlatest
  have hlatest := of_decide_eq_true hlatest
  by_cases hrecent : ∀ event ∈ recent events, event.isPlanCreated = false
  . rw [olderPlan_eq_map hrecent, hlatest] at h
    cases h
  . push Not at hrecent
    obtain ⟨event, hmem, hplan⟩ := hrecent
    have hplan : event.isPlanCreated = true := eq_true_of_ne_false hplan
    rw [← List.zipIdx_map_fst (Newest.cut maxJobEvents events).length (recent events)] at hmem
    obtain ⟨shown, hshown, rfl⟩ := List.mem_map.mp hmem
    have hsome : (((recent events).zipIdx (Newest.cut maxJobEvents events).length).reverse.find?
        (fun item => item.1.isPlanCreated)).isSome :=
      List.find?_isSome.mpr ⟨shown, List.mem_reverse.mpr hshown, hplan⟩
    obtain ⟨found, hfound⟩ := Option.isSome_iff_exists.mp hsome
    have hlater := List.le_snd_of_mem_zipIdx (List.mem_reverse.mp (List.mem_of_find?_eq_some hfound))
    have hearlier := List.snd_lt_of_mem_zipIdx hitem
    unfold latestPlan at hlatest
    rw [zipIdx_eq, List.reverse_append, List.find?_append, hfound, Option.some_or] at hlatest
    cases hlatest
    omega

theorem filter_isLatestPlan_of_some {plan w : RuntimeTimelineEvent} (h : olderPlan events = some plan)
    : (((Newest.cut maxJobEvents events ++ [w]).zipIdx.filter (isLatestPlan events)).map Prod.fst)
        = [plan] := by
  obtain ⟨hrecent, -⟩ := olderPlan_eq_some_iff.mp h
  rw [olderPlan_eq_map hrecent] at h
  obtain ⟨item, hitem, rfl⟩ := Option.map_eq_some_iff.mp h
  have hmem : item ∈ (Newest.cut maxJobEvents events ++ [w]).zipIdx := by
    have hfind := hitem
    rw [latestPlan_of_recent hrecent] at hfind
    rw [List.zipIdx_append]
    exact List.mem_append_left _ (List.mem_reverse.mp (List.mem_of_find?_eq_some hfind))
  have hnodup : ((Newest.cut maxJobEvents events ++ [w]).zipIdx).Nodup :=
    (pairwise_zipIdx _).imp (fun hlt heq => hlt.ne (congrArg Prod.snd heq))
  have hsame : (Newest.cut maxJobEvents events ++ [w]).zipIdx.filter (isLatestPlan events)
      = (Newest.cut maxJobEvents events ++ [w]).zipIdx.filter (fun other => decide (other = item)) := by
    apply List.filter_congr
    intro other _
    unfold isLatestPlan
    rw [hitem, decide_eq_decide, Option.some_inj]
    exact eq_comm
  rw [hsame, List.filter_eq, List.count_eq_one_of_mem hnodup hmem]
  rfl

theorem dropExcess_one_of_not {event : RuntimeTimelineEvent} {rest : List RuntimeTimelineEvent}
    (h : event.isPlanCreated = false)
    : dropExcess 1 (event :: rest) = rest := by
  unfold dropExcess
  rw [List.findIdx?_cons, h]
  rfl

theorem dropExcess_one_of_plan {plan event : RuntimeTimelineEvent} {rest : List RuntimeTimelineEvent}
    (hplan : plan.isPlanCreated = true) (h : event.isPlanCreated = false)
    : dropExcess 1 (plan :: event :: rest) = plan :: rest := by
  unfold dropExcess
  rw [List.findIdx?_cons, List.findIdx?_cons, hplan, h]
  rfl

theorem length_dropExcess_one (items : List RuntimeTimelineEvent)
    : (dropExcess 1 items).length = items.length - 1 := by
  unfold dropExcess
  split
  . next index hindex =>
    obtain ⟨hlt, -⟩ := List.findIdx?_eq_some_iff_getElem.mp hindex
    exact List.length_eraseIdx_of_lt hlt
  . exact List.length_drop

theorem order_le_iff {a b : RuntimeTimelineEvent}
    : order b ≤ order a ↔ a.recordedAtMs ≤ b.recordedAtMs := by
  exact UInt64.le_iff_toNat_le.symm

theorem order_lt_iff {a b : RuntimeTimelineEvent}
    : order b < order a ↔ a.recordedAtMs < b.recordedAtMs := by
  exact UInt64.lt_iff_toNat_lt.symm

theorem map_sorted_recent_iff (h : events.Pairwise (fun a b => a.recordedAtMs ≤ b.recordedAtMs))
    : (Newest.sorted order (recent events).reverse).map RuntimeTimelineEvent.toView
          = (recent events).map RuntimeTimelineEvent.toView
        ↔ ∀ time, (((recent events).map RuntimeTimelineEvent.toView).filter (fun view =>
            decide (view.recordedAtMs = time))).reverse
          = ((recent events).map RuntimeTimelineEvent.toView).filter (fun view =>
            decide (view.recordedAtMs = time)) := by
  have hrecent : (recent events).Pairwise (fun a b => order b ≤ order a) :=
    (h.sublist (Newest.keep_sublist _ _)).imp order_le_iff.mpr
  have hkey : ∀ event : RuntimeTimelineEvent, viewOrder event.toView = order event := fun _ => rfl
  refine (Newest.map_sorted_reverse_eq_iff hkey hrecent).trans ?_
  have htime : ∀ (views : List JobEventView) (time : UInt64),
      views.filter (fun view => decide (viewOrder view = OrderDual.toDual time.toNat))
        = views.filter (fun view => decide (view.recordedAtMs = time)) := by
    intro views time
    apply List.filter_congr
    intro view _
    rw [decide_eq_decide]
    exact UInt64.toNat_inj
  constructor
  . intro hk time
    rw [← htime]
    exact hk _
  . intro htimes k
    by_cases hk : ∃ time : UInt64, OrderDual.toDual time.toNat = k
    . obtain ⟨time, rfl⟩ := hk
      rw [htime]
      exact htimes time
    . have hnone : ((recent events).map RuntimeTimelineEvent.toView).filter (fun view =>
          decide (viewOrder view = k)) = [] := by
        rw [List.filter_eq_nil_iff]
        exact fun view _ heq => hk ⟨view.recordedAtMs, of_decide_eq_true heq⟩
      rw [hnone]
      rfl

section OlderPlan

variable {plan first second : RuntimeTimelineEvent} {rest : List RuntimeTimelineEvent}

theorem dropExcess_sorted_of_lt
    (hsorted : (first :: second :: rest).Pairwise (fun a b => order b ≤ order a))
    (hplan : plan.isPlanCreated = true)
    (hothers : ∀ event ∈ first :: second :: rest, event.isPlanCreated = false)
    (hfirst : order first ≤ order plan) (hsecond : order second < order plan)
    : dropExcess 1 (Newest.sorted order ((first :: second :: rest).reverse ++ [plan]))
        = plan :: (Newest.sorted order (first :: second :: rest).reverse).tail := by
  obtain ⟨hfromFirst, hfromSecond, -⟩ := by
    simpa only [List.pairwise_cons] using hsorted
  have hmem : ∀ event, event ∈ Newest.sorted order (first :: second :: rest).reverse
      ↔ event ∈ first :: second :: rest := by
    intro event
    rw [Newest.mem_sorted, List.mem_reverse]
  have hsplit := Newest.filter_append_filter_lt
    (Newest.pairwise_sorted order (first :: second :: rest).reverse) (order plan)
  rw [Newest.sorted_append_singleton]
  obtain hlt | heq := hfirst.lt_or_eq
  . have hnone : (Newest.sorted order (first :: second :: rest).reverse).filter
        (fun event => decide (order plan ≤ order event)) = [] := by
      rw [List.filter_eq_nil_iff]
      intro event hevent hle
      obtain rfl | hevent := List.mem_cons.mp ((hmem event).mp hevent)
      . exact hlt.not_ge (of_decide_eq_true hle)
      . exact ((hfromFirst event hevent).trans_lt hlt).not_ge (of_decide_eq_true hle)
    rw [hnone, List.nil_append] at hsplit ⊢
    rw [hsplit]
    cases hall : Newest.sorted order (first :: second :: rest).reverse with
    | nil =>
      have hin := (hmem first).mpr List.mem_cons_self
      rw [hall] at hin
      cases hin
    | cons event events =>
      have hin := (hmem event).mp (by rw [hall]; exact List.mem_cons_self)
      exact dropExcess_one_of_plan hplan (hothers event hin)
  . have hfront : (Newest.sorted order (first :: second :: rest).reverse).filter
        (fun event => decide (order plan ≤ order event)) = [first] := by
      have hnone : (second :: rest).filter (fun event => decide (order plan ≤ order event)) = [] := by
        rw [List.filter_eq_nil_iff]
        intro event hevent hle
        obtain rfl | hevent := List.mem_cons.mp hevent
        . exact hsecond.not_ge (of_decide_eq_true hle)
        . exact ((hfromSecond event hevent).trans_lt hsecond).not_ge (of_decide_eq_true hle)
      rw [← Newest.sorted_filter, List.filter_reverse, List.filter_cons,
        if_pos (decide_eq_true heq.ge), hnone]
      exact List.mergeSort_singleton first
    rw [hfront] at hsplit ⊢
    generalize (Newest.sorted order (first :: second :: rest).reverse).filter
      (fun event => decide (order event < order plan)) = back at hsplit ⊢
    rw [← hsplit]
    exact dropExcess_one_of_not (hothers first List.mem_cons_self)

theorem dropExcess_sorted_of_le
    (hothers : ∀ event ∈ first :: second :: rest, event.isPlanCreated = false)
    (hfirst : order plan ≤ order first) (hsecond : order plan ≤ order second)
    : ∃ event events, event.isPlanCreated = false
        ∧ dropExcess 1 (Newest.sorted order ((first :: second :: rest).reverse ++ [plan]))
          = event :: events := by
  have hmem : ∀ event ∈ (Newest.sorted order (first :: second :: rest).reverse).filter
      (fun event => decide (order plan ≤ order event)), event.isPlanCreated = false := by
    intro event hevent
    have hin := (Newest.mem_sorted order).mp (List.mem_of_mem_filter hevent)
    exact hothers event (List.mem_reverse.mp hin)
  have hlength : 2 ≤ ((Newest.sorted order (first :: second :: rest).reverse).filter
      (fun event => decide (order plan ≤ order event))).length := by
    rw [← Newest.sorted_filter, (Newest.sorted_perm order _).length_eq, List.filter_reverse,
      List.length_reverse, List.filter_cons, if_pos (decide_eq_true hfirst), List.filter_cons,
      if_pos (decide_eq_true hsecond)]
    exact Nat.le_add_left 2 _
  rw [Newest.sorted_append_singleton]
  match hfront : (Newest.sorted order (first :: second :: rest).reverse).filter
      (fun event => decide (order plan ≤ order event)) with
  | [] =>
    rw [hfront] at hlength
    cases hlength
  | [_] =>
    rw [hfront] at hlength
    cases Nat.le_of_succ_le_succ hlength
  | event :: event' :: events =>
    rw [hfront] at hmem
    exact ⟨event', _, hmem event' (List.mem_cons_of_mem _ List.mem_cons_self),
      dropExcess_one_of_not (hmem event List.mem_cons_self)⟩

end OlderPlan

theorem showsMostRecent_iff_of_none
    (h : events.Pairwise (fun a b => a.recordedAtMs ≤ b.recordedAtMs)) (hnone : olderPlan events = none)
    : ShowsMostRecent events (collectRecentJobEvents events) ↔ TiesAlike events := by
  have hevents : events = Newest.cut maxJobEvents events ++ recent events :=
    (Newest.cut_append_keep maxJobEvents events).symm
  have hlead : ((Newest.cut maxJobEvents events).zipIdx.filter (isLatestPlan events)).map Prod.fst
      = [] := by
    rw [filter_isLatestPlan_of_none hnone]
    rfl
  rw [collectRecentJobEvents_eq, hnone]
  dsimp only
  have hlength : ((Newest.sorted order (recent events).reverse).map
      RuntimeTimelineEvent.toView).length = (recent events).length := by
    rw [List.length_map, (Newest.sorted_perm _ _).length_eq, List.length_reverse]
  refine (showsMostRecent_iff_eq hevents hlead (by rw [hlength]; simp)
    (hlength.trans_le length_recent_le)).trans ?_
  rw [List.nil_append]
  refine (map_sorted_recent_iff h).trans ⟨fun hties => ⟨hties, ?_⟩, TiesAlike.ties⟩
  intro plan hplan
  rw [hnone] at hplan
  cases hplan

theorem map_tail_eq_iff_of_perm {first : RuntimeTimelineEvent} {items rest : List RuntimeTimelineEvent}
    (hperm : items.Perm (first :: rest))
    : items.tail.map RuntimeTimelineEvent.toView = rest.map RuntimeTimelineEvent.toView
        ↔ items.map RuntimeTimelineEvent.toView = (first :: rest).map RuntimeTimelineEvent.toView := by
  cases items with
  | nil => cases hperm.symm.eq_nil
  | cons event items =>
    rw [List.tail_cons, List.map_cons, List.map_cons, List.cons_eq_cons]
    refine ⟨fun htails => ⟨?_, htails⟩, fun h => h.2⟩
    have hviews := hperm.map RuntimeTimelineEvent.toView
    rw [List.map_cons, List.map_cons, htails, ← List.singleton_append,
      ← List.singleton_append (l := rest.map _), List.perm_append_right_iff] at hviews
    exact List.singleton_perm_singleton.mp hviews

theorem exists_recent_eq_cons {plan : RuntimeTimelineEvent} (h : olderPlan events = some plan)
    : ∃ first second rest, recent events = first :: second :: rest := by
  have hlength := length_recent_of_olderPlan h
  match recent events, hlength with
  | first :: second :: rest, _ => exact ⟨first, second, rest, rfl⟩

theorem showsMostRecent_iff_of_some {plan : RuntimeTimelineEvent}
    (h : events.Pairwise (fun a b => a.recordedAtMs ≤ b.recordedAtMs))
    (hsome : olderPlan events = some plan)
    : ShowsMostRecent events (collectRecentJobEvents events) ↔ TiesAlike events := by
  obtain ⟨hothers, -⟩ := olderPlan_eq_some_iff.mp hsome
  obtain ⟨hcut, hplan⟩ := olderPlan_spec hsome
  obtain ⟨first, second, rest, hrecent⟩ := exists_recent_eq_cons hsome
  have height := length_recent_of_olderPlan hsome
  have hevents : events = (Newest.cut maxJobEvents events ++ [first]) ++ second :: rest := by
    conv_lhs => rw [← Newest.cut_append_keep maxJobEvents events]
    rw [List.append_assoc]
    exact congrArg _ hrecent
  have hordered : events.Pairwise (fun a b => order b ≤ order a) := h.imp order_le_iff.mpr
  have hfirst : order first ≤ order plan := by
    rw [hevents, List.append_assoc] at hordered
    exact (List.pairwise_append.mp hordered).2.2 plan hcut first List.mem_cons_self
  have hsorted := hordered.sublist (Newest.keep_sublist maxJobEvents events)
  change (recent events).Pairwise _ at hsorted
  have hties := map_sorted_recent_iff h
  have hlength : (collectRecentJobEvents events).length = maxJobEvents := by
    rw [collectRecentJobEvents_eq, hsome, List.length_map, length_dropExcess_one,
      (Newest.sorted_perm _ _).length_eq, List.length_append, List.length_reverse, height]
    rfl
  have hmeant : ShowsMostRecent events (collectRecentJobEvents events)
      ↔ collectRecentJobEvents events
        = ([plan] ++ second :: rest).map RuntimeTimelineEvent.toView := by
    apply showsMostRecent_iff_eq hevents (filter_isLatestPlan_of_some hsome)
    . rw [hlength, ← height, hrecent, List.length_cons, List.length_singleton, Nat.add_comm]
    . exact hlength.le
  rw [hmeant, collectRecentJobEvents_eq, hsome]
  dsimp only
  rw [hrecent] at hothers hsorted ⊢
  by_cases hsecond : order second < order plan
  . have hperm : (Newest.sorted order (first :: second :: rest).reverse).Perm
        (first :: second :: rest) :=
      (Newest.sorted_perm order _).trans (List.reverse_perm _)
    rw [dropExcess_sorted_of_lt hsorted hplan hothers hfirst hsecond, List.singleton_append,
      List.map_cons, List.map_cons, List.cons_eq_cons, and_iff_right rfl,
      map_tail_eq_iff_of_perm hperm, ← hrecent, hties]
    refine ⟨fun htimes => ⟨htimes, ?_⟩, TiesAlike.ties⟩
    intro older holder next hnext
    rw [hsome] at holder
    rw [hrecent] at hnext
    cases holder
    cases hnext
    exact order_lt_iff.mp hsecond
  . have hle : order plan ≤ order second := not_lt.mp hsecond
    have hbefore : order second ≤ order first :=
      (List.pairwise_cons.mp hsorted).1 second List.mem_cons_self
    obtain ⟨event, others, hevent, heq⟩ := dropExcess_sorted_of_le hothers (hle.trans hbefore) hle
    rw [heq]
    refine iff_of_false ?_ ?_
    . intro hviews
      have hname : event.event = plan.event :=
        congrArg JobEventView.event (List.cons_eq_cons.mp hviews).1
      have hsame : event.isPlanCreated = plan.isPlanCreated := by
        unfold RuntimeTimelineEvent.isPlanCreated
        rw [hname]
      rw [hevent, hplan] at hsame
      cases hsame
    . intro halike
      have hlt := halike.olderPlan plan hsome second (by rw [hrecent]; rfl)
      exact hsecond (order_lt_iff.mpr hlt)

theorem showsMostRecent_iff (events : List RuntimeTimelineEvent)
    (h : events.Pairwise (fun a b => a.recordedAtMs ≤ b.recordedAtMs))
    : ShowsMostRecent events (collectRecentJobEvents events) ↔ TiesAlike events := by
  cases holder : olderPlan events with
  | none => exact showsMostRecent_iff_of_none h holder
  | some plan => exact showsMostRecent_iff_of_some h holder

def eventAt (event : String) (recordedAtMs : UInt64) : RuntimeTimelineEvent where
  event := event
  traceId := "trace"
  messageId := "job"
  channel := "web"
  chatId := none
  senderId := "user"
  recordedAtMs := recordedAtMs
  payload := .null

theorem showsMostRecent_iff_twoMoments
    : let events := [eventAt "orchestration_plan_created" 1, eventAt "worker_task_assigned" 2]
      ShowsMostRecent events (collectRecentJobEvents events) ↔ TiesAlike events :=
  showsMostRecent_iff _ (by decide)

/-- Two events of the same millisecond are shown in the opposite order. -/
theorem sameMoment_not_showsMostRecent
    : ¬∀ events : List RuntimeTimelineEvent,
        events.Pairwise (fun a b => a.recordedAtMs ≤ b.recordedAtMs)
          → ShowsMostRecent events (collectRecentJobEvents events) := by
  intro hall
  have hsorted : [eventAt "orchestration_plan_created" 1, eventAt "worker_task_assigned" 1].Pairwise
      (fun a b => a.recordedAtMs ≤ b.recordedAtMs) := by
    decide
  have halike := (showsMostRecent_iff_of_none hsorted (by decide +kernel)).mp (hall _ hsorted)
  have hties := halike.ties 1
  revert hties
  decide +kernel

end RecentEvents

end AnimaAgent
