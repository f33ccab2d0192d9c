import Mathlib.Algebra.GroupWithZero.Nat
import AnimaAgent.Dispatcher.SelectionDiagnostics
import AnimaAgent.Library.Turns

namespace AnimaAgent

structure SelectCall where
  balancer : Balancer
  key : Option String
  now : UInt64

namespace Balancer

def selectable (balancer : Balancer) (now : UInt64) : List Target :=
  let refreshed := balancer.refreshOnSelect now
  (refreshed.candidates balancer.targets refreshed.runtimeHealth now).ids.filterMap balancer.targets.get

end Balancer

namespace SelectCall

variable (call : SelectCall)

def result : Balancer.TargetSelection × Balancer :=
  call.balancer.selectTarget call.key call.now

def chosen : Option String :=
  call.result.1.target.map Target.id

def Next (call next : SelectCall) : Prop :=
  next.balancer.roundRobinCursor = call.result.2.roundRobinCursor

def shares : List (String × Nat) :=
  (call.balancer.selectable call.now).map (fun target => (target.id, target.weight))

end SelectCall

def share (weight : Nat) : Nat :=
  max weight 1

def expanded (shares : List (String × Nat)) : List String :=
  shares.flatMap (fun entry => List.replicate (share entry.2) entry.1)

/-- The selections give each target its share, if they are as many as all shares together. -/
structure FairShares (shares : List (String × Nat)) (calls : List SelectCall) : Prop where
  weighted : (∀ call ∈ calls, call.balancer.strategy = .weighted)
    → calls.length = (shares.map (fun entry => share entry.2)).sum
    → (calls.map SelectCall.chosen).Perm ((expanded shares).map some)
  roundRobin : (∀ call ∈ calls, call.balancer.strategy = .roundRobin) → calls.length = shares.length
    → (calls.map SelectCall.chosen).Perm (shares.map (fun entry => some entry.1))

inductive TargetEdit where
  | add (target : Target) (now : UInt64)
  | remove (targetId : String)

def Balancer.edit (balancer : Balancer) : TargetEdit → Balancer
  | .add target now => balancer.addTarget target now
  | .remove targetId => balancer.removeTarget targetId

namespace Balancer

variable {balancer : Balancer} {now : UInt64}

section Refresh

theorem turns_updateHealth (balancer : Balancer) (targetId : String) (now : UInt64)
    (update : TargetHealth → TargetHealth)
    : (balancer.updateHealth targetId now update).strategy = balancer.strategy
      ∧ (balancer.updateHealth targetId now update).roundRobinCursor = balancer.roundRobinCursor := by
  unfold updateHealth
  split
  . exact ⟨rfl, rfl⟩
  . exact ⟨rfl, rfl⟩

theorem turns_refreshOnSelect (balancer : Balancer) (now : UInt64)
    : (balancer.refreshOnSelect now).strategy = balancer.strategy
      ∧ (balancer.refreshOnSelect now).roundRobinCursor = balancer.roundRobinCursor := by
  unfold refreshOnSelect refreshTargets
  split
  . refine List.foldlRecOn balancer.targets.keys _
      (motive := fun refreshed : Balancer => refreshed.strategy = balancer.strategy
        ∧ refreshed.roundRobinCursor = balancer.roundRobinCursor) ⟨rfl, rfl⟩ ?_
    intro refreshed h targetId _
    have hupdate := refreshed.turns_updateHealth targetId now (refreshed.healthAfterRefresh now)
    exact ⟨hupdate.1.trans h.1, hupdate.2.trans h.2⟩
  . exact ⟨rfl, rfl⟩

theorem selectByStrategy_congr {other : Balancer} (h : other.strategy = balancer.strategy)
    : other.selectByStrategy = balancer.selectByStrategy := by
  funext cursor targets key
  unfold selectByStrategy
  rw [h]

theorem selectTarget_turn (balancer : Balancer) (key : Option String) (now : UInt64)
    : ((balancer.selectTarget key now).1.target, (balancer.selectTarget key now).2.roundRobinCursor)
        = balancer.selectByStrategy balancer.roundRobinCursor (balancer.selectable now) key := by
  obtain ⟨hstrategy, hcursor⟩ := balancer.turns_refreshOnSelect now
  rw [← selectByStrategy_congr hstrategy, ← hcursor]
  rfl

end Refresh

section Turns

def position : Option Nat → Nat
  | some index => index + 1
  | none => 0

theorem roundRobinIndex_eq (cursor : Option Nat) {len : Nat} (h : len ≠ 0)
    : Router.roundRobinIndex cursor len = some (position cursor % len) := by
  unfold Router.roundRobinIndex position
  rw [if_neg h]
  cases cursor with
  | none => rw [Nat.zero_mod]
  | some index => rfl

theorem selectRoundRobin_turn (cursor : Option Nat) {targets : List Target} (h : targets ≠ [])
    : ((selectRoundRobin cursor targets).1.map Target.id
          = (targets.map Target.id)[position cursor % targets.length]?)
        ∧ position (selectRoundRobin cursor targets).2
          = position cursor % targets.length + 1 := by
  have hlen : targets.length ≠ 0 := fun hzero => h (List.length_eq_zero_iff.mp hzero)
  unfold selectRoundRobin
  rw [roundRobinIndex_eq cursor hlen]
  dsimp only
  rw [List.getElem?_map]
  exact ⟨rfl, rfl⟩

theorem map_id_expanded (targets : List Target)
    : (targets.flatMap (fun target => List.replicate (max target.weight 1) target)).map Target.id
        = expanded (targets.map (fun target => (target.id, target.weight))) := by
  unfold expanded share
  rw [List.map_flatMap, List.flatMap_map]
  simp only [List.map_replicate]

end Turns

end Balancer

section Calls

structure SelectCall.Takes (places : List String) (call : SelectCall) : Prop where
  chosen : call.chosen = places[Balancer.position call.balancer.roundRobinCursor % places.length]?
  cursor : Balancer.position call.result.2.roundRobinCursor
    = Balancer.position call.balancer.roundRobinCursor % places.length + 1

theorem SelectCall.map_chosen {places : List String} {calls : List SelectCall} {first : SelectCall}
    (hnext : (first :: calls).IsChain SelectCall.Next)
    (htakes : ∀ call ∈ first :: calls, call.Takes places)
    : (first :: calls).map SelectCall.chosen
        = (List.range (calls.length + 1)).map (fun k =>
          places[(Balancer.position first.balancer.roundRobinCursor + k) % places.length]?) := by
  induction calls generalizing first with
  | nil =>
    rw [List.map_singleton, (htakes first (List.mem_cons_self ..)).chosen]
    rfl
  | cons second rest ih =>
    obtain ⟨hcursor, hrest⟩ := List.isChain_cons_cons.mp hnext
    have hfirst := htakes first (List.mem_cons_self ..)
    rw [List.map_cons, ih hrest (fun call hmem => htakes call (List.mem_cons_of_mem _ hmem)),
      List.length_cons, List.range_succ_eq_map (n := rest.length + 1), List.map_cons, List.map_map,
      hfirst.chosen, Nat.add_zero]
    congr 1
    apply List.map_congr_left
    intro k _
    dsimp only [Function.comp]
    rw [hcursor, hfirst.cursor, Nat.add_assoc, Nat.mod_add_mod, Nat.add_comm 1 k]

theorem SelectCall.chosen_perm {places : List String} {calls : List SelectCall}
    (hnext : calls.IsChain SelectCall.Next) (htakes : ∀ call ∈ calls, call.Takes places)
    (hlen : calls.length = places.length)
    : (calls.map SelectCall.chosen).Perm (places.map some) := by
  cases calls with
  | nil =>
    rw [List.eq_nil_of_length_eq_zero hlen.symm]
    exact .refl _
  | cons first rest =>
    rw [map_chosen hnext htakes, ← List.length_cons, hlen]
    exact Circle.turns_perm places _

end Calls

section Turns

variable {shares : List (String × Nat)} {call : SelectCall}

theorem SelectCall.chosen_eq (call : SelectCall)
    : call.chosen = (call.balancer.selectByStrategy call.balancer.roundRobinCursor
        (call.balancer.selectable call.now) call.key).1.map Target.id := by
  rw [← Balancer.selectTarget_turn]
  rfl

theorem SelectCall.cursor_eq (call : SelectCall)
    : call.result.2.roundRobinCursor
        = (call.balancer.selectByStrategy call.balancer.roundRobinCursor
          (call.balancer.selectable call.now) call.key).2 := by
  rw [← Balancer.selectTarget_turn]
  rfl

theorem SelectCall.Takes.of_weighted (hstrategy : call.balancer.strategy = .weighted)
    (hne : expanded call.shares ≠ [])
    : call.Takes (expanded call.shares) := by
  have hmap : _ = expanded call.shares := Balancer.map_id_expanded (call.balancer.selectable call.now)
  have hlen := congrArg List.length hmap
  rw [List.length_map] at hlen
  have hturn := Balancer.selectRoundRobin_turn call.balancer.roundRobinCursor
    (fun hnil => hne (hmap.symm.trans (congrArg (List.map Target.id) hnil)))
  rw [hmap, hlen] at hturn
  constructor
  . rw [chosen_eq, Balancer.selectByStrategy, hstrategy]
    exact hturn.1
  . rw [cursor_eq, Balancer.selectByStrategy, hstrategy]
    exact hturn.2

theorem SelectCall.Takes.of_roundRobin (hstrategy : call.balancer.strategy = .roundRobin)
    (hne : call.shares ≠ [])
    : call.Takes (call.shares.map Prod.fst) := by
  have hmap : (call.balancer.selectable call.now).map Target.id = call.shares.map Prod.fst := by
    unfold SelectCall.shares
    rw [List.map_map]
    rfl
  have hlen := congrArg List.length hmap
  rw [List.length_map] at hlen
  have hturn := Balancer.selectRoundRobin_turn call.balancer.roundRobinCursor
    (fun hnil => hne (List.map_eq_nil_iff.mpr hnil))
  rw [hmap, hlen] at hturn
  constructor
  . rw [chosen_eq, Balancer.selectByStrategy, hstrategy]
    exact hturn.1
  . rw [cursor_eq, Balancer.selectByStrategy, hstrategy]
    exact hturn.2

theorem length_expanded (shares : List (String × Nat))
    : (expanded shares).length = (shares.map (fun entry => share entry.2)).sum := by
  unfold expanded
  rw [List.length_flatMap]
  simp only [List.length_replicate]

theorem fairTurns_of_isChain {calls : List SelectCall} (hnext : calls.IsChain SelectCall.Next)
    (hshares : ∀ call ∈ calls, call.shares = shares)
    : FairShares shares calls := by
  constructor
  . intro hstrategy hlen
    rw [← length_expanded] at hlen
    refine SelectCall.chosen_perm hnext ?_ hlen
    intro call hmem
    have hne : expanded shares ≠ [] := by
      intro hnil
      rw [hnil, List.length_nil, List.length_eq_zero_iff] at hlen
      rw [hlen] at hmem
      cases hmem
    rw [← hshares call hmem] at hne ⊢
    exact .of_weighted (hstrategy call hmem) hne
  . intro hstrategy hlen
    have hperm := @SelectCall.chosen_perm (shares.map Prod.fst) _ hnext ?_
      (by rw [List.length_map, hlen])
    . rw [List.map_map] at hperm
      exact hperm
    . intro call hmem
      have hne : shares ≠ [] := by
        intro hnil
        rw [hnil, List.length_nil, List.length_eq_zero_iff] at hlen
        rw [hlen] at hmem
        cases hmem
      rw [← hshares call hmem] at hne ⊢
      exact .of_roundRobin (hstrategy call hmem) hne

theorem Balancer.exists_selected {balancer : Balancer} (hstrategy : balancer.strategy ≠ .hashing)
    {now : UInt64} (hne : balancer.selectable now ≠ []) (key : Option String)
    : ∃ target ∈ balancer.selectable now, (balancer.selectTarget key now).1.target = some target := by
  have hsome := (@selectByStrategy_isSome_iff balancer balancer.roundRobinCursor
    (balancer.selectable now) key).mpr ⟨hne, fun h => hstrategy h.1⟩
  rw [← selectTarget_turn] at hsome
  obtain ⟨target, htarget⟩ := Option.isSome_iff_exists.mp hsome
  refine ⟨target, ?_, htarget⟩
  have hturn := congrArg Prod.fst (balancer.selectTarget_turn key now)
  exact mem_of_selectByStrategy (hturn.symm.trans htarget)

theorem Balancer.strategy_edit (balancer : Balancer) (change : TargetEdit)
    : (balancer.edit change).strategy = balancer.strategy := by
  cases change with
  | add target now =>
    unfold edit addTarget
    dsimp only
    split
    . rfl
    . rfl
  | remove targetId =>
    unfold edit removeTarget
    dsimp only
    split
    . rfl
    . rfl

end Turns

/--
Selections in turn give each target its share, and after any change of the targets the cursor still
leads to one of the candidates.
-/
theorem selectTarget_inTurn
    : (∀ shares calls, calls.IsChain SelectCall.Next → (∀ call ∈ calls, call.shares = shares)
        → FairShares shares calls)
      ∧ ∀ (balancer : Balancer) (edits : List TargetEdit) (key : Option String) (now : UInt64),
        let edited := edits.foldl Balancer.edit balancer
        balancer.strategy = .roundRobin ∨ balancer.strategy = .weighted → edited.selectable now ≠ []
          → ∃ target ∈ edited.selectable now, (edited.selectTarget key now).1.target = some target := by
  refine ⟨fun shares calls hnext hshares => fairTurns_of_isChain hnext hshares, ?_⟩
  intro balancer edits key now edited hstrategy hne
  refine Balancer.exists_selected ?_ hne key
  have hsame : edited.strategy = balancer.strategy :=
    List.foldlRecOn edits Balancer.edit
      (motive := fun edited => edited.strategy = balancer.strategy) rfl
      (fun edited h change _ => (edited.strategy_edit change).trans h)
  rw [hsame]
  intro hhashing
  rw [hhashing] at hstrategy
  exact hstrategy.elim nofun nofun

def consecutiveSelections (balancer : Balancer) : List (Option String × UInt64) → List SelectCall
  | [] => []
  | (key, now) :: rest =>
    { balancer, key, now } :: consecutiveSelections (balancer.selectTarget key now).2 rest

theorem isChain_consecutiveSelections (balancer : Balancer) (calls : List (Option String × UInt64))
    : (consecutiveSelections balancer calls).IsChain SelectCall.Next := by
  induction calls generalizing balancer with
  | nil => exact .nil
  | cons call rest ih =>
    have hrest := ih (balancer.selectTarget call.1 call.2).2
    cases rest with
    | nil => exact .singleton _
    | cons next rest => exact List.isChain_cons_cons.mpr ⟨rfl, hrest⟩

def weightedTargets : Balancer :=
  { ((Balancer.new .weighted none).addTarget { id := "a", weight := 2 } 0).addTarget
      { id := "b", weight := 0 } 0 with roundRobinCursor := some 6 }

theorem selectTarget_inTurn_weightedTargets
    : FairShares [("a", 2), ("b", 0)]
          (consecutiveSelections weightedTargets [(none, 1), (none, 2), (none, 3)])
        ∧ ∃ target ∈ (weightedTargets.removeTarget "b").selectable 1,
          ((weightedTargets.removeTarget "b").selectTarget none 1).1.target = some target := by
  constructor
  . exact selectTarget_inTurn.1 _ _ (isChain_consecutiveSelections _ _) (by decide +kernel)
  . exact selectTarget_inTurn.2 weightedTargets [.remove "b"] none 1 (.inr rfl) (by decide +kernel)

end AnimaAgent
