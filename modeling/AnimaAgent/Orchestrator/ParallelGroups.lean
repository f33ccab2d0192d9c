import AnimaAgent.Orchestrator.TopologicalOrder

namespace AnimaAgent

open Dependencies

/--
Every subtask is in one group and once in it, and the dependencies of it that are subtasks and on no
cycle are in earlier groups.
-/
structure GroupsInOrder (subtasks : SubTasks) (groups : List (List String)) : Prop where
  once : groups.flatten.Nodup
  all : ∀ name, name ∈ groups.flatten ↔ name ∈ subtasks.keys
  earlier : ∀ name dependency, DependsOn (dependenciesOf subtasks) name dependency
    → ¬OnCycle (dependenciesOf subtasks) dependency → Before groups dependency name

section Groups

variable {subtasks : SubTasks} {completed remaining : List String} {name dependency : String}

theorem mem_keys_of_resolvable (h : Resolvable (dependenciesOf subtasks) name)
    : name ∈ subtasks.keys := by
  apply isSome_dependenciesOf_iff.mp
  cases h with
  | intro hds _ =>
    rw [hds]
    rfl

theorem mem_nextGroup_iff
    : name ∈ nextGroup subtasks completed remaining
        ↔ name ∈ remaining ∧ ∃ ds, dependenciesOf subtasks name = some ds ∧ ∀ d ∈ ds, d ∈ completed := by
  unfold nextGroup depsSatisfied dependenciesOf
  rw [List.mem_filter]
  apply and_congr_right'
  cases subtasks.get name with
  | none => simp
  | some subtask => simp

theorem mem_stillRemaining_iff
    : name ∈ stillRemaining subtasks completed remaining
        ↔ name ∈ remaining ∧ name ∈ subtasks.keys
          ∧ name ∉ nextGroup subtasks completed remaining := by
  rw [mem_nextGroup_iff, ← isSome_dependenciesOf_iff]
  unfold stillRemaining stillRemains dependenciesOf
  rw [List.mem_filter]
  apply and_congr_right
  intro hmem
  cases subtasks.get name with
  | none => simp
  | some subtask => simp [hmem]

structure Layered (subtasks : SubTasks) (completed remaining : List String) : Prop where
  resolved : ∀ name ∈ completed, Resolvable (dependenciesOf subtasks) name
  all : ∀ name ∈ subtasks.keys, name ∈ completed ∨ name ∈ remaining
  nodup : remaining.Nodup
  disjoint : ∀ name ∈ remaining, name ∉ completed

namespace Layered

variable (h : Layered subtasks completed remaining)

include h

theorem resolvable_of_nextGroup (hmem : name ∈ nextGroup subtasks completed remaining)
    : Resolvable (dependenciesOf subtasks) name := by
  obtain ⟨_, ds, hds, hcompleted⟩ := mem_nextGroup_iff.mp hmem
  exact .intro hds (fun d hd => h.resolved d (hcompleted d hd))

theorem next
    : Layered subtasks (completed ++ nextGroup subtasks completed remaining)
        (stillRemaining subtasks completed remaining) := by
  constructor
  . intro name hmem
    obtain hmem | hmem := List.mem_append.mp hmem
    . exact h.resolved name hmem
    . exact h.resolvable_of_nextGroup hmem
  . intro name hkey
    by_cases hgroup : name ∈ nextGroup subtasks completed remaining
    . exact .inl (List.mem_append_right _ hgroup)
    . exact (h.all name hkey).imp (List.mem_append_left _)
        (fun hmem => mem_stillRemaining_iff.mpr ⟨hmem, hkey, hgroup⟩)
  . exact h.nodup.filter _
  . intro name hmem hcompleted
    obtain ⟨hremaining, _, hgroup⟩ := mem_stillRemaining_iff.mp hmem
    obtain hcompleted | hgroup' := List.mem_append.mp hcompleted
    . exact h.disjoint name hremaining hcompleted
    . exact hgroup hgroup'

theorem not_resolvable (hgroup : nextGroup subtasks completed remaining = [])
    (hmem : name ∈ remaining)
    : ¬Resolvable (dependenciesOf subtasks) name := by
  intro hresolvable
  obtain ⟨ready, ds, hready, hds, hdeps⟩ :=
    hresolvable.exists_ready (fun name => name ∈ remaining) hmem
  have hnext : ready ∈ nextGroup subtasks completed remaining := by
    refine mem_nextGroup_iff.mpr ⟨hready, ds, hds, ?_⟩
    intro d hd
    obtain ⟨hresolved, hleft⟩ := hdeps d hd
    exact (h.all d (mem_keys_of_resolvable hresolved)).resolve_right hleft
  rw [hgroup] at hnext
  cases hnext

theorem flatten
    : (parallelGroupsFrom subtasks completed remaining).flatten.Nodup
        ∧ ∀ name, name ∈ (parallelGroupsFrom subtasks completed remaining).flatten
          ↔ name ∈ remaining ∧ name ∈ subtasks.keys := by
  induction completed, remaining using parallelGroupsFrom.induct subtasks with
  | case1 completed =>
    rw [parallelGroupsFrom, if_pos rfl]
    simp
  | case2 completed remaining hremaining hgroup =>
    rw [parallelGroupsFrom, if_neg hremaining, dif_pos hgroup, List.flatten_cons, List.flatten_nil,
      List.append_nil]
    refine ⟨h.nodup.filter _, ?_⟩
    intro name
    rw [mem_stillRemaining_iff, hgroup]
    simp
  | case3 completed remaining hremaining hgroup ih =>
    obtain ⟨hnodup, hmem⟩ := ih h.next
    rw [parallelGroupsFrom, if_neg hremaining, dif_neg hgroup, List.flatten_cons]
    constructor
    . refine List.nodup_append.mpr ⟨h.nodup.filter _, hnodup, ?_⟩
      rintro name hfirst _ hrest rfl
      have hstill := ((hmem name).mp hrest).1
      exact (mem_stillRemaining_iff.mp hstill).2.2 hfirst
    . intro name
      rw [List.mem_append, hmem, mem_stillRemaining_iff]
      constructor
      . rintro (hfirst | ⟨⟨hrest, hkey, _⟩, _⟩)
        . exact ⟨(List.mem_filter.mp hfirst).1,
            mem_keys_of_resolvable (h.resolvable_of_nextGroup hfirst)⟩
        . exact ⟨hrest, hkey⟩
      . rintro ⟨hrest, hkey⟩
        by_cases hfirst : name ∈ nextGroup subtasks completed remaining
        . exact .inl hfirst
        . exact .inr ⟨⟨hrest, hkey, hfirst⟩, hkey⟩

theorem before_iff (hname : name ∈ remaining) (hdependency : dependency ∈ remaining)
    (hdepends : DependsOn (dependenciesOf subtasks) name dependency)
    : Before (parallelGroupsFrom subtasks completed remaining) dependency name
        ↔ Resolvable (dependenciesOf subtasks) dependency := by
  induction completed, remaining using parallelGroupsFrom.induct subtasks with
  | case1 completed => cases hname
  | case2 completed remaining hremaining hgroup =>
    rw [parallelGroupsFrom, if_neg hremaining, dif_pos hgroup, before_cons_iff]
    refine iff_of_false ?_ (h.not_resolvable hgroup hdependency)
    rintro (⟨_, hrest⟩ | hbefore)
    . cases hrest
    . exact not_before_nil hbefore
  | case3 completed remaining hremaining hgroup ih =>
    obtain ⟨ds, hds, hmem, hknown⟩ := hdepends
    have hdependencyKey := isSome_dependenciesOf_iff.mp hknown
    have hnameKey : name ∈ subtasks.keys := by
      apply isSome_dependenciesOf_iff.mp
      rw [hds]
      rfl
    -- what remains is not completed, so that the name is not in the next group
    have hlater : name ∈ stillRemaining subtasks completed remaining := by
      refine mem_stillRemaining_iff.mpr ⟨hname, hnameKey, ?_⟩
      intro hnext
      obtain ⟨_, ds', hds', hcompleted⟩ := mem_nextGroup_iff.mp hnext
      cases hds.symm.trans hds'
      exact h.disjoint dependency hdependency (hcompleted dependency hmem)
    rw [parallelGroupsFrom, if_neg hremaining, dif_neg hgroup, before_cons_iff]
    by_cases hfirst : dependency ∈ nextGroup subtasks completed remaining
    . refine iff_of_true (.inl ⟨hfirst, ?_⟩) (h.resolvable_of_nextGroup hfirst)
      exact (h.next.flatten.2 name).mpr ⟨hlater, hnameKey⟩
    . rw [or_iff_right (fun hboth => hfirst hboth.1)]
      exact ih h.next hlater (mem_stillRemaining_iff.mpr ⟨hdependency, hdependencyKey, hfirst⟩)

end Layered

end Groups

theorem layered_topologicalSort (subtasks : SubTasks)
    : Layered subtasks [] (topologicalSort subtasks) := by
  obtain ⟨hnodup, hall⟩ := topologicalSort_spec subtasks
  exact ⟨nofun, fun name hkey => .inr (hall name hkey), hnodup, fun _ _ => List.not_mem_nil⟩

namespace OrchestrationPlan

/--
The groups of a plan are in order exactly if every dependency that is a subtask and on no cycle can be
resolved.
-/
theorem groupsInOrder_iff (plan : OrchestrationPlan)
    : GroupsInOrder plan.subtasks plan.parallelGroups
        ↔ ∀ name dependency, DependsOn (dependenciesOf plan.subtasks) name dependency
          → ¬OnCycle (dependenciesOf plan.subtasks) dependency
          → Resolvable (dependenciesOf plan.subtasks) dependency := by
  have hlayered := layered_topologicalSort plan.subtasks
  obtain ⟨hnodup, hflatten⟩ := hlayered.flatten
  have hbefore : ∀ {name dependency}, DependsOn (dependenciesOf plan.subtasks) name dependency
      → (Before plan.parallelGroups dependency name
        ↔ Resolvable (dependenciesOf plan.subtasks) dependency) := by
    intro name dependency hdepends
    have ⟨ds, hds, _, hknown⟩ := hdepends
    have hname : name ∈ plan.subtasks.keys := isSome_dependenciesOf_iff.mp (by rw [hds]; rfl)
    have hall := (topologicalSort_spec plan.subtasks).2
    rw [plan.grouped, plan.ordered]
    exact hlayered.before_iff (hall name hname) (hall _ (isSome_dependenciesOf_iff.mp hknown))
      hdepends
  constructor
  . intro h name dependency hdepends hcycle
    exact (hbefore hdepends).mp (h.earlier name dependency hdepends hcycle)
  . intro h
    rw [plan.grouped, plan.ordered] at hbefore ⊢
    refine ⟨hnodup, ?_, ?_⟩
    . intro name
      refine (hflatten name).trans (and_iff_right_of_imp ?_)
      exact (topologicalSort_spec plan.subtasks).2 name
    . exact fun name dependency hdepends hcycle =>
        (hbefore hdepends).mpr (h name dependency hdepends hcycle)

def danglingName : OrchestrationPlan :=
  decomposeTask "build a shop" "trace_1" "job_1" (fun i => "id_" ++ toString i) 0
    (some [{ name := "backend", dependencies := ["database"] },
      { name := "frontend", dependencies := ["backend"] }])

/-- The second subtask is in the group of the first one, although it depends on it. -/
theorem danglingName_not_groupsInOrder
    : ¬GroupsInOrder danglingName.subtasks danglingName.parallelGroups := by
  have hgroups : danglingName.parallelGroups = [["backend", "frontend"]] := by decide +kernel
  have hfrontend : dependenciesOf danglingName.subtasks "frontend" = some ["backend"] := by
    decide +kernel
  have hbackend : dependenciesOf danglingName.subtasks "backend" = some ["database"] := by
    decide +kernel
  have hdatabase : dependenciesOf danglingName.subtasks "database" = none := by decide +kernel
  have hdepends : DependsOn (dependenciesOf danglingName.subtasks) "frontend" "backend" :=
    ⟨["backend"], hfrontend, List.mem_singleton_self _, by rw [hbackend]; rfl⟩
  have hcycle : ¬OnCycle (dependenciesOf danglingName.subtasks) "backend" := by
    intro hcycle
    obtain ⟨next, ⟨ds, hds, hmem, hknown⟩, _⟩ := Relation.TransGen.head'_iff.mp hcycle
    cases hbackend.symm.trans hds
    rw [List.mem_singleton.mp hmem, hdatabase] at hknown
    cases hknown
  intro h
  have hbefore := h.earlier "frontend" "backend" hdepends hcycle
  rw [hgroups, before_cons_iff] at hbefore
  obtain ⟨_, hmem⟩ | hbefore := hbefore
  . cases hmem
  . exact not_before_nil hbefore

end OrchestrationPlan

end AnimaAgent
