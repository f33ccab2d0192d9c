import AnimaAgent.Library.Dependencies
import AnimaAgent.Orchestrator.Plan

namespace AnimaAgent

section Visit

variable {subtasks : SubTasks}

structure Visits (visiting : List String) (state state' : VisitState) : Prop where
  listed : ∀ name, name ∈ state'.visited ↔ name ∈ state'.order
  nodup : state'.order.Nodup
  kept : ∀ name ∈ state.order, name ∈ state'.order
  added : ∀ name ∈ state'.order, name ∈ state.order ∨ name ∉ visiting

def VisitState.Listed (state : VisitState) : Prop :=
  (∀ name, name ∈ state.visited ↔ name ∈ state.order) ∧ state.order.Nodup

theorem Visits.refl {state : VisitState} (h : state.Listed) (visiting : List String)
    : Visits visiting state state := by
  exact ⟨h.1, h.2, fun _ hmem => hmem, fun _ hmem => .inl hmem⟩

theorem Visits.trans {visiting : List String} {state state' state'' : VisitState}
    (h : Visits visiting state state') (h' : Visits visiting state' state'')
    : Visits visiting state state'' := by
  refine ⟨h'.listed, h'.nodup, fun name hmem => h'.kept name (h.kept name hmem), ?_⟩
  intro name hmem
  obtain hmem | hnew := h'.added name hmem
  . exact h.added name hmem
  . exact .inr hnew

theorem Visits.foldl {visiting names : List String} {visitName : VisitState → String → VisitState}
    (hvisit : ∀ state name, state.Listed → Visits visiting state (visitName state name))
    {state : VisitState} (h : state.Listed)
    : Visits visiting state (names.foldl visitName state) := by
  induction names generalizing state with
  | nil => exact Visits.refl h visiting
  | cons name names ih =>
    have hfirst := hvisit state name h
    exact hfirst.trans (ih ⟨hfirst.listed, hfirst.nodup⟩)

theorem visits_visit (visiting : List String) (name : String) (state : VisitState)
    (h : state.Listed)
    : Visits visiting state (visit subtasks visiting name state)
        ∧ (name ∈ visiting ∨ name ∈ (visit subtasks visiting name state).order) := by
  induction visiting, name, state using visit.induct subtasks with
  | case1 visiting name state hseen =>
    rw [visit, dif_pos hseen]
    refine ⟨Visits.refl h visiting, ?_⟩
    obtain hvisited | hvisiting := hseen
    . exact .inr ((h.1 name).mp hvisited)
    . exact .inl hvisiting
  | case2 visiting name state hnew ih =>
    have hinner : ∃ inner, Visits (name :: visiting) state inner
        ∧ visit subtasks visiting name state
          = { visited := name :: inner.visited, order := inner.order ++ [name] } := by
      rw [visit, dif_neg hnew]
      split
      . next subtask hget =>
        refine ⟨_, Visits.foldl ?_ h, rfl⟩
        exact fun state dependency hstate => (ih subtask hget state dependency hstate).1
      . exact ⟨state, Visits.refl h _, rfl⟩
    obtain ⟨inner, hinner, heq⟩ := hinner
    rw [heq]
    have hfresh : name ∉ inner.order := by
      intro hmem
      obtain hmem | hvisiting := hinner.added name hmem
      . exact hnew (.inl ((h.1 name).mpr hmem))
      . exact hvisiting (List.mem_cons_self ..)
    refine ⟨⟨?_, ?_, ?_, ?_⟩, .inr (List.mem_append_right _ (List.mem_singleton_self name))⟩
    . intro other
      simp [hinner.listed other, or_comm]
    . refine List.nodup_append.mpr ⟨hinner.nodup, List.nodup_singleton _, ?_⟩
      rintro other hother _ hname rfl
      exact hfresh (List.mem_singleton.mp hname ▸ hother)
    . exact fun other hmem => List.mem_append_left _ (hinner.kept other hmem)
    . intro other hmem
      obtain hmem | hmem := List.mem_append.mp hmem
      . exact (hinner.added other hmem).imp_right
          (fun h hvisiting => h (List.mem_cons_of_mem _ hvisiting))
      . rw [List.mem_singleton.mp hmem]
        exact .inr (fun hvisiting => hnew (.inr hvisiting))

theorem visits_foldl (visiting names : List String) {state : VisitState} (h : state.Listed)
    : Visits visiting state (names.foldl (fun state name => visit subtasks visiting name state) state)
        ∧ ∀ name ∈ names, name ∈ visiting
          ∨ name ∈ (names.foldl (fun state name => visit subtasks visiting name state) state).order := by
  have hvisit := fun (state : VisitState) name (h : state.Listed) =>
    (@visits_visit subtasks visiting name state h).1
  refine ⟨Visits.foldl hvisit h, ?_⟩
  induction names generalizing state with
  | nil => exact fun name hmem => by cases hmem
  | cons first names ih =>
    obtain ⟨hfirst, hmem⟩ := @visits_visit subtasks visiting first state h
    have hlisted : (visit subtasks visiting first state).Listed := ⟨hfirst.listed, hfirst.nodup⟩
    intro name hname
    obtain rfl | hname := List.mem_cons.mp hname
    . exact hmem.imp_right ((Visits.foldl hvisit hlisted).kept name)
    . exact ih hlisted name hname

theorem topologicalSort_spec (subtasks : SubTasks)
    : (topologicalSort subtasks).Nodup ∧ ∀ name ∈ subtasks.keys, name ∈ topologicalSort subtasks := by
  have hlisted : VisitState.Listed {} := ⟨fun _ => Iff.rfl, List.nodup_nil⟩
  obtain ⟨hvisits, hall⟩ := visits_foldl [] subtasks.keys hlisted
  exact ⟨hvisits.nodup, fun name hkey => (hall name hkey).resolve_left List.not_mem_nil⟩

end Visit

open Dependencies

def dependenciesOf (subtasks : SubTasks) (name : String) : Option (List String) :=
  (subtasks.get name).map SubTask.dependencies

theorem isSome_dependenciesOf_iff {subtasks : SubTasks} {name : String}
    : (dependenciesOf subtasks name).isSome ↔ name ∈ subtasks.keys := by
  unfold dependenciesOf
  rw [Option.isSome_map, Option.isSome_iff_exists, IndexMap.mem_keys_iff]

section Known

variable {subtasks : SubTasks}

theorem visit_of_new {visiting : List String} {name : String} {state : VisitState}
    (hnew : ¬(name ∈ state.visited ∨ name ∈ visiting))
    : (visit subtasks visiting name state).order
        = (((dependenciesOf subtasks name).getD []).foldl
            (fun state dependency => visit subtasks (name :: visiting) dependency state) state).order
          ++ [name] := by
  rw [visit, dif_neg hnew]
  unfold dependenciesOf
  split
  . next subtask hget => rw [hget, Option.map_some, Option.getD_some]
  . next hget => rw [hget, Option.map_none, Option.getD_none, List.foldl_nil]

theorem dependenciesFirst_foldl {dependencies : String → Option (List String)}
    (visiting names : List String)
    (hvisit : ∀ (state : VisitState), ∀ name ∈ names, state.Listed
      → DependenciesFirst dependencies state.order
      → DependenciesFirst dependencies (visit subtasks visiting name state).order)
    {state : VisitState} (h : state.Listed) (hfirst : DependenciesFirst dependencies state.order)
    : DependenciesFirst dependencies
        (names.foldl (fun state name => visit subtasks visiting name state) state).order := by
  induction names generalizing state with
  | nil => exact hfirst
  | cons first names ih =>
    have hvisits := (@visits_visit subtasks visiting first state h).1
    refine ih (fun state name hmem => hvisit state name (List.mem_cons_of_mem _ hmem))
      ⟨hvisits.listed, hvisits.nodup⟩ ?_
    exact hvisit state first (List.mem_cons_self ..) h hfirst

variable (hknown : ∀ name subtask dependency, subtasks.get name = some subtask
  → dependency ∈ subtask.dependencies → dependency ∈ subtasks.keys)

include hknown

theorem dependsOn_iff_of_known {name dependency : String}
    : DependsOn (dependenciesOf subtasks) name dependency
        ↔ dependency ∈ (dependenciesOf subtasks name).getD [] := by
  unfold Dependencies.DependsOn
  rw [isSome_dependenciesOf_iff]
  unfold dependenciesOf
  cases hget : subtasks.get name with
  | none => simp
  | some subtask => simpa using hknown name subtask dependency hget

theorem mem_keys_of_mem_visit (visiting : List String) (name : String) (state : VisitState)
    (hname : name ∈ subtasks.keys) (hstate : ∀ other ∈ state.order, other ∈ subtasks.keys)
    : ∀ other ∈ (visit subtasks visiting name state).order, other ∈ subtasks.keys := by
  induction visiting, name, state using visit.induct subtasks with
  | case1 visiting name state hseen =>
    rwa [visit, dif_pos hseen]
  | case2 visiting name state hnew ih =>
    obtain ⟨subtask, hget⟩ := IndexMap.mem_keys_iff.mp hname
    rw [visit_of_new hnew, dependenciesOf, hget, Option.map_some, Option.getD_some]
    have hinner := List.foldlRecOn subtask.dependencies _
      (motive := fun state : VisitState => ∀ other ∈ state.order, other ∈ subtasks.keys) hstate
      (fun state hstate dependency hmem =>
        ih subtask hget state dependency (hknown name subtask dependency hget hmem) hstate)
    intro other hmem
    obtain hmem | hmem := List.mem_append.mp hmem
    . exact hinner other hmem
    . exact List.mem_singleton.mp hmem ▸ hname

theorem dependenciesFirst_visit (hacyclic : ∀ name, ¬OnCycle (dependenciesOf subtasks) name)
    (visiting : List String) (name : String) (state : VisitState) (h : state.Listed)
    (hpath : ∀ other ∈ visiting, Relation.TransGen (DependsOn (dependenciesOf subtasks)) other name)
    (hfirst : DependenciesFirst (dependenciesOf subtasks) state.order)
    : DependenciesFirst (dependenciesOf subtasks) (visit subtasks visiting name state).order := by
  induction visiting, name, state using visit.induct subtasks with
  | case1 visiting name state hseen =>
    rwa [visit, dif_pos hseen]
  | case2 visiting name state hnew ih =>
    have hdepends := fun dependency => @dependsOn_iff_of_known subtasks hknown name dependency
    have hpaths : ∀ other ∈ name :: visiting, ∀ dependency,
        DependsOn (dependenciesOf subtasks) name dependency
          → Relation.TransGen (DependsOn (dependenciesOf subtasks)) other dependency := by
      intro other hother dependency hdependency
      obtain rfl | hother := List.mem_cons.mp hother
      . exact .single hdependency
      . exact (hpath other hother).tail hdependency
    rw [visit_of_new hnew]
    obtain ⟨_, hreached⟩ := @visits_foldl subtasks (name :: visiting)
      ((dependenciesOf subtasks name).getD []) state h
    refine DependenciesFirst.concat ?_ ?_
    . refine dependenciesFirst_foldl (name :: visiting) _ ?_ h hfirst
      intro state dependency hmem hstate
      obtain ⟨subtask, hget⟩ : ∃ subtask, subtasks.get name = some subtask := by
        unfold dependenciesOf at hmem
        cases hget : subtasks.get name with
        | none => simp [hget] at hmem
        | some subtask => exact ⟨subtask, rfl⟩
      exact ih subtask hget state dependency hstate
        (fun other hother => hpaths other hother dependency ((hdepends dependency).mpr hmem))
    . intro dependency hdependency
      refine (hreached dependency ((hdepends dependency).mp hdependency)).resolve_left ?_
      intro hvisiting
      exact hacyclic dependency (hpaths dependency hvisiting dependency hdependency)

/--
The order of subtasks that depend on subtasks only names each of them once; unless there is a cycle, each
of them comes after all its dependencies.
-/
theorem topologicalSort_ordered
    : (topologicalSort subtasks).Nodup
        ∧ (∀ name, name ∈ topologicalSort subtasks ↔ name ∈ subtasks.keys)
        ∧ ((∀ name, ¬OnCycle (dependenciesOf subtasks) name)
          → DependenciesFirst (dependenciesOf subtasks) (topologicalSort subtasks)) := by
  have hlisted : VisitState.Listed {} := ⟨fun _ => Iff.rfl, List.nodup_nil⟩
  obtain ⟨hnodup, hall⟩ := topologicalSort_spec subtasks
  refine ⟨hnodup, fun name => ⟨?_, hall name⟩, ?_⟩
  . unfold topologicalSort
    exact List.foldlRecOn subtasks.keys _
      (motive := fun state : VisitState => ∀ other ∈ state.order, other ∈ subtasks.keys)
      (List.forall_mem_nil _)
      (fun state hstate name hkey => mem_keys_of_mem_visit hknown [] name state hkey hstate) name
  . intro hacyclic
    unfold topologicalSort
    refine dependenciesFirst_foldl [] subtasks.keys ?_ hlisted DependenciesFirst.nil
    exact fun state name _ hstate =>
      dependenciesFirst_visit hknown hacyclic [] name state hstate (List.forall_mem_nil _)

end Known

def releaseSubtasks : SubTasks :=
  specSubtasks "release" "trace_1" "job_1" "plan_1" (fun i => "id_" ++ toString i)
    [{ name := "deploy", dependencies := ["build"] }, { name := "build" }]

theorem topologicalSort_ordered_releaseSubtasks
    : topologicalSort releaseSubtasks = ["build", "deploy"]
        ∧ DependenciesFirst (dependenciesOf releaseSubtasks) (topologicalSort releaseSubtasks) := by
  have hkeys : releaseSubtasks.keys = ["deploy", "build"] := by decide +kernel
  have hdeploy : dependenciesOf releaseSubtasks "deploy" = some ["build"] := by decide +kernel
  have hbuild : dependenciesOf releaseSubtasks "build" = some [] := by decide +kernel
  have hknown : ∀ name subtask dependency, releaseSubtasks.get name = some subtask
      → dependency ∈ subtask.dependencies → dependency ∈ releaseSubtasks.keys := by
    intro name subtask dependency hget hmem
    have hdependencies : dependenciesOf releaseSubtasks name = some subtask.dependencies := by
      rw [dependenciesOf, hget, Option.map_some]
    have hname : name ∈ releaseSubtasks.keys := IndexMap.mem_keys_iff.mpr ⟨subtask, hget⟩
    rw [hkeys, List.mem_cons, List.mem_singleton] at hname
    obtain rfl | rfl := hname
    . rw [← Option.some.inj (hdeploy.symm.trans hdependencies), List.mem_singleton] at hmem
      rw [hkeys, hmem]
      exact List.mem_cons_of_mem _ (List.mem_singleton_self _)
    . rw [← Option.some.inj (hbuild.symm.trans hdependencies)] at hmem
      cases hmem
  have hdepends : ∀ name dependency, DependsOn (dependenciesOf releaseSubtasks) name dependency
      → name = "deploy" ∧ dependency = "build" := by
    rintro name dependency ⟨ds, hds, hmem, _⟩
    have hname : name ∈ releaseSubtasks.keys := isSome_dependenciesOf_iff.mp (by rw [hds]; rfl)
    rw [hkeys, List.mem_cons, List.mem_singleton] at hname
    obtain rfl | rfl := hname
    . rw [← Option.some.inj (hdeploy.symm.trans hds)] at hmem
      exact ⟨rfl, List.mem_singleton.mp hmem⟩
    . rw [← Option.some.inj (hbuild.symm.trans hds)] at hmem
      cases hmem
  have hacyclic : ∀ name, ¬OnCycle (dependenciesOf releaseSubtasks) name := by
    intro name hcycle
    obtain ⟨_, hfirst, _⟩ := Relation.TransGen.head'_iff.mp hcycle
    obtain ⟨_, _, hlast⟩ := Relation.TransGen.tail'_iff.mp hcycle
    have hname := (hdepends _ _ hfirst).1.symm.trans (hdepends _ _ hlast).2
    exact absurd hname (by decide)
  have horder := topologicalSort_ordered hknown
  refine ⟨?_, horder.2.2 hacyclic⟩
  decide +kernel

end AnimaAgent
