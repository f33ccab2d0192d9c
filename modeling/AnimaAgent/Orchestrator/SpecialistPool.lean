import AnimaAgent.Library.IndexMap
import AnimaAgent.Library.Runs

namespace AnimaAgent

inductive SpecialistStatus where
  | active
  | inactive
  | overloaded
  deriving DecidableEq, Repr

structure Specialist where
  id : String
  name : String
  capabilities : List String
  priority : UInt32
  maxConcurrent : Nat
  currentLoad : Nat
  status : SpecialistStatus
  deriving DecidableEq

structure RegisterSpecialistOpts where
  id : String
  name : String
  capabilities : List String
  priority : UInt32
  maxConcurrent : Nat

/-- `capabilities` lists the identifiers of the specialists by their capabilities. -/
structure SpecialistPool where
  specialistRegistry : IndexMap String Specialist
  capabilities : IndexMap String (List String)

namespace SpecialistPool

def new : SpecialistPool where
  specialistRegistry := .empty
  capabilities := .empty

def pushId (id : String) (caps : IndexMap String (List String)) (cap : String)
    : IndexMap String (List String) :=
  caps.insert cap ((caps.get cap).getD [] ++ [id])

def retainOthers (id : String) (caps : IndexMap String (List String)) (cap : String)
    : IndexMap String (List String) :=
  match caps.get cap with
  | none => caps
  | some ids =>
    let ids := ids.filter (fun sid => sid != id)
    if ids.isEmpty then caps.shiftRemove cap else caps.insert cap ids

variable (pool : SpecialistPool)

def registerSpecialist (opts : RegisterSpecialistOpts) : SpecialistPool where
  specialistRegistry :=
    pool.specialistRegistry.insert opts.id
      { id := opts.id
        name := opts.name
        capabilities := opts.capabilities
        priority := opts.priority
        maxConcurrent := opts.maxConcurrent
        currentLoad := 0
        status := .active }
  capabilities := opts.capabilities.foldl (pushId opts.id) pool.capabilities

def unregisterSpecialist (id : String) : Bool × SpecialistPool :=
  let specCaps := (pool.specialistRegistry.get id).map Specialist.capabilities
  ((pool.specialistRegistry.get id).isSome,
    { specialistRegistry := pool.specialistRegistry.shiftRemove id
      capabilities :=
        match specCaps with
        | none => pool.capabilities
        | some capsList => capsList.foldl (retainOthers id) pool.capabilities })

def addCapability (specialistId capability : String) : SpecialistPool :=
  match pool.specialistRegistry.get specialistId with
  | none => pool
  | some specialist =>
    let specCaps :=
      if capability ∈ specialist.capabilities then
        specialist.capabilities
      else
        specialist.capabilities ++ [capability]
    let ids := (pool.capabilities.get capability).getD []
    { specialistRegistry :=
        pool.specialistRegistry.insert specialistId { specialist with capabilities := specCaps }
      capabilities :=
        pool.capabilities.insert capability
          (if specialistId ∈ ids then ids else ids ++ [specialistId]) }

def removeCapability (specialistId capability : String) : SpecialistPool where
  specialistRegistry :=
    match pool.specialistRegistry.get specialistId with
    | none => pool.specialistRegistry
    | some specialist =>
      pool.specialistRegistry.insert specialistId
        { specialist with
          capabilities := specialist.capabilities.filter (fun c => c != capability) }
  capabilities := retainOthers specialistId pool.capabilities capability

def declared (id : String) : List String :=
  ((pool.specialistRegistry.get id).map Specialist.capabilities).getD []

def listed (cap : String) : List String :=
  (pool.capabilities.get cap).getD []

/-- The index lists the registered specialists under the capabilities they declare, once each. -/
structure IndexAgrees : Prop where
  listed_iff : ∀ cap id, id ∈ pool.listed cap
    ↔ ∃ specialist, pool.specialistRegistry.get id = some specialist
      ∧ cap ∈ specialist.capabilities
  nodup : ∀ cap, (pool.listed cap).Nodup

end SpecialistPool

inductive SpecialistAction where
  | register (opts : RegisterSpecialistOpts)
  | unregister (id : String)
  | addCapability (specialistId capability : String)
  | removeCapability (specialistId capability : String)

namespace SpecialistPool

def step (pool : SpecialistPool) : SpecialistAction → Option SpecialistPool
  | .register opts => some (pool.registerSpecialist opts)
  | .unregister id => some (pool.unregisterSpecialist id).2
  | .addCapability specialistId capability => some (pool.addCapability specialistId capability)
  | .removeCapability specialistId capability =>
    some (pool.removeCapability specialistId capability)

/-- What is registered has no capability twice, and comes in the place of no capability. -/
def RegistersAnew (pool : SpecialistPool) : SpecialistAction → Prop
  | .register opts => opts.capabilities.Nodup ∧ pool.declared opts.id = []
  | _ => True

section Lists

variable {pool : SpecialistPool} {id : String}

theorem mem_declared_iff {cap : String}
    : cap ∈ pool.declared id ↔ ∃ specialist, pool.specialistRegistry.get id = some specialist
        ∧ cap ∈ specialist.capabilities := by
  unfold declared
  cases pool.specialistRegistry.get id with
  | none => simp
  | some specialist => simp

theorem indexAgrees_iff
    : pool.IndexAgrees ↔ (∀ cap id, id ∈ pool.listed cap ↔ cap ∈ pool.declared id)
        ∧ ∀ cap, (pool.listed cap).Nodup := by
  constructor
  . intro h
    exact ⟨fun cap id => (h.listed_iff cap id).trans mem_declared_iff.symm, h.nodup⟩
  . rintro ⟨hlisted, hnodup⟩
    exact ⟨fun cap id => (hlisted cap id).trans mem_declared_iff, hnodup⟩

theorem get_pushId (caps : IndexMap String (List String)) (cap other : String)
    : ((pushId id caps cap).get other).getD []
        = (caps.get other).getD [] ++ if other = cap then [id] else [] := by
  unfold pushId
  rw [IndexMap.get_insert_eq]
  split
  . next h => rw [h, Option.getD_some]
  . rw [List.append_nil]

theorem get_foldl_pushId (capsList : List String) (caps : IndexMap String (List String))
    (cap : String)
    : ((capsList.foldl (pushId id) caps).get cap).getD []
        = (caps.get cap).getD [] ++ List.replicate (capsList.count cap) id := by
  induction capsList generalizing caps with
  | nil => exact (List.append_nil _).symm
  | cons first rest ih =>
    rw [List.foldl_cons, ih, get_pushId, List.append_assoc, List.count_cons]
    by_cases hfirst : cap = first
    . subst hfirst
      rw [if_pos rfl, beq_self_eq_true, if_pos rfl, List.replicate_succ]
      rfl
    . rw [if_neg hfirst, List.nil_append, if_neg (fun h => hfirst (beq_iff_eq.mp h).symm),
        Nat.add_zero]

theorem get_retainOthers (caps : IndexMap String (List String)) (cap other : String)
    : ((retainOthers id caps cap).get other).getD []
        = if other = cap then ((caps.get other).getD []).filter (fun sid => sid != id)
          else (caps.get other).getD [] := by
  unfold retainOthers
  cases hcap : caps.get cap with
  | none =>
    dsimp only
    split
    . next h =>
      rw [h, hcap]
      rfl
    . rfl
  | some ids =>
    dsimp only
    split
    . next hempty =>
      rw [IndexMap.get_shiftRemove_eq]
      split
      . next h =>
        rw [h, hcap, Option.getD_some, List.isEmpty_iff.mp hempty]
        rfl
      . rfl
    . rw [IndexMap.get_insert_eq]
      split
      . next h => rw [h, hcap, Option.getD_some, Option.getD_some]
      . rfl

theorem get_foldl_retainOthers (capsList : List String) (caps : IndexMap String (List String))
    (cap : String)
    : ((capsList.foldl (retainOthers id) caps).get cap).getD []
        = if cap ∈ capsList then ((caps.get cap).getD []).filter (fun sid => sid != id)
          else (caps.get cap).getD [] := by
  induction capsList generalizing caps with
  | nil => exact (if_neg List.not_mem_nil).symm
  | cons first rest ih =>
    rw [List.foldl_cons, ih, get_retainOthers]
    by_cases hfirst : cap = first
    . subst hfirst
      rw [if_pos rfl, if_pos (List.mem_cons_self ..), List.filter_filter]
      simp only [Bool.and_self, ite_self]
    . rw [if_neg hfirst]
      simp only [List.mem_cons, hfirst, false_or]

end Lists

section Operations

variable {pool : SpecialistPool}

theorem listed_registerSpecialist (opts : RegisterSpecialistOpts) (cap : String)
    : (pool.registerSpecialist opts).listed cap
        = pool.listed cap ++ List.replicate (opts.capabilities.count cap) opts.id := by
  exact get_foldl_pushId opts.capabilities pool.capabilities cap

theorem declared_registerSpecialist (opts : RegisterSpecialistOpts) (id : String)
    : (pool.registerSpecialist opts).declared id
        = if id = opts.id then opts.capabilities else pool.declared id := by
  unfold declared registerSpecialist
  rw [IndexMap.get_insert_eq]
  split
  . rfl
  . rfl

theorem listed_unregisterSpecialist (id cap : String)
    : (pool.unregisterSpecialist id).2.listed cap
        = if cap ∈ pool.declared id then (pool.listed cap).filter (fun sid => sid != id)
          else pool.listed cap := by
  unfold listed declared unregisterSpecialist
  cases pool.specialistRegistry.get id with
  | none => exact (if_neg List.not_mem_nil).symm
  | some specialist => exact get_foldl_retainOthers specialist.capabilities pool.capabilities cap

theorem declared_unregisterSpecialist (id other : String)
    : (pool.unregisterSpecialist id).2.declared other
        = if other = id then [] else pool.declared other := by
  unfold declared unregisterSpecialist
  rw [IndexMap.get_shiftRemove_eq]
  split
  . rfl
  . rfl

theorem addCapability_of_none {specialistId : String} (capability : String)
    (h : pool.specialistRegistry.get specialistId = none)
    : pool.addCapability specialistId capability = pool := by
  unfold addCapability
  rw [h]

theorem mem_listed_addCapability {specialistId : String} (capability : String)
    {specialist : Specialist} (h : pool.specialistRegistry.get specialistId = some specialist)
    (cap id : String)
    : id ∈ (pool.addCapability specialistId capability).listed cap
        ↔ id ∈ pool.listed cap ∨ cap = capability ∧ id = specialistId := by
  unfold addCapability listed
  rw [h]
  dsimp only
  rw [IndexMap.get_insert_eq]
  by_cases hcap : cap = capability
  . subst hcap
    rw [if_pos rfl, Option.getD_some]
    split
    . next hmem =>
      constructor
      . exact Or.inl
      . rintro (hin | ⟨-, rfl⟩)
        . exact hin
        . exact hmem
    . rw [List.mem_append, List.mem_singleton, and_iff_right rfl]
  . rw [if_neg hcap]
    simp only [hcap, false_and, or_false]

theorem nodup_listed_addCapability {specialistId : String} (capability : String) {cap : String}
    (h : (pool.listed cap).Nodup)
    : ((pool.addCapability specialistId capability).listed cap).Nodup := by
  unfold addCapability
  cases pool.specialistRegistry.get specialistId with
  | none => exact h
  | some specialist =>
    unfold listed at h ⊢
    dsimp only
    rw [IndexMap.get_insert_eq]
    split
    . next hcap =>
      subst hcap
      rw [Option.getD_some]
      split
      . exact h
      . next hmem =>
        refine List.nodup_append.mpr ⟨h, List.nodup_singleton _, ?_⟩
        intro id hid other hother heq
        rw [heq, List.mem_singleton.mp hother] at hid
        exact hmem hid
    . exact h

theorem mem_declared_addCapability {specialistId : String} (capability : String)
    {specialist : Specialist} (h : pool.specialistRegistry.get specialistId = some specialist)
    (cap id : String)
    : cap ∈ (pool.addCapability specialistId capability).declared id
        ↔ cap ∈ pool.declared id ∨ cap = capability ∧ id = specialistId := by
  unfold addCapability declared
  rw [h]
  dsimp only
  rw [IndexMap.get_insert_eq]
  by_cases hid : id = specialistId
  . subst hid
    rw [if_pos rfl, h, Option.map_some, Option.map_some, Option.getD_some, Option.getD_some]
    split
    . next hmem =>
      constructor
      . exact Or.inl
      . rintro (hin | ⟨rfl, -⟩)
        . exact hin
        . exact hmem
    . rw [List.mem_append, List.mem_singleton, and_iff_left rfl]
  . rw [if_neg hid]
    simp only [hid, and_false, or_false]

theorem listed_removeCapability (specialistId capability cap : String)
    : (pool.removeCapability specialistId capability).listed cap
        = if cap = capability then (pool.listed cap).filter (fun sid => sid != specialistId)
          else pool.listed cap := by
  exact get_retainOthers pool.capabilities capability cap

theorem mem_declared_removeCapability (specialistId capability cap id : String)
    : cap ∈ (pool.removeCapability specialistId capability).declared id
        ↔ cap ∈ pool.declared id ∧ ¬ (id = specialistId ∧ cap = capability) := by
  unfold removeCapability declared
  dsimp only
  cases h : pool.specialistRegistry.get specialistId with
  | none =>
    dsimp only
    constructor
    . intro hmem
      refine ⟨hmem, ?_⟩
      rintro ⟨rfl, -⟩
      rw [h] at hmem
      exact List.not_mem_nil hmem
    . exact And.left
  | some specialist =>
    dsimp only
    rw [IndexMap.get_insert_eq]
    by_cases hid : id = specialistId
    . subst hid
      rw [if_pos rfl, h]
      simp [List.mem_filter]
    . rw [if_neg hid]
      simp only [hid, false_and, not_false_eq_true, and_true]

end Operations

section Agreement

variable {pool : SpecialistPool}

theorem indexAgrees_registerSpecialist_iff (opts : RegisterSpecialistOpts)
    (h : pool.IndexAgrees)
    : (pool.registerSpecialist opts).IndexAgrees
        ↔ opts.capabilities.Nodup ∧ pool.declared opts.id = [] := by
  obtain ⟨hlisted, hnodup⟩ := indexAgrees_iff.mp h
  simp only [indexAgrees_iff, listed_registerSpecialist, declared_registerSpecialist]
  constructor
  . rintro ⟨hlisted', hnodup'⟩
    have hsub : ∀ cap ∈ pool.declared opts.id, cap ∈ opts.capabilities := by
      intro cap hcap
      have := (hlisted' cap opts.id).mp (List.mem_append_left _ ((hlisted cap _).mpr hcap))
      rwa [if_pos rfl] at this
    have hapart : ∀ cap ∈ pool.declared opts.id, cap ∉ opts.capabilities := by
      intro cap hcap hmem
      have hdisjoint := (List.nodup_append.mp (hnodup' cap)).2.2
      have hreplicated : opts.id ∈ List.replicate (opts.capabilities.count cap) opts.id :=
        List.mem_replicate.mpr ⟨Nat.ne_of_gt (List.count_pos_iff.mpr hmem), rfl⟩
      exact hdisjoint _ ((hlisted cap _).mpr hcap) _ hreplicated rfl
    constructor
    . rw [List.nodup_iff_count_le_one]
      intro cap
      exact List.nodup_replicate.mp (List.nodup_append.mp (hnodup' cap)).2.1
    . rw [List.eq_nil_iff_forall_not_mem]
      exact fun cap hcap => hapart cap hcap (hsub cap hcap)
  . rintro ⟨honce, hnone⟩
    constructor
    . intro cap id
      rw [List.mem_append, List.mem_replicate, hlisted, ← Nat.pos_iff_ne_zero, List.count_pos_iff]
      split
      . next hid =>
        subst hid
        simp only [hnone, List.not_mem_nil, false_or, and_true]
      . next hid => simp only [hid, and_false, or_false]
    . intro cap
      refine List.nodup_append.mpr ⟨hnodup cap, ?_, ?_⟩
      . exact List.nodup_replicate.mpr (List.nodup_iff_count_le_one.mp honce cap)
      . intro id hid other hother heq
        rw [heq, (List.mem_replicate.mp hother).2, hlisted, hnone] at hid
        exact List.not_mem_nil hid

theorem indexAgrees_unregisterSpecialist (id : String) (h : pool.IndexAgrees)
    : (pool.unregisterSpecialist id).2.IndexAgrees := by
  obtain ⟨hlisted, hnodup⟩ := indexAgrees_iff.mp h
  simp only [indexAgrees_iff, listed_unregisterSpecialist, declared_unregisterSpecialist]
  constructor
  . intro cap other
    by_cases hother : other = id
    . subst hother
      rw [if_pos rfl]
      split
      . simp
      . next hcap => simpa [hlisted] using hcap
    . rw [if_neg hother]
      split
      . simp [hlisted, hother]
      . exact hlisted cap other
  . intro cap
    split
    . exact (hnodup cap).filter _
    . exact hnodup cap

theorem indexAgrees_addCapability (specialistId capability : String) (h : pool.IndexAgrees)
    : (pool.addCapability specialistId capability).IndexAgrees := by
  cases hget : pool.specialistRegistry.get specialistId with
  | none =>
    rw [addCapability_of_none capability hget]
    exact h
  | some specialist =>
    obtain ⟨hlisted, hnodup⟩ := indexAgrees_iff.mp h
    rw [indexAgrees_iff]
    constructor
    . intro cap id
      rw [mem_listed_addCapability capability hget, mem_declared_addCapability capability hget,
        hlisted]
    . exact fun cap => nodup_listed_addCapability capability (hnodup cap)

theorem indexAgrees_removeCapability (specialistId capability : String) (h : pool.IndexAgrees)
    : (pool.removeCapability specialistId capability).IndexAgrees := by
  obtain ⟨hlisted, hnodup⟩ := indexAgrees_iff.mp h
  simp only [indexAgrees_iff, listed_removeCapability, mem_declared_removeCapability]
  constructor
  . intro cap id
    split
    . next hcap => simp [hlisted, hcap]
    . next hcap => simp [hlisted, hcap]
  . intro cap
    split
    . exact (hnodup cap).filter _
    . exact hnodup cap

theorem indexAgrees_step_iff {pool' : SpecialistPool} {action : SpecialistAction}
    (h : pool.IndexAgrees) (hstep : pool.step action = some pool')
    : pool'.IndexAgrees ↔ pool.RegistersAnew action := by
  cases action with
  | register opts =>
    cases hstep
    exact indexAgrees_registerSpecialist_iff opts h
  | unregister id =>
    cases hstep
    exact iff_of_true (indexAgrees_unregisterSpecialist id h) trivial
  | addCapability specialistId capability =>
    cases hstep
    exact iff_of_true (indexAgrees_addCapability specialistId capability h) trivial
  | removeCapability specialistId capability =>
    cases hstep
    exact iff_of_true (indexAgrees_removeCapability specialistId capability h) trivial

theorem indexAgrees_new : new.IndexAgrees := by
  rw [indexAgrees_iff]
  constructor
  . intro cap id
    exact iff_of_false List.not_mem_nil List.not_mem_nil
  . exact fun _ => List.nodup_nil

end Agreement

/--
The index agrees with the specialists throughout exactly those runs in which every registration
declares each capability once and is of a specialist that has none.
-/
theorem always_indexAgrees_iff (actions : List SpecialistAction)
    : Runs.Always step IndexAgrees new actions ↔ Runs.Guarded step RegistersAnew new actions := by
  refine Runs.always_iff_guarded (fun _ => True) (fun _ => True) ?_ trivial indexAgrees_new
    (fun _ _ => trivial)
  intro pool action pool' _ _ hagrees hstep
  exact ⟨trivial, indexAgrees_step_iff hagrees hstep⟩

/-- After it registers again without it, the specialist is still listed under the capability. -/
theorem not_always_indexAgrees
    : ¬ Runs.Always step IndexAgrees new
        [.register
          { id := "coder", name := "Coder", capabilities := ["rust"], priority := 1
            maxConcurrent := 1 },
         .register
          { id := "coder", name := "Coder", capabilities := ["review"], priority := 1
            maxConcurrent := 1 }] := by
  intro h
  have hagrees := (h.2 _ rfl).2 _ rfl
  obtain ⟨specialist, hget, hcap⟩ := (hagrees.listed_iff "rust" "coder").mp (by decide)
  cases hget
  revert hcap
  decide

end SpecialistPool

end AnimaAgent
