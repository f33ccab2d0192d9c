import AnimaAgent.Cache.Lru
import AnimaAgent.Context.Manager
import AnimaAgent.Library.OldestOut

namespace AnimaAgent

structure ContextSnapshot where
  id : String
  key : String
  value : Value
  sourceTier : String
  timestampMs : UInt64
  deriving DecidableEq

def maxSnapshots : Nat := 500

def snapshotMaxAgeMs : UInt64 := 3600000

def ContextSnapshot.expired (now : UInt64) (snapshot : ContextSnapshot) : Bool :=
  decide (snapshotMaxAgeMs ≤ saturatingSub now snapshot.timestampMs)

structure SnapshotManager extends ContextManager where
  snapshots : IndexMap String ContextSnapshot
  snapshotCount : Nat
  gcRuns : UInt64
  gcRunning : Bool

namespace SnapshotManager

def evict (snapshots : IndexMap String ContextSnapshot) (now : UInt64)
    : IndexMap String ContextSnapshot :=
  if maxSnapshots ≤ snapshots.keys.length then
    let expired := (snapshots.entries.filter (fun entry => entry.2.expired now)).map Prod.fst
    if expired ≠ [] then expired.foldl IndexMap.shiftRemove snapshots
    else OldestOut.dropOldest snapshots
  else
    snapshots

variable (manager : SnapshotManager)

def store (snapshot : ContextSnapshot) (now : UInt64) : SnapshotManager :=
  let snapshots := (evict manager.snapshots now).insert snapshot.id snapshot
  { manager with snapshots, snapshotCount := snapshots.keys.length }

/-- The clock is read for the snapshot, and again when it is stored. -/
def snapshot (key id : String) (takenAt now : UInt64) : Option ContextSnapshot × SnapshotManager :=
  match manager.getContext key with
  | (none, _) => (none, manager)
  | (some value, contexts) =>
    let snapshot : ContextSnapshot := { id, key, value, sourceTier := "l1", timestampMs := takenAt }
    (some snapshot, store { manager with toContextManager := contexts } snapshot now)

def restore (snapshotId : String) : Option ContextSnapshot × SnapshotManager :=
  match manager.snapshots.get snapshotId with
  | none => (none, manager)
  | some snapshot =>
    (some snapshot, { manager with
      toContextManager := manager.setContext snapshot.key snapshot.value })

def gcOldSnapshots (now : UInt64) : Nat × SnapshotManager :=
  let snapshots := manager.snapshots.retain (fun snapshot => !snapshot.expired now)
  let removed := manager.snapshots.keys.length - snapshots.keys.length
  if removed > 0 then
    (removed, { manager with
      snapshots
      snapshotCount := snapshots.keys.length
      gcRuns := manager.gcRuns + 1 })
  else
    (removed, { manager with snapshots })

def clearContexts : SnapshotManager :=
  { manager with contexts := .empty }

def clearSnapshots : SnapshotManager :=
  { manager with snapshots := .empty }

def close : SnapshotManager :=
  let manager := ({ manager with gcRunning := false }.clearContexts).clearSnapshots
  { manager with
    stats := { manager.stats with entries := 0 }
    snapshotCount := 0 }

end SnapshotManager

inductive SnapshotAction where
  | getContext (key : String)
  | setContext (key : String) (value : Value)
  | deleteContext (key : String)
  | store (snapshot : ContextSnapshot) (now : UInt64)
  | gcOldSnapshots (now : UInt64)
  | clearContexts
  | clearSnapshots

def SnapshotAction.act (manager : SnapshotManager) : SnapshotAction → SnapshotManager
  | getContext key => { manager with toContextManager := (manager.getContext key).2 }
  | setContext key value => { manager with toContextManager := manager.setContext key value }
  | deleteContext key => { manager with toContextManager := (manager.deleteContext key).2 }
  | store snapshot now => manager.store snapshot now
  | gcOldSnapshots now => (manager.gcOldSnapshots now).2
  | clearContexts => manager.clearContexts
  | clearSnapshots => manager.clearSnapshots

def SnapshotManager.after (manager : SnapshotManager) (actions : List SnapshotAction)
    : SnapshotManager :=
  actions.foldl SnapshotAction.act manager

def SnapshotAction.stores : SnapshotAction → Bool
  | store _ _ => true
  | _ => false

/--
No clock reads an hour more than the snapshot has, no other snapshot has its identifier, and the manager
is not closed.
-/
def SnapshotAction.Spares (snapshot : ContextSnapshot) : SnapshotAction → Prop
  | store other now => other.id ≠ snapshot.id ∧ snapshot.expired now = false
  | gcOldSnapshots now => snapshot.expired now = false
  | clearSnapshots => False
  | _ => True

instance (snapshot : ContextSnapshot) (action : SnapshotAction) : Decidable (action.Spares snapshot) :=
  match action with
  | .store _ _ => inferInstanceAs (Decidable (_ ∧ _))
  | .gcOldSnapshots _ => inferInstanceAs (Decidable (_ = _))
  | .clearSnapshots => inferInstanceAs (Decidable False)
  | .getContext _ | .setContext _ _ | .deleteContext _ | .clearContexts =>
    inferInstanceAs (Decidable True)

namespace SnapshotManager

open OldestOut

variable {manager : SnapshotManager} {snapshot : ContextSnapshot} {newer : List String}

theorem close_eq (manager : SnapshotManager)
    : manager.close
        = { manager.after [.clearContexts, .clearSnapshots] with
            stats := { manager.stats with entries := 0 }
            snapshotCount := 0
            gcRunning := false } := by
  rfl

theorem evict_eq (snapshots : IndexMap String ContextSnapshot) (now : UInt64)
    : evict snapshots now
        = if maxSnapshots ≤ snapshots.keys.length then
            if snapshots.entries.filter (fun entry => entry.2.expired now) ≠ [] then
              snapshots.retain (fun snapshot => !snapshot.expired now)
            else dropOldest snapshots
          else snapshots := by
  unfold evict
  simp only [IndexMap.foldl_shiftRemove_eq_retain, ne_eq, List.map_eq_nil_iff]

theorem length_evict_lt (snapshots : IndexMap String ContextSnapshot) (now : UInt64)
    (h : snapshots.keys.length ≤ maxSnapshots)
    : (evict snapshots now).keys.length < maxSnapshots := by
  rw [evict_eq]
  split
  . split
    . next hexpired =>
      obtain ⟨entry, hentry⟩ := List.exists_mem_of_ne_nil _ hexpired
      obtain ⟨hmem, hold⟩ := List.mem_filter.mp hentry
      have hlt : (snapshots.entries.filter (fun entry => !entry.2.expired now)).length
          < snapshots.entries.length := by
        rw [List.length_filter_lt_length_iff_exists]
        exact ⟨entry, hmem, by rw [hold]; decide⟩
      unfold IndexMap.keys IndexMap.retain at *
      rw [List.length_map] at *
      exact hlt.trans_le h
    . rw [keys_dropOldest, List.length_tail]
      have hpos : 0 < maxSnapshots := by decide
      omega
  . next hroom => exact not_le.mp hroom

theorem length_keys_insert_le (snapshots : IndexMap String ContextSnapshot)
    : (snapshots.insert snapshot.id snapshot).keys.length ≤ snapshots.keys.length + 1 := by
  rw [IndexMap.keys_insert]
  split
  . exact Nat.le_succ _
  . rw [List.length_append, List.length_singleton]

theorem length_keys_act_le (action : SnapshotAction)
    (h : manager.snapshots.keys.length ≤ maxSnapshots)
    : (action.act manager).snapshots.keys.length ≤ maxSnapshots := by
  cases action with
  | getContext key => exact h
  | setContext key value => exact h
  | deleteContext key => exact h
  | store snapshot now =>
    have hlt := length_evict_lt manager.snapshots now h
    exact (length_keys_insert_le _).trans hlt
  | gcOldSnapshots now =>
    have hle : (manager.snapshots.retain (fun snapshot => !snapshot.expired now)).keys.length
        ≤ maxSnapshots := by
      rw [IndexMap.keys_retain]
      exact (List.length_filter_le _ _).trans h
    dsimp only [SnapshotAction.act, gcOldSnapshots]
    split
    . exact hle
    . exact hle
  | clearContexts => exact h
  | clearSnapshots => exact Nat.zero_le _

structure Keeps (manager : SnapshotManager) (snapshot : ContextSnapshot) (newer : List String)
    : Prop where
  get : manager.snapshots.get snapshot.id = some snapshot
  behind : Behind snapshot.id manager.snapshots.keys newer

theorem keeps_retain {now : UInt64} (h : Keeps manager snapshot newer)
    (hyoung : snapshot.expired now = false)
    : (manager.snapshots.retain (fun snapshot => !snapshot.expired now)).get snapshot.id
          = some snapshot
        ∧ ∃ newer', Behind snapshot.id
            (manager.snapshots.retain (fun snapshot => !snapshot.expired now)).keys newer'
          ∧ newer'.length ≤ newer.length := by
  have hget : (manager.snapshots.get snapshot.id).filter (fun snapshot => !snapshot.expired now)
      = some snapshot := by
    rw [h.get, Option.filter_some, hyoung]
    rfl
  have hkey : ((manager.snapshots.get snapshot.id).filter
      (fun snapshot => !snapshot.expired now)).isSome := by
    rw [hget]
    rfl
  refine ⟨(IndexMap.get_retain ..).trans hget, _, ?_, List.length_filter_le (fun key =>
    ((manager.snapshots.get key).filter (fun snapshot => !snapshot.expired now)).isSome) newer⟩
  rw [IndexMap.keys_retain]
  exact h.behind.filter hkey

theorem keeps_evict {now : UInt64} (h : Keeps manager snapshot newer)
    (hyoung : snapshot.expired now = false) (hroom : newer.length + 1 < maxSnapshots)
    : (evict manager.snapshots now).get snapshot.id = some snapshot
        ∧ ∃ newer', Behind snapshot.id (evict manager.snapshots now).keys newer'
          ∧ newer'.length ≤ newer.length := by
  rw [evict_eq]
  split
  . next hfull =>
    split
    . exact keeps_retain h hyoung
    . obtain ⟨front, hkeys⟩ := h.behind
      cases front with
      | nil =>
        rw [hkeys, List.nil_append, List.length_cons] at hfull
        exact absurd hroom (not_lt.mpr hfull)
      | cons oldest front =>
        have hbehind : Behind snapshot.id (dropOldest manager.snapshots).keys newer := by
          rw [keys_dropOldest, hkeys]
          exact ⟨front, rfl⟩
        exact ⟨(get_dropOldest hbehind.mem).trans h.get, newer, hbehind, le_rfl⟩
  . exact ⟨h.get, newer, h.behind, le_rfl⟩

theorem keeps_store {other : ContextSnapshot} {now : UInt64} (h : Keeps manager snapshot newer)
    (hother : other.id ≠ snapshot.id) (hyoung : snapshot.expired now = false)
    (hroom : newer.length + 1 < maxSnapshots)
    : ∃ newer', Keeps (manager.store other now) snapshot newer'
        ∧ newer'.length ≤ newer.length + 1 := by
  obtain ⟨hget, newer', ⟨front, hkeys⟩, hlength⟩ := keeps_evict h hyoung hroom
  have hsame : (manager.store other now).snapshots.get snapshot.id = some snapshot := by
    unfold store
    rw [IndexMap.get_insert_eq, if_neg hother.symm, hget]
  have hinsert : (manager.store other now).snapshots.keys
      = if other.id ∈ (evict manager.snapshots now).keys then (evict manager.snapshots now).keys
        else (evict manager.snapshots now).keys ++ [other.id] := by
    unfold store
    rw [IndexMap.keys_insert]
  split at hinsert
  . exact ⟨newer', ⟨hsame, front, hinsert.trans hkeys⟩, by omega⟩
  . refine ⟨newer' ++ [other.id], ⟨hsame, front, ?_⟩, ?_⟩
    . rw [hinsert, hkeys, List.append_assoc, List.cons_append]
    . rw [List.length_append, List.length_singleton]
      omega

theorem keeps_act {action : SnapshotAction} (h : Keeps manager snapshot newer)
    (hspares : action.Spares snapshot)
    (hroom : newer.length + (if action.stores then 1 else 0) < maxSnapshots)
    : ∃ newer', Keeps (action.act manager) snapshot newer'
        ∧ newer'.length ≤ newer.length + (if action.stores then 1 else 0) := by
  cases action with
  | getContext key => exact ⟨newer, ⟨h.get, h.behind⟩, Nat.le_add_right ..⟩
  | setContext key value => exact ⟨newer, ⟨h.get, h.behind⟩, Nat.le_add_right ..⟩
  | deleteContext key => exact ⟨newer, ⟨h.get, h.behind⟩, Nat.le_add_right ..⟩
  | store other now => exact keeps_store h hspares.1 hspares.2 hroom
  | gcOldSnapshots now =>
    obtain ⟨hget, newer', hbehind, hlength⟩ := keeps_retain h hspares
    refine ⟨newer', ?_, hlength⟩
    dsimp only [SnapshotAction.act, gcOldSnapshots]
    split
    . exact ⟨hget, hbehind⟩
    . exact ⟨hget, hbehind⟩
  | clearContexts => exact ⟨newer, ⟨h.get, h.behind⟩, Nat.le_add_right ..⟩
  | clearSnapshots => exact hspares.elim

theorem keeps_after {actions : List SnapshotAction} (h : Keeps manager snapshot newer)
    (hspares : ∀ action ∈ actions, action.Spares snapshot)
    (hroom : newer.length + actions.countP SnapshotAction.stores < maxSnapshots)
    : ∃ newer', Keeps (manager.after actions) snapshot newer' := by
  induction actions generalizing manager newer with
  | nil => exact ⟨newer, h⟩
  | cons action actions ih =>
    rw [List.countP_cons] at hroom
    obtain ⟨newer', hkeeps, hlength⟩ := keeps_act h (hspares action (List.mem_cons_self ..)) (by omega)
    exact ih hkeeps (fun other hmem => hspares other (List.mem_cons_of_mem _ hmem)) (by omega)

theorem length_keys_after_le (actions : List SnapshotAction)
    (h : manager.snapshots.keys.length ≤ maxSnapshots)
    : (manager.after actions).snapshots.keys.length ≤ maxSnapshots := by
  induction actions generalizing manager with
  | nil => exact h
  | cons action actions ih => exact ih (length_keys_act_le action h)

theorem snapshot_eq_some {key id : String} {takenAt now : UInt64} {taken : ContextSnapshot}
    {manager' : SnapshotManager} (h : manager.snapshot key id takenAt now = (some taken, manager'))
    : taken.id = id ∧ taken.key = key ∧ manager.contexts.get key = some taken.value
        ∧ manager' = store { manager with
            toContextManager := (manager.getContext key).2 } taken now := by
  unfold snapshot ContextManager.getContext at h
  unfold ContextManager.getContext
  cases hvalue : manager.contexts.get key with
  | none => simp only [hvalue, Prod.mk.injEq, reduceCtorEq, false_and] at h
  | some value =>
    simp only [hvalue, Prod.mk.injEq, Option.some.injEq] at h
    obtain ⟨rfl, rfl⟩ := h
    exact ⟨rfl, rfl, rfl, rfl⟩

theorem keeps_store_new (now : UInt64) (hnew : snapshot.id ∉ manager.snapshots.keys)
    : Keeps (manager.store snapshot now) snapshot [] := by
  have hevicted : snapshot.id ∉ (evict manager.snapshots now).keys := by
    rw [evict_eq]
    split
    . split
      . rw [IndexMap.keys_retain]
        exact fun hmem => hnew (List.mem_filter.mp hmem).1
      . rw [keys_dropOldest]
        exact fun hmem => hnew (List.mem_of_mem_tail hmem)
    . exact hnew
  refine ⟨?_, (evict manager.snapshots now).keys, ?_⟩
  . dsimp only [store]
    rw [IndexMap.get_insert_eq, if_pos rfl]
  . dsimp only [store]
    rw [IndexMap.keys_insert, if_neg hevicted]

/-- What was read of the entry when the snapshot was taken is what its key has again. -/
structure Restored (manager : SnapshotManager) (taken : ContextSnapshot) : Prop where
  result : (manager.restore taken.id).1 = some taken
  restored : (manager.restore taken.id).2.contexts.get taken.key = some taken.value
  kept : ∀ key, key ≠ taken.key
    → (manager.restore taken.id).2.contexts.get key = manager.contexts.get key
  snapshots : (manager.restore taken.id).2.snapshots = manager.snapshots

theorem Keeps.restored (h : Keeps manager snapshot newer) : Restored manager snapshot := by
  have hrestore : manager.restore snapshot.id
      = (some snapshot, { manager with
          toContextManager := manager.setContext snapshot.key snapshot.value }) := by
    unfold restore
    rw [h.get]
  constructor
  . rw [hrestore]
  . rw [hrestore]
    exact (IndexMap.get_insert_eq ..).trans (if_pos rfl)
  . intro key hne
    rw [hrestore]
    exact (IndexMap.get_insert_eq ..).trans (if_neg hne)
  . rw [hrestore]

def oneEntry : SnapshotManager where
  contexts := IndexMap.empty.insert "k" (.string "original")
  stats := ⟨0, 1, 0, 1⟩
  snapshots := .empty
  snapshotCount := 0
  gcRuns := 0
  gcRunning := true

end SnapshotManager

end AnimaAgent
