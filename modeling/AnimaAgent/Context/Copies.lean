import AnimaAgent.Context.Storage
import AnimaAgent.Library.Runs

namespace AnimaAgent

structure Copy (ν : Type) where
  value : ν
  ttlMs : Option UInt64
  createdAtMs : UInt64

def Copy.isFresh {ν : Type} (now : UInt64) (copy : Copy ν) : Bool :=
  !outlived now copy.createdAtMs copy.ttlMs

def ContextEntry.copy {ν : Type} (entry : ContextEntry ν) : Copy ν where
  value := entry.value
  ttlMs := entry.ttlMs
  createdAtMs := entry.createdAtMs

def FileRecord.copy {ν : Type} (stored : FileRecord ν) : Copy ν where
  value := stored.value
  ttlMs := stored.ttlMs
  createdAtMs := stored.createdAtMs

theorem Copy.isFresh_iff {ν : Type} {now : UInt64} {copy : Copy ν}
    : copy.isFresh now = true
        ↔ ∀ ttl ∈ copy.ttlMs, now.toNat ≤ copy.createdAtMs.toNat + ttl.toNat := by
  unfold isFresh outlived
  cases copy.ttlMs with
  | none => simp
  | some ttl =>
    simp only [Bool.not_eq_true', decide_eq_false_iff_not, UInt64.lt_iff_toNat_lt,
      toNat_saturatingSub, Option.mem_some_iff, forall_eq']
    omega

theorem ContextEntry.isExpired_eq {ν : Type} (now : UInt64) (entry : ContextEntry ν)
    : entry.isExpired now = !entry.copy.isFresh now := by
  unfold ContextEntry.isExpired Copy.isFresh ContextEntry.copy
  rw [Bool.not_not]

namespace MemoryStorage

variable {ν : Type} {l1 : MemoryStorage ν}

def copy (l1 : MemoryStorage ν) (key : String) : Option (Copy ν) :=
  (l1.entries.get key).map ContextEntry.copy

def evicted (l1 : MemoryStorage ν) (key : String) : Option String :=
  if l1.maxEntries ≤ l1.entries.keys.length ∧ key ∉ l1.entries.keys then l1.lruOrder.head? else none

theorem copy_evictLru (k : String)
    : l1.evictLru.copy k = if l1.lruOrder.head? = some k then none else l1.copy k := by
  unfold evictLru
  split
  . next horder =>
    rw [horder]
    rfl
  . next evictKey rest horder =>
    unfold copy
    rw [horder, IndexMap.get_shiftRemove_eq]
    by_cases hk : k = evictKey
    . simp [hk]
    . have hne : evictKey ≠ k := fun h => hk h.symm
      simp [hk, hne]

theorem copy_setEntry (now : UInt64) (key : String) (value : ν) (ttlMs : Option UInt64) (k : String)
    : (l1.setEntry now key value ttlMs).copy k
        = if k = key then some { value := value, ttlMs := ttlMs, createdAtMs := now }
          else if l1.evicted key = some k then none else l1.copy k := by
  have hinsert : ∀ (room : MemoryStorage ν) (entry : ContextEntry ν),
      (touchLru { room with entries := room.entries.insert key entry } key).copy k
        = if k = key then some entry.copy else room.copy k := by
    intro room entry
    unfold copy touchLru
    dsimp only
    rw [IndexMap.get_insert_eq]
    split
    . rfl
    . rfl
  unfold setEntry
  rw [hinsert]
  split
  . rfl
  . unfold evicted
    split
    . rw [copy_evictLru]
    . rfl

theorem copy_deleteEntry (key k : String)
    : (l1.deleteEntry key).2.copy k = if k = key then none else l1.copy k := by
  unfold deleteEntry copy
  split
  . dsimp only
    rw [IndexMap.get_shiftRemove_eq]
    split
    . rfl
    . rfl
  . next hnot =>
    split
    . next hk =>
      rw [hk, Option.map_eq_none_iff]
      exact IndexMap.get_eq_none_iff.mpr hnot
    . rfl

theorem getEntry_spec (now accessedAt : UInt64) (key : String)
    : (l1.getEntry now accessedAt key).1.map ContextEntry.copy = (l1.copy key).filter (Copy.isFresh now)
        ∧ ∀ k, (l1.getEntry now accessedAt key).2.copy k
          = if k = key then (l1.copy key).filter (Copy.isFresh now) else l1.copy k := by
  unfold getEntry copy
  cases hentry : l1.entries.get key with
  | none =>
    refine ⟨rfl, ?_⟩
    intro k
    dsimp only
    split
    . next hk =>
      rw [hk, hentry]
      rfl
    . rfl
  | some entry =>
    dsimp only
    rw [ContextEntry.isExpired_eq, Option.map_some, Option.filter_some]
    cases hfresh : entry.copy.isFresh now with
    | true =>
      refine ⟨rfl, ?_⟩
      intro k
      simp only [Bool.not_true, Bool.false_eq_true, ite_false, ite_true, touchLru,
        IndexMap.get_insert_eq]
      split
      . rfl
      . rfl
    | false =>
      refine ⟨rfl, ?_⟩
      intro k
      simp only [Bool.not_false, ite_true, IndexMap.get_shiftRemove_eq, Bool.false_eq_true, ite_false]
      split
      . rfl
      . rfl

theorem getEntry_fst (now accessedAt : UInt64) (key : String)
    : (l1.getEntry now accessedAt key).1.map ContextEntry.copy
        = (l1.copy key).filter (Copy.isFresh now) := by
  exact (getEntry_spec now accessedAt key).1

theorem copy_getEntry (now accessedAt : UInt64) (key k : String)
    : (l1.getEntry now accessedAt key).2.copy k
        = if k = key then (l1.copy key).filter (Copy.isFresh now) else l1.copy k := by
  exact (getEntry_spec now accessedAt key).2 k

end MemoryStorage

namespace FileStorage

variable {ν : Type} {reread : ν → Option ν} {disk : Disk} {l2 : FileStorage ν}

def record (l2 : FileStorage ν) (name : String) : Option (FileRecord ν) :=
  (l2.files.get name).join

theorem record_removeFile (name n : String)
    : (l2.removeFile disk name).2.record n
        = if n = name ∧ disk.removes name then none else l2.record n := by
  unfold removeFile record
  by_cases hmem : name ∈ l2.files.keys
  . by_cases hremoves : disk.removes name
    . rw [if_pos ⟨hmem, hremoves⟩]
      dsimp only
      rw [IndexMap.get_shiftRemove_eq]
      by_cases hn : n = name
      . rw [if_pos hn, if_pos ⟨hn, hremoves⟩]
        rfl
      . rw [if_neg hn, if_neg (fun h => hn h.1)]
    . rw [if_neg (fun h => hremoves h.2), if_neg (fun h => hremoves h.2)]
  . rw [if_neg (fun h => hmem h.1)]
    split
    . next h =>
      dsimp only
      rw [h.1, IndexMap.get_eq_none_iff.mpr hmem]
      rfl
    . rfl

theorem getEntry_of_record_eq_none {accessedAt now : UInt64} {key : String}
    (h : l2.record (keyToFilename key) = none)
    : l2.getEntry disk accessedAt now key = (none, l2) := by
  unfold record at h
  unfold getEntry
  split
  . split
    . next stored hfile =>
      rw [hfile] at h
      cases h
    . rfl
  . rfl

theorem getEntry_of_record_eq_some {accessedAt now : UInt64} {key : String} {stored : FileRecord ν}
    (h : l2.record (keyToFilename key) = some stored) (hreads : disk.reads (keyToFilename key) = true)
    : l2.getEntry disk accessedAt now key
        = if stored.copy.isFresh now then (some (stored.toEntry accessedAt), l2)
          else (none, (l2.removeFile disk (keyToFilename key)).2) := by
  unfold record at h
  unfold getEntry
  rw [if_pos hreads, Option.join_eq_some_iff.mp h]
  dsimp only
  rw [ContextEntry.isExpired_eq]
  change (if (!stored.copy.isFresh now) = true then _ else _) = _
  cases stored.copy.isFresh now with
  | true => rfl
  | false => rfl

theorem getEntry_eq_some {accessedAt now : UInt64} {key : String} {entry : ContextEntry ν}
    (h : (l2.getEntry disk accessedAt now key).1 = some entry)
    : disk.reads (keyToFilename key) = true
        ∧ ∃ stored, l2.record (keyToFilename key) = some stored ∧ entry = stored.toEntry accessedAt
          ∧ stored.copy.isFresh now = true := by
  cases hreads : disk.reads (keyToFilename key) with
  | false =>
    unfold getEntry at h
    rw [hreads] at h
    cases h
  | true =>
    cases hrecord : l2.record (keyToFilename key) with
    | none =>
      rw [getEntry_of_record_eq_none hrecord] at h
      cases h
    | some stored =>
      rw [getEntry_of_record_eq_some hrecord hreads] at h
      split at h
      . next hfresh =>
        cases h
        exact ⟨rfl, stored, rfl, rfl, hfresh⟩
      . cases h

theorem record_getEntry_of_some {accessedAt now : UInt64} {key n : String} {stored : FileRecord ν}
    (h : (l2.getEntry disk accessedAt now key).2.record n = some stored)
    : l2.record n = some stored := by
  unfold getEntry at h
  split at h
  . split at h
    . split at h
      . rw [record_removeFile] at h
        split at h
        . cases h
        . exact h
      . exact h
    . exact h
  . exact h

theorem record_setEntry_eq {now : UInt64} {key n : String} {value : ν} {ttlMs : Option UInt64}
    {stored : FileRecord ν} (h : (l2.setEntry reread disk now key value ttlMs).record n = some stored)
    : (n = keyToFilename key ∧ ∃ value', reread value = some value'
          ∧ stored = { key, value := value', createdAtMs := now, accessCount := 0, ttlMs := ttlMs })
        ∨ l2.record n = some stored := by
  unfold setEntry record at h
  split at h
  . dsimp only at h
    rw [IndexMap.get_insert_eq] at h
    split at h
    . next hn =>
      obtain ⟨value', hvalue, rfl⟩ := Option.map_eq_some_iff.mp h
      exact .inl ⟨hn, value', hvalue, rfl⟩
    . exact .inr h
  . exact .inr h
  . dsimp only at h
    rw [IndexMap.get_insert_eq] at h
    split at h
    . cases h
    . exact .inr h

theorem record_setEntry_of_some {now : UInt64} {key n : String} {value : ν} {ttlMs : Option UInt64}
    {stored : FileRecord ν} (h : (l2.setEntry reread disk now key value ttlMs).record n = some stored)
    : (n = keyToFilename key ∧ ∃ value', reread value = some value'
          ∧ stored.copy = { value := value', ttlMs := ttlMs, createdAtMs := now })
        ∨ l2.record n = some stored := by
  obtain ⟨hn, value', hvalue, rfl⟩ | hold := record_setEntry_eq h
  . exact .inl ⟨hn, value', hvalue, rfl⟩
  . exact .inr hold

theorem record_deleteEntry_of_some {key n : String} {stored : FileRecord ν}
    (h : (l2.deleteEntry disk key).2.record n = some stored)
    : l2.record n = some stored := by
  unfold deleteEntry at h
  rw [record_removeFile] at h
  split at h
  . cases h
  . exact h

section Working

def copy (l2 : FileStorage ν) (name : String) : Option (Copy ν) :=
  (l2.record name).map FileRecord.copy

theorem getEntry_working (accessedAt now : UInt64) (key : String)
    : (l2.getEntry .working accessedAt now key).1.map ContextEntry.copy
          = (l2.copy (keyToFilename key)).filter (Copy.isFresh now)
        ∧ ∀ n, (l2.getEntry .working accessedAt now key).2.copy n
          = if n = keyToFilename key then (l2.copy (keyToFilename key)).filter (Copy.isFresh now)
            else l2.copy n := by
  have hreads : Disk.working.reads (keyToFilename key) = true := rfl
  unfold copy
  cases hrecord : l2.record (keyToFilename key) with
  | none =>
    rw [getEntry_of_record_eq_none hrecord]
    refine ⟨rfl, ?_⟩
    intro n
    split
    . next hn =>
      rw [hn, hrecord]
      rfl
    . rfl
  | some stored =>
    rw [getEntry_of_record_eq_some hrecord hreads, Option.map_some, Option.filter_some]
    cases hfresh : stored.copy.isFresh now with
    | true =>
      refine ⟨rfl, ?_⟩
      intro n
      simp only [ite_true]
      split
      . next hn =>
        rw [hn, hrecord]
        rfl
      . rfl
    | false =>
      refine ⟨rfl, ?_⟩
      intro n
      simp only [Bool.false_eq_true, ite_false]
      rw [record_removeFile]
      by_cases hn : n = keyToFilename key
      . rw [if_pos ⟨hn, rfl⟩, if_pos hn]
        rfl
      . rw [if_neg (fun h => hn h.1), if_neg hn]

theorem copy_setEntry_working (now : UInt64) (key : String) (value : ν) (ttlMs : Option UInt64)
    (n : String)
    : (l2.setEntry reread .working now key value ttlMs).copy n
        = if n = keyToFilename key then
            (reread value).map (fun value => { value := value, ttlMs := ttlMs, createdAtMs := now })
          else
            l2.copy n := by
  unfold setEntry copy record
  dsimp only [Disk.working]
  rw [IndexMap.get_insert_eq]
  split
  . cases reread value with
    | none => rfl
    | some value => rfl
  . rfl

theorem copy_deleteEntry_working (key n : String)
    : (l2.deleteEntry .working key).2.copy n
        = if n = keyToFilename key then none else l2.copy n := by
  unfold deleteEntry copy
  rw [record_removeFile]
  by_cases hn : n = keyToFilename key
  . rw [if_pos ⟨hn, rfl⟩, if_pos hn]
    rfl
  . rw [if_neg (fun h => hn h.1), if_neg hn]

end Working

end FileStorage

structure Clock where
  reading : Nat → UInt64
  mono : ∀ i j, i ≤ j → reading i ≤ reading j

def Clock.still (now : UInt64) : Clock where
  reading _ := now
  mono _ _ _ := UInt64.le_refl now

inductive TierAction (ν : Type) where
  | get (key : String)
  | set (key : String) (value : ν) (ttlMs : Option UInt64)
  | delete (key : String)
  | promote (key : String)
  | demote (key : String)
  | demoteColdEntries

def TierAction.key {ν : Type} : TierAction ν → Option String
  | .get key | .set key _ _ | .delete key | .promote key | .demote key => some key
  | .demoteColdEntries => none

structure TierCall (ν : Type) where
  action : TierAction ν
  clock : Clock
  disk : Disk

structure SetCall (ν : Type) where
  key : String
  value : ν
  ttlMs : Option UInt64
  startedAt : UInt64
  returnedAt : UInt64

namespace TieredStorage

variable {ν : Type} (reread : ν → Option ν) (disk : Disk) (clock : Nat → UInt64) (s : TieredStorage ν)

def act : TierAction ν → TieredStorage ν
  | .get key => (s.get disk clock key).2
  | .set key value ttlMs => s.set reread disk clock key value ttlMs
  | .delete key => (s.delete disk key).2
  | .promote key => (s.promote disk clock key).2
  | .demote key => (s.demote reread disk clock key).2
  | .demoteColdEntries => (s.demoteColdEntries reread disk clock).2

def readings : TierAction ν → Nat
  | .get _ => 4
  | .set .. => 2
  | .delete _ => 0
  | .promote _ => 3
  | .demote _ => 3
  | .demoteColdEntries => 3 * (s.coldKeys (clock 0)).length + 1

inductive Moves : TierAction ν → String → Copy ν → UInt64 → Prop where
  | promotedByGet (key : String) (l2 : FileStorage ν) (stored : FileRecord ν)
      (hmiss : (s.l1.copy key).filter (Copy.isFresh (clock 0)) = none) (hl2 : s.l2 = some l2)
      (hreads : disk.reads (keyToFilename key) = true)
      (hrecord : l2.record (keyToFilename key) = some stored)
      (hfresh : stored.copy.isFresh (clock 2) = true)
      (hcount : s.promotionThreshold ≤ stored.accessCount + 1)
      : Moves (.get key) key stored.copy (clock 3)
  | promoted (key : String) (l2 : FileStorage ν) (stored : FileRecord ν) (hl2 : s.l2 = some l2)
      (hreads : disk.reads (keyToFilename key) = true)
      (hrecord : l2.record (keyToFilename key) = some stored)
      (hfresh : stored.copy.isFresh (clock 1) = true)
      : Moves (.promote key) key stored.copy (clock 2)
  | demoted (key : String) (copy : Copy ν) (hl2 : s.l2.isSome) (hcopy : s.l1.copy key = some copy)
      (hfresh : copy.isFresh (clock 0) = true)
      : Moves (.demote key) key copy (clock 2)
  | demotedCold (i : Nat) (key : String) (copy : Copy ν) (hl2 : s.l2.isSome)
      (hcold : (s.coldKeys (clock 0))[i]? = some key) (hcopy : s.l1.copy key = some copy)
      (hfresh : copy.isFresh (clock (3 * i + 1)) = true)
      : Moves .demoteColdEntries key copy (clock (3 * i + 3))

end TieredStorage

/-- A storage with the time, the calls of `set` so far, and for each key the one that counts. -/
structure TierState (ν : Type) where
  storage : TieredStorage ν
  time : UInt64
  calls : List (SetCall ν)
  latest : String → Option (SetCall ν)

namespace TierState

variable {ν : Type}

def new (config : TieredStorageConfig) (time : UInt64) : TierState ν where
  storage := .new config
  time := time
  calls := []
  latest _ := none

def record (s : TierState ν) (startedAt returnedAt : UInt64)
    : TierAction ν → List (SetCall ν) × (String → Option (SetCall ν))
  | .set key value ttlMs =>
    let call := {
      key := key
      value := value
      ttlMs := ttlMs
      startedAt := startedAt
      returnedAt := returnedAt }
    (call :: s.calls, Function.update s.latest key (some call))
  | .delete key => (s.calls, Function.update s.latest key none)
  | _ => (s.calls, s.latest)

def returnedAt (s : TierState ν) (call : TierCall ν) : UInt64 :=
  call.clock.reading (s.storage.readings call.clock.reading call.action)

/-- A call does not start before the one before it has returned. -/
def step (reread : ν → Option ν) (s : TierState ν) (call : TierCall ν) : Option (TierState ν) :=
  if s.time ≤ call.clock.reading 0 then
    let recorded := s.record (call.clock.reading 0) (s.returnedAt call) call.action
    some {
      storage := s.storage.act reread call.disk call.clock.reading call.action
      time := s.returnedAt call
      calls := recorded.1
      latest := recorded.2 }
  else
    none

end TierState

namespace TieredStorage

variable {ν : Type} {reread : ν → Option ν} {disk : Disk} {clock : Nat → UInt64}
  {s : TieredStorage ν}

variable (reread disk clock s) in
theorem moveDown_spec (n : Nat) (key : String)
    : ∃ l1 : MemoryStorage ν, (∀ k, l1.copy k = if k = key then none else s.l1.copy k)
        ∧ (((s.l1.copy key).filter (Copy.isFresh (clock n)) = none
            ∧ (s.moveDown reread disk clock n key).2 = { s with l1 := l1 })
          ∨ ∃ copy, s.l1.copy key = some copy ∧ copy.isFresh (clock n) = true
            ∧ (s.moveDown reread disk clock n key).2 = { s with
              l1 := l1
              l2 := s.l2.map (fun l2 =>
                l2.setEntry reread disk (clock (n + 2)) key copy.value copy.ttlMs) }) := by
  have hfst := @MemoryStorage.getEntry_fst _ s.l1 (clock n) (clock (n + 1)) key
  have hcopies := @MemoryStorage.copy_getEntry _ s.l1 (clock n) (clock (n + 1)) key
  unfold moveDown
  rcases hread : s.l1.getEntry (clock n) (clock (n + 1)) key with ⟨_ | entry, l1⟩
  . rw [hread] at hfst hcopies
    refine ⟨l1, ?_, .inl ⟨hfst.symm, rfl⟩⟩
    intro k
    rw [hcopies k]
    split
    . exact hfst.symm
    . rfl
  . rw [hread] at hfst hcopies
    refine ⟨(l1.deleteEntry key).2, ?_, .inr ⟨entry.copy, ?_⟩⟩
    . intro k
      rw [MemoryStorage.copy_deleteEntry]
      split
      . rfl
      . next hk => rw [hcopies k, if_neg hk]
    . obtain ⟨hcopy, hfresh⟩ := Option.filter_eq_some_iff.mp hfst.symm
      exact ⟨hcopy, hfresh, rfl⟩

end TieredStorage

end AnimaAgent
