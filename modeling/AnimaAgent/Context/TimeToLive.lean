import AnimaAgent.Context.Copies
import Mathlib.Logic.Relation

namespace AnimaAgent

def ReadsAs {ν : Type} (reread : ν → Option ν) : ν → ν → Prop :=
  Relation.ReflTransGen (fun value read => reread value = some read)

namespace TieredStorage

variable {ν : Type} {reread : ν → Option ν} {P : String → Copy ν → Prop} {disk : Disk}
  {clock : Nat → UInt64} {s : TieredStorage ν}

structure AllCopies (P : String → Copy ν → Prop) (s : TieredStorage ν) : Prop where
  l1 : ∀ key copy, s.l1.copy key = some copy → P (keyToFilename key) copy
  l2 : ∀ l2, s.l2 = some l2 → ∀ name stored, l2.record name = some stored → P name stored.copy

theorem AllCopies.mono {Q : String → Copy ν → Prop} (hPQ : ∀ name copy, P name copy → Q name copy)
    (h : s.AllCopies P)
    : s.AllCopies Q := by
  constructor
  . intro key copy hcopy
    exact hPQ _ _ (h.l1 key copy hcopy)
  . intro l2 hl2 name stored hstored
    exact hPQ _ _ (h.l2 l2 hl2 name stored hstored)

theorem AllCopies.withL1 (h : s.AllCopies P) {l1 : MemoryStorage ν}
    (hl1 : ∀ key copy, l1.copy key = some copy → P (keyToFilename key) copy)
    : AllCopies P { s with l1 := l1 } := by
  exact ⟨hl1, h.l2⟩

theorem AllCopies.withL2 (h : s.AllCopies P) {l2' : Option (FileStorage ν)}
    (hl2 : ∀ l2, l2' = some l2 → ∀ name stored, l2.record name = some stored → P name stored.copy)
    : AllCopies P { s with l2 := l2' } := by
  exact ⟨h.l1, hl2⟩

theorem AllCopies.copy_setEntry {l1 : MemoryStorage ν}
    (hl1 : ∀ key copy, l1.copy key = some copy → P (keyToFilename key) copy) {now : UInt64}
    {key : String} {value : ν} {ttlMs : Option UInt64}
    (hnew : P (keyToFilename key) { value := value, ttlMs := ttlMs, createdAtMs := now })
    : ∀ k copy, (l1.setEntry now key value ttlMs).copy k = some copy → P (keyToFilename k) copy := by
  intro k copy hcopy
  rw [MemoryStorage.copy_setEntry] at hcopy
  split at hcopy
  . next hk =>
    cases hcopy
    rw [hk]
    exact hnew
  . split at hcopy
    . cases hcopy
    . exact hl1 k copy hcopy

theorem AllCopies.copy_getEntry (h : s.AllCopies P) (now accessedAt : UInt64) (key : String)
    : ∀ k copy, (s.l1.getEntry now accessedAt key).2.copy k = some copy
        → P (keyToFilename k) copy := by
  intro k copy hcopy
  rw [MemoryStorage.copy_getEntry] at hcopy
  split at hcopy
  . next hk =>
    rw [hk]
    exact h.l1 key copy (Option.filter_eq_some_iff.mp hcopy).1
  . exact h.l1 k copy hcopy

theorem AllCopies.record_setEntry (h : s.AllCopies P) {now : UInt64} {key : String} {value : ν}
    {ttlMs : Option UInt64}
    (hnew : ∀ value', reread value = some value'
      → P (keyToFilename key) { value := value', ttlMs := ttlMs, createdAtMs := now })
    : ∀ l2, s.l2.map (fun l2 => l2.setEntry reread disk now key value ttlMs) = some l2
        → ∀ name stored, l2.record name = some stored → P name stored.copy := by
  intro l2' hl2' name stored hstored
  obtain ⟨l2, hl2, rfl⟩ := Option.map_eq_some_iff.mp hl2'
  obtain ⟨hname, value', hvalue, hcopy⟩ | hold := FileStorage.record_setEntry_of_some hstored
  . rw [hname, hcopy]
    exact hnew value' hvalue
  . exact h.l2 l2 hl2 name stored hold

theorem AllCopies.moveDown (h : s.AllCopies P) {n : Nat} {key : String}
    (hmoved : ∀ copy value', s.l2.isSome → s.l1.copy key = some copy → copy.isFresh (clock n) = true
      → ReadsAs reread copy.value value'
      → P (keyToFilename key) { copy with value := value', createdAtMs := clock (n + 2) })
    : AllCopies P (s.moveDown reread disk clock n key).2 := by
  obtain ⟨l1, hl1, ⟨-, hs⟩ | ⟨copy, hcopy, hfresh, hs⟩⟩ := moveDown_spec reread disk clock s n key
  all_goals
    have hrest : ∀ k copy, l1.copy k = some copy → P (keyToFilename k) copy := by
      intro k other hother
      rw [hl1 k] at hother
      split at hother
      . cases hother
      . exact h.l1 k other hother
    rw [hs]
  . exact h.withL1 hrest
  . cases hl2 : s.l2 with
    | none => exact (h.withL1 hrest).withL2 (fun l2 hnone => by cases hnone)
    | some l2 =>
      apply (h.withL1 hrest).withL2
      rw [← hl2]
      apply h.record_setEntry
      intro value' hvalue
      exact hmoved copy value' (by rw [hl2]; rfl) hcopy hfresh (.single hvalue)

theorem AllCopies.moveAllDown {keys : List String} (hnodup : keys.Nodup) {n : Nat} (h : s.AllCopies P)
    (hmoved : ∀ (i : Nat) key copy value', keys[i]? = some key → s.l2.isSome
      → s.l1.copy key = some copy → copy.isFresh (clock (3 * i + n)) = true
      → ReadsAs reread copy.value value'
      → P (keyToFilename key) { copy with value := value', createdAtMs := clock (3 * i + n + 2) })
    : AllCopies P (moveAllDown reread disk clock n s keys).2 := by
  induction keys generalizing n s with
  | nil => exact h
  | cons key rest ih =>
    obtain ⟨hnew, hrest⟩ := List.nodup_cons.mp hnodup
    have hfirst : AllCopies P (s.moveDown reread disk clock n key).2 := by
      apply h.moveDown
      intro copy value' hl2 hcopy hfresh hreads
      have := hmoved 0 key copy value' rfl hl2 hcopy
      simp only [Nat.mul_zero, Nat.zero_add] at this
      exact this hfresh hreads
    apply ih hrest hfirst
    intro i other copy value' hother hl2 hcopy hfresh hreads
    have hne : other ≠ key := by
      intro heq
      rw [heq] at hother
      exact hnew (List.mem_of_getElem? hother)
    have hidx : 3 * (i + 1) + n = 3 * i + (n + 3) := by omega
    have hsame : s.l2.isSome ∧ s.l1.copy other = some copy := by
      obtain ⟨l1, hl1, ⟨-, hs⟩ | ⟨_, -, -, hs⟩⟩ := moveDown_spec reread disk clock s n key
      all_goals
        rw [hs] at hl2 hcopy
        dsimp only at hl2 hcopy
        rw [hl1 other, if_neg hne] at hcopy
      . exact ⟨hl2, hcopy⟩
      . rw [Option.isSome_map] at hl2
        exact ⟨hl2, hcopy⟩
    have := hmoved (i + 1) other copy value' hother hsame.1 hsame.2
    rw [hidx] at this
    exact this hfresh hreads

theorem nodup_coldKeys (s : TieredStorage ν) (now : UInt64) : (s.coldKeys now).Nodup := by
  unfold coldKeys
  exact s.l1.entries.nodup.sublist (List.filter_sublist.map _)

theorem AllCopies.files_getEntry (h : s.AllCopies P) {l2 l2' : FileStorage ν}
    (hl2 : s.l2 = some l2) {accessedAt now : UInt64} {key : String} {read : Option (ContextEntry ν)}
    (hread : l2.getEntry disk accessedAt now key = (read, l2'))
    : ∀ l2'', some l2' = some l2'' → ∀ name stored, l2''.record name = some stored
      → P name stored.copy := by
  intro l2'' heq name stored hstored
  cases heq
  have hafter : (l2.getEntry disk accessedAt now key).2.record name = some stored := by
    rw [hread]
    exact hstored
  exact h.l2 l2 hl2 name stored (FileStorage.record_getEntry_of_some hafter)

theorem AllCopies.get (h : s.AllCopies P) {key : String}
    (hmoved : ∀ copy stamp, Moves disk clock s (.get key) key copy stamp
      → P (keyToFilename key) { copy with createdAtMs := stamp })
    : AllCopies P (s.get disk clock key).2 := by
  have hfst := @MemoryStorage.getEntry_fst _ s.l1 (clock 0) (clock 1) key
  have hl1 := h.copy_getEntry (clock 0) (clock 1) key
  unfold TieredStorage.get
  rcases hread : s.l1.getEntry (clock 0) (clock 1) key with ⟨_ | entry, l1⟩
  . rw [hread] at hfst hl1
    dsimp only
    cases hl2 : s.l2 with
    | none => exact (h.withL1 hl1).withL2 (fun l2 heq => by cases heq)
    | some l2 =>
      dsimp only
      rcases hfile : l2.getEntry disk (clock 1) (clock 2) key with ⟨_ | entry, l2'⟩
      all_goals
        have hl2' := h.files_getEntry hl2 hfile
      . exact (h.withL1 hl1).withL2 hl2'
      . dsimp only
        obtain ⟨hreads, stored, hrecord, rfl, hfresh⟩ :=
          FileStorage.getEntry_eq_some (congrArg Prod.fst hfile)
        by_cases hcount : s.promotionThreshold ≤ stored.accessCount + 1
        . have hnew := hmoved _ _ (.promotedByGet key l2 stored hfst.symm hl2 hreads hrecord hfresh
            hcount)
          rw [if_pos (show s.promotionThreshold ≤ (stored.toEntry (clock 1)).accessCount from hcount)]
          exact (h.withL1 (copy_setEntry hl1 hnew)).withL2 hl2'
        . rw [if_neg (show ¬ s.promotionThreshold ≤ (stored.toEntry (clock 1)).accessCount from hcount)]
          exact (h.withL1 hl1).withL2 hl2'
  . rw [hread] at hl1
    exact h.withL1 hl1

theorem AllCopies.promote (h : s.AllCopies P) {key : String}
    (hmoved : ∀ copy stamp, Moves disk clock s (.promote key) key copy stamp
      → P (keyToFilename key) { copy with createdAtMs := stamp })
    : AllCopies P (s.promote disk clock key).2 := by
  unfold TieredStorage.promote
  cases hl2 : s.l2 with
  | none => exact h
  | some l2 =>
    dsimp only
    rcases hfile : l2.getEntry disk (clock 0) (clock 1) key with ⟨_ | entry, l2'⟩
    all_goals
      have hl2' := h.files_getEntry hl2 hfile
    . exact h.withL2 hl2'
    . obtain ⟨hreads, stored, hrecord, rfl, hfresh⟩ :=
        FileStorage.getEntry_eq_some (congrArg Prod.fst hfile)
      have hnew := hmoved _ _ (.promoted key l2 stored hl2 hreads hrecord hfresh)
      apply (h.withL1 (copy_setEntry h.l1 hnew)).withL2
      . intro l2 heq name stored hstored
        cases heq
        exact hl2' l2' rfl name stored (FileStorage.record_deleteEntry_of_some hstored)

theorem AllCopies.delete (h : s.AllCopies P) (key : String) : AllCopies P (s.delete disk key).2 := by
  have hl1 : ∀ k copy, (s.l1.deleteEntry key).2.copy k = some copy → P (keyToFilename k) copy := by
    intro k copy hcopy
    rw [MemoryStorage.copy_deleteEntry] at hcopy
    split at hcopy
    . cases hcopy
    . exact h.l1 k copy hcopy
  unfold TieredStorage.delete
  dsimp only
  cases hl2 : s.l2 with
  | none => exact (h.withL1 hl1).withL2 (fun l2 heq => by cases heq)
  | some l2 =>
    apply (h.withL1 hl1).withL2
    intro l2' heq name stored hstored
    cases heq
    exact h.l2 l2 hl2 name stored (FileStorage.record_deleteEntry_of_some hstored)

theorem AllCopies.demote (h : s.AllCopies P) {key : String}
    (hmoved : ∀ copy stamp value', Moves disk clock s (.demote key) key copy stamp
      → ReadsAs reread copy.value value'
      → P (keyToFilename key) { copy with value := value', createdAtMs := stamp })
    : AllCopies P (s.demote reread disk clock key).2 := by
  unfold TieredStorage.demote
  split
  . exact h
  . next l2 hl2 =>
    apply h.moveDown
    intro copy value' hsome hcopy hfresh hreads
    exact hmoved copy _ value' (.demoted key copy hsome hcopy hfresh) hreads

theorem AllCopies.act (h : s.AllCopies P) {action : TierAction ν}
    (hset : ∀ key value ttlMs, action = .set key value ttlMs
      → ∀ n value', n ≤ 1 → ReadsAs reread value value'
        → P (keyToFilename key) { value := value', ttlMs := ttlMs, createdAtMs := clock n })
    (hmoved : ∀ key copy stamp value', Moves disk clock s action key copy stamp
      → ReadsAs reread copy.value value'
      → P (keyToFilename key) { copy with value := value', createdAtMs := stamp })
    : AllCopies P (s.act reread disk clock action) := by
  cases action with
  | get key => exact h.get (fun copy stamp hmoves => hmoved key copy stamp _ hmoves .refl)
  | set key value ttlMs =>
    have hnew := hset key value ttlMs rfl
    refine (h.withL1 (copy_setEntry h.l1 (hnew 0 value (by omega) .refl))).withL2 ?_
    exact h.record_setEntry (fun value' hvalue => hnew 1 value' (by omega) (.single hvalue))
  | delete key => exact h.delete key
  | promote key => exact h.promote (fun copy stamp hmoves => hmoved key copy stamp _ hmoves .refl)
  | demote key => exact h.demote (hmoved key)
  | demoteColdEntries =>
    apply AllCopies.moveAllDown (s.nodup_coldKeys _) h
    intro i key copy value' hcold hsome hcopy hfresh hreads
    exact hmoved key copy _ value' (.demotedCold i key copy hsome hcold hcopy hfresh) hreads

end TieredStorage

namespace TierState

variable {ν : Type} (reread : ν → Option ν) {s s' : TierState ν}

/--
A call of `set` for a file of that name stored what the copy says, and had not returned before the stamp.
-/
def OnTime (calls : List (SetCall ν)) (name : String) (copy : Copy ν) (stamp : UInt64) : Prop :=
  ∃ call ∈ calls, keyToFilename call.key = name ∧ ReadsAs reread call.value copy.value
    ∧ call.ttlMs = copy.ttlMs ∧ ∀ ttl ∈ copy.ttlMs, stamp ≤ call.returnedAt
      ∨ UInt64.size ≤ call.returnedAt.toNat + ttl.toNat + 1

/-- A copy with a time to live is moved at the time at which the call that stored it returned. -/
def MovesOnTime (s : TierState ν) (call : TierCall ν) : Prop :=
  ∀ key copy stamp, s.storage.Moves call.disk call.clock.reading call.action key copy stamp
    → OnTime reread s.calls (keyToFilename key) copy stamp

/--
What is read, by a call that starts now or later, was stored for the key (or one with a file of the same
name) by a call of `set` whose time to live has not passed since it returned.
-/
def Expires (s : TierState ν) : Prop :=
  ∀ (disk : Disk) (clock : Clock) (key : String) (value : ν), s.time ≤ clock.reading 0
    → (s.storage.get disk clock.reading key).1 = some value
    → ∃ call ∈ s.calls, keyToFilename call.key = keyToFilename key ∧ ReadsAs reread call.value value
      ∧ ∀ ttl ∈ call.ttlMs, (clock.reading 0).toNat ≤ call.returnedAt.toNat + ttl.toNat

def Stamped (s : TierState ν) : Prop :=
  s.storage.AllCopies (fun name copy => OnTime reread s.calls name copy copy.createdAtMs)

variable {reread}

theorem OnTime.mono {calls calls' : List (SetCall ν)} {name : String} {copy : Copy ν} {stamp : UInt64}
    (hcalls : calls ⊆ calls') (h : OnTime reread calls name copy stamp)
    : OnTime reread calls' name copy stamp := by
  obtain ⟨call, hmem, hcall⟩ := h
  exact ⟨call, hcalls hmem, hcall⟩

theorem OnTime.readsAs {calls : List (SetCall ν)} {name : String} {copy : Copy ν} {stamp : UInt64}
    {value : ν} (h : OnTime reread calls name copy stamp) (hreads : ReadsAs reread copy.value value)
    : OnTime reread calls name { copy with value := value, createdAtMs := stamp } stamp := by
  obtain ⟨call, hmem, hname, hvalue, hcall⟩ := h
  exact ⟨call, hmem, hname, hvalue.trans hreads, hcall⟩

theorem stamped_new (config : TieredStorageConfig) (time : UInt64)
    : (TierState.new (ν := ν) config time).Stamped reread := by
  constructor
  . intro key copy hcopy
    cases hcopy
  . intro l2 hl2 name stored hstored
    unfold TierState.new TieredStorage.new at hl2
    dsimp only at hl2
    split at hl2
    . cases hl2
      cases hstored
    . cases hl2

theorem calls_subset_record (s : TierState ν) (startedAt returnedAt : UInt64) (action : TierAction ν)
    : s.calls ⊆ (s.record startedAt returnedAt action).1 := by
  cases action with
  | set key value ttlMs => exact List.subset_cons_self ..
  | get key => exact List.Subset.refl _
  | delete key => exact List.Subset.refl _
  | promote key => exact List.Subset.refl _
  | demote key => exact List.Subset.refl _
  | demoteColdEntries => exact List.Subset.refl _

theorem stamped_step {call : TierCall ν} (h : s.Stamped reread) (htime : s.MovesOnTime reread call)
    (hstep : s.step reread call = some s')
    : s'.Stamped reread := by
  unfold step at hstep
  split at hstep
  . cases hstep
    have hcalls := s.calls_subset_record (call.clock.reading 0) (s.returnedAt call) call.action
    have hkept : s.storage.AllCopies (fun name copy => OnTime reread
        (s.record (call.clock.reading 0) (s.returnedAt call) call.action).1 name copy
          copy.createdAtMs) :=
      h.mono (fun name copy => OnTime.mono hcalls)
    apply hkept.act
    . intro key value ttlMs haction
      have hreturned : s.returnedAt call = call.clock.reading 2 := by
        unfold returnedAt
        rw [haction]
        rfl
      intro n value' hn hreads
      rw [haction]
      refine ⟨_, List.mem_cons_self .., rfl, hreads, rfl, ?_⟩
      intro ttl _
      apply Or.inl
      dsimp only
      rw [hreturned]
      exact call.clock.mono n 2 (by omega)
    . intro key copy stamp value' hmoves hreads
      exact ((htime key copy stamp hmoves).mono hcalls).readsAs hreads
  . cases hstep

theorem exists_call_of_onTime {name : String} {copy : Copy ν} {start now : UInt64}
    (h : OnTime reread s.calls name copy copy.createdAtMs) (hfresh : copy.isFresh now = true)
    (hnow : start ≤ now)
    : ∃ call ∈ s.calls, keyToFilename call.key = name ∧ ReadsAs reread call.value copy.value
        ∧ ∀ ttl ∈ call.ttlMs, start.toNat ≤ call.returnedAt.toNat + ttl.toNat := by
  obtain ⟨call, hmem, hname, hvalue, httl, hcall⟩ := h
  refine ⟨call, hmem, hname, hvalue, ?_⟩
  intro ttl hmem
  rw [httl] at hmem
  have hage := Copy.isFresh_iff.mp hfresh ttl hmem
  have hlt := start.toNat_lt_size
  rw [UInt64.le_iff_toNat_le] at hnow
  obtain hearly | hlast := hcall ttl hmem
  . rw [UInt64.le_iff_toNat_le] at hearly
    omega
  . omega

theorem expires_of_stamped (h : s.Stamped reread) : s.Expires reread := by
  intro disk clock key value htime hget
  have hfst := @MemoryStorage.getEntry_fst _ s.storage.l1 (clock.reading 0) (clock.reading 1) key
  unfold TieredStorage.get at hget
  rcases hread : s.storage.l1.getEntry (clock.reading 0) (clock.reading 1) key with ⟨_ | entry, l1⟩
  . rw [hread] at hget
    dsimp only at hget
    cases hl2 : s.storage.l2 with
    | none =>
      rw [hl2] at hget
      cases hget
    | some l2 =>
      rw [hl2] at hget
      dsimp only at hget
      rcases hfile : l2.getEntry disk (clock.reading 1) (clock.reading 2) key with ⟨_ | entry, l2'⟩
      . rw [hfile] at hget
        cases hget
      . rw [hfile] at hget
        obtain ⟨-, stored, hrecord, rfl, hfresh⟩ :=
          FileStorage.getEntry_eq_some (congrArg Prod.fst hfile)
        cases hget
        exact exists_call_of_onTime (h.l2 l2 hl2 _ stored hrecord) hfresh (clock.mono 0 2 (by omega))
  . rw [hread] at hget hfst
    obtain ⟨hcopy, hfresh⟩ := Option.filter_eq_some_iff.mp hfst.symm
    cases hget
    exact exists_call_of_onTime (h.l1 key _ hcopy) hfresh (clock.mono 0 0 (by omega))

theorem always_expires (config : TieredStorageConfig) (time : UInt64) (calls : List (TierCall ν))
    (h : Runs.Guarded (step reread) (MovesOnTime reread) (TierState.new config time) calls)
    : Runs.Always (step reread) (Expires reread) (TierState.new config time) calls := by
  have halways := Runs.always_of_guarded (P := Stamped reread) (fun s call s' hs hguard hstep =>
    stamped_step hs hguard hstep) (stamped_new config time) h
  apply halways.mono
  intro s hs
  exact expires_of_stamped hs

def contextSet : TierCall Value where
  action := .set "context" (.bool true) (some 10)
  clock := .still 0
  disk := .working

theorem always_expires_demoted
    : Runs.Always (step some) (Expires some) (TierState.new ⟨none, none, none, none⟩ 0)
        [contextSet, { contextSet with action := .demote "context" }] := by
  apply always_expires
  intro s hs
  refine ⟨?_, ?_⟩
  . intro key copy stamp hmoves
    cases hmoves
  . cases hs
    intro s hs
    refine ⟨?_, trivial⟩
    intro key copy stamp hmoves
    cases hmoves with
    | demoted _ _ _ hcopy _ =>
      cases hcopy
      refine ⟨_, List.mem_cons_self .., rfl, .refl, rfl, ?_⟩
      intro ttl _
      exact .inl (by decide)

/-- An entry that is demoted after half its time to live is read for half as long again. -/
theorem not_always_expires
    : ¬ Runs.Always (step some) (Expires some) (TierState.new ⟨none, none, none, none⟩ 0)
        [contextSet, { contextSet with action := .demote "context", clock := .still 5 }] := by
  intro h
  have hexpires := h.run_eq_some rfl
  obtain ⟨call, hmem, -, -, httl⟩ := hexpires .working (.still 12) "context" (.bool true) (by decide) rfl
  cases List.mem_singleton.mp hmem
  exact absurd (httl 10 rfl) (by decide)

end TierState

end AnimaAgent
