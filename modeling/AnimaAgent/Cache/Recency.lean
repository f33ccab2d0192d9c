import AnimaAgent.Cache.Lru
import AnimaAgent.Library.RecencyMap

namespace AnimaAgent

open RecencyMap (Event Answer held usedAt)

inductive CacheCall where
  | get (now accessedAtMs : UInt64) (key : String)
  | set (now : UInt64) (key : String) (value : Value) (ttlMs : Option UInt64)
  | delete (key : String)

namespace LruCache

def getAt (cache : LruCache) (now accessedAtMs : UInt64) (key : String)
    : Option Value × LruCache :=
  match cache.entries.lookup key with
  | none => (none, cache)
  | some entry =>
    if isCacheEntryExpired now entry then
      (none, cache.delete key)
    else
      (some entry.value,
        cache.put key
          { entry with accessCount := entry.accessCount + 1, accessedAtMs := accessedAtMs })

def call (cache : LruCache) : CacheCall → Answer Value × LruCache
  | .get now accessedAtMs key =>
    let (value, cache) := cache.getAt now accessedAtMs key
    (.read value, cache)
  | .set now key value ttlMs => (.stored value, cache.set now key value ttlMs)
  | .delete key => (.deleted (cache.entries.lookup key).isSome, cache.delete key)

def calls (cache : LruCache) : List CacheCall → List (Answer Value) × LruCache
  | [] => ([], cache)
  | first :: rest =>
    let (answer, cache) := cache.call first
    let (answers, cache) := cache.calls rest
    (answer :: answers, cache)

end LruCache

def CacheCall.onMap (defaultTtlMs : UInt64) : CacheCall → RecencyMap.Call String Value UInt64
  | .get now _ key => .get now key
  | .set now key value ttlMs =>
    .set key value (fun later => decide (ttlMs.getD defaultTtlMs < saturatingSub later now))
  | .delete key => .delete key

namespace LruCache

abbrev Log := List (Event String Value UInt64)

structure Follows (cache : LruCache) (log : Log) : Prop where
  held_eq : ∀ key, held log key
    = (cache.entries.lookup key).map
        (fun entry => (entry.value, fun now => isCacheEntryExpired now entry))
  ordered : cache.accessOrder.Pairwise (fun a b => usedAt log a < usedAt log b)
  mem_accessOrder : ∀ key ∈ cache.entries, key ∈ cache.accessOrder

variable {cache : LruCache} {log : Log} {key : String}

theorem Follows.held_isSome_iff (h : cache.Follows log) (key : String)
    : (held log key).isSome ↔ key ∈ cache.entries := by
  rw [h.held_eq, Option.isSome_map, AList.lookup_isSome]

theorem Follows.held_eq_none_iff (h : cache.Follows log) (key : String)
    : held log key = none ↔ key ∉ cache.entries := by
  rw [← h.held_isSome_iff, Option.not_isSome_iff_eq_none]

theorem Follows.size_eq (h : cache.Follows log)
    : RecencyMap.size log = cache.entries.keys.length := by
  have hkeys : { key | (held log key).isSome } = (cache.entries.keys.toFinset : Set String) := by
    ext key
    rw [Set.mem_ofPred_eq, h.held_isSome_iff, Finset.mem_coe, List.mem_toFinset, AList.mem_keys]
  unfold RecencyMap.size
  rw [hkeys, Set.ncard_coe_finset, List.toFinset_card_of_nodup cache.entries.keys_nodup]

theorem Follows.mem_accessOrder_iff (h : cache.Follows log) (key : String)
    : key ∈ cache.accessOrder ↔ key ∈ cache.entries := by
  exact ⟨cache.mem_entries key, h.mem_accessOrder key⟩

theorem Follows.nodup (h : cache.Follows log) : cache.accessOrder.Nodup := by
  refine h.ordered.imp ?_
  intro a b hlt heq
  rw [heq] at hlt
  exact Nat.lt_irrefl _ hlt

theorem follows_new (maxEntries : Option Nat) (defaultTtlMs : Option UInt64)
    : (new maxEntries defaultTtlMs).Follows [] where
  held_eq := fun _ => rfl
  ordered := List.Pairwise.nil
  mem_accessOrder := fun key hmem => absurd hmem (AList.notMem_empty key)

theorem Follows.delete (h : cache.Follows log) (key : String) (cause : RecencyMap.Cause)
    : (cache.delete key).Follows (.removed key cause :: log) where
  held_eq := by
    intro other
    unfold held LruCache.delete
    split
    . next hother => rw [hother, AList.lookup_erase, Option.map_none]
    . next hother => rw [AList.lookup_erase_ne hother, h.held_eq]
  ordered := h.ordered.filter _
  mem_accessOrder := by
    intro other hmem
    obtain ⟨hother, hmem⟩ := AList.mem_erase.mp hmem
    exact List.mem_filter.mpr ⟨h.mem_accessOrder other hmem, bne_iff_ne.mpr hother⟩

theorem Follows.put (h : cache.Follows log) {log' : Log} {entry : CacheEntry}
    (hheld : ∀ other, held log' other
      = if other = key then some (entry.value, fun now => isCacheEntryExpired now entry)
        else held log other)
    (hused : ∀ other, usedAt log' other = if other = key then log.length + 1 else usedAt log other)
    : (cache.put key entry).Follows log' where
  held_eq := by
    intro other
    rw [hheld]
    unfold LruCache.put
    split
    . next hother => rw [hother, AList.lookup_insert, Option.map_some]
    . next hother => rw [AList.lookup_insert_ne hother, h.held_eq]
  ordered := RecencyMap.pairwise_append_used hused h.ordered
  mem_accessOrder := by
    intro other hmem
    by_cases hother : other = key
    . rw [hother]
      exact List.mem_append_right _ (List.mem_singleton_self key)
    . have hmem := (AList.mem_insert _).mp hmem
      refine List.mem_append_left _ (List.mem_filter.mpr ⟨?_, bne_iff_ne.mpr hother⟩)
      exact h.mem_accessOrder other (hmem.resolve_left hother)

theorem Follows.put_stored (h : cache.Follows log) (key : String) (entry : CacheEntry)
    : (cache.put key entry).Follows
        (.stored key entry.value (fun now => isCacheEntryExpired now entry) :: log) := by
  exact h.put (fun _ => rfl) (fun _ => rfl)

theorem keys_length_put_of_mem (entry : CacheEntry) (h : key ∈ cache.entries)
    : (cache.put key entry).entries.keys.length = cache.entries.keys.length := by
  have hlength := keys_length_delete h
  unfold put
  rw [AList.keys_insert, List.length_cons, ← AList.keys_erase]
  exact hlength

theorem keys_length_put_of_not_mem (entry : CacheEntry) (h : key ∉ cache.entries)
    : (cache.put key entry).entries.keys.length = cache.entries.keys.length + 1 := by
  unfold put
  rw [AList.keys_insert, List.length_cons, List.erase_of_not_mem h]

theorem makeRoom_of_room (fuel : Nat)
    (h : cache.entries.keys.length < cache.maxEntries ∨ key ∈ cache.entries)
    : makeRoom key (fuel + 1) cache = cache := by
  unfold makeRoom
  rw [if_pos h]

theorem makeRoom_of_full {evictKey : String} {rest : List String} {fuel : Nat}
    (hfull : cache.entries.keys.length = cache.maxEntries) (hkey : key ∉ cache.entries)
    (horder : cache.accessOrder = evictKey :: rest)
    : makeRoom key (fuel + 2) cache = cache.delete evictKey := by
  have hmem := cache.mem_entries evictKey (by rw [horder]; exact List.mem_cons_self ..)
  have hlength := keys_length_delete hmem
  unfold makeRoom
  rw [if_neg (by simp [hfull, hkey]), horder, List.head?_cons]
  exact makeRoom_of_room fuel (.inl (by change _ < cache.maxEntries; omega))

structure Bounded (cache : LruCache) (bound : Nat) (ttlMs : UInt64) : Prop where
  maxEntries_eq : cache.maxEntries = bound
  defaultTtlMs_eq : cache.defaultTtlMs = ttlMs
  size_le : cache.entries.keys.length ≤ bound

variable {bound : Nat} {ttlMs : UInt64}

theorem Bounded.delete (h : cache.Bounded bound ttlMs) (key : String)
    : (cache.delete key).Bounded bound ttlMs where
  maxEntries_eq := h.maxEntries_eq
  defaultTtlMs_eq := h.defaultTtlMs_eq
  size_le := by
    unfold LruCache.delete
    rw [AList.keys_erase]
    exact Nat.le_trans List.length_erase_le h.size_le

theorem Bounded.put_of_mem (h : cache.Bounded bound ttlMs) (hmem : key ∈ cache.entries)
    (entry : CacheEntry)
    : (cache.put key entry).Bounded bound ttlMs where
  maxEntries_eq := h.maxEntries_eq
  defaultTtlMs_eq := h.defaultTtlMs_eq
  size_le := by
    rw [keys_length_put_of_mem entry hmem]
    exact h.size_le

theorem Bounded.put_of_room (h : cache.Bounded bound ttlMs)
    (hroom : cache.entries.keys.length < bound) (key : String) (entry : CacheEntry)
    : (cache.put key entry).Bounded bound ttlMs where
  maxEntries_eq := h.maxEntries_eq
  defaultTtlMs_eq := h.defaultTtlMs_eq
  size_le := by
    by_cases hmem : key ∈ cache.entries
    . rw [keys_length_put_of_mem entry hmem]
      exact h.size_le
    . rw [keys_length_put_of_not_mem entry hmem]
      exact hroom

theorem step_getAt (hfollows : cache.Follows log) (hbounded : cache.Bounded bound ttlMs)
    (now accessedAtMs : UInt64) (key : String)
    : ∃ log', RecencyMap.Step bound log (.get now key)
        (.read (cache.getAt now accessedAtMs key).1) log'
      ∧ (cache.getAt now accessedAtMs key).2.Follows log'
      ∧ (cache.getAt now accessedAtMs key).2.Bounded bound ttlMs := by
  have hheld := hfollows.held_eq key
  unfold getAt
  cases hlookup : cache.entries.lookup key with
  | none =>
    rw [hlookup, Option.map_none] at hheld
    exact ⟨log, .miss hheld, hfollows, hbounded⟩
  | some entry =>
    rw [hlookup, Option.map_some] at hheld
    dsimp only
    split
    . next hexpired =>
      exact ⟨_, .lapse hheld hexpired, hfollows.delete key .expired, hbounded.delete key⟩
    . next hfresh =>
      have hmem : key ∈ cache.entries := by
        rw [← AList.lookup_isSome, hlookup]
        rfl
      refine ⟨_, .hit hheld (Bool.eq_false_iff.mpr hfresh), hfollows.put ?_ (fun _ => rfl),
        hbounded.put_of_mem hmem _⟩
      -- the access does not change when the entry expires
      intro other
      split
      . next hother =>
        rw [hother]
        exact hheld
      . rfl

theorem step_set (hfollows : cache.Follows log) (hbounded : cache.Bounded bound ttlMs)
    (hbound : 1 ≤ bound) (now : UInt64) (key : String) (value : Value)
    (entryTtlMs : Option UInt64)
    : ∃ log', RecencyMap.Step bound log
        (.set key value (fun later => decide (entryTtlMs.getD ttlMs < saturatingSub later now)))
        (.stored value) log'
      ∧ (cache.set now key value entryTtlMs).Follows log'
      ∧ (cache.set now key value entryTtlMs).Bounded bound ttlMs := by
  have hmax := hbounded.maxEntries_eq
  have hsize := hbounded.size_le
  have httl := hbounded.defaultTtlMs_eq
  unfold set
  by_cases hroom : cache.entries.keys.length < cache.maxEntries ∨ key ∈ cache.entries
  . rw [makeRoom_of_room _ hroom]
    dsimp only
    rw [httl]
    refine ⟨_, ?_, hfollows.put_stored key _, ?_⟩
    . by_cases hmem : key ∈ cache.entries
      . exact .overwrite ((hfollows.held_isSome_iff key).mpr hmem)
      . refine .insert ((hfollows.held_eq_none_iff key).mpr hmem) ?_
        rw [hfollows.size_eq, ← hmax]
        exact hroom.resolve_right hmem
    . obtain hlt | hmem := hroom
      . exact hbounded.put_of_room (by omega) key _
      . exact hbounded.put_of_mem hmem _
  . obtain ⟨hnot, hkey⟩ := not_or.mp hroom
    have hfull : cache.entries.keys.length = cache.maxEntries := by omega
    cases horder : cache.accessOrder with
    | nil =>
      obtain ⟨first, hfirst⟩ := List.exists_mem_of_length_pos
        (show 0 < cache.entries.keys.length by omega)
      have hmem := hfollows.mem_accessOrder first hfirst
      rw [horder] at hmem
      exact absurd hmem List.not_mem_nil
    | cons evictKey rest =>
      have hevict := cache.mem_entries evictKey (by rw [horder]; exact List.mem_cons_self ..)
      have hlength := keys_length_delete hevict
      obtain ⟨fuel, hfuel⟩ : ∃ fuel, cache.entries.keys.length + 1 = fuel + 2 :=
        ⟨cache.entries.keys.length - 1, by omega⟩
      rw [hfuel, makeRoom_of_full hfull hkey horder]
      have httl' : (cache.delete evictKey).defaultTtlMs = ttlMs := httl
      dsimp only
      rw [httl']
      refine ⟨_, ?_, (hfollows.delete evictKey .evicted).put_stored key _,
        (hbounded.delete evictKey).put_of_room (by omega) key _⟩
      refine .evict ((hfollows.held_eq_none_iff key).mpr hkey) ?_
        ((hfollows.held_isSome_iff evictKey).mpr hevict) ?_
      . rw [hfollows.size_eq, hfull, hmax]
      . intro other hother hne
        have hmem := hfollows.mem_accessOrder other ((hfollows.held_isSome_iff other).mp hother)
        have hordered := hfollows.ordered
        rw [horder] at hmem hordered
        exact List.rel_of_pairwise_cons hordered ((List.mem_cons.mp hmem).resolve_left hne)

theorem step_call (hfollows : cache.Follows log) (hbounded : cache.Bounded bound ttlMs)
    (hbound : 1 ≤ bound) (call : CacheCall)
    : ∃ log', RecencyMap.Step bound log (call.onMap ttlMs) (cache.call call).1 log'
      ∧ (cache.call call).2.Follows log' ∧ (cache.call call).2.Bounded bound ttlMs := by
  cases call with
  | get now accessedAtMs key => exact step_getAt hfollows hbounded now accessedAtMs key
  | set now key value entryTtlMs =>
    exact step_set hfollows hbounded hbound now key value entryTtlMs
  | delete key =>
    have hfound : (held log key).isSome = (cache.entries.lookup key).isSome := by
      rw [hfollows.held_eq, Option.isSome_map]
    refine ⟨.removed key .deleted :: log, ?_, hfollows.delete key .deleted, hbounded.delete key⟩
    change RecencyMap.Step bound log (.delete key)
      (.deleted (cache.entries.lookup key).isSome) _
    rw [← hfound]
    exact .delete

theorem run_calls (hfollows : cache.Follows log) (hbounded : cache.Bounded bound ttlMs)
    (hbound : 1 ≤ bound) (calls : List CacheCall)
    : ∃ log', RecencyMap.Run bound log (calls.map (CacheCall.onMap ttlMs)) (cache.calls calls).1 log'
      ∧ (cache.calls calls).2.Follows log' ∧ (cache.calls calls).2.Bounded bound ttlMs := by
  induction calls generalizing cache log with
  | nil => exact ⟨log, .nil, hfollows, hbounded⟩
  | cons first rest ih =>
    obtain ⟨log', hstep, hfollows', hbounded'⟩ := step_call hfollows hbounded hbound first
    obtain ⟨log'', hrest, hlast⟩ := ih hfollows' hbounded'
    exact ⟨log'', .cons hstep hrest, hlast⟩

/--
The cache answers as the map with a log does, which evicts the least recently used key. After every
call it holds at most `maxEntries` keys, and `accessOrder` lists them once each.
-/
theorem calls_refine (maxEntries : Option Nat) (defaultTtlMs : Option UInt64)
    (hmax : 1 ≤ (new maxEntries defaultTtlMs).maxEntries) (calls : List CacheCall)
    : let cache := new maxEntries defaultTtlMs
      let after := cache.calls calls
      (∃ log, RecencyMap.Run cache.maxEntries [] (calls.map (CacheCall.onMap cache.defaultTtlMs))
          after.1 log
        ∧ after.2.Follows log)
      ∧ after.2.entries.keys.length ≤ cache.maxEntries
      ∧ after.2.accessOrder.Nodup
      ∧ ∀ key, key ∈ after.2.accessOrder ↔ key ∈ after.2.entries := by
  dsimp only
  have hbounded : (new maxEntries defaultTtlMs).Bounded _ _ := ⟨rfl, rfl, Nat.zero_le _⟩
  obtain ⟨log, hrun, hfollows, hbounded'⟩ :=
    run_calls (follows_new maxEntries defaultTtlMs) hbounded hmax calls
  exact ⟨⟨log, hrun, hfollows⟩, hbounded'.size_le, hfollows.nodup, hfollows.mem_accessOrder_iff⟩

theorem calls_refine_one
    : ((new (some 1) none).calls
          [.set 0 "a" .null none, .set 0 "b" .null none, .get 0 0 "a"]).2.accessOrder = ["b"]
      ∧ ((new (some 1) none).calls
          [.set 0 "a" .null none, .set 0 "b" .null none, .get 0 0 "a"]).2.entries.keys.length ≤ 1 := by
  exact ⟨by decide, (calls_refine (some 1) none (Nat.le_refl 1) _).2.1⟩

end LruCache

end AnimaAgent
