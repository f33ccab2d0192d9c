import AnimaAgent.Support.Value
import Mathlib.Data.List.AList

namespace AnimaAgent

structure CacheEntry where
  key : String
  value : Value
  createdAtMs : UInt64
  accessedAtMs : UInt64
  accessCount : UInt64
  ttlMs : Option UInt64

def saturatingSub (a b : UInt64) : UInt64 :=
  if b ≤ a then a - b else 0

theorem toNat_saturatingSub (a b : UInt64) : (saturatingSub a b).toNat = a.toNat - b.toNat := by
  unfold saturatingSub
  split
  . next h => exact UInt64.toNat_sub_of_le _ _ h
  . next h =>
    rw [UInt64.le_iff_toNat_le] at h
    simp only [UInt64.toNat_zero]
    omega

def isCacheEntryExpired (now : UInt64) (entry : CacheEntry) : Bool :=
  match entry.ttlMs with
  | some ttlMs => decide (ttlMs < saturatingSub now entry.createdAtMs)
  | none => false

/-- The least recently accessed key comes first in `accessOrder`. -/
structure LruCache where
  entries : AList (fun _ : String => CacheEntry)
  accessOrder : List String
  maxEntries : Nat
  defaultTtlMs : UInt64
  mem_entries : ∀ key ∈ accessOrder, key ∈ entries

namespace LruCache

def new (maxEntries : Option Nat) (defaultTtlMs : Option UInt64) : LruCache where
  entries := ∅
  accessOrder := []
  maxEntries := maxEntries.getD 1000
  defaultTtlMs := defaultTtlMs.getD (5 * 60 * 1000)
  mem_entries := by simp

variable (cache : LruCache) (now : UInt64) (key : String)

def accessed : List String :=
  cache.accessOrder.filter (fun existing => existing != key) ++ [key]

theorem mem_of_mem_accessed {key existing : String} (h : existing ∈ cache.accessed key)
    : existing ∈ cache.entries ∨ existing = key := by
  obtain hmem | hmem := List.mem_append.mp h
  . exact .inl (cache.mem_entries existing (List.mem_of_mem_filter hmem))
  . exact .inr (List.mem_singleton.mp hmem)

def put (entry : CacheEntry) : LruCache where
  entries := cache.entries.insert key entry
  accessOrder := cache.accessed key
  maxEntries := cache.maxEntries
  defaultTtlMs := cache.defaultTtlMs
  mem_entries := by
    intro existing h
    rw [AList.mem_insert]
    exact (cache.mem_of_mem_accessed h).symm

def delete : LruCache where
  entries := cache.entries.erase key
  accessOrder := cache.accessOrder.filter (fun existing => existing != key)
  maxEntries := cache.maxEntries
  defaultTtlMs := cache.defaultTtlMs
  mem_entries := by
    intro existing h
    obtain ⟨hmem, hne⟩ := List.mem_filter.mp h
    exact AList.mem_erase.mpr ⟨bne_iff_ne.mp hne, cache.mem_entries existing hmem⟩

def get : Option Value × LruCache :=
  match cache.entries.lookup key with
  | none => (none, cache)
  | some entry =>
    if isCacheEntryExpired now entry then
      (none, cache.delete key)
    else
      (some entry.value,
        cache.put key { entry with accessCount := entry.accessCount + 1, accessedAtMs := now })

/-- The loop of `set` that evicts entries until there is room for `key`, for `fuel` rounds at most. -/
def makeRoom (key : String) : Nat → LruCache → LruCache
  | 0, cache => cache
  | fuel + 1, cache =>
    if cache.entries.keys.length < cache.maxEntries ∨ key ∈ cache.entries then
      cache
    else
      match cache.accessOrder.head? with
      | some evictKey => makeRoom key fuel (cache.delete evictKey)
      | none => cache

def set (value : Value) (ttlMs : Option UInt64) : LruCache :=
  -- every round but the last one removes an entry
  let cache := makeRoom key (cache.entries.keys.length + 1) cache
  cache.put key {
    key := key
    value := value
    createdAtMs := now
    accessedAtMs := now
    accessCount := 0
    ttlMs := some (ttlMs.getD cache.defaultTtlMs) }

variable {cache now key}

theorem keys_length_delete (h : key ∈ cache.entries)
    : (cache.delete key).entries.keys.length + 1 = cache.entries.keys.length := by
  change (cache.entries.erase key).keys.length + 1 = _
  rw [AList.keys_erase, List.length_erase_of_mem h]
  have := List.length_pos_of_mem (show key ∈ cache.entries.keys from h)
  omega

def Caches (cache : LruCache) (value : Value) : Prop :=
  ∃ key entry, cache.entries.lookup key = some entry ∧ entry.value = value

theorem caches_put {entry : CacheEntry} {value : Value} (h : (cache.put key entry).Caches value)
    : cache.Caches value ∨ value = entry.value := by
  obtain ⟨key', entry', hlookup, rfl⟩ := h
  by_cases hkey : key' = key
  . subst hkey
    rw [put, AList.lookup_insert] at hlookup
    cases hlookup
    exact .inr rfl
  . rw [put, AList.lookup_insert_ne hkey] at hlookup
    exact .inl ⟨key', entry', hlookup, rfl⟩

theorem caches_put_self (entry : CacheEntry) : (cache.put key entry).Caches entry.value := by
  exact ⟨key, entry, AList.lookup_insert _, rfl⟩

theorem caches_delete {value : Value} (h : (cache.delete key).Caches value)
    : cache.Caches value := by
  obtain ⟨key', entry', hlookup, rfl⟩ := h
  by_cases hkey : key' = key
  . subst hkey
    rw [delete, AList.lookup_erase] at hlookup
    cases hlookup
  . rw [delete, AList.lookup_erase_ne hkey] at hlookup
    exact ⟨key', entry', hlookup, rfl⟩

theorem caches_makeRoom {fuel : Nat} {value : Value} (h : (makeRoom key fuel cache).Caches value)
    : cache.Caches value := by
  induction fuel generalizing cache with
  | zero => exact h
  | succ fuel ih =>
    unfold makeRoom at h
    split at h
    . exact h
    . split at h
      . exact caches_delete (ih h)
      . exact h

theorem caches_of_get {value : Value} (h : (cache.get now key).1 = some value)
    : cache.Caches value := by
  unfold get at h
  split at h
  . cases h
  . next entry hlookup =>
    split at h
    . cases h
    . cases h
      exact ⟨key, entry, hlookup, rfl⟩

theorem caches_get (now : UInt64) (key : String) {value : Value}
    (h : (cache.get now key).2.Caches value)
    : cache.Caches value := by
  unfold get at h
  split at h
  . exact h
  . next entry hlookup =>
    split at h
    . exact caches_delete h
    . obtain h | rfl := caches_put h
      . exact h
      . exact ⟨key, entry, hlookup, rfl⟩

theorem caches_set {value value' : Value} {ttlMs : Option UInt64}
    (h : (cache.set now key value ttlMs).Caches value')
    : cache.Caches value' ∨ value' = value := by
  exact (caches_put h).imp_left caches_makeRoom

theorem caches_set_self (value : Value) (ttlMs : Option UInt64)
    : (cache.set now key value ttlMs).Caches value := by
  exact caches_put_self _

end LruCache

def stableHash (input : String) : UInt64 :=
  input.toUTF8.data.toList.foldl (fun hash byte => (hash ^^^ byte.toUInt64) * 1099511628211)
    1469598103934665603

def makeApiCacheKey (sessionId content : String) : String :=
  "api:" ++ sessionId ++ ":" ++ toString (stableHash content)

end AnimaAgent
