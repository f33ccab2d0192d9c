import AnimaAgent.Cache.Lru
import AnimaAgent.Library.IndexMap
import AnimaAgent.Library.Runs

namespace AnimaAgent

structure TtlEntry where
  key : String
  value : Value
  createdAtMs : UInt64
  accessedAtMs : UInt64
  accessCount : UInt64
  ttlMs : UInt64
  size : Nat

namespace TtlEntry

def isExpired (entry : TtlEntry) (now : UInt64) : Bool :=
  decide (entry.ttlMs < saturatingSub now entry.createdAtMs)

def expiresAt (entry : TtlEntry) : Nat :=
  entry.createdAtMs.toNat + entry.ttlMs.toNat

end TtlEntry

structure TtlCacheStats where
  hits : UInt64 := 0
  misses : UInt64 := 0
  writes : UInt64 := 0
  evictions : UInt64 := 0
  expirations : UInt64 := 0

structure TtlCache where
  entries : IndexMap String TtlEntry
  defaultTtlMs : UInt64
  maxEntries : Nat
  stats : TtlCacheStats

mutual

def estimateSize : Value → Nat
  | .null => 0
  | .bool _ => 1
  | .number _ => 8
  | .string text => text.utf8ByteSize
  | .array items => estimateItems items
  | .object map => estimateFields map

def estimateItems : List Value → Nat
  | [] => 0
  | item :: items => estimateSize item + estimateItems items

def estimateFields : List (String × Value) → Nat
  | [] => 0
  | (k, v) :: fields => k.utf8ByteSize + estimateSize v + estimateFields fields

end

namespace TtlCache

def new (defaultTtlMs : Option UInt64) (maxEntries : Option Nat) : TtlCache where
  entries := .empty
  defaultTtlMs := defaultTtlMs.getD (5 * 60 * 1000)
  maxEntries := maxEntries.getD 5000
  stats := {}

variable (cache : TtlCache)

def get (now accessedAtMs : UInt64) (key : String) : Option Value × TtlCache :=
  match cache.entries.get key with
  | none => (none, { cache with stats := { cache.stats with misses := cache.stats.misses + 1 } })
  | some entry =>
    if entry.isExpired now then
      (none, { cache with
        entries := cache.entries.shiftRemove key
        stats := { cache.stats with
          expirations := cache.stats.expirations + 1
          misses := cache.stats.misses + 1 } })
    else
      (some entry.value, { cache with
        entries := cache.entries.insert key
          { entry with accessCount := entry.accessCount + 1, accessedAtMs }
        stats := { cache.stats with hits := cache.stats.hits + 1 } })

def expiredKeys (clock : Nat → UInt64) : List String :=
  (cache.entries.entries.zipIdx.filter (fun (entry, i) => entry.2.isExpired (clock i))).map
    (fun (entry, _) => entry.1)

def oldest : List (String × TtlEntry) → Option (String × TtlEntry)
  | [] => none
  | first :: rest =>
    some (rest.foldl
      (fun best entry => if entry.2.createdAtMs < best.2.createdAtMs then entry else best) first)

def makeRoom (clock : Nat → UInt64) : TtlCache :=
  let expiredKeys := (cache.expiredKeys clock).take 10
  if !expiredKeys.isEmpty then
    { cache with
      entries := expiredKeys.foldl IndexMap.shiftRemove cache.entries
      stats := { cache.stats with
        expirations := cache.stats.expirations + UInt64.ofNat expiredKeys.length } }
  else
    match oldest cache.entries.entries with
    | none => cache
    | some (oldestKey, _) =>
      { cache with
        entries := cache.entries.shiftRemove oldestKey
        stats := { cache.stats with evictions := cache.stats.evictions + 1 } }

def set (clock : Nat → UInt64) (now : UInt64) (key : String) (value : Value)
    (ttlMs : Option UInt64) : TtlCache :=
  let ttl := ttlMs.getD cache.defaultTtlMs
  let cache :=
    if cache.maxEntries ≤ cache.entries.keys.length ∧ key ∉ cache.entries.keys then
      cache.makeRoom clock
    else cache
  { cache with
    entries := cache.entries.insert key
      { key, value, createdAtMs := now, accessedAtMs := now, accessCount := 0, ttlMs := ttl
        size := estimateSize value }
    stats := { cache.stats with writes := cache.stats.writes + 1 } }

def delete (key : String) : TtlCache :=
  { cache with entries := cache.entries.shiftRemove key }

def has (now : UInt64) (key : String) : Bool :=
  (cache.entries.get key).any (fun entry => !entry.isExpired now)

def cleanupExpired (clock : Nat → UInt64) : TtlCache :=
  let expiredKeys := cache.expiredKeys clock
  { cache with
    entries := expiredKeys.foldl IndexMap.shiftRemove cache.entries
    stats := { cache.stats with
      expirations := cache.stats.expirations + UInt64.ofNat expiredKeys.length } }

def clear : TtlCache :=
  { cache with entries := .empty }

def getOrComputeWithTtl (now accessedAtMs : UInt64) (clock : Nat → UInt64) (createdAtMs : UInt64)
    (key : String) (ttlMs : Option UInt64) (computed : Value) : Value × TtlCache :=
  match cache.get now accessedAtMs key with
  | (some value, cache) => (value, cache)
  | (none, cache) => (computed, cache.set clock createdAtMs key computed ttlMs)

end TtlCache

inductive TtlCall where
  | get (now accessedAtMs : UInt64) (key : String)
  | set (clock : Nat → UInt64) (now : UInt64) (key : String) (value : Value) (ttlMs : Option UInt64)
  | delete (key : String)
  | has (now : UInt64) (key : String)
  | cleanupExpired (clock : Nat → UInt64)
  | clear

def TtlCache.call (cache : TtlCache) : TtlCall → TtlCache
  | .get now accessedAtMs key => (cache.get now accessedAtMs key).2
  | .set clock now key value ttlMs => cache.set clock now key value ttlMs
  | .delete key => cache.delete key
  | .has _ _ => cache
  | .cleanupExpired clock => cache.cleanupExpired clock
  | .clear => cache.clear

structure TtlStep where
  before : TtlCache
  call : TtlCall
  after : TtlCache

namespace TtlStep

variable (step : TtlStep)

def Removes (key : String) (entry : TtlEntry) : Prop :=
  step.before.entries.get key = some entry ∧ step.after.entries.get key = none

def FoundExpired (clock : Nat → UInt64) (key : String) (entry : TtlEntry) : Prop :=
  ∃ i, step.before.entries.entries[i]? = some (key, entry) ∧ entry.isExpired (clock i) = true

def NoneExpired (cache : TtlCache) (clock : Nat → UInt64) : Prop :=
  ∀ i (entry : String × TtlEntry), cache.entries.entries[i]? = some entry
    → entry.2.isExpired (clock i) = false

def Permits (key : String) (entry : TtlEntry) : Prop :=
  match step.call with
  | .get now _ read => key = read ∧ entry.isExpired now = true
  | .set clock _ written _ _ =>
    step.before.maxEntries ≤ step.before.entries.keys.length ∧ written ∉ step.before.entries.keys
      ∧ (step.FoundExpired clock key entry
        -- the entry that is evicted is the only one, and closest to its expiry
        ∨ NoneExpired step.before clock
          ∧ (∀ other ∈ step.before.entries.entries, entry.expiresAt ≤ other.2.expiresAt)
          ∧ ∀ other entry', step.Removes other entry' → other = key)
  | .delete deleted => key = deleted
  | .has _ _ => False
  | .cleanupExpired clock => step.FoundExpired clock key entry
  | .clear => True

structure Sound : Prop where
  bounded : step.after.entries.keys.length ≤ step.after.maxEntries
  permitted : ∀ key entry, step.Removes key entry → step.Permits key entry

end TtlStep

structure TtlHistory where
  cache : TtlCache
  log : List TtlStep

namespace TtlHistory

def init (defaultTtlMs : Option UInt64) (maxEntries : Option Nat) : TtlHistory where
  cache := .new defaultTtlMs maxEntries
  log := []

def step (s : TtlHistory) (call : TtlCall) : Option TtlHistory :=
  let after := s.cache.call call
  some { cache := after, log := s.log ++ [{ before := s.cache, call, after }] }

def AllSound (s : TtlHistory) : Prop :=
  ∀ step ∈ s.log, step.Sound

/-- If an entry is evicted, the first one of those created first is also closest to its expiry. -/
def EvictsClosest (s : TtlHistory) : TtlCall → Prop
  | .set clock _ key _ _ =>
    s.cache.maxEntries ≤ s.cache.entries.keys.length → key ∉ s.cache.entries.keys
      → TtlStep.NoneExpired s.cache clock
      → ∀ oldest ∈ TtlCache.oldest s.cache.entries.entries, ∀ other ∈ s.cache.entries.entries,
        oldest.2.expiresAt ≤ other.2.expiresAt
  | _ => True

end TtlHistory

namespace TtlEntry

variable {entry : TtlEntry} {now : UInt64}

theorem isExpired_iff : entry.isExpired now = true ↔ entry.expiresAt < now.toNat := by
  unfold isExpired expiresAt
  rw [decide_eq_true_iff, UInt64.lt_iff_toNat_lt, toNat_saturatingSub]
  omega

end TtlEntry

namespace TtlCache

variable {cache : TtlCache} {clock : Nat → UInt64} {key : String} {entry : TtlEntry}

theorem mem_expiredKeys_iff
    : key ∈ cache.expiredKeys clock
        ↔ ∃ i, ∃ entry : TtlEntry, cache.entries.entries[i]? = some (key, entry)
          ∧ entry.isExpired (clock i) = true := by
  unfold expiredKeys
  rw [List.mem_map]
  constructor
  . rintro ⟨⟨⟨key, entry⟩, i⟩, hmem, rfl⟩
    obtain ⟨hmem, hexpired⟩ := List.mem_filter.mp hmem
    exact ⟨i, entry, List.mk_mem_zipIdx_iff_getElem?.mp hmem, hexpired⟩
  . rintro ⟨i, entry, hi, hexpired⟩
    exact ⟨((key, entry), i),
      List.mem_filter.mpr ⟨List.mk_mem_zipIdx_iff_getElem?.mpr hi, hexpired⟩, rfl⟩

theorem expiredKeys_eq_nil_iff
    : cache.expiredKeys clock = [] ↔ TtlStep.NoneExpired cache clock := by
  rw [List.eq_nil_iff_forall_not_mem]
  constructor
  . rintro h i ⟨key, entry⟩ hi
    refine Bool.eq_false_iff.mpr fun hexpired => ?_
    exact h key (mem_expiredKeys_iff.mpr ⟨i, entry, hi, hexpired⟩)
  . intro h key hmem
    obtain ⟨i, entry, hi, hexpired⟩ := mem_expiredKeys_iff.mp hmem
    rw [h i _ hi] at hexpired
    cases hexpired

theorem foundExpired_of_mem {call : TtlCall} {after : TtlCache}
    (hmem : key ∈ cache.expiredKeys clock) (hget : cache.entries.get key = some entry)
    : TtlStep.FoundExpired { before := cache, call, after } clock key entry := by
  obtain ⟨i, entry', hi, hexpired⟩ := mem_expiredKeys_iff.mp hmem
  have hget' := IndexMap.get_eq_some_iff.mpr (List.mem_of_getElem? hi)
  cases hget.symm.trans hget'
  exact ⟨i, hi, hexpired⟩

theorem mem_of_oldest {entries : List (String × TtlEntry)} {best : String × TtlEntry}
    (h : oldest entries = some best)
    : best ∈ entries := by
  have hfold (rest : List (String × TtlEntry)) (first : String × TtlEntry)
      : rest.foldl (fun best entry => if entry.2.createdAtMs < best.2.createdAtMs then entry else best)
          first ∈ first :: rest := by
    induction rest generalizing first with
    | nil => exact List.mem_singleton_self first
    | cons entry rest ih =>
      rw [List.foldl_cons]
      rcases List.mem_cons.mp (ih (if entry.2.createdAtMs < first.2.createdAtMs then entry else first))
        with heq | hmem
      . rw [heq]
        split
        . exact List.mem_cons_of_mem _ List.mem_cons_self
        . exact List.mem_cons_self
      . exact List.mem_cons_of_mem _ (List.mem_cons_of_mem _ hmem)
  cases entries with
  | nil => cases h
  | cons first rest =>
    cases h
    exact hfold rest first

theorem get_insert_eq_none {map : IndexMap String TtlEntry} {other : String}
    (h : (map.insert key entry).get other = none)
    : other ≠ key ∧ map.get other = none := by
  rw [IndexMap.get_insert_eq] at h
  split at h
  . cases h
  . next hother => exact ⟨hother, h⟩

theorem keys_length_insert_le (map : IndexMap String TtlEntry) (key : String) (entry : TtlEntry)
    : (map.insert key entry).keys.length ≤ map.keys.length + 1 := by
  rw [IndexMap.keys_insert]
  split
  . exact Nat.le_succ _
  . rw [List.length_append, List.length_singleton]

theorem keys_length_shiftRemove (map : IndexMap String TtlEntry) {key : String} (h : key ∈ map.keys)
    : (map.shiftRemove key).keys.length + 1 = map.keys.length := by
  have herase : map.keys.filter (fun other => decide (other ≠ key)) = map.keys.erase key := by
    have hnodup : map.keys.Nodup := map.nodup
    rw [hnodup.erase_eq_filter]
    refine List.filter_congr fun other _ => ?_
    rw [Bool.eq_iff_iff, decide_eq_true_iff, bne_iff_ne]
  rw [IndexMap.keys_shiftRemove, herase, List.length_erase_of_mem h]
  have := List.length_pos_of_mem h
  omega

theorem keys_length_shiftRemove_le (map : IndexMap String TtlEntry) (key : String)
    : (map.shiftRemove key).keys.length ≤ map.keys.length := by
  rw [IndexMap.keys_shiftRemove]
  exact List.length_filter_le ..

theorem keys_length_foldl_shiftRemove_le (keys : List String) (map : IndexMap String TtlEntry)
    : (keys.foldl IndexMap.shiftRemove map).keys.length ≤ map.keys.length := by
  induction keys generalizing map with
  | nil => exact Nat.le_refl _
  | cons key keys ih => exact (ih _).trans (keys_length_shiftRemove_le map key)

variable {now : UInt64} {value : Value} {ttlMs : Option UInt64}

theorem makeRoom_of_expired {first : String} {rest : List String}
    (h : (cache.expiredKeys clock).take 10 = first :: rest)
    : (cache.makeRoom clock).entries = (first :: rest).foldl IndexMap.shiftRemove cache.entries
        ∧ (cache.makeRoom clock).maxEntries = cache.maxEntries := by
  unfold makeRoom
  rw [h]
  exact ⟨rfl, rfl⟩

theorem makeRoom_of_noneExpired {best : String × TtlEntry}
    (h : TtlStep.NoneExpired cache clock) (hbest : oldest cache.entries.entries = some best)
    : (cache.makeRoom clock).entries = cache.entries.shiftRemove best.1
        ∧ (cache.makeRoom clock).maxEntries = cache.maxEntries := by
  unfold makeRoom
  rw [expiredKeys_eq_nil_iff.mpr h, List.take_nil, hbest]
  exact ⟨rfl, rfl⟩

theorem sound_set_of_room (hbounded : cache.entries.keys.length ≤ cache.maxEntries)
    (hroom : ¬(cache.maxEntries ≤ cache.entries.keys.length ∧ key ∉ cache.entries.keys))
    : TtlStep.Sound {
        before := cache
        call := .set clock now key value ttlMs
        after := cache.set clock now key value ttlMs } := by
  have hset : (cache.set clock now key value ttlMs).maxEntries = cache.maxEntries
      ∧ ∃ entry, (cache.set clock now key value ttlMs).entries = cache.entries.insert key entry := by
    unfold set
    rw [if_neg hroom]
    exact ⟨rfl, _, rfl⟩
  obtain ⟨hmax, entry, hentries⟩ := hset
  constructor
  . dsimp only
    rw [hmax, hentries, IndexMap.keys_insert]
    split
    . exact hbounded
    . next hnew =>
      have : ¬cache.maxEntries ≤ cache.entries.keys.length := fun hle => hroom ⟨hle, hnew⟩
      rw [List.length_append, List.length_singleton]
      omega
  . rintro other entry' ⟨hbefore, hafter⟩
    dsimp only at hbefore hafter
    rw [hentries] at hafter
    rw [(get_insert_eq_none hafter).2] at hbefore
    cases hbefore

theorem sound_set_of_expired (hbounded : cache.entries.keys.length ≤ cache.maxEntries)
    (hfull : cache.maxEntries ≤ cache.entries.keys.length ∧ key ∉ cache.entries.keys)
    (hexpired : ¬TtlStep.NoneExpired cache clock)
    : TtlStep.Sound {
        before := cache
        call := .set clock now key value ttlMs
        after := cache.set clock now key value ttlMs } := by
  obtain ⟨first, rest, hkeys⟩ : ∃ first rest, (cache.expiredKeys clock).take 10 = first :: rest := by
    cases hcases : cache.expiredKeys clock with
    | nil => exact absurd (expiredKeys_eq_nil_iff.mp hcases) hexpired
    | cons first rest => exact ⟨first, rest.take 9, rfl⟩
  have hmem {other : String} (h : other ∈ first :: rest) : other ∈ cache.expiredKeys clock := by
    rw [← hkeys] at h
    exact List.mem_of_mem_take h
  obtain ⟨hroom, hroomMax⟩ := makeRoom_of_expired hkeys
  have hset : (cache.set clock now key value ttlMs).maxEntries = cache.maxEntries
      ∧ ∃ entry, (cache.set clock now key value ttlMs).entries
        = ((first :: rest).foldl IndexMap.shiftRemove cache.entries).insert key entry := by
    unfold set
    rw [if_pos hfull, ← hroom]
    exact ⟨hroomMax, _, rfl⟩
  obtain ⟨hmax, entry, hentries⟩ := hset
  constructor
  . obtain ⟨i, entry', hi, -⟩ := mem_expiredKeys_iff.mp (hmem List.mem_cons_self)
    have hfirst : first ∈ cache.entries.keys :=
      List.mem_map.mpr ⟨_, List.mem_of_getElem? hi, rfl⟩
    have hone := keys_length_shiftRemove cache.entries hfirst
    have hrest := keys_length_foldl_shiftRemove_le rest (cache.entries.shiftRemove first)
    have hinsert := keys_length_insert_le
      ((first :: rest).foldl IndexMap.shiftRemove cache.entries) key entry
    dsimp only
    rw [hmax, hentries]
    rw [List.foldl_cons] at hinsert ⊢
    omega
  . rintro other entry' ⟨hbefore, hafter⟩
    dsimp only at hbefore hafter
    rw [hentries] at hafter
    have hgone := (get_insert_eq_none hafter).2
    rw [IndexMap.get_foldl_shiftRemove] at hgone
    by_cases hother : other ∈ first :: rest
    . exact ⟨hfull.1, hfull.2, .inl (foundExpired_of_mem (hmem hother) hbefore)⟩
    . rw [if_neg hother, hbefore] at hgone
      cases hgone

theorem set_of_noneExpired (hpositive : 1 ≤ cache.maxEntries)
    (hfull : cache.maxEntries ≤ cache.entries.keys.length ∧ key ∉ cache.entries.keys)
    (hnone : TtlStep.NoneExpired cache clock)
    : ∃ best entry, oldest cache.entries.entries = some best
        ∧ (cache.set clock now key value ttlMs).maxEntries = cache.maxEntries
        ∧ (cache.set clock now key value ttlMs).entries
          = (cache.entries.shiftRemove best.1).insert key entry := by
  obtain ⟨best, hbest⟩ : ∃ best, oldest cache.entries.entries = some best := by
    cases hcases : cache.entries.entries with
    | nil =>
      have hempty : cache.entries.keys.length = 0 := by
        rw [IndexMap.keys, hcases]
        rfl
      omega
    | cons first rest => exact ⟨_, rfl⟩
  obtain ⟨hroom, hroomMax⟩ := makeRoom_of_noneExpired hnone hbest
  have hset : (cache.set clock now key value ttlMs).maxEntries = cache.maxEntries
      ∧ ∃ entry, (cache.set clock now key value ttlMs).entries
        = (cache.entries.shiftRemove best.1).insert key entry := by
    unfold set
    rw [if_pos hfull, ← hroom]
    exact ⟨hroomMax, _, rfl⟩
  obtain ⟨hmax, entry, hentries⟩ := hset
  exact ⟨best, entry, hbest, hmax, hentries⟩

theorem bounded_set_of_noneExpired (hpositive : 1 ≤ cache.maxEntries)
    (hbounded : cache.entries.keys.length ≤ cache.maxEntries)
    (hfull : cache.maxEntries ≤ cache.entries.keys.length ∧ key ∉ cache.entries.keys)
    (hnone : TtlStep.NoneExpired cache clock)
    : (cache.set clock now key value ttlMs).entries.keys.length ≤ cache.maxEntries := by
  obtain ⟨best, entry, hbest, -, hentries⟩ :=
    @set_of_noneExpired cache clock key now value ttlMs hpositive hfull hnone
  have hkey : best.1 ∈ cache.entries.keys := List.mem_map.mpr ⟨best, mem_of_oldest hbest, rfl⟩
  have hone := keys_length_shiftRemove cache.entries hkey
  have hinsert := keys_length_insert_le (cache.entries.shiftRemove best.1) key entry
  rw [hentries]
  omega

theorem sound_set_iff_of_noneExpired (hpositive : 1 ≤ cache.maxEntries)
    (hbounded : cache.entries.keys.length ≤ cache.maxEntries)
    (hfull : cache.maxEntries ≤ cache.entries.keys.length ∧ key ∉ cache.entries.keys)
    (hnone : TtlStep.NoneExpired cache clock)
    : TtlStep.Sound {
          before := cache
          call := .set clock now key value ttlMs
          after := cache.set clock now key value ttlMs }
        ↔ ∀ best ∈ oldest cache.entries.entries, ∀ other ∈ cache.entries.entries,
          best.2.expiresAt ≤ other.2.expiresAt := by
  obtain ⟨best, entry, hbest, hmax, hentries⟩ :=
    @set_of_noneExpired cache clock key now value ttlMs hpositive hfull hnone
  have hget : cache.entries.get best.1 = some best.2 :=
    IndexMap.get_eq_some_iff.mpr (mem_of_oldest hbest)
  have hremoved (other : String) (entry' : TtlEntry) (hbefore : cache.entries.get other = some entry')
      : (cache.set clock now key value ttlMs).entries.get other = none ↔ other = best.1 := by
    have hne : other ≠ key := by
      rintro rfl
      exact hfull.2 (IndexMap.mem_keys_iff.mpr ⟨entry', hbefore⟩)
    rw [hentries, IndexMap.get_insert_eq, if_neg hne, IndexMap.get_shiftRemove_eq]
    split
    . next hother => exact iff_of_true rfl hother
    . next hother =>
      rw [hbefore]
      exact iff_of_false (Option.some_ne_none entry') hother
  constructor
  . intro hsound best' hbest' other hother
    cases hbest.symm.trans hbest'
    rcases (hsound.permitted best.1 best.2 ⟨hget, (hremoved _ _ hget).mpr rfl⟩).2.2 with
      ⟨i, hi, hexpired⟩ | ⟨-, hclosest, -⟩
    . rw [hnone i _ hi] at hexpired
      cases hexpired
    . exact hclosest other hother
  . intro hclosest
    constructor
    . dsimp only
      rw [hmax]
      exact bounded_set_of_noneExpired hpositive hbounded hfull hnone
    . rintro other entry' ⟨hbefore, hafter⟩
      obtain rfl := (hremoved other entry' hbefore).mp hafter
      cases hget.symm.trans hbefore
      refine ⟨hfull.1, hfull.2, .inr ⟨hnone, hclosest best hbest, ?_⟩⟩
      rintro other' entry'' ⟨hbefore', hafter'⟩
      exact (hremoved other' entry'' hbefore').mp hafter'

theorem sound_get (hbounded : cache.entries.keys.length ≤ cache.maxEntries)
    (now accessedAtMs : UInt64) (key : String)
    : TtlStep.Sound {
        before := cache
        call := .get now accessedAtMs key
        after := (cache.get now accessedAtMs key).2 } := by
  cases hget : cache.entries.get key with
  | none =>
    have hafter : (cache.get now accessedAtMs key).2.entries = cache.entries
        ∧ (cache.get now accessedAtMs key).2.maxEntries = cache.maxEntries := by
      unfold get
      rw [hget]
      exact ⟨rfl, rfl⟩
    refine ⟨by rw [hafter.1, hafter.2]; exact hbounded, ?_⟩
    rintro other entry ⟨hbefore, hgone⟩
    rw [hafter.1] at hgone
    cases hbefore.symm.trans hgone
  | some entry =>
    by_cases hexpired : entry.isExpired now = true
    . have hafter : (cache.get now accessedAtMs key).2.entries = cache.entries.shiftRemove key
          ∧ (cache.get now accessedAtMs key).2.maxEntries = cache.maxEntries := by
        unfold get
        rw [hget]
        dsimp only
        rw [if_pos hexpired]
        exact ⟨rfl, rfl⟩
      constructor
      . rw [hafter.1, hafter.2]
        exact (keys_length_shiftRemove_le cache.entries key).trans hbounded
      . rintro other entry' ⟨hbefore, hgone⟩
        rw [hafter.1, IndexMap.get_shiftRemove_eq] at hgone
        split at hgone
        . next hother =>
          subst hother
          cases hget.symm.trans hbefore
          exact ⟨rfl, hexpired⟩
        . cases hbefore.symm.trans hgone
    . have hafter : (cache.get now accessedAtMs key).2.maxEntries = cache.maxEntries
          ∧ ∃ entry', (cache.get now accessedAtMs key).2.entries = cache.entries.insert key entry' := by
        unfold get
        rw [hget]
        dsimp only
        rw [if_neg hexpired]
        exact ⟨rfl, _, rfl⟩
      obtain ⟨hmax, entry', hentries⟩ := hafter
      constructor
      . rw [hmax, hentries, IndexMap.keys_insert, if_pos (IndexMap.mem_keys_iff.mpr ⟨entry, hget⟩)]
        exact hbounded
      . rintro other entry'' ⟨hbefore, hgone⟩
        rw [hentries] at hgone
        cases hbefore.symm.trans (get_insert_eq_none hgone).2

theorem sound_delete (hbounded : cache.entries.keys.length ≤ cache.maxEntries) (key : String)
    : TtlStep.Sound { before := cache, call := .delete key, after := cache.delete key } := by
  refine ⟨(keys_length_shiftRemove_le cache.entries key).trans hbounded, ?_⟩
  rintro other entry ⟨hbefore, hgone⟩
  dsimp only [delete] at hgone
  rw [IndexMap.get_shiftRemove_eq] at hgone
  split at hgone
  . next hother => exact hother
  . cases hbefore.symm.trans hgone

theorem sound_cleanupExpired (hbounded : cache.entries.keys.length ≤ cache.maxEntries)
    (clock : Nat → UInt64)
    : TtlStep.Sound {
        before := cache
        call := .cleanupExpired clock
        after := cache.cleanupExpired clock } := by
  refine ⟨(keys_length_foldl_shiftRemove_le _ cache.entries).trans hbounded, ?_⟩
  rintro other entry ⟨hbefore, hgone⟩
  dsimp only [cleanupExpired] at hgone
  rw [IndexMap.get_foldl_shiftRemove] at hgone
  split at hgone
  . next hother => exact foundExpired_of_mem hother hbefore
  . cases hbefore.symm.trans hgone

theorem sound_call_iff (hpositive : 1 ≤ cache.maxEntries)
    (hbounded : cache.entries.keys.length ≤ cache.maxEntries) (log : List TtlStep) (call : TtlCall)
    : TtlStep.Sound { before := cache, call, after := cache.call call }
        ↔ TtlHistory.EvictsClosest { cache, log } call := by
  cases call with
  | get now accessedAtMs key => exact iff_of_true (sound_get hbounded now accessedAtMs key) trivial
  | set clock now key value ttlMs =>
    by_cases hfull : cache.maxEntries ≤ cache.entries.keys.length ∧ key ∉ cache.entries.keys
    . by_cases hnone : TtlStep.NoneExpired cache clock
      . rw [show cache.call (.set clock now key value ttlMs) = cache.set clock now key value ttlMs from rfl,
          sound_set_iff_of_noneExpired hpositive hbounded hfull hnone]
        exact ⟨fun h _ _ _ => h, fun h => h hfull.1 hfull.2 hnone⟩
      . exact iff_of_true (sound_set_of_expired hbounded hfull hnone)
          (fun _ _ h => absurd h hnone)
    . exact iff_of_true (sound_set_of_room hbounded hfull)
        (fun hle hnew => absurd ⟨hle, hnew⟩ hfull)
  | delete key => exact iff_of_true (sound_delete hbounded key) trivial
  | has now key =>
    refine iff_of_true ⟨hbounded, ?_⟩ trivial
    rintro other entry ⟨hbefore, hgone⟩
    cases hbefore.symm.trans hgone
  | cleanupExpired clock => exact iff_of_true (sound_cleanupExpired hbounded clock) trivial
  | clear => exact iff_of_true ⟨Nat.zero_le _, fun _ _ _ => trivial⟩ trivial

theorem maxEntries_makeRoom (clock : Nat → UInt64)
    : (cache.makeRoom clock).maxEntries = cache.maxEntries := by
  unfold makeRoom
  dsimp only
  split
  . rfl
  . split
    . rfl
    . rfl

theorem maxEntries_call (call : TtlCall) : (cache.call call).maxEntries = cache.maxEntries := by
  cases call with
  | get now accessedAtMs key =>
    change (cache.get now accessedAtMs key).2.maxEntries = cache.maxEntries
    unfold get
    split
    . rfl
    . split
      . rfl
      . rfl
  | set clock now key value ttlMs =>
    change (if _ then _ else _ : TtlCache).maxEntries = cache.maxEntries
    split
    . exact maxEntries_makeRoom clock
    . rfl
  | delete key => rfl
  | has now key => rfl
  | cleanupExpired clock => rfl
  | clear => rfl

theorem bounded_call (hpositive : 1 ≤ cache.maxEntries)
    (hbounded : cache.entries.keys.length ≤ cache.maxEntries) (call : TtlCall)
    : (cache.call call).entries.keys.length ≤ cache.maxEntries := by
  by_cases hguard : TtlHistory.EvictsClosest { cache, log := [] } call
  . have hsound := ((sound_call_iff hpositive hbounded [] call).mpr hguard).bounded
    rwa [maxEntries_call] at hsound
  . cases call with
    | set clock now key value ttlMs =>
      unfold TtlHistory.EvictsClosest at hguard
      simp only [Classical.not_imp] at hguard
      obtain ⟨hle, hnew, hnone, -⟩ := hguard
      exact bounded_set_of_noneExpired hpositive hbounded ⟨hle, hnew⟩ hnone
    | _ => exact absurd trivial hguard

end TtlCache

namespace TtlHistory

variable {s s' : TtlHistory}

def Bounded (s : TtlHistory) : Prop :=
  1 ≤ s.cache.maxEntries ∧ s.cache.entries.keys.length ≤ s.cache.maxEntries

theorem step_allSound_iff {call : TtlCall} (h : s.Bounded) (hsound : s.AllSound)
    (hstep : s.step call = some s')
    : s'.Bounded ∧ (s'.AllSound ↔ s.EvictsClosest call) := by
  cases hstep
  have hcall := TtlCache.sound_call_iff h.1 h.2 s.log call
  refine ⟨⟨?_, ?_⟩, ?_⟩
  . dsimp only
    rw [TtlCache.maxEntries_call]
    exact h.1
  . dsimp only
    rw [TtlCache.maxEntries_call]
    exact TtlCache.bounded_call h.1 h.2 call
  . unfold AllSound
    rw [List.forall_mem_append, List.forall_mem_singleton, hcall]
    exact and_iff_right hsound

/--
What is removed is what the calls may remove throughout exactly those runs in which the entry that is
evicted is the one closest to its expiry.
-/
theorem always_allSound_iff (defaultTtlMs : Option UInt64) (capacity : Nat) (hcapacity : 1 ≤ capacity)
    (calls : List TtlCall)
    : Runs.Always step AllSound (init defaultTtlMs (some capacity)) calls
        ↔ Runs.Guarded step EvictsClosest (init defaultTtlMs (some capacity)) calls := by
  refine Runs.always_iff_guarded Bounded (fun _ => True) ?_ ⟨hcapacity, Nat.zero_le _⟩ ?_
    (fun _ _ => trivial)
  . intro s call s' hbounded _ hsound hstep
    exact step_allSound_iff hbounded hsound hstep
  . exact List.forall_mem_nil _

/-- Of two entries the one that expires first makes room for a third one, and the other one expires. -/
def threeSets : List TtlCall :=
  [.set (fun _ => 0) 0 "a" .null (some 10), .set (fun _ => 1) 1 "b" .null (some 1000),
    .set (fun _ => 2) 2 "c" .null none, .set (fun _ => 2000) 2000 "d" .null none]

theorem always_allSound_iff_threeSets
    : Runs.Always step AllSound (init none (some 2)) threeSets
        ↔ Runs.Guarded step EvictsClosest (init none (some 2)) threeSets :=
  always_allSound_iff none 2 (by decide) _

/-- The older entry with the longer lifetime is evicted, although the other one expires first. -/
theorem longLifetime_not_allSound
    : ¬∀ (defaultTtlMs : Option UInt64) (capacity : Nat), 1 ≤ capacity
        → ∀ calls, Runs.Always step AllSound (init defaultTtlMs (some capacity)) calls := by
  intro h
  have hall := h none 2 (by decide) [
    .set (fun _ => 0) 0 "a" .null (some 1000),
    .set (fun _ => 1) 1 "b" .null (some 10),
    .set (fun _ => 2) 2 "c" .null none]
  have hsound := (hall.run_eq_some rfl) _ (List.mem_of_getElem? (i := 2) rfl)
  have hpermitted := hsound.permitted "a" _ ⟨rfl, rfl⟩
  rcases hpermitted.2.2 with ⟨i, hi, hexpired⟩ | ⟨-, hclosest, -⟩
  . exact absurd (show TtlEntry.isExpired _ 2 = true from hexpired) (by decide)
  . exact absurd (hclosest _ (List.mem_of_getElem? (i := 1) rfl)) (by decide)

theorem run_getOrComputeWithTtl (s : TtlHistory) (now accessedAtMs : UInt64) (clock : Nat → UInt64)
    (createdAtMs : UInt64) (key : String) (ttlMs : Option UInt64) (computed : Value)
    : ∃ calls, (Runs.run step s calls).map TtlHistory.cache
        = some (s.cache.getOrComputeWithTtl now accessedAtMs clock createdAtMs key ttlMs computed).2 := by
  unfold TtlCache.getOrComputeWithTtl
  cases hget : s.cache.get now accessedAtMs key with
  | mk value cache =>
    have hcache : (s.cache.get now accessedAtMs key).2 = cache := by
      rw [hget]
    cases value with
    | some value => exact ⟨[.get now accessedAtMs key], congrArg some hcache⟩
    | none =>
      refine ⟨[.get now accessedAtMs key, .set clock createdAtMs key computed ttlMs], ?_⟩
      rw [← hcache]
      rfl

end TtlHistory

end AnimaAgent
