import Mathlib.Data.List.DropRight
import AnimaAgent.Context.Storage
import AnimaAgent.Library.RecencyMap

namespace AnimaAgent

inductive MemoryCall (ν : Type) where
  | getEntry (now accessedAt : UInt64) (key : String)
  | setEntry (now : UInt64) (key : String) (value : ν) (ttlMs : Option UInt64)
  | deleteEntry (key : String)
  | clear

variable {ν : Type}

namespace MemoryCall

def uses (key : String) : MemoryCall ν → Bool
  | .getEntry _ _ other | .setEntry _ other _ _ => decide (other = key)
  | .deleteEntry _ | .clear => false

/-- The number of calls up to the last use of the key. While there is an entry, every use finds it. -/
def lastUse (calls : List (MemoryCall ν)) (key : String) : Nat :=
  (calls.rdropWhile (fun call => !call.uses key)).length

theorem lastUse_append (calls : List (MemoryCall ν)) (call : MemoryCall ν) (key : String)
    : lastUse (calls ++ [call]) key
        = if call.uses key then calls.length + 1 else lastUse calls key := by
  unfold lastUse
  rw [List.rdropWhile_concat]
  cases call.uses key with
  | true => exact List.length_append ..
  | false => rfl

theorem lastUse_le_length (calls : List (MemoryCall ν)) (key : String)
    : lastUse calls key ≤ calls.length := by
  exact (List.rdropWhile_prefix _ _).length_le

end MemoryCall

namespace MemoryStorage

open MemoryCall (lastUse lastUse_append lastUse_le_length)

def call (l1 : MemoryStorage ν) : MemoryCall ν → MemoryStorage ν
  | .getEntry now accessedAt key => (l1.getEntry now accessedAt key).2
  | .setEntry now key value ttlMs => l1.setEntry now key value ttlMs
  | .deleteEntry key => (l1.deleteEntry key).2
  | .clear => l1.clear

def calls (l1 : MemoryStorage ν) (calls : List (MemoryCall ν)) : MemoryStorage ν :=
  calls.foldl call l1

structure OrdersKeys (l1 : MemoryStorage ν) (calls : List (MemoryCall ν)) : Prop where
  perm : l1.lruOrder.Perm l1.entries.keys
  ordered : l1.lruOrder.Pairwise (fun a b => lastUse calls a < lastUse calls b)

/-- A new key finds room, or it takes the place of the key that was not used for the longest time. -/
def EvictsLeastRecent (l1 : MemoryStorage ν) (calls : List (MemoryCall ν)) : Prop :=
  ∀ now key value ttlMs, key ∉ l1.entries.keys →
    let after := l1.setEntry now key value ttlMs
    (l1.entries.keys.length < l1.maxEntries ∧ after.entries.keys = l1.entries.keys ++ [key])
      ∨ ∃ victim ∈ l1.entries.keys, l1.entries.keys.length = l1.maxEntries
        ∧ after.entries.keys
          = l1.entries.keys.filter (fun other => decide (other ≠ victim)) ++ [key]
        ∧ ∀ other ∈ l1.entries.keys, other ≠ victim → lastUse calls victim < lastUse calls other

variable {l1 : MemoryStorage ν} {calls : List (MemoryCall ν)}

theorem OrdersKeys.nodup (h : l1.OrdersKeys calls) : l1.lruOrder.Nodup := by
  exact h.perm.nodup_iff.mpr l1.entries.nodup

theorem OrdersKeys.remove (h : l1.OrdersKeys calls) (key : String)
    : ({ l1 with
        entries := l1.entries.shiftRemove key
        lruOrder := l1.lruOrder.filter (fun k => k != key) } : MemoryStorage ν).OrdersKeys calls where
  perm := by
    have hfilter : l1.entries.keys.filter (fun k => k != key) = (l1.entries.shiftRemove key).keys := by
      rw [IndexMap.keys_shiftRemove]
      apply List.filter_congr
      intro k _
      rw [Bool.eq_iff_iff, bne_iff_ne, decide_eq_true_iff]
    exact hfilter ▸ h.perm.filter _
  ordered := h.ordered.filter _

theorem OrdersKeys.append (h : l1.OrdersKeys calls) {call : MemoryCall ν}
    (hunused : ∀ key ∈ l1.entries.keys, call.uses key = false)
    : l1.OrdersKeys (calls ++ [call]) where
  perm := h.perm
  ordered := by
    refine h.ordered.imp_of_mem ?_
    intro a b ha hb hlt
    rw [lastUse_append, lastUse_append, hunused a (h.perm.mem_iff.mp ha),
      hunused b (h.perm.mem_iff.mp hb)]
    exact hlt

theorem OrdersKeys.touch (h : l1.OrdersKeys calls) {key : String} {call : MemoryCall ν}
    (huses : ∀ other, call.uses other = decide (key = other)) (entry : ContextEntry ν)
    : (touchLru { l1 with entries := l1.entries.insert key entry } key).OrdersKeys
        (calls ++ [call]) where
  perm := by
    have hkeys := IndexMap.filter_append_perm_keys_insert l1.entries key entry
    exact ((h.perm.filter _).append_right [key]).trans hkeys
  ordered := by
    refine RecencyMap.pairwise_append_latest ?_ (lastUse_le_length calls) h.ordered
    intro other
    rw [lastUse_append, huses]
    exact if_congr (decide_eq_true_iff.trans eq_comm) rfl rfl

theorem ordersKeys_new (maxEntries : Option Nat) : (new maxEntries : MemoryStorage ν).OrdersKeys [] where
  perm := .nil
  ordered := .nil

theorem not_mem_keys_remove (key : String) : key ∉ (l1.entries.shiftRemove key).keys := by
  rw [IndexMap.keys_shiftRemove, List.mem_filter]
  exact fun h => of_decide_eq_true h.2 rfl

theorem getEntry_cases (l1 : MemoryStorage ν) (now accessedAt : UInt64) (key : String)
    : (key ∉ l1.entries.keys ∧ (l1.getEntry now accessedAt key).2 = l1)
      ∨ (l1.getEntry now accessedAt key).2 = { l1 with
        entries := l1.entries.shiftRemove key
        lruOrder := l1.lruOrder.filter (fun k => k != key) }
      ∨ (key ∈ l1.entries.keys ∧ ∃ entry, (l1.getEntry now accessedAt key).2
        = touchLru { l1 with entries := l1.entries.insert key entry } key) := by
  unfold getEntry
  cases hentry : l1.entries.get key with
  | none => exact .inl ⟨IndexMap.get_eq_none_iff.mp hentry, rfl⟩
  | some entry =>
    dsimp only
    split
    . exact .inr (.inl rfl)
    . exact .inr (.inr ⟨IndexMap.mem_keys_iff.mpr ⟨entry, hentry⟩, _, rfl⟩)

theorem OrdersKeys.getEntry (h : l1.OrdersKeys calls) (now accessedAt : UInt64) (key : String)
    : (l1.getEntry now accessedAt key).2.OrdersKeys
        (calls ++ [.getEntry now accessedAt key]) := by
  have hothers : ∀ keys : List String, key ∉ keys → ∀ other ∈ keys,
      (MemoryCall.getEntry now accessedAt key : MemoryCall ν).uses other = false := by
    intro keys hnot other hmem
    exact decide_eq_false (fun heq => hnot (heq ▸ hmem))
  obtain ⟨hnot, hsame⟩ | hremoved | ⟨-, entry, hwritten⟩ := l1.getEntry_cases now accessedAt key
  . rw [hsame]
    exact h.append (hothers _ hnot)
  . rw [hremoved]
    exact (h.remove key).append (hothers _ (not_mem_keys_remove key))
  . rw [hwritten]
    exact h.touch (fun _ => rfl) entry

theorem OrdersKeys.evictLru (h : l1.OrdersKeys calls) (hfull : 1 ≤ l1.entries.keys.length)
    : ∃ victim ∈ l1.entries.keys,
        l1.evictLru = { l1 with
          entries := l1.entries.shiftRemove victim
          lruOrder := l1.lruOrder.filter (fun k => k != victim) }
        ∧ ∀ other ∈ l1.entries.keys, other ≠ victim → lastUse calls victim < lastUse calls other := by
  have hnodup := h.nodup
  have hordered := h.ordered
  unfold MemoryStorage.evictLru
  cases horder : l1.lruOrder with
  | nil =>
    rw [← h.perm.length_eq, horder] at hfull
    exact absurd hfull (Nat.not_succ_le_zero 0)
  | cons victim rest =>
    rw [horder, List.nodup_cons] at hnodup
    rw [horder, List.pairwise_cons] at hordered
    have hmem : ∀ key, key ∈ l1.entries.keys ↔ key = victim ∨ key ∈ rest := by
      intro key
      rw [← h.perm.mem_iff, horder, List.mem_cons]
    have hrest : (victim :: rest).filter (fun k => k != victim) = rest := by
      rw [List.filter_cons_of_neg (by simp), List.filter_eq_self]
      exact fun other hother => bne_iff_ne.mpr (fun heq => hnodup.1 (heq ▸ hother))
    refine ⟨victim, (hmem victim).mpr (.inl rfl), ?_, ?_⟩
    . rw [hrest]
    . intro other hother hne
      exact hordered.1 other (((hmem other).mp hother).resolve_left hne)

theorem OrdersKeys.setEntry_cases (h : l1.OrdersKeys calls)
    (hsize : l1.entries.keys.length ≤ l1.maxEntries) (hmax : 1 ≤ l1.maxEntries) (now : UInt64)
    (key : String) (value : ν) (ttlMs : Option UInt64)
    : ∃ entry,
        ((key ∈ l1.entries.keys ∨ l1.entries.keys.length < l1.maxEntries)
          ∧ l1.setEntry now key value ttlMs
            = touchLru { l1 with entries := l1.entries.insert key entry } key)
        ∨ (key ∉ l1.entries.keys ∧ l1.entries.keys.length = l1.maxEntries
          ∧ ∃ victim ∈ l1.entries.keys,
            l1.setEntry now key value ttlMs = touchLru { l1 with
              entries := (l1.entries.shiftRemove victim).insert key entry
              lruOrder := l1.lruOrder.filter (fun k => k != victim) } key
            ∧ ∀ other ∈ l1.entries.keys, other ≠ victim
              → lastUse calls victim < lastUse calls other) := by
  unfold MemoryStorage.setEntry
  dsimp only
  by_cases hroom : l1.maxEntries ≤ l1.entries.keys.length ∧ key ∉ l1.entries.keys
  . obtain ⟨hfull, hnew⟩ := hroom
    obtain ⟨victim, hvictim, hevict, hleast⟩ := h.evictLru (Nat.le_trans hmax hfull)
    rw [if_pos ⟨hfull, hnew⟩, hevict]
    exact ⟨_, .inr ⟨hnew, Nat.le_antisymm hsize hfull, victim, hvictim, rfl, hleast⟩⟩
  . rw [if_neg hroom]
    refine ⟨_, .inl ⟨?_, rfl⟩⟩
    rw [not_and_or, not_not, Nat.not_le] at hroom
    exact hroom.symm

theorem OrdersKeys.setEntry (h : l1.OrdersKeys calls)
    (hsize : l1.entries.keys.length ≤ l1.maxEntries) (hmax : 1 ≤ l1.maxEntries) (now : UInt64)
    (key : String) (value : ν) (ttlMs : Option UInt64)
    : (l1.setEntry now key value ttlMs).OrdersKeys (calls ++ [.setEntry now key value ttlMs]) := by
  obtain ⟨entry, ⟨-, hwritten⟩ | ⟨-, -, victim, -, hevicted, -⟩⟩ :=
    h.setEntry_cases hsize hmax now key value ttlMs
  . rw [hwritten]
    exact h.touch (fun _ => rfl) entry
  . rw [hevicted]
    exact (h.remove victim).touch (fun _ => rfl) entry

theorem OrdersKeys.evictsLeastRecent (h : l1.OrdersKeys calls)
    (hsize : l1.entries.keys.length ≤ l1.maxEntries) (hmax : 1 ≤ l1.maxEntries)
    : l1.EvictsLeastRecent calls := by
  intro now key value ttlMs hnew
  obtain ⟨entry, ⟨hroom, hwritten⟩ | ⟨-, hfull, victim, hvictim, hevicted, hleast⟩⟩ :=
    h.setEntry_cases hsize hmax now key value ttlMs
  . refine .inl ⟨hroom.resolve_left hnew, ?_⟩
    rw [hwritten]
    unfold touchLru
    dsimp only
    rw [IndexMap.keys_insert, if_neg hnew]
  . refine .inr ⟨victim, hvictim, hfull, ?_, hleast⟩
    rw [hevicted]
    unfold touchLru
    dsimp only
    rw [IndexMap.keys_insert, IndexMap.keys_shiftRemove,
      if_neg (fun hmem => hnew (List.mem_filter.mp hmem).1)]

theorem OrdersKeys.deleteEntry (h : l1.OrdersKeys calls) (key : String)
    : (l1.deleteEntry key).2.OrdersKeys (calls ++ [.deleteEntry key]) := by
  unfold MemoryStorage.deleteEntry
  split
  . exact (h.remove key).append (fun _ _ => rfl)
  . exact h.append (fun _ _ => rfl)

theorem ordersKeys_clear (calls : List (MemoryCall ν)) : l1.clear.OrdersKeys calls where
  perm := .nil
  ordered := .nil

structure Bounded (l1 : MemoryStorage ν) (bound : Nat) : Prop where
  maxEntries_eq : l1.maxEntries = bound
  size_le : l1.entries.keys.length ≤ bound

variable {bound : Nat}

theorem Bounded.remove (h : l1.Bounded bound) (key : String)
    : ({ l1 with
        entries := l1.entries.shiftRemove key
        lruOrder := l1.lruOrder.filter (fun k => k != key) } : MemoryStorage ν).Bounded bound where
  maxEntries_eq := h.maxEntries_eq
  size_le := by
    dsimp only
    rw [IndexMap.keys_shiftRemove]
    exact Nat.le_trans (List.length_filter_le ..) h.size_le

theorem Bounded.touch (h : l1.Bounded bound) {key : String}
    (hroom : key ∈ l1.entries.keys ∨ l1.entries.keys.length < bound) (entry : ContextEntry ν)
    : (touchLru { l1 with entries := l1.entries.insert key entry } key).Bounded bound where
  maxEntries_eq := h.maxEntries_eq
  size_le := by
    unfold touchLru
    dsimp only
    rw [IndexMap.keys_insert]
    split
    . exact h.size_le
    . next hnew =>
      rw [List.length_append]
      exact hroom.resolve_left hnew

theorem length_keys_shiftRemove_lt {key : String} (h : key ∈ l1.entries.keys)
    : (l1.entries.shiftRemove key).keys.length < l1.entries.keys.length := by
  rw [IndexMap.keys_shiftRemove]
  refine List.length_filter_lt_length_iff_exists.mpr ⟨key, h, ?_⟩
  simp

theorem Bounded.call (h : l1.Bounded bound) (hbound : 1 ≤ bound) (horders : l1.OrdersKeys calls)
    (call : MemoryCall ν)
    : (l1.call call).Bounded bound := by
  have hmax := h.maxEntries_eq
  cases call with
  | getEntry now accessedAt key =>
    unfold MemoryStorage.call
    dsimp only
    obtain ⟨-, hsame⟩ | hremoved | ⟨hmem, entry, hwritten⟩ := l1.getEntry_cases now accessedAt key
    . rw [hsame]
      exact h
    . rw [hremoved]
      exact h.remove key
    . rw [hwritten]
      exact h.touch (.inl hmem) entry
  | setEntry now key value ttlMs =>
    unfold MemoryStorage.call
    dsimp only
    obtain ⟨entry, ⟨hroom, hwritten⟩ | ⟨-, hfull, victim, hvictim, hevicted, -⟩⟩ :=
      horders.setEntry_cases (hmax ▸ h.size_le) (hmax ▸ hbound) now key value ttlMs
    . rw [hwritten]
      exact h.touch (hmax ▸ hroom) entry
    . rw [hevicted]
      refine (h.remove victim).touch (.inr ?_) entry
      rw [← hmax, ← hfull]
      exact length_keys_shiftRemove_lt hvictim
  | deleteEntry key =>
    unfold MemoryStorage.call MemoryStorage.deleteEntry
    dsimp only
    split
    . exact h.remove key
    . exact h
  | clear => exact ⟨hmax, Nat.zero_le bound⟩

theorem OrdersKeys.call (h : l1.OrdersKeys calls) (hbounded : l1.Bounded bound) (hbound : 1 ≤ bound)
    (call : MemoryCall ν)
    : (l1.call call).OrdersKeys (calls ++ [call]) := by
  have hmax := hbounded.maxEntries_eq
  cases call with
  | getEntry now accessedAt key => exact h.getEntry now accessedAt key
  | setEntry now key value ttlMs =>
    exact h.setEntry (hmax ▸ hbounded.size_le) (hmax ▸ hbound) now key value ttlMs
  | deleteEntry key => exact h.deleteEntry key
  | clear => exact ordersKeys_clear _

theorem calls_spec (maxEntries : Option Nat) (hmax : 1 ≤ maxEntries.getD 10000)
    (calls : List (MemoryCall ν))
    : ((new maxEntries).calls calls).OrdersKeys calls
        ∧ ((new maxEntries).calls calls).Bounded (maxEntries.getD 10000) := by
  induction calls using List.reverseRecOn with
  | nil => exact ⟨ordersKeys_new maxEntries, ⟨rfl, Nat.zero_le _⟩⟩
  | append_singleton calls call ih =>
    obtain ⟨horders, hbounded⟩ := ih
    have hcalls : (new maxEntries).calls (calls ++ [call]) = ((new maxEntries).calls calls).call call :=
      List.foldl_concat ..
    rw [hcalls]
    exact ⟨horders.call hbounded hmax call, hbounded.call hmax horders call⟩

/--
After all calls, `lruOrder` lists the keys of the entries once each, in the order of their last use, and
there are at most `maxEntries` of them. A new key evicts the one that was not used for the longest time.
-/
theorem calls_evictLeastRecent (maxEntries : Option Nat) (hmax : 1 ≤ maxEntries.getD 10000)
    (calls : List (MemoryCall ν))
    : let after := (new maxEntries).calls calls
      after.lruOrder.Perm after.entries.keys
        ∧ after.lruOrder.Nodup
        ∧ after.lruOrder.Pairwise (fun a b => lastUse calls a < lastUse calls b)
        ∧ after.Bounded (maxEntries.getD 10000)
        ∧ after.EvictsLeastRecent calls := by
  obtain ⟨horders, hbounded⟩ := calls_spec maxEntries hmax calls
  have hsame := hbounded.maxEntries_eq
  exact ⟨horders.perm, horders.nodup, horders.ordered, hbounded,
    horders.evictsLeastRecent (hsame ▸ hbounded.size_le) (hsame ▸ hmax)⟩

def threeKeys : List (MemoryCall Nat) :=
  [.setEntry 0 "a" 1 none, .setEntry 1 "b" 2 none, .getEntry 2 2 "a", .setEntry 3 "c" 3 none]

theorem calls_evictLeastRecent_threeKeys
    : ((new (some 2)).calls threeKeys).lruOrder = ["a", "c"]
        ∧ ((new (some 2)).calls threeKeys).lruOrder.Perm
          ((new (some 2)).calls threeKeys).entries.keys := by
  exact ⟨by decide, (calls_evictLeastRecent (some 2) (by decide) threeKeys).1⟩

end MemoryStorage

end AnimaAgent
