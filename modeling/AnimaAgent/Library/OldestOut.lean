import Mathlib.Data.Finset.Card
import Mathlib.Data.Finset.Dedup
import AnimaAgent.Library.IndexMap

/-!
This module contains maps with room for a limited number of keys, where a new key takes the place of the
oldest one when there is no room left. A key stays for as long as there is room for every key that was
entered after it.
-/

namespace OldestOut

variable {κ : Type}

/-- The keys behind `key` are `newer`. -/
def Behind (key : κ) (keys newer : List κ) : Prop :=
  ∃ front, keys = front ++ key :: newer

variable {keys newer : List κ} {key : κ}

theorem Behind.mem (h : Behind key keys newer) : key ∈ keys := by
  obtain ⟨front, rfl⟩ := h
  exact List.mem_append_right _ (List.mem_cons_self ..)

theorem Behind.filter (h : Behind key keys newer) {p : κ → Bool} (hkey : p key)
    : Behind key (keys.filter p) (newer.filter p) := by
  obtain ⟨front, rfl⟩ := h
  refine ⟨front.filter p, ?_⟩
  rw [List.filter_append, List.filter_cons_of_pos hkey]

variable [DecidableEq κ]

/-- A key that is there keeps its place, and a new one comes last. -/
def enter (limit : Nat) (keys : List κ) (key : κ) : List κ :=
  if key ∈ keys then
    keys
  else if limit ≤ keys.length then
    keys.tail ++ [key]
  else
    keys ++ [key]

variable {limit : Nat} {other : κ}

theorem length_enter_le (hlimit : 0 < limit) (h : keys.length ≤ limit) (key : κ)
    : (enter limit keys key).length ≤ limit := by
  unfold enter
  split
  . exact h
  . split
    . rw [List.length_append, List.length_tail, List.length_singleton]
      omega
    . rw [List.length_append, List.length_singleton]
      omega

def Room (limit : Nat) (key : κ) (l : List κ) : Prop :=
  (l.toFinset.erase key).card < limit

theorem Room.mono {l l' : List κ} (h : Room limit key l') (hsub : l ⊆ l') : Room limit key l := by
  refine (Finset.card_le_card (Finset.erase_subset_erase key ?_)).trans_lt h
  intro a ha
  exact List.mem_toFinset.mpr (hsub (List.mem_toFinset.mp ha))

theorem Room.length_lt (h : Room limit key (newer ++ [other])) (hnodup : (key :: newer).Nodup)
    (hnew : other ∉ key :: newer)
    : (key :: newer).length < limit := by
  rw [List.mem_cons, not_or] at hnew
  obtain ⟨hkey, hnewer⟩ := List.nodup_cons.mp hnodup
  have hall : (newer ++ [other]).Nodup := by
    refine List.nodup_append.mpr ⟨hnewer, List.nodup_singleton _, ?_⟩
    rintro a ha b hb rfl
    exact hnew.2 (List.mem_singleton.mp hb ▸ ha)
  have hmem : key ∉ (newer ++ [other]).toFinset := by
    rw [List.mem_toFinset, List.mem_append, List.mem_singleton, not_or]
    exact ⟨hkey, hnew.1 ∘ Eq.symm⟩
  unfold Room at h
  rw [Finset.erase_eq_of_notMem hmem, List.toFinset_card_of_nodup hall, List.length_append,
    List.length_singleton] at h
  rw [List.length_cons]
  exact h

theorem Behind.enter {entered : List κ} (h : Behind key keys newer) (hnodup : keys.Nodup)
    (hroom : Room limit key (newer ++ other :: entered))
    : ∃ newer', Behind key (OldestOut.enter limit keys other) newer'
        ∧ Room limit key (newer' ++ entered) := by
  have hskip : newer ++ entered ⊆ newer ++ other :: entered := by
    exact List.append_subset.mpr ⟨List.subset_append_left .., fun _ h =>
      List.mem_append_right _ (List.mem_cons_of_mem _ h)⟩
  have hother : newer ++ [other] ++ entered = newer ++ other :: entered := by
    rw [List.append_assoc, List.singleton_append]
  unfold OldestOut.enter
  obtain ⟨front, rfl⟩ := h
  split
  . exact ⟨newer, ⟨front, rfl⟩, hroom.mono hskip⟩
  . next hnew =>
    refine ⟨newer ++ [other], ?_, hother ▸ hroom⟩
    split
    . next hfull =>
      cases front with
      | nil =>
        have hlast := hroom.mono (hother ▸ List.subset_append_left (newer ++ [other]) entered)
        have hlt := hlast.length_lt hnodup hnew
        exact absurd hfull (not_le.mpr hlt)
      | cons oldest front => exact ⟨front, by simp⟩
    . exact ⟨front, by simp⟩

section Maps

variable {ν : Type}

def dropOldest (map : IndexMap κ ν) : IndexMap κ ν :=
  match map.keys with
  | [] => map
  | oldest :: _ => map.shiftRemove oldest

def makeRoom (limit : Nat) (map : IndexMap κ ν) (key : κ) : IndexMap κ ν :=
  if key ∉ map.keys ∧ limit ≤ map.keys.length then dropOldest map else map

variable {map : IndexMap κ ν}

theorem keys_dropOldest : (dropOldest map).keys = map.keys.tail := by
  have hnodup : map.keys.Nodup := map.nodup
  unfold dropOldest
  split
  . next hkeys => rw [hkeys, List.tail_nil]
  . next oldest rest hkeys =>
    rw [hkeys, List.nodup_cons] at hnodup
    rw [IndexMap.keys_shiftRemove, hkeys, List.tail_cons, List.filter_cons_of_neg (by simp),
      List.filter_eq_self]
    intro other hother
    exact decide_eq_true (fun h => hnodup.1 (h ▸ hother))

theorem get_dropOldest (h : other ∈ (dropOldest map).keys)
    : (dropOldest map).get other = map.get other := by
  unfold dropOldest at h ⊢
  split
  . rfl
  . next oldest rest hkeys =>
    rw [IndexMap.get_shiftRemove_eq, if_neg]
    rintro rfl
    simp [hkeys, IndexMap.keys_shiftRemove] at h

theorem makeRoom_of_mem (h : key ∈ map.keys) : makeRoom limit map key = map := by
  unfold makeRoom
  rw [if_neg (fun hnew => hnew.1 h)]

theorem keys_orInsert_makeRoom (value : ν)
    : ((makeRoom limit map key).orInsert key value).keys = enter limit map.keys key := by
  unfold enter
  by_cases hmem : key ∈ map.keys
  . rw [makeRoom_of_mem hmem, if_pos hmem]
    unfold IndexMap.orInsert
    rw [if_pos hmem]
  . unfold makeRoom
    by_cases hfull : limit ≤ map.keys.length
    . have htail : key ∉ (dropOldest map).keys := by
        rw [keys_dropOldest]
        exact fun h => hmem (List.tail_subset _ h)
      rw [if_pos ⟨hmem, hfull⟩, if_neg hmem, if_pos hfull]
      unfold IndexMap.orInsert
      rw [if_neg htail, IndexMap.keys_insert, if_neg htail, keys_dropOldest]
    . rw [if_neg (fun h => hfull h.2), if_neg hmem, if_neg hfull]
      unfold IndexMap.orInsert
      rw [if_neg hmem, IndexMap.keys_insert, if_neg hmem]

theorem get_orInsert_makeRoom (value : ν) (hne : other ≠ key)
    (h : other ∈ enter limit map.keys key)
    : ((makeRoom limit map key).orInsert key value).get other = map.get other := by
  rw [← keys_orInsert_makeRoom value] at h
  rw [IndexMap.get_orInsert, if_neg hne, Option.or_none]
  have hmem : other ∈ (makeRoom limit map key).keys := by
    obtain ⟨v, hv⟩ := IndexMap.mem_keys_iff.mp h
    rw [IndexMap.get_orInsert, if_neg hne, Option.or_none] at hv
    exact IndexMap.mem_keys_iff.mpr ⟨v, hv⟩
  unfold makeRoom at hmem ⊢
  split
  . next hroom =>
    rw [if_pos hroom] at hmem
    exact get_dropOldest hmem
  . rfl

end Maps

end OldestOut
