import Mathlib.Data.List.Nodup

/-!
This module contains maps that keep the order in which their keys were inserted first.
-/

structure IndexMap (κ ν : Type) where
  entries : List (κ × ν)
  nodup : (entries.map Prod.fst).Nodup

namespace IndexMap

variable {κ ν : Type} [DecidableEq κ]

def empty : IndexMap κ ν where
  entries := []
  nodup := List.nodup_nil

def keys (map : IndexMap κ ν) : List κ :=
  map.entries.map Prod.fst

def values (map : IndexMap κ ν) : List ν :=
  map.entries.map Prod.snd

def lookup (key : κ) (entries : List (κ × ν)) : Option ν :=
  (entries.find? (fun entry => decide (entry.1 = key))).map Prod.snd

def get (map : IndexMap κ ν) (key : κ) : Option ν :=
  lookup key map.entries

/-- A key that is there keeps its place and gets the new value. -/
def insertEntry (key : κ) (value : ν) : List (κ × ν) → List (κ × ν)
  | [] => [(key, value)]
  | entry :: entries =>
    if entry.1 = key then (key, value) :: entries else entry :: insertEntry key value entries

theorem map_fst_insertEntry (key : κ) (value : ν) (entries : List (κ × ν))
    : (insertEntry key value entries).map Prod.fst
        = if key ∈ entries.map Prod.fst then entries.map Prod.fst
          else entries.map Prod.fst ++ [key] := by
  induction entries with
  | nil => rfl
  | cons entry entries ih =>
    unfold insertEntry
    by_cases hkey : entry.1 = key
    . rw [if_pos hkey, if_pos (by simp [hkey])]
      simp [hkey]
    . have hne : key ≠ entry.1 := fun h => hkey h.symm
      rw [if_neg hkey, List.map_cons, ih, List.map_cons]
      simp only [List.mem_cons, hne, false_or]
      split
      . rfl
      . rfl

def insert (map : IndexMap κ ν) (key : κ) (value : ν) : IndexMap κ ν where
  entries := insertEntry key value map.entries
  nodup := by
    rw [map_fst_insertEntry]
    split
    . exact map.nodup
    . next hnew =>
      refine List.nodup_append.mpr ⟨map.nodup, List.nodup_singleton _, ?_⟩
      rintro a ha b hb rfl
      exact hnew (List.mem_singleton.mp hb ▸ ha)

/-- The entry of the key is removed, the other entries keep their places. -/
def shiftRemove (map : IndexMap κ ν) (key : κ) : IndexMap κ ν where
  entries := map.entries.filter (fun entry => decide (entry.1 ≠ key))
  nodup := map.nodup.sublist (List.filter_sublist.map _)

theorem lookup_eq_some_iff {key : κ} {value : ν} {entries : List (κ × ν)}
    (h : (entries.map Prod.fst).Nodup)
    : lookup key entries = some value ↔ (key, value) ∈ entries := by
  unfold lookup
  induction entries with
  | nil => simp
  | cons entry entries ih =>
    obtain ⟨hnew, hentries⟩ := List.nodup_cons.mp h
    by_cases hkey : entry.1 = key
    . rw [List.find?_cons_of_pos (by simpa using hkey), Option.map_some, Option.some.injEq,
        List.mem_cons]
      constructor
      . rintro rfl
        exact .inl (Prod.ext hkey.symm rfl)
      . rintro (rfl | hmem)
        . rfl
        . exact absurd (List.mem_map.mpr ⟨_, hmem, rfl⟩) (hkey ▸ hnew)
    . rw [List.find?_cons_of_neg (by simpa using hkey), ih hentries, List.mem_cons]
      refine (or_iff_right ?_).symm
      rintro rfl
      exact hkey rfl

theorem get_eq_some_iff {map : IndexMap κ ν} {key : κ} {value : ν}
    : map.get key = some value ↔ (key, value) ∈ map.entries := by
  exact lookup_eq_some_iff map.nodup

theorem mem_keys_iff {map : IndexMap κ ν} {key : κ}
    : key ∈ map.keys ↔ ∃ value, map.get key = some value := by
  unfold keys
  rw [List.mem_map]
  constructor
  . rintro ⟨entry, hmem, rfl⟩
    exact ⟨entry.2, get_eq_some_iff.mpr hmem⟩
  . rintro ⟨value, hvalue⟩
    exact ⟨(key, value), get_eq_some_iff.mp hvalue, rfl⟩

theorem get_eq_none_iff {map : IndexMap κ ν} {key : κ} : map.get key = none ↔ key ∉ map.keys := by
  rw [mem_keys_iff, Option.eq_none_iff_forall_ne_some]
  exact not_exists.symm

theorem get_insert {map : IndexMap κ ν} {key other : κ} {value value' : ν}
    (h : (map.insert key value).get other = some value')
    : (other = key ∧ value' = value) ∨ map.get other = some value' := by
  rw [get_eq_some_iff] at h
  have hmem : ∀ entries : List (κ × ν), (other, value') ∈ insertEntry key value entries
      → (other = key ∧ value' = value) ∨ (other, value') ∈ entries := by
    intro entries
    induction entries with
    | nil =>
      intro h
      exact .inl (Prod.mk.inj (List.mem_singleton.mp h))
    | cons entry entries ih =>
      unfold insertEntry
      split
      . intro h
        obtain h | h := List.mem_cons.mp h
        . exact .inl (Prod.mk.inj h)
        . exact .inr (List.mem_cons_of_mem _ h)
      . intro h
        obtain h | h := List.mem_cons.mp h
        . exact .inr (h ▸ List.mem_cons_self ..)
        . exact (ih h).imp_right (List.mem_cons_of_mem _)
  exact (hmem map.entries h).imp_right get_eq_some_iff.mpr

theorem lookup_insertEntry (key other : κ) (value : ν) (entries : List (κ × ν))
    : lookup other (insertEntry key value entries)
        = if other = key then some value else lookup other entries := by
  induction entries with
  | nil =>
    by_cases hother : other = key
    . simp [insertEntry, lookup, hother]
    . have hne : key ≠ other := fun h => hother h.symm
      simp [insertEntry, lookup, hother, hne]
  | cons entry entries ih =>
    unfold insertEntry
    unfold lookup at ih ⊢
    by_cases hkey : entry.1 = key
    . rw [if_pos hkey]
      by_cases hother : other = key
      . simp [hother]
      . have hne : key ≠ other := fun h => hother h.symm
        have hne' : entry.1 ≠ other := hkey ▸ hne
        simp [hother, hne, hne']
    . rw [if_neg hkey]
      by_cases hentry : entry.1 = other
      . have hother : other ≠ key := hentry ▸ hkey
        simp [hentry, hother]
      . rw [List.find?_cons_of_neg (by simpa using hentry), ih,
          List.find?_cons_of_neg (by simpa using hentry)]

theorem get_insert_eq (map : IndexMap κ ν) (key other : κ) (value : ν)
    : (map.insert key value).get other = if other = key then some value else map.get other := by
  exact lookup_insertEntry key other value map.entries

theorem get_shiftRemove_eq (map : IndexMap κ ν) (key other : κ)
    : (map.shiftRemove key).get other = if other = key then none else map.get other := by
  unfold get lookup shiftRemove
  rw [List.find?_filter]
  by_cases hother : other = key
  . rw [if_pos hother, Option.map_eq_none_iff, List.find?_eq_none]
    intro entry _ hentry
    simp [hother] at hentry
  . rw [if_neg hother]
    congr 2
    funext entry
    by_cases hentry : entry.1 = other
    . simp [hentry, hother]
    . simp [hentry]

@[simp]
theorem get_empty (key : κ) : (empty : IndexMap κ ν).get key = none := by
  rfl

theorem keys_insert (map : IndexMap κ ν) (key : κ) (value : ν)
    : (map.insert key value).keys = if key ∈ map.keys then map.keys else map.keys ++ [key] := by
  exact map_fst_insertEntry key value map.entries

theorem keys_shiftRemove (map : IndexMap κ ν) (key : κ)
    : (map.shiftRemove key).keys = map.keys.filter (fun other => decide (other ≠ key)) := by
  unfold keys shiftRemove
  rw [List.filter_map]
  rfl

theorem filter_append_perm_keys_insert (map : IndexMap κ ν) (key : κ) (value : ν)
    : (map.keys.filter (fun other => other != key) ++ [key]).Perm (map.insert key value).keys := by
  have hnodup : map.keys.Nodup := map.nodup
  rw [keys_insert]
  split
  . next hmem =>
    rw [← hnodup.erase_eq_filter]
    exact (List.perm_append_singleton key _).trans (List.perm_cons_erase hmem).symm
  . next hnew =>
    rw [List.filter_eq_self.mpr]
    intro other hother
    exact bne_iff_ne.mpr (fun heq => hnew (heq ▸ hother))

def mapValues {ν' : Type} (f : ν → ν') (map : IndexMap κ ν) : IndexMap κ ν' where
  entries := map.entries.map (fun entry => (entry.1, f entry.2))
  nodup := by
    rw [List.map_map]
    exact map.nodup

theorem get_mapValues {ν' : Type} (f : ν → ν') (map : IndexMap κ ν) (key : κ)
    : (map.mapValues f).get key = (map.get key).map f := by
  unfold get lookup mapValues
  rw [List.find?_map, Option.map_map, Option.map_map]
  rfl

/-- The keys keep their places, and the new value of a key may depend on it. -/
def mapEntries {ν' : Type} (f : κ → ν → ν') (map : IndexMap κ ν) : IndexMap κ ν' where
  entries := map.entries.map (fun entry => (entry.1, f entry.1 entry.2))
  nodup := by
    rw [List.map_map]
    exact map.nodup

theorem get_mapEntries {ν' : Type} (f : κ → ν → ν') (map : IndexMap κ ν) (key : κ)
    : (map.mapEntries f).get key = (map.get key).map (f key) := by
  apply Option.ext
  intro value
  rw [get_eq_some_iff, Option.map_eq_some_iff]
  constructor
  . intro hmem
    obtain ⟨entry, hentry, heq⟩ := List.mem_map.mp hmem
    obtain ⟨rfl, rfl⟩ := Prod.mk.inj heq
    exact ⟨entry.2, get_eq_some_iff.mpr hentry, rfl⟩
  . rintro ⟨old, hget, rfl⟩
    exact List.mem_map.mpr ⟨(key, old), get_eq_some_iff.mp hget, rfl⟩

theorem get_foldl_shiftRemove (keys : List κ) (map : IndexMap κ ν) (key : κ)
    : (keys.foldl shiftRemove map).get key = if key ∈ keys then none else map.get key := by
  induction keys generalizing map with
  | nil => exact (if_neg List.not_mem_nil).symm
  | cons first rest ih =>
    rw [List.foldl_cons, ih, get_shiftRemove_eq]
    by_cases hfirst : key = first
    . simp [hfirst]
    . simp [hfirst]

theorem flatMap_entries_eq {β : Type} (map : IndexMap κ ν) (f : κ → ν → List β) (key : κ)
    (hf : ∀ entry ∈ map.entries, entry.1 ≠ key → f entry.1 entry.2 = [])
    : map.entries.flatMap (fun entry => f entry.1 entry.2)
        = ((map.get key).map (f key)).getD [] := by
  obtain ⟨entries, hnodup⟩ := map
  unfold get lookup
  dsimp only at hf ⊢
  induction entries with
  | nil => rfl
  | cons entry entries ih =>
    obtain ⟨hnew, hentries⟩ := List.nodup_cons.mp hnodup
    rw [List.flatMap_cons]
    by_cases hkey : entry.1 = key
    . have hrest : entries.flatMap (fun entry => f entry.1 entry.2) = [] := by
        rw [List.flatMap_eq_nil_iff]
        intro other hmem
        refine hf other (List.mem_cons_of_mem _ hmem) ?_
        rintro hother
        exact hnew (List.mem_map.mpr ⟨other, hmem, hother.trans hkey.symm⟩)
      rw [hrest, List.append_nil, List.find?_cons_of_pos (by simpa using hkey)]
      simp [hkey]
    . rw [hf entry (List.mem_cons_self ..) hkey, List.nil_append,
        List.find?_cons_of_neg (by simpa using hkey)]
      exact ih hentries (fun other hmem => hf other (List.mem_cons_of_mem _ hmem))

section Counters

/-- The counter of the key, which starts at zero, is increased. -/
def addTo (map : IndexMap κ Nat) (key : κ) (n : Nat) : IndexMap κ Nat :=
  map.insert key ((map.get key).getD 0 + n)

def total (map : IndexMap κ Nat) : Nat :=
  map.values.foldr (· + ·) 0

theorem insert_eq_addTo {map : IndexMap κ Nat} {key : κ} (h : map.get key = none) (n : Nat)
    : map.insert key n = map.addTo key n := by
  unfold addTo
  rw [h, Option.getD_none, Nat.zero_add]

theorem get_addTo (map : IndexMap κ Nat) (key other : κ) (n : Nat)
    : ((map.addTo key n).get other).getD 0
        = (map.get other).getD 0 + if key = other then n else 0 := by
  unfold addTo
  rw [get_insert_eq]
  by_cases hother : other = key
  . simp [hother]
  . have hne : key ≠ other := fun h => hother h.symm
    simp [hother, hne]

theorem total_addTo (map : IndexMap κ Nat) (key : κ) (n : Nat)
    : (map.addTo key n).total = map.total + n := by
  have hsum : ∀ entries : List (κ × Nat),
      ((insertEntry key ((lookup key entries).getD 0 + n) entries).map Prod.snd).foldr (· + ·) 0
        = (entries.map Prod.snd).foldr (· + ·) 0 + n := by
    intro entries
    unfold lookup
    induction entries with
    | nil => simp [insertEntry]
    | cons entry entries ih =>
      unfold insertEntry
      by_cases hkey : entry.1 = key
      . simp only [hkey, decide_true, List.find?_cons_of_pos, ite_true, List.map_cons,
          List.foldr_cons, Option.map_some, Option.getD_some]
        omega
      . rw [List.find?_cons_of_neg (by simpa using hkey), if_neg hkey]
        simp only [List.map_cons, List.foldr_cons, ih]
        omega
  exact hsum map.entries

omit [DecidableEq κ] in
@[simp]
theorem total_empty : (empty : IndexMap κ Nat).total = 0 := by
  rfl

end Counters

theorem mem_values_iff {map : IndexMap κ ν} {value : ν}
    : value ∈ map.values ↔ ∃ key, map.get key = some value := by
  unfold values
  rw [List.mem_map]
  constructor
  . rintro ⟨entry, hmem, rfl⟩
    exact ⟨entry.1, get_eq_some_iff.mpr hmem⟩
  . rintro ⟨key, hvalue⟩
    exact ⟨(key, value), get_eq_some_iff.mp hvalue, rfl⟩

theorem entries_foldl_shiftRemove (map : IndexMap κ ν) (keys : List κ)
    : (keys.foldl shiftRemove map).entries
        = map.entries.filter (fun entry => decide (entry.1 ∉ keys)) := by
  induction keys generalizing map with
  | nil => exact (List.filter_eq_self.mpr (fun _ _ => decide_eq_true List.not_mem_nil)).symm
  | cons key keys ih =>
    rw [List.foldl_cons, ih]
    unfold shiftRemove
    rw [List.filter_filter]
    apply List.filter_congr
    intro entry _
    rw [← Bool.decide_and]
    exact decide_eq_decide.mpr (by rw [List.mem_cons, not_or, and_comm])

theorem entries_remove (map : IndexMap κ ν) (p : ν → Bool)
    : (((map.entries.filter (fun entry => p entry.2)).map Prod.fst).foldl shiftRemove map).entries
        = map.entries.filter (fun entry => !p entry.2) := by
  rw [entries_foldl_shiftRemove]
  apply List.filter_congr
  intro entry hmem
  have hiff : entry.1 ∈ (map.entries.filter (fun entry => p entry.2)).map Prod.fst
      ↔ p entry.2 = true := by
    rw [List.mem_map]
    constructor
    . rintro ⟨other, hother, hkey⟩
      obtain ⟨hmem', hp⟩ := List.mem_filter.mp hother
      rwa [List.inj_on_of_nodup_map map.nodup hmem' hmem hkey] at hp
    . exact fun hp => ⟨entry, List.mem_filter.mpr ⟨hmem, hp⟩, rfl⟩
  cases hp : p entry.2 with
  | true => exact decide_eq_false (not_not.mpr (hiff.mpr hp))
  | false => exact decide_eq_true (fun h => Bool.noConfusion (hp.symm.trans (hiff.mp h)))

def orInsert (map : IndexMap κ ν) (key : κ) (value : ν) : IndexMap κ ν :=
  if key ∈ map.keys then map else map.insert key value

theorem get_orInsert (map : IndexMap κ ν) (key other : κ) (value : ν)
    : (map.orInsert key value).get other
        = (map.get other).or (if other = key then some value else none) := by
  unfold orInsert
  by_cases hother : other = key
  . rw [if_pos hother, hother]
    split
    . next hmem =>
      obtain ⟨old, hold⟩ := mem_keys_iff.mp hmem
      rw [hold, Option.some_or]
    . next hnew => rw [get_insert_eq, if_pos rfl, get_eq_none_iff.mpr hnew, Option.none_or]
  . rw [if_neg hother, Option.or_none]
    split
    . rfl
    . rw [get_insert_eq, if_neg hother]

theorem get_foldl {α : Type} {step : IndexMap κ ν → α → IndexMap κ ν} (key : α → Option κ)
    (next : κ → Option ν → α → ν)
    (hstep : ∀ map item k, (step map item).get k
      = if key item = some k then some (next k (map.get k) item) else map.get k)
    (items : List α) (map : IndexMap κ ν) (k : κ)
    : (items.foldl step map).get k
        = (items.filter (fun item => decide (key item = some k))).foldl
          (fun value item => some (next k value item)) (map.get k) := by
  induction items generalizing map with
  | nil => rfl
  | cons item items ih =>
    rw [List.foldl_cons, ih, hstep, List.filter_cons]
    by_cases hkey : key item = some k
    . rw [if_pos hkey, if_pos (decide_eq_true hkey), List.foldl_cons]
    . rw [if_neg hkey, if_neg (fun h => hkey (of_decide_eq_true h))]

def retain (map : IndexMap κ ν) (p : ν → Bool) : IndexMap κ ν where
  entries := map.entries.filter (fun entry => p entry.2)
  nodup := map.nodup.sublist (List.filter_sublist.map _)

theorem get_retain (map : IndexMap κ ν) (p : ν → Bool) (key : κ)
    : (map.retain p).get key = (map.get key).filter p := by
  apply Option.ext
  intro value
  rw [Option.filter_eq_some_iff, get_eq_some_iff, get_eq_some_iff]
  exact List.mem_filter

theorem keys_retain (map : IndexMap κ ν) (p : ν → Bool)
    : (map.retain p).keys = map.keys.filter (fun key => ((map.get key).filter p).isSome) := by
  unfold keys
  rw [List.filter_map]
  apply congrArg (List.map Prod.fst)
  apply List.filter_congr
  intro entry hmem
  have hget : map.get entry.1 = some entry.2 := get_eq_some_iff.mpr hmem
  rw [Function.comp_apply, hget, Option.filter_some]
  cases p entry.2 with
  | true => rfl
  | false => rfl

theorem foldl_shiftRemove_eq_retain (map : IndexMap κ ν) (p : ν → Bool)
    : ((map.entries.filter (fun entry => p entry.2)).map Prod.fst).foldl shiftRemove map
        = map.retain (fun value => !p value) := by
  have hentries := entries_remove map p
  generalize ((map.entries.filter (fun entry => p entry.2)).map Prod.fst).foldl shiftRemove map = left
    at hentries ⊢
  cases left
  cases hentries
  rfl

end IndexMap
