import Mathlib.Data.List.AList
import Mathlib.Data.List.Induction
import Mathlib.Data.List.Nodup

/-!
This module contains rows in the order of their insertion, and the maps that are read from rows: the
last row of a key gives its value, or all rows of a key give its values.
-/

namespace Rows

variable {β ι ν : Type}

/-- The value of the last row that has an entry at `i`. -/
def last [DecidableEq ι] (entry : β → Option (ι × ν)) (rows : List β) (i : ι) : Option ν :=
  ((rows.filterMap entry).filter (fun e => decide (e.1 = i))).getLast?.map Prod.snd

/-- The values of the rows that have an entry at `i`. -/
def group [DecidableEq ι] (entry : β → Option (ι × ν)) (rows : List β) (i : ι) : List ν :=
  ((rows.filterMap entry).filter (fun e => decide (e.1 = i))).map Prod.snd

variable [DecidableEq ι] {entry : β → Option (ι × ν)} {rows : List β} {i : ι}

@[simp]
theorem last_nil : last entry [] i = none := by
  rfl

theorem last_append_of_eq {row : β} {v : ν} (h : entry row = some (i, v))
    : last entry (rows ++ [row]) i = some v := by
  unfold last
  rw [List.filterMap_append, List.filter_append]
  simp [h]

theorem last_append_of_ne {row : β} (h : ∀ v, entry row ≠ some (i, v))
    : last entry (rows ++ [row]) i = last entry rows i := by
  unfold last
  rw [List.filterMap_append, List.filter_append]
  cases hrow : entry row with
  | none => simp [hrow]
  | some e =>
    have hne : e.1 ≠ i := by
      rintro rfl
      exact h e.2 hrow
    simp [hrow, hne]

theorem last_map {γ : Type} (f : γ → β) (rows : List γ)
    : last entry (rows.map f) i = last (fun row => entry (f row)) rows i := by
  unfold last
  rw [List.filterMap_map]
  rfl

theorem last_congr {entry' : β → Option (ι × ν)} (h : ∀ row ∈ rows, entry row = entry' row)
    : last entry rows i = last entry' rows i := by
  unfold last
  rw [List.filterMap_congr h]

theorem exists_of_last {v : ν} (h : last entry rows i = some v)
    : ∃ row ∈ rows, entry row = some (i, v) := by
  obtain ⟨e, he, rfl⟩ := Option.map_eq_some_iff.mp h
  obtain ⟨hmem, hkey⟩ := List.mem_filter.mp (List.mem_of_getLast? he)
  obtain ⟨row, hrow, hentry⟩ := List.mem_filterMap.mp hmem
  refine ⟨row, hrow, ?_⟩
  rw [hentry, ← of_decide_eq_true hkey]

theorem last_eq_none_iff : last entry rows i = none ↔ ∀ row ∈ rows, ∀ v, entry row ≠ some (i, v) := by
  unfold last
  rw [Option.map_eq_none_iff, List.getLast?_eq_none_iff, List.filter_eq_nil_iff]
  constructor
  . intro h row hmem v hentry
    exact h (i, v) (List.mem_filterMap.mpr ⟨row, hmem, hentry⟩) (decide_eq_true rfl)
  . intro h e hmem hkey
    obtain ⟨row, hrow, hentry⟩ := List.mem_filterMap.mp hmem
    refine h row hrow e.2 ?_
    rw [hentry, ← of_decide_eq_true hkey]

theorem last_filter_iff {p : β → Bool} (removed : ν → Prop)
    (h : ∀ row ∈ rows, ∀ v, entry row = some (i, v) → (p row = false ↔ removed v))
    : last entry (rows.filter p) i = last entry rows i
        ↔ ∀ v, last entry rows i = some v → ¬removed v := by
  constructor
  . intro heq v hv hremoved
    rw [← heq] at hv
    obtain ⟨row, hmem, hentry⟩ := exists_of_last hv
    obtain ⟨hrow, hp⟩ := List.mem_filter.mp hmem
    rw [(h row hrow v hentry).mpr hremoved] at hp
    cases hp
  . intro hkept
    induction rows using List.reverseRecOn with
    | nil => rfl
    | append_singleton rows row ih =>
      have hrows := fun row' hmem => h row' (List.mem_append_left _ hmem)
      have hrow := h row (List.mem_append_right _ (List.mem_singleton.mpr rfl))
      rw [List.filter_append]
      by_cases hentry : ∃ v, entry row = some (i, v)
      . obtain ⟨v, hv⟩ := hentry
        have hp : p row = true := by
          cases hp : p row with
          | true => rfl
          | false => exact absurd ((hrow v hv).mp hp) (hkept v (last_append_of_eq hv))
        rw [List.filter_cons_of_pos hp, List.filter_nil, last_append_of_eq hv, last_append_of_eq hv]
      . have hne : ∀ v, entry row ≠ some (i, v) := fun v hv => hentry ⟨v, hv⟩
        rw [last_append_of_ne hne] at hkept ⊢
        rw [← ih hrows hkept]
        cases hp : p row with
        | true => rw [List.filter_cons_of_pos hp, List.filter_nil, last_append_of_ne hne]
        | false =>
          rw [List.filter_cons_of_neg (by rw [hp]; exact Bool.false_ne_true), List.filter_nil,
            List.append_nil]

theorem last_filter {p : β → Bool} (h : ∀ row ∈ rows, p row = false → ∀ v, entry row ≠ some (i, v))
    : last entry (rows.filter p) i = last entry rows i := by
  refine (last_filter_iff (fun _ => False) ?_).mpr (fun _ _ => not_false)
  exact fun row hmem v hv => iff_of_false (fun hp => h row hmem hp v hv) not_false

/-- The map that is read from the rows, one after the other. -/
def index (entry : β → Option (ι × ν)) (rows : List β) : AList (fun _ : ι => ν) :=
  rows.foldl (fun map row => (entry row).elim map (fun e => map.insert e.1 e.2)) ∅

theorem lookup_index (rows : List β) (i : ι) : (index entry rows).lookup i = last entry rows i := by
  induction rows using List.reverseRecOn with
  | nil => rfl
  | append_singleton rows row ih =>
    unfold index at ih ⊢
    rw [List.foldl_append, List.foldl_cons, List.foldl_nil]
    cases hrow : entry row with
    | none =>
      rw [last_append_of_ne (by rintro v hv; rw [hrow] at hv; cases hv)]
      exact ih
    | some e =>
      by_cases hkey : i = e.1
      . subst hkey
        rw [last_append_of_eq (v := e.2) hrow]
        exact AList.lookup_insert _
      . rw [last_append_of_ne]
        . exact (AList.lookup_insert_ne hkey).trans ih
        . rintro v hv
          rw [hrow] at hv
          cases hv
          exact hkey rfl

@[simp]
theorem group_nil : group entry [] i = [] := by
  rfl

theorem group_append_of_eq {row : β} {v : ν} (h : entry row = some (i, v))
    : group entry (rows ++ [row]) i = group entry rows i ++ [v] := by
  unfold group
  rw [List.filterMap_append, List.filter_append]
  simp [h]

theorem group_append_of_ne {row : β} (h : ∀ v, entry row ≠ some (i, v))
    : group entry (rows ++ [row]) i = group entry rows i := by
  unfold group
  rw [List.filterMap_append, List.filter_append]
  cases hrow : entry row with
  | none => simp [hrow]
  | some e =>
    have hne : e.1 ≠ i := by
      rintro rfl
      exact h e.2 hrow
    simp [hrow, hne]

theorem group_map {γ : Type} (f : γ → β) (rows : List γ)
    : group entry (rows.map f) i = group (fun row => entry (f row)) rows i := by
  unfold group
  rw [List.filterMap_map]
  rfl

theorem group_congr {entry' : β → Option (ι × ν)} (h : ∀ row ∈ rows, entry row = entry' row)
    : group entry rows i = group entry' rows i := by
  unfold group
  rw [List.filterMap_congr h]

theorem mem_group_iff {v : ν} : v ∈ group entry rows i ↔ ∃ row ∈ rows, entry row = some (i, v) := by
  unfold group
  rw [List.mem_map]
  constructor
  . rintro ⟨e, hmem, rfl⟩
    obtain ⟨hmem, hkey⟩ := List.mem_filter.mp hmem
    obtain ⟨row, hrow, hentry⟩ := List.mem_filterMap.mp hmem
    refine ⟨row, hrow, ?_⟩
    rw [hentry, ← of_decide_eq_true hkey]
  . rintro ⟨row, hrow, hentry⟩
    refine ⟨(i, v), List.mem_filter.mpr ⟨?_, decide_eq_true rfl⟩, rfl⟩
    exact List.mem_filterMap.mpr ⟨row, hrow, hentry⟩

theorem group_filter {p : β → Bool} (q : ν → Bool)
    (h : ∀ row ∈ rows, ∀ v, entry row = some (i, v) → p row = q v)
    : group entry (rows.filter p) i = (group entry rows i).filter q := by
  induction rows using List.reverseRecOn with
  | nil => rfl
  | append_singleton rows row ih =>
    have ih := ih (fun row' hmem => h row' (List.mem_append_left _ hmem))
    have hrow := h row (List.mem_append_right _ (List.mem_singleton.mpr rfl))
    rw [List.filter_append]
    by_cases hentry : ∃ v, entry row = some (i, v)
    . obtain ⟨v, hv⟩ := hentry
      rw [group_append_of_eq hv, List.filter_append, ← ih, List.filter_singleton,
        List.filter_singleton, hrow v hv]
      cases q v with
      | true => exact group_append_of_eq hv
      | false =>
        change group entry (_ ++ []) i = _ ++ []
        rw [List.append_nil, List.append_nil]
    . have hne : ∀ v, entry row ≠ some (i, v) := fun v hv => hentry ⟨v, hv⟩
      rw [group_append_of_ne hne, ← ih, List.filter_singleton]
      cases p row with
      | true => exact group_append_of_ne hne
      | false =>
        change group entry (_ ++ []) i = _
        rw [List.append_nil]

/-- The lists of values that are read from the rows, one after the other. -/
def groups (entry : β → Option (ι × ν)) (rows : List β) : AList (fun _ : ι => List ν) :=
  rows.foldl (fun map row =>
    (entry row).elim map (fun e => map.insert e.1 ((map.lookup e.1).getD [] ++ [e.2]))) ∅

theorem lookup_groups (rows : List β) (i : ι)
    : (groups entry rows).lookup i
        = if (group entry rows i).isEmpty then none else some (group entry rows i) := by
  induction rows using List.reverseRecOn with
  | nil => rfl
  | append_singleton rows row ih =>
    unfold groups at ih ⊢
    rw [List.foldl_append, List.foldl_cons, List.foldl_nil]
    cases hrow : entry row with
    | none =>
      rw [group_append_of_ne (by rintro v hv; rw [hrow] at hv; cases hv)]
      exact ih
    | some e =>
      dsimp only [Option.elim_some]
      by_cases hkey : i = e.1
      . subst hkey
        rw [AList.lookup_insert, ih, group_append_of_eq (v := e.2) hrow]
        cases group entry rows e.1 with
        | nil => rfl
        | cons _ _ => rfl
      . rw [AList.lookup_insert_ne hkey, group_append_of_ne]
        . exact ih
        . rintro v hv
          rw [hrow] at hv
          cases hv
          exact hkey rfl

theorem getD_lookup_groups (i : ι)
    : ((groups entry rows).lookup i).getD [] = group entry rows i := by
  rw [lookup_groups]
  cases group entry rows i with
  | nil => rfl
  | cons _ _ => rfl

/-- The entries of a map that `p` holds of. -/
def keep (p : ι → ν → Bool) (map : AList (fun _ : ι => ν)) : AList (fun _ : ι => ν) where
  entries := map.entries.filter (fun e => p e.1 e.2)
  nodupKeys := map.nodupKeys.sublist List.filter_sublist

omit [DecidableEq ι] in
theorem keep_true (map : AList (fun _ : ι => ν)) : keep (fun _ _ => true) map = map := by
  apply AList.ext
  exact List.filter_eq_self.mpr (fun _ _ => rfl)

theorem lookup_keep (p : ι → ν → Bool) (map : AList (fun _ : ι => ν)) (i : ι)
    : (keep p map).lookup i = (map.lookup i).filter (p i) := by
  apply Option.ext
  intro v
  rw [Option.filter_eq_some_iff]
  change v ∈ (keep p map).lookup i ↔ v ∈ map.lookup i ∧ _
  rw [AList.mem_lookup_iff, AList.mem_lookup_iff]
  exact List.mem_filter

section Keyed

variable {κ : Type} {key : β → κ} {entry : β → Option (ι × κ)}

theorem group_eq_map (hkey : ∀ row e, entry row = some e → e.2 = key row) (rows : List β) (i : ι)
    : group entry rows i
        = (rows.filter (fun row => decide ((entry row).map Prod.fst = some i))).map key := by
  induction rows using List.reverseRecOn with
  | nil => rfl
  | append_singleton rows row ih =>
    rw [List.filter_append, List.map_append, ← ih, List.filter_singleton]
    cases hrow : entry row with
    | none =>
      rw [group_append_of_ne (by rintro v hv; rw [hrow] at hv; cases hv)]
      exact (List.append_nil _).symm
    | some e =>
      by_cases hi : e.1 = i
      . subst hi
        rw [group_append_of_eq (v := e.2) hrow, hkey row e hrow]
        simp
      . rw [group_append_of_ne]
        . simp [hi]
        . rintro v hv
          rw [hrow] at hv
          cases hv
          exact hi rfl

theorem nodup_group (hkey : ∀ row e, entry row = some e → e.2 = key row)
    (hnodup : (rows.map key).Nodup) (i : ι)
    : (group entry rows i).Nodup := by
  rw [group_eq_map hkey]
  exact hnodup.sublist (List.filter_sublist.map key)

end Keyed

section Tables

variable {κ : Type} [DecidableEq κ] (key : β → κ)

/-- The rows without the one at `k`. -/
def delete (k : κ) (rows : List β) : List β :=
  rows.filter (fun row => decide (key row ≠ k))

def upsert (row : β) (rows : List β) : List β :=
  delete key (key row) rows ++ [row]

/-- The row is inserted at the end, if its key is not there. -/
def append (row : β) (rows : List β) : Option (List β) :=
  if key row ∈ rows.map key then none else some (rows ++ [row])

def deleteAll (keys : List κ) (rows : List β) : List β :=
  rows.filter (fun row => decide (key row ∉ keys))

variable {γ : Type} {key}

theorem mem_delete {k : κ} {row : β} : row ∈ delete key k rows ↔ row ∈ rows ∧ key row ≠ k := by
  unfold delete
  rw [List.mem_filter, decide_eq_true_iff]

theorem mem_upsert {row row' : β} (h : row' ∈ upsert key row rows) : row' ∈ rows ∨ row' = row := by
  obtain h | h := List.mem_append.mp h
  . exact .inl (mem_delete.mp h).1
  . exact .inr (List.mem_singleton.mp h)

theorem map_delete (f : γ → β) (k : κ) (rows : List γ)
    : delete key k (rows.map f) = (delete (fun row => key (f row)) k rows).map f := by
  unfold delete
  rw [List.filter_map]
  rfl

theorem map_upsert (f : γ → β) (row : γ) (rows : List γ)
    : upsert key (f row) (rows.map f) = (upsert (fun row => key (f row)) row rows).map f := by
  unfold upsert
  rw [map_delete, List.map_append]
  rfl

theorem map_append (f : γ → β) (row : γ) (rows : List γ)
    : append key (f row) (rows.map f)
        = (append (fun row => key (f row)) row rows).map (List.map f) := by
  unfold append
  rw [List.map_map]
  change (if key (f row) ∈ rows.map (key ∘ f) then none else _)
    = Option.map _ (if key (f row) ∈ rows.map (key ∘ f) then none else _)
  by_cases h : key (f row) ∈ rows.map (key ∘ f)
  . rw [if_pos h, if_pos h]
    rfl
  . rw [if_neg h, if_neg h, Option.map_some, List.map_append]
    rfl

theorem nodup_delete (k : κ) (h : (rows.map key).Nodup) : ((delete key k rows).map key).Nodup := by
  exact h.sublist (List.filter_sublist.map key)

theorem nodup_upsert (row : β) (h : (rows.map key).Nodup)
    : ((upsert key row rows).map key).Nodup := by
  unfold upsert
  rw [List.map_append, List.map_singleton, List.nodup_append]
  refine ⟨nodup_delete _ h, List.nodup_singleton _, ?_⟩
  intro a ha b hb
  obtain ⟨row', hrow', rfl⟩ := List.mem_map.mp ha
  rw [List.mem_singleton.mp hb]
  exact (mem_delete.mp hrow').2

theorem nodup_append {row : β} {rows' : List β} (h : (rows.map key).Nodup)
    (happend : append key row rows = some rows')
    : (rows'.map key).Nodup := by
  unfold append at happend
  split at happend
  . cases happend
  . next hnew =>
    cases happend
    rw [List.map_append, List.map_singleton, List.nodup_append]
    refine ⟨h, List.nodup_singleton _, ?_⟩
    intro a ha b hb
    rw [List.mem_singleton.mp hb]
    rintro rfl
    exact hnew ha

/-- The map that an index becomes when a row is entered. -/
def enter (entry : β → Option (ι × ν)) (row : β) (map : AList (fun _ : ι => ν))
    : AList (fun _ : ι => ν) :=
  (entry row).elim map (fun e => map.insert e.1 e.2)

section Index

variable {map : AList (fun _ : ι => ν)}

theorem last_upsert_iff (key : β → κ) (row : β) (hmap : ∀ i, last entry rows i = map.lookup i)
    : (∀ i, last entry (upsert key row rows) i = (enter entry row map).lookup i)
        ↔ ∀ i, (∀ v, entry row ≠ some (i, v)) →
            last entry (delete key (key row) rows) i = last entry rows i := by
  have hother : ∀ i, (∀ v, entry row ≠ some (i, v)) → (enter entry row map).lookup i = map.lookup i := by
    intro i hne
    unfold enter
    cases hrow : entry row with
    | none => rfl
    | some e =>
      refine AList.lookup_insert_ne ?_
      rintro rfl
      exact hne e.2 hrow
  constructor
  . intro h i hne
    have hi := h i
    rw [upsert, last_append_of_ne hne, hother i hne, ← hmap] at hi
    exact hi
  . intro h i
    by_cases hentry : ∃ v, entry row = some (i, v)
    . obtain ⟨v, hv⟩ := hentry
      rw [upsert, last_append_of_eq hv, enter, hv, Option.elim_some, AList.lookup_insert]
    . have hne : ∀ v, entry row ≠ some (i, v) := fun v hv => hentry ⟨v, hv⟩
      rw [upsert, last_append_of_ne hne, hother i hne, h i hne]
      exact hmap i

theorem last_delete_iff {entry : β → Option (ι × κ)} {i : ι} {k : κ}
    (hkey : ∀ row v, entry row = some (i, v) → v = key row)
    : last entry (delete key k rows) i = last entry rows i ↔ last entry rows i ≠ some k := by
  have hfilter : last entry (delete key k rows) i = last entry rows i
      ↔ ∀ v, last entry rows i = some v → ¬v = k := by
    apply last_filter_iff
    intro row _ v hv
    rw [hkey row v hv, decide_eq_false_iff_not, not_not]
  rw [hfilter]
  constructor
  . intro h hk
    exact h k hk rfl
  . rintro h v hv rfl
    exact h hv

end Index

/-- The rows as a map: each row is the value of its key. -/
def rowEntry (key : β → κ) (row : β) : Option (κ × β) :=
  some (key row, row)

section Lookup

variable {map : AList (fun _ : κ => β)}

theorem last_rowEntry_key {k : κ} {row : β} (h : last (rowEntry key) rows k = some row)
    : row ∈ rows ∧ key row = k := by
  obtain ⟨row', hmem, hentry⟩ := exists_of_last h
  cases hentry
  exact ⟨hmem, rfl⟩

theorem last_rowEntry_of_mem (hnodup : (rows.map key).Nodup) {row : β} (hmem : row ∈ rows)
    : last (rowEntry key) rows (key row) = some row := by
  cases hlast : last (rowEntry key) rows (key row) with
  | none => exact absurd rfl (last_eq_none_iff.mp hlast row hmem row)
  | some row' =>
    obtain ⟨hmem', hkey⟩ := last_rowEntry_key hlast
    rw [List.inj_on_of_nodup_map hnodup hmem' hmem hkey]

theorem last_rowEntry_upsert (hmap : ∀ k, last (rowEntry key) rows k = map.lookup k) (row : β)
    : ∀ k, last (rowEntry key) (upsert key row rows) k = (map.insert (key row) row).lookup k := by
  apply (last_upsert_iff key row hmap).mpr
  intro k hne
  apply last_filter
  intro row' _ hdeleted v hv
  cases hv
  rw [decide_eq_false_iff_not, not_not] at hdeleted
  exact hne row (congrArg (fun k => some (k, row)) hdeleted.symm)

theorem last_rowEntry_filter (hnodup : (rows.map key).Nodup) (p : β → Bool) (k : κ)
    : last (rowEntry key) (rows.filter p) k = (last (rowEntry key) rows k).filter p := by
  cases hlast : last (rowEntry key) rows k with
  | none =>
    rw [last_eq_none_iff] at hlast
    exact last_eq_none_iff.mpr (fun row hmem => hlast row (List.mem_of_mem_filter hmem))
  | some row =>
    obtain ⟨hmem, rfl⟩ := last_rowEntry_key hlast
    have hunique : ∀ row' ∈ rows, key row' = key row → row' = row :=
      fun row' hmem' hkey => List.inj_on_of_nodup_map hnodup hmem' hmem hkey
    cases hp : p row with
    | true =>
      rw [Option.filter_some_pos hp, ← hlast]
      apply last_filter
      intro row' hmem' hp' v hv
      have hkey : key row' = key row := congrArg Prod.fst (Option.some.inj hv)
      rw [hunique row' hmem' hkey, hp] at hp'
      cases hp'
    | false =>
      rw [Option.filter_some_neg (by simp [hp])]
      apply last_eq_none_iff.mpr
      rintro row' hmem' v hv
      obtain ⟨hmem', hp'⟩ := List.mem_filter.mp hmem'
      have hkey : key row' = key row := congrArg Prod.fst (Option.some.inj hv)
      rw [hunique row' hmem' hkey, hp] at hp'
      cases hp'

end Lookup

/-- The lists of values become these when a row is entered. -/
def enterGroup [DecidableEq ν] (entry : β → Option (ι × ν)) (row : β)
    (map : AList (fun _ : ι => List ν))
    : AList (fun _ : ι => List ν) :=
  (entry row).elim map fun e =>
    let values := (map.lookup e.1).getD []
    map.insert e.1 (if values.contains e.2 then values else values ++ [e.2])

section Group

variable {entry : β → Option (ι × κ)}

theorem filter_ne_of_notMem {l : List κ} {k : κ} (h : k ∉ l)
    : l.filter (fun v => decide (v ≠ k)) = l := by
  rw [List.filter_eq_self]
  intro v hv
  apply decide_eq_true
  rintro rfl
  exact h hv

theorem filter_append_self_iff {l : List κ} {k : κ} (hnodup : l.Nodup) (hmem : k ∈ l)
    : l.filter (fun v => decide (v ≠ k)) ++ [k] = l ↔ l.getLast? = some k := by
  constructor
  . intro h
    rw [← h, List.getLast?_append, List.getLast?_singleton, Option.some_or]
  . intro hlast
    obtain ⟨rest, rfl⟩ := List.getLast?_eq_some_iff.mp hlast
    have hrest : k ∉ rest := by
      intro hin
      exact (List.nodup_append.mp hnodup).2.2 k hin k (List.mem_singleton.mpr rfl) rfl
    rw [List.filter_append, filter_ne_of_notMem hrest]
    simp

theorem group_delete (hkey : ∀ row e, entry row = some e → e.2 = key row) (k : κ) (i : ι)
    : group entry (delete key k rows) i = (group entry rows i).filter (fun v => decide (v ≠ k)) := by
  apply group_filter
  intro row' _ v hv
  rw [show v = key row' from hkey row' (i, v) hv]

theorem lookup_enterGroup_of_ne {row : β} {i : ι} (hne : ∀ v, entry row ≠ some (i, v))
    (map : AList (fun _ : ι => List κ))
    : (enterGroup entry row map).lookup i = map.lookup i := by
  unfold enterGroup
  cases hrow : entry row with
  | none => rfl
  | some e =>
    refine AList.lookup_insert_ne ?_
    rintro rfl
    exact hne e.2 hrow

theorem lookup_groups_upsert_iff (row : β) (hkey : ∀ row e, entry row = some e → e.2 = key row)
    (hnodup : (rows.map key).Nodup) {map : AList (fun _ : ι => List κ)}
    (hmap : ∀ i, (groups entry rows).lookup i = map.lookup i) (i : ι)
    : (groups entry (upsert key row rows)).lookup i = (enterGroup entry row map).lookup i
        ↔ (key row ∈ group entry rows i →
            entry row = some (i, key row) ∧ (group entry rows i).getLast? = some (key row)) := by
  rw [lookup_groups]
  by_cases hentry : ∃ v, entry row = some (i, v)
  . obtain ⟨v, hv⟩ := hentry
    obtain rfl := hkey row (i, v) hv
    rw [upsert, group_append_of_eq hv, group_delete hkey, enterGroup, hv, Option.elim_some,
      AList.lookup_insert, ← hmap, getD_lookup_groups, if_neg (by simp), Option.some.injEq]
    by_cases hin : key row ∈ group entry rows i
    . rw [if_pos (List.contains_iff_mem.mpr hin), filter_append_self_iff (nodup_group hkey hnodup i) hin]
      exact ⟨fun h _ => ⟨rfl, h⟩, fun h => (h hin).2⟩
    . rw [if_neg (fun h => hin (List.contains_iff_mem.mp h)), filter_ne_of_notMem hin]
      exact iff_of_true rfl (fun h => absurd h hin)
  . have hne : ∀ v, entry row ≠ some (i, v) := fun v hv => hentry ⟨v, hv⟩
    rw [upsert, group_append_of_ne hne, group_delete hkey, lookup_enterGroup_of_ne hne, ← hmap,
      lookup_groups]
    by_cases hin : key row ∈ group entry rows i
    . refine iff_of_false ?_ (fun h => hne _ (h hin).1)
      intro heq
      have hnonempty : (group entry rows i).isEmpty = false := by
        cases hgroup : group entry rows i with
        | nil =>
          rw [hgroup] at hin
          cases hin
        | cons _ _ => rfl
      rw [hnonempty] at heq
      split at heq
      . cases heq
      . have hself := Option.some.inj heq
        rw [← hself] at hin
        exact of_decide_eq_true (List.mem_filter.mp hin).2 rfl
    . rw [filter_ne_of_notMem hin]
      exact iff_of_true rfl (fun h => absurd h hin)

theorem groups_upsert_iff (row : β) (hkey : ∀ row e, entry row = some e → e.2 = key row)
    (hnodup : (rows.map key).Nodup) {map : AList (fun _ : ι => List κ)}
    (hmap : ∀ i, (groups entry rows).lookup i = map.lookup i)
    : (∀ i, (groups entry (upsert key row rows)).lookup i = (enterGroup entry row map).lookup i)
        ↔ ∀ i values, map.lookup i = some values → key row ∈ values →
            entry row = some (i, key row) ∧ values.getLast? = some (key row) := by
  have hvalues : ∀ i, (map.lookup i).getD [] = group entry rows i := by
    intro i
    rw [← hmap, getD_lookup_groups]
  have hmem : ∀ i, (∃ values, map.lookup i = some values ∧ key row ∈ values)
      ↔ key row ∈ group entry rows i := by
    intro i
    rw [← hvalues]
    cases map.lookup i with
    | none => simp
    | some values => simp
  constructor
  . intro h i values hlookup hin
    obtain ⟨heq, hlast⟩ := (lookup_groups_upsert_iff row hkey hnodup hmap i).mp (h i)
      ((hmem i).mp ⟨values, hlookup, hin⟩)
    refine ⟨heq, ?_⟩
    rw [← hvalues, hlookup] at hlast
    exact hlast
  . intro h i
    apply (lookup_groups_upsert_iff row hkey hnodup hmap i).mpr
    intro hin
    obtain ⟨values, hlookup, hin'⟩ := (hmem i).mpr hin
    obtain ⟨heq, hlast⟩ := h i values hlookup hin'
    refine ⟨heq, ?_⟩
    rw [← hvalues, hlookup]
    exact hlast

end Group

end Tables

end Rows
