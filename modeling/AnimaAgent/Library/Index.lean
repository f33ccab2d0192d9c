import AnimaAgent.Library.Rows

/-!
This module contains indexes that are kept beside a map of records: when the entries of an index still
stand for records after a record is written or some records are left out.
-/

namespace Index

variable {κ ι ν ρ : Type} [DecidableEq κ] [DecidableEq ι]

def Names (carries : ρ → κ → Prop) (entries : AList (fun _ : κ => ι))
    (records : AList (fun _ : ι => ρ))
    : Prop :=
  ∀ key id, entries.lookup key = some id
    → ∃ record, records.lookup id = some record ∧ carries record key

section Names

variable {carries : ρ → κ → Prop} {entries : AList (fun _ : κ => ι)}
variable {records : AList (fun _ : ι => ρ)}

theorem names_insert_iff (h : Names carries entries records) (id : ι) (record : ρ)
    : Names carries entries (records.insert id record)
        ↔ ∀ key, entries.lookup key = some id → carries record key := by
  constructor
  . intro hnames key hkey
    obtain ⟨record', hrecord, hcarries⟩ := hnames key id hkey
    rw [AList.lookup_insert] at hrecord
    cases hrecord
    exact hcarries
  . intro hcarries key id' hkey
    by_cases heq : id' = id
    . subst heq
      exact ⟨record, AList.lookup_insert _, hcarries key hkey⟩
    . rw [AList.lookup_insert_ne heq]
      exact h key id' hkey

theorem names_enter_iff (h : Names carries entries records) {key : κ} (id : ι) {record : ρ}
    (hkey : carries record key)
    : Names carries (entries.insert key id) (records.insert id record)
        ↔ ∀ key', entries.lookup key' = some id → carries record key' := by
  rw [← names_insert_iff h id record]
  constructor
  . intro hnames key' id' hlookup
    by_cases heq : key' = key
    . subst heq
      obtain ⟨record', hrecord, hcarries⟩ := h key' id' hlookup
      by_cases hid : id' = id
      . subst hid
        exact ⟨record, AList.lookup_insert _, hkey⟩
      . exact ⟨record', (AList.lookup_insert_ne hid).trans hrecord, hcarries⟩
    . exact hnames key' id' ((AList.lookup_insert_ne heq).trans hlookup)
  . intro hnames key' id' hlookup
    by_cases heq : key' = key
    . subst heq
      rw [AList.lookup_insert] at hlookup
      cases hlookup
      exact ⟨record, AList.lookup_insert _, hkey⟩
    . exact hnames key' id' ((AList.lookup_insert_ne heq).symm.trans hlookup)

theorem names_keep_iff (h : Names carries entries records) (p : ι → ρ → Bool)
    : Names carries entries (Rows.keep p records)
        ↔ ∀ key id record, entries.lookup key = some id → records.lookup id = some record
          → p id record = true := by
  constructor
  . intro hnames key id record hkey hrecord
    obtain ⟨record', hkept, _⟩ := hnames key id hkey
    rw [Rows.lookup_keep, hrecord, Option.filter_eq_some_iff] at hkept
    obtain ⟨heq, hp⟩ := hkept
    cases heq
    exact hp
  . intro hp key id hkey
    obtain ⟨record, hrecord, hcarries⟩ := h key id hkey
    refine ⟨record, ?_, hcarries⟩
    rw [Rows.lookup_keep, hrecord]
    exact Option.filter_some_pos (hp key id record hkey hrecord)

theorem names_keep_both (h : Names carries entries records) (p : ι → Bool)
    : Names carries (Rows.keep (fun _ id => p id) entries)
        (Rows.keep (fun id _ => p id) records) := by
  intro key id hkey
  rw [Rows.lookup_keep, Option.filter_eq_some_iff] at hkey
  obtain ⟨record, hrecord, hcarries⟩ := h key id hkey.1
  refine ⟨record, ?_, hcarries⟩
  rw [Rows.lookup_keep, hrecord]
  exact Option.filter_some_pos hkey.2

end Names

def members (lists : AList (fun _ : κ => List ι)) (key : κ) : List ι :=
  (lists.lookup key).getD []

/-- The lists of groups when the record `id` has joined a group, or none. -/
def join (lists : AList (fun _ : κ => List ι)) (id : ι) : Option κ → AList (fun _ : κ => List ι)
  | none => lists
  | some key =>
    lists.insert key (if (members lists key).contains id then members lists key
      else members lists key ++ [id])

/-- The list of a group contains its records, each once. -/
structure Lists (group : ρ → Option κ) (lists : AList (fun _ : κ => List ι))
    (records : AList (fun _ : ι => ρ)) : Prop where
  sound : ∀ key, ∀ id ∈ members lists key,
    ∃ record, records.lookup id = some record ∧ group record = some key
  once : ∀ id record key, records.lookup id = some record → group record = some key
    → (members lists key).count id = 1

section Lists

variable {group : ρ → Option κ} {lists : AList (fun _ : κ => List ι)}
variable {records : AList (fun _ : ι => ρ)}

theorem mem_join_iff (id id' : ι) (joined : Option κ) (key : κ)
    : id' ∈ members (join lists id joined) key
        ↔ id' ∈ members lists key ∨ (joined = some key ∧ id' = id) := by
  cases joined with
  | none => simp [join]
  | some key' =>
    unfold join members
    by_cases heq : key = key'
    . subst heq
      rw [AList.lookup_insert, Option.getD_some]
      split
      . next hmem =>
        constructor
        . exact .inl
        . rintro (h | ⟨_, rfl⟩)
          . exact h
          . exact List.contains_iff_mem.mp hmem
      . simp
    . rw [AList.lookup_insert_ne heq]
      constructor
      . exact .inl
      . rintro (h | ⟨h, _⟩)
        . exact h
        . exact absurd (Option.some.inj h).symm heq

theorem count_join_of_ne {id id' : ι} (hne : id' ≠ id) (joined : Option κ) (key : κ)
    : (members (join lists id joined) key).count id' = (members lists key).count id' := by
  cases joined with
  | none => rfl
  | some key' =>
    unfold join members
    by_cases heq : key = key'
    . subst heq
      rw [AList.lookup_insert, Option.getD_some]
      split
      . rfl
      . rw [List.count_append, List.count_singleton, if_neg (by simpa using hne.symm),
          Nat.add_zero]
    . rw [AList.lookup_insert_ne heq]

theorem count_join_self {id : ι} {key : κ}
    (h : id ∈ members lists key → (members lists key).count id = 1)
    : (members (join lists id (some key)) key).count id = 1 := by
  unfold join
  unfold members at h ⊢
  rw [AList.lookup_insert, Option.getD_some]
  split
  . next hmem => exact h (List.contains_iff_mem.mp hmem)
  . next hmem =>
    rw [List.count_append, List.count_singleton_self, List.count_eq_zero.mpr]
    intro h
    exact hmem (List.contains_iff_mem.mpr h)

theorem lists_join_iff (h : Lists group lists records) (id : ι) (record : ρ)
    : Lists group (join lists id (group record)) (records.insert id record)
        ↔ ∀ key, id ∈ members lists key → group record = some key := by
  constructor
  . intro hlists key hmem
    obtain ⟨record', hrecord, hgroup⟩ :=
      hlists.sound key id ((mem_join_iff id id _ key).mpr (.inl hmem))
    rw [AList.lookup_insert] at hrecord
    cases hrecord
    exact hgroup
  . intro hstays
    constructor
    . intro key id' hmem
      by_cases heq : id' = id
      . subst heq
        refine ⟨record, AList.lookup_insert _, ?_⟩
        obtain hold | ⟨hjoined, _⟩ := (mem_join_iff id' id' _ key).mp hmem
        . exact hstays key hold
        . exact hjoined
      . obtain hold | ⟨_, hid⟩ := (mem_join_iff id id' _ key).mp hmem
        . rw [AList.lookup_insert_ne heq]
          exact h.sound key id' hold
        . exact absurd hid heq
    . intro id' record' key hrecord hgroup
      by_cases heq : id' = id
      . subst heq
        rw [AList.lookup_insert] at hrecord
        cases hrecord
        rw [hgroup]
        apply count_join_self
        intro hmem
        obtain ⟨old, hold, hgroup'⟩ := h.sound key id' hmem
        exact h.once id' old key hold hgroup'
      . rw [AList.lookup_insert_ne heq] at hrecord
        rw [count_join_of_ne heq]
        exact h.once id' record' key hrecord hgroup

theorem lists_keep_iff (h : Lists group lists records) (p : ι → ρ → Bool)
    : Lists group lists (Rows.keep p records)
        ↔ ∀ id record, records.lookup id = some record → (group record).isSome
          → p id record = true := by
  have hkept : ∀ id record, (Rows.keep p records).lookup id = some record
      ↔ records.lookup id = some record ∧ p id record = true := by
    intro id record
    rw [Rows.lookup_keep, Option.filter_eq_some_iff]
  constructor
  . intro hlists id record hrecord hgroup
    obtain ⟨key, hkey⟩ := Option.isSome_iff_exists.mp hgroup
    have hcount := h.once id record key hrecord hkey
    have hmem : id ∈ members lists key := List.count_pos_iff.mp (by omega)
    obtain ⟨record', hrecord', _⟩ := hlists.sound key id hmem
    obtain ⟨hsame, hp⟩ := (hkept id record').mp hrecord'
    cases hrecord.symm.trans hsame
    exact hp
  . intro hp
    constructor
    . intro key id hmem
      obtain ⟨record, hrecord, hgroup⟩ := h.sound key id hmem
      refine ⟨record, (hkept id record).mpr ⟨hrecord, ?_⟩, hgroup⟩
      exact hp id record hrecord (Option.isSome_iff_exists.mpr ⟨key, hgroup⟩)
    . intro id record key hrecord hgroup
      exact h.once id record key ((hkept id record).mp hrecord).1 hgroup

end Lists

/-- Every value is the one of a record that has an entry under its key. -/
def Backed (entry : ρ → Option (κ × ν)) (values : AList (fun _ : κ => ν))
    (records : AList (fun _ : ι => ρ))
    : Prop :=
  ∀ key value, values.lookup key = some value
    → ∃ id record, records.lookup id = some record ∧ entry record = some (key, value)

section Backed

variable {entry : ρ → Option (κ × ν)} {values : AList (fun _ : κ => ν)}
variable {records : AList (fun _ : ι => ρ)}

theorem backed_enter_iff (id : ι) (record : ρ)
    : Backed entry (Rows.enter entry record values) (records.insert id record)
        ↔ ∀ key value, values.lookup key = some value → (∀ value', entry record ≠ some (key, value'))
          → ∃ id' record', id' ≠ id ∧ records.lookup id' = some record'
            ∧ entry record' = some (key, value) := by
  have hlookup : ∀ key, (∀ value', entry record ≠ some (key, value'))
      → (Rows.enter entry record values).lookup key = values.lookup key := by
    intro key hother
    unfold Rows.enter
    cases hentry : entry record with
    | none => rfl
    | some e =>
      apply AList.lookup_insert_ne
      rintro rfl
      exact hother e.2 hentry
  constructor
  . intro hbacked key value hkey hother
    obtain ⟨id', record', hrecord, hentry⟩ :=
      hbacked key value ((hlookup key hother).trans hkey)
    by_cases heq : id' = id
    . subst heq
      rw [AList.lookup_insert] at hrecord
      cases hrecord
      exact absurd hentry (hother value)
    . exact ⟨id', record', heq, (AList.lookup_insert_ne heq).symm.trans hrecord, hentry⟩
  . intro hothers key value hkey
    by_cases hother : ∀ value', entry record ≠ some (key, value')
    . obtain ⟨id', record', hne, hrecord, hentry⟩ :=
        hothers key value ((hlookup key hother).symm.trans hkey) hother
      exact ⟨id', record', (AList.lookup_insert_ne hne).trans hrecord, hentry⟩
    . obtain ⟨value', hentry⟩ := not_forall_not.mp hother
      have hvalue : (Rows.enter entry record values).lookup key = some value' := by
        unfold Rows.enter
        rw [hentry]
        exact AList.lookup_insert _
      cases hkey.symm.trans hvalue
      exact ⟨id, record, AList.lookup_insert _, hentry⟩

theorem backed_keep_iff (p : ι → ρ → Bool)
    : Backed entry values (Rows.keep p records)
        ↔ ∀ key value, values.lookup key = some value
          → ∃ id record, records.lookup id = some record ∧ p id record = true
            ∧ entry record = some (key, value) := by
  unfold Backed
  simp only [Rows.lookup_keep, Option.filter_eq_some_iff, and_assoc]

end Backed

end Index
