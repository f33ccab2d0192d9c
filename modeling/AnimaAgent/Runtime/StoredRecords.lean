import AnimaAgent.Runtime.StateStore

namespace AnimaAgent

def SerdeJson.ReadsBack (serde : SerdeJson) (value : Value) : Prop :=
  serde.fromStr (serde.toString value) = .ok value

def ReadsBack {ρ : Type} (serde : SerdeJson) (toValue : ρ → Value) (fromValue : Value → Option ρ)
    (record : ρ)
    : Prop :=
  serde.ReadsBack (toValue record) ∧ fromValue (toValue record) = some record

structure HoldsTable {ρ : Type} (serde : SerdeJson) (id : ρ → String) (toValue : ρ → Value)
    (fromValue : Value → Option ρ) (rows : List Row) (records : List ρ) : Prop where
  rows_eq : rows = records.map (encodeRow serde id toValue)
  readsBack : ∀ record ∈ records, ReadsBack serde toValue fromValue record
  nodup : (records.map id).Nodup

section Table

variable {ρ : Type} {serde : SerdeJson} {id : ρ → String} {toValue : ρ → Value}
  {fromValue : Value → Option ρ} {rows : List Row} {records : List ρ} {record : ρ}

theorem ReadsBack.parseData_encodeRow (h : ReadsBack serde toValue fromValue record)
    : parseData serde (encodeRow serde id toValue record).2 = some (toValue record) := by
  unfold parseData encodeRow
  rw [h.1]

theorem ReadsBack.decodeRow_encodeRow (h : ReadsBack serde toValue fromValue record)
    : decodeRow serde fromValue (encodeRow serde id toValue record) = some record := by
  unfold decodeRow
  rw [h.parseData_encodeRow]
  exact h.2

namespace HoldsTable

theorem nil : HoldsTable serde id toValue fromValue [] [] := by
  exact ⟨rfl, nofun, List.nodup_nil⟩

theorem upsert (h : HoldsTable serde id toValue fromValue rows records)
    (hrecord : ReadsBack serde toValue fromValue record)
    : HoldsTable serde id toValue fromValue
        (Rows.upsert Prod.fst (encodeRow serde id toValue record) rows)
        (Rows.upsert id record records) := by
  refine ⟨?_, ?_, Rows.nodup_upsert record h.nodup⟩
  . rw [h.rows_eq]
    exact Rows.map_upsert (encodeRow serde id toValue) record records
  . intro record' hmem
    obtain hmem | rfl := Rows.mem_upsert hmem
    . exact h.readsBack record' hmem
    . exact hrecord

theorem append (h : HoldsTable serde id toValue fromValue rows records)
    (hrecord : ReadsBack serde toValue fromValue record) {rows' : List Row}
    (happend : Rows.append Prod.fst (encodeRow serde id toValue record) rows = some rows')
    : HoldsTable serde id toValue fromValue rows' (records ++ [record]) := by
  rw [h.rows_eq, Rows.map_append, Option.map_eq_some_iff] at happend
  obtain ⟨records', happend, rfl⟩ := happend
  have hnodup := Rows.nodup_append h.nodup happend
  unfold Rows.append at happend
  split at happend
  . cases happend
  . cases happend
    refine ⟨rfl, ?_, hnodup⟩
    intro record' hmem
    obtain hmem | hmem := List.mem_append.mp hmem
    . exact h.readsBack record' hmem
    . rw [List.mem_singleton.mp hmem]
      exact hrecord

theorem filter (h : HoldsTable serde id toValue fromValue rows records) {p : ρ → Bool}
    {rows' : List Row} (hrows : rows' = (records.filter p).map (encodeRow serde id toValue))
    : HoldsTable serde id toValue fromValue rows' (records.filter p) := by
  refine ⟨hrows, ?_, h.nodup.sublist (List.filter_sublist.map id)⟩
  exact fun record hmem => h.readsBack record (List.mem_of_mem_filter hmem)

theorem deleteAll (h : HoldsTable serde id toValue fromValue rows records) (ids : List String)
    : HoldsTable serde id toValue fromValue (Rows.deleteAll Prod.fst ids rows)
        (records.filter (fun record => decide (id record ∉ ids))) := by
  apply h.filter
  unfold Rows.deleteAll
  rw [h.rows_eq, List.filter_map]
  rfl

theorem deleteRunRows (h : HoldsTable serde id toValue fromValue rows records)
    (runId : ρ → String)
    (hrun : ∀ record, (toValue record).get "run_id" = some (.string (runId record)))
    (runIds : List String)
    : HoldsTable serde id toValue fromValue (SqliteStore.deleteRunRows serde runIds rows)
        (records.filter (fun record => decide (runId record ∉ runIds))) := by
  apply h.filter
  unfold SqliteStore.deleteRunRows Rows.deleteAll
  rw [h.rows_eq, List.filter_map, List.filter_map, List.map_map]
  apply congrArg
  apply List.filter_congr
  intro record hmem
  have hrowRun : ∀ record ∈ records,
      rowRunId serde (encodeRow serde id toValue record) = some (runId record) := by
    intro record hmem
    unfold rowRunId
    rw [(h.readsBack record hmem).parseData_encodeRow, Option.bind_some, hrun]
    rfl
  apply decide_eq_decide.mpr
  apply not_congr
  constructor
  . intro hdeleted
    obtain ⟨record', hmem', hid⟩ := List.mem_map.mp hdeleted
    obtain ⟨hmem', hrow⟩ := List.mem_filter.mp hmem'
    -- the identifiers are unique, so that it is the row of the record itself
    have hsame : record' = record := List.inj_on_of_nodup_map h.nodup hmem' hmem hid
    subst hsame
    simp only [Function.comp_apply] at hrow
    rw [hrowRun record' hmem', Option.any_some] at hrow
    exact of_decide_eq_true hrow
  . intro hdeleted
    refine List.mem_map.mpr ⟨record, List.mem_filter.mpr ⟨hmem, ?_⟩, rfl⟩
    simp only [Function.comp_apply]
    rw [hrowRun record hmem, Option.any_some]
    exact decide_eq_true hdeleted

theorem decoded (h : HoldsTable serde id toValue fromValue rows records)
    : rows.filterMap (decodeRow serde fromValue) = records := by
  rw [h.rows_eq, List.filterMap_map]
  have hdecode : ∀ record ∈ records,
      (decodeRow serde fromValue ∘ encodeRow serde id toValue) record = some record :=
    fun record hmem => (h.readsBack record hmem).decodeRow_encodeRow
  rw [List.filterMap_congr hdecode, List.filterMap_some]

variable {ι ν : Type} [DecidableEq ι]

theorem lookup_index (h : HoldsTable serde id toValue fromValue rows records)
    (entry : String → ρ → Option (ι × ν)) (i : ι)
    : (Rows.index (fun row => (decodeRow serde fromValue row).bind (entry row.1)) rows).lookup i
        = Rows.last (fun record => entry (id record) record) records i := by
  rw [Rows.lookup_index, h.rows_eq, Rows.last_map]
  apply Rows.last_congr
  intro record hmem
  rw [(h.readsBack record hmem).decodeRow_encodeRow]
  rfl

theorem lookup_groups (h : HoldsTable serde id toValue fromValue rows records)
    (entry : String → ρ → Option (ι × ν)) (i : ι)
    : (Rows.groups (fun row => (decodeRow serde fromValue row).bind (entry row.1)) rows).lookup i
        = (Rows.groups (fun record => entry (id record) record) records).lookup i := by
  have hgroup : Rows.group (fun row => (decodeRow serde fromValue row).bind (entry row.1)) rows i
      = Rows.group (fun record => entry (id record) record) records i := by
    rw [h.rows_eq, Rows.group_map]
    apply Rows.group_congr
    intro record hmem
    rw [(h.readsBack record hmem).decodeRow_encodeRow]
    rfl
  rw [Rows.lookup_groups, Rows.lookup_groups, hgroup]

end HoldsTable

end Table

end AnimaAgent
