import Mathlib.Algebra.GroupWithZero.Nat
import AnimaAgent.Library.Buckets
import AnimaAgent.Library.IndexMap

namespace AnimaAgent

structure HistogramValue where
  buckets : List UInt64
  counts : List UInt64
  sum : UInt64
  count : UInt64
  deriving DecidableEq

structure SummaryValue (F : Type) where
  count : UInt64
  sum : F

structure MetricsSnapshot (F : Type) where
  counters : IndexMap String UInt64
  gauges : IndexMap String Int64
  histograms : IndexMap String HistogramValue
  summaries : IndexMap String (SummaryValue F)

structure MetricsCollector (F : Type) extends MetricsSnapshot F where
  metricPrefix : String

namespace HistogramValue

def new (buckets : List UInt64) : HistogramValue where
  buckets := buckets
  counts := List.replicate (buckets.length + 1) 0
  sum := 0
  count := 0

variable (histogram : HistogramValue)

def record (value : UInt64) : HistogramValue :=
  let counts :=
    if histogram.counts.isEmpty then
      List.replicate (histogram.buckets.length + 1) 0
    else
      histogram.counts
  let bucketIdx := histogram.buckets.findIdx (fun bucket => decide (value ≤ bucket))
  let counts :=
    if counts.length ≤ bucketIdx then
      counts ++ List.replicate (bucketIdx + 1 - counts.length) 0
    else
      counts
  { histogram with
    counts := counts.modify bucketIdx (· + 1)
    sum := histogram.sum + value
    count := histogram.count + 1 }

def bucketRows (counts : List UInt64) (idx : Nat) (cumulative : UInt64)
    : List UInt64 → List (String × UInt64)
  | [] => [("+Inf", cumulative + counts.getLast?.getD 0)]
  | bucket :: rest =>
    let cumulative := cumulative + counts[idx]?.getD 0
    (toString bucket, cumulative) :: bucketRows counts (idx + 1) cumulative rest

def rows : List (String × UInt64) :=
  bucketRows histogram.counts 0 0 histogram.buckets

def render (metric : String) : List String :=
  ["# TYPE " ++ metric ++ " histogram"]
    ++ histogram.rows.map (fun row =>
      metric ++ "_bucket\x7ble=\"" ++ row.1 ++ "\"\x7d " ++ toString row.2)
    ++ [metric ++ "_sum " ++ toString histogram.sum, metric ++ "_count " ++ toString histogram.count]

end HistogramValue

namespace MetricsCollector

variable {F : Type}

def new (metricPrefix : Option String) : MetricsCollector F where
  metricPrefix := metricPrefix.getD "anima"
  counters := .empty
  gauges := .empty
  histograms := .empty
  summaries := .empty

variable (collector : MetricsCollector F)

def registerAgentMetrics : MetricsCollector F :=
  { collector with
    counters := [
      "messages_received", "messages_processed", "messages_failed", "tasks_submitted",
      "tasks_completed", "tasks_failed", "cache_hits", "cache_misses", "cache_evictions",
      "workers_tasks_total", "bus_inbound_dropped_total", "bus_outbound_dropped_total",
      "bus_internal_dropped_total", "bus_control_dropped_total"].foldl
        (fun counters key => counters.orInsert key 0) collector.counters
    gauges := [
      "sessions_active", "workers_active", "workers_idle", "bus_inbound_queue_depth",
      "bus_outbound_queue_depth", "bus_internal_queue_depth", "bus_control_queue_depth"].foldl
        (fun gauges key => gauges.orInsert key 0) collector.gauges
    histograms :=
      (collector.histograms.orInsert "message_latency"
          (.new [10, 50, 100, 250, 500, 1000, 2500, 5000])).orInsert "task_duration"
        (.new [100, 500, 1000, 5000, 10000, 30000, 60000]) }

def histogramRecord (name : String) (value : UInt64) : MetricsCollector F :=
  let histogram := (collector.histograms.get name).getD (.new [])
  { collector with histograms := collector.histograms.insert name (histogram.record value) }

def snapshot (readings : List (String × Int64)) : MetricsSnapshot F :=
  { collector.toMetricsSnapshot with
    gauges := readings.foldl (fun gauges reading => gauges.insert reading.1 reading.2)
      collector.gauges }

variable [ToString F]

def renderLines (readings : List (String × Int64)) : List String :=
  let snapshot := collector.snapshot readings
  let metric (name : String) := collector.metricPrefix ++ "_" ++ name
  snapshot.counters.entries.flatMap (fun entry =>
      ["# TYPE " ++ metric entry.1 ++ " counter", metric entry.1 ++ " " ++ toString entry.2])
    ++ snapshot.gauges.entries.flatMap (fun entry =>
      ["# TYPE " ++ metric entry.1 ++ " gauge", metric entry.1 ++ " " ++ toString entry.2])
    ++ snapshot.histograms.entries.flatMap (fun entry => entry.2.render (metric entry.1))
    ++ snapshot.summaries.entries.flatMap (fun entry =>
      ["# TYPE " ++ metric entry.1 ++ " summary",
        metric entry.1 ++ "_sum " ++ toString entry.2.sum,
        metric entry.1 ++ "_count " ++ toString entry.2.count])

def renderPrometheus (readings : List (String × Int64)) : String :=
  "\n".intercalate (collector.renderLines readings)

end MetricsCollector

namespace HistogramValue

structure Unused (histogram : HistogramValue) (bounds : List UInt64) : Prop where
  buckets_eq : histogram.buckets = bounds
  counts_eq : histogram.counts = [] ∨ histogram.counts = List.replicate (bounds.length + 1) 0
  sum_eq : histogram.sum = 0
  count_eq : histogram.count = 0

def bucketCounts (bounds values : List UInt64) : List UInt64 :=
  (List.range (bounds.length + 1)).map (fun i => UInt64.ofNat (Buckets.count bounds values i))

structure Records (histogram : HistogramValue) (bounds values : List UInt64) : Prop where
  buckets_eq : histogram.buckets = bounds
  counts_eq : (histogram.counts = [] ∧ values = []) ∨ histogram.counts = bucketCounts bounds values
  sum_eq : histogram.sum = UInt64.ofNat (values.map UInt64.toNat).sum
  count_eq : histogram.count = UInt64.ofNat values.length

/-- Every bucket says how many of the values do not exceed its bound. -/
structure Shows (histogram : HistogramValue) (values : List UInt64) : Prop where
  rows_eq : histogram.rows.map (fun row => (row.1, row.2.toNat))
    = histogram.buckets.map (fun bound => (toString bound, Buckets.countUpTo values bound))
      ++ [("+Inf", values.length)]
  monotone : (histogram.rows.map Prod.snd).Pairwise (· ≤ ·)
  total : histogram.rows.getLast? = some ("+Inf", histogram.count)

variable {histogram : HistogramValue} {bounds values : List UInt64}

theorem unused_new (bounds : List UInt64) : (new bounds).Unused bounds where
  buckets_eq := rfl
  counts_eq := .inr rfl
  sum_eq := rfl
  count_eq := rfl

theorem length_bucketCounts : (bucketCounts bounds values).length = bounds.length + 1 := by
  unfold bucketCounts
  rw [List.length_map, List.length_range]

theorem bucketCounts_nil : bucketCounts bounds [] = List.replicate (bounds.length + 1) 0 := by
  refine List.eq_replicate_iff.mpr ⟨length_bucketCounts, ?_⟩
  intro count hmem
  obtain ⟨i, -, rfl⟩ := List.mem_map.mp hmem
  rfl

theorem bucketCounts_ne_nil : bucketCounts bounds values ≠ [] := by
  refine List.ne_nil_of_length_pos ?_
  rw [length_bucketCounts]
  exact Nat.succ_pos _

theorem getElem?_bucketCounts {i : Nat} (hi : i ≤ bounds.length)
    : (bucketCounts bounds values)[i]? = some (UInt64.ofNat (Buckets.count bounds values i)) := by
  unfold bucketCounts
  rw [List.getElem?_map, List.getElem?_range (Nat.lt_succ_of_le hi), Option.map_some]

theorem bucketCounts_append (value : UInt64)
    : bucketCounts bounds (values ++ [value])
        = (bucketCounts bounds values).modify (Buckets.bucket bounds value) (· + 1) := by
  apply List.ext_getElem?
  intro i
  rw [List.getElem?_modify]
  by_cases hi : i ≤ bounds.length
  . rw [getElem?_bucketCounts hi, getElem?_bucketCounts hi, Buckets.count_append]
    by_cases hbucket : Buckets.bucket bounds value = i
    . simp [hbucket]
    . simp [hbucket]
  . have hnone : ∀ values, (bucketCounts bounds values)[i]? = none := by
      intro values
      rw [List.getElem?_eq_none_iff, length_bucketCounts]
      omega
    rw [hnone, hnone]
    rfl

theorem Unused.records (h : histogram.Unused bounds) : histogram.Records bounds [] where
  buckets_eq := h.buckets_eq
  counts_eq := by
    rw [bucketCounts_nil]
    exact h.counts_eq.imp_left (fun hempty => ⟨hempty, rfl⟩)
  sum_eq := h.sum_eq
  count_eq := h.count_eq

theorem Records.record (h : histogram.Records bounds values) (value : UInt64)
    : (histogram.record value).Records bounds (values ++ [value]) where
  buckets_eq := h.buckets_eq
  counts_eq := by
    have hcounts : (if histogram.counts.isEmpty then
        List.replicate (histogram.buckets.length + 1) 0 else histogram.counts)
          = bucketCounts bounds values := by
      obtain ⟨hempty, rfl⟩ | hcounts := h.counts_eq
      . rw [hempty, bucketCounts_nil, h.buckets_eq]
        rfl
      . rw [hcounts, if_neg]
        exact fun hempty => bucketCounts_ne_nil (List.isEmpty_iff.mp hempty)
    have hbucket : histogram.buckets.findIdx (fun bucket => decide (value ≤ bucket))
        = Buckets.bucket bounds value := by
      rw [h.buckets_eq]
      rfl
    have hle := @Buckets.bucket_le_length _ _ _ bounds value
    refine .inr ?_
    unfold HistogramValue.record
    dsimp only
    rw [hcounts, hbucket, bucketCounts_append, if_neg]
    rw [length_bucketCounts]
    omega
  sum_eq := by
    unfold HistogramValue.record
    rw [List.map_append, List.sum_append, UInt64.ofNat_add, ← h.sum_eq]
    simp
  count_eq := by
    unfold HistogramValue.record
    rw [List.length_append, UInt64.ofNat_add, ← h.count_eq]
    rfl

theorem bucketRows_bucketCounts (hbounds : bounds.Pairwise (· ≤ ·)) {idx : Nat}
    {rest : List UInt64} (hrest : bounds.drop idx = rest) (hidx : idx ≤ bounds.length)
    : bucketRows (bucketCounts bounds values) idx
          (UInt64.ofNat (Buckets.countBelow bounds values idx)) rest
        = rest.map (fun bound => (toString bound, UInt64.ofNat (Buckets.countUpTo values bound)))
          ++ [("+Inf", UInt64.ofNat values.length)] := by
  induction rest generalizing idx with
  | nil =>
    have hlast : idx = bounds.length :=
      Nat.le_antisymm hidx (List.drop_eq_nil_iff.mp hrest)
    unfold bucketRows
    rw [List.getLast?_eq_getElem?, length_bucketCounts, Nat.add_sub_cancel,
      getElem?_bucketCounts (Nat.le_refl _), Option.getD_some, hlast, ← UInt64.ofNat_add,
      ← Buckets.countBelow_succ, Buckets.countBelow_all]
    rfl
  | cons bucket rest ih =>
    have hlt : idx < bounds.length := by
      by_contra hnot
      rw [List.drop_eq_nil_of_le (Nat.le_of_not_lt hnot)] at hrest
      cases hrest
    rw [List.drop_eq_getElem_cons hlt] at hrest
    obtain ⟨rfl, htail⟩ := List.cons.inj hrest
    have hadded : UInt64.ofNat (Buckets.countBelow bounds values idx)
          + (bucketCounts bounds values)[idx]?.getD 0
        = UInt64.ofNat (Buckets.countBelow bounds values (idx + 1)) := by
      rw [getElem?_bucketCounts hidx, Option.getD_some, ← UInt64.ofNat_add,
        ← Buckets.countBelow_succ]
    unfold bucketRows
    dsimp only
    rw [hadded, ih htail hlt, Buckets.countBelow_succ_eq hbounds hlt]
    rfl

theorem bucketRows_nil (n idx : Nat) (cumulative : UInt64) (buckets : List UInt64)
    : bucketRows [] idx cumulative buckets
        = bucketRows (List.replicate n 0) idx cumulative buckets := by
  induction buckets generalizing idx cumulative with
  | nil =>
    unfold bucketRows
    rw [List.getLast?_replicate]
    split <;> rfl
  | cons bucket rest ih =>
    have hzero : (List.replicate n (0 : UInt64))[idx]?.getD 0 = 0 := by
      rw [List.getElem?_replicate]
      split <;> rfl
    unfold bucketRows
    dsimp only
    rw [ih, hzero]
    rfl

theorem toNat_countUpTo (hnumber : values.length < 2 ^ 64) (bound : UInt64)
    : (UInt64.ofNat (Buckets.countUpTo values bound)).toNat = Buckets.countUpTo values bound := by
  have hle := Buckets.countUpTo_le_length values bound
  exact UInt64.toNat_ofNat_of_lt' (Nat.lt_of_le_of_lt hle hnumber)

theorem Records.rows_eq (h : histogram.Records bounds values) (hbounds : bounds.Pairwise (· ≤ ·))
    : histogram.rows
        = bounds.map (fun bound => (toString bound, UInt64.ofNat (Buckets.countUpTo values bound)))
          ++ [("+Inf", histogram.count)] := by
  have hrows : histogram.rows
      = bucketRows (bucketCounts bounds values) 0 (UInt64.ofNat 0) bounds := by
    unfold rows
    rw [h.buckets_eq]
    obtain ⟨hempty, rfl⟩ | hcounts := h.counts_eq
    . rw [hempty, bucketCounts_nil]
      exact bucketRows_nil _ _ _ _
    . rw [hcounts]
      rfl
  have hstart := @bucketRows_bucketCounts bounds values hbounds 0 bounds rfl (Nat.zero_le _)
  rw [Buckets.countBelow_zero] at hstart
  rw [hrows, hstart, h.count_eq]

theorem Shows.length_lt (h : histogram.Shows values) : values.length < 2 ^ 64 := by
  have hmem : ("+Inf", values.length) ∈ histogram.rows.map (fun row => (row.1, row.2.toNat)) := by
    rw [h.rows_eq]
    exact List.mem_append_right _ (List.mem_singleton_self _)
  obtain ⟨row, -, hrow⟩ := List.mem_map.mp hmem
  rw [← (Prod.mk.inj hrow).2]
  exact UInt64.toNat_lt row.2

theorem Records.shows (h : histogram.Records bounds values) (hbounds : bounds.Pairwise (· ≤ ·))
    (hnumber : values.length < 2 ^ 64)
    : histogram.Shows values where
  rows_eq := by
    rw [h.rows_eq hbounds, h.buckets_eq, h.count_eq, List.map_append, List.map_map]
    congr 1
    . apply List.map_congr_left
      intro bound _
      exact congrArg _ (toNat_countUpTo hnumber bound)
    . exact congrArg (fun n => [("+Inf", n)]) (UInt64.toNat_ofNat_of_lt' hnumber)
  monotone := by
    rw [h.rows_eq hbounds, List.map_append, List.map_map, List.pairwise_append]
    refine ⟨?_, List.pairwise_singleton .., ?_⟩
    . rw [List.pairwise_map]
      refine hbounds.imp ?_
      intro bound bound' hle
      change UInt64.ofNat _ ≤ UInt64.ofNat _
      rw [UInt64.le_iff_toNat_le, toNat_countUpTo hnumber, toNat_countUpTo hnumber]
      exact Buckets.countUpTo_mono values hle
    . intro shown hshown total htotal
      obtain ⟨bound, -, rfl⟩ := List.mem_map.mp hshown
      rw [List.mem_singleton.mp htotal, h.count_eq]
      change UInt64.ofNat _ ≤ UInt64.ofNat _
      rw [UInt64.le_iff_toNat_le, toNat_countUpTo hnumber, UInt64.toNat_ofNat_of_lt' hnumber]
      exact Buckets.countUpTo_le_length values bound
  total := by
    rw [h.rows_eq hbounds]
    exact List.getLast?_concat ..

end HistogramValue

namespace MetricsCollector

variable {F : Type} {collector : MetricsCollector F} {name : String}

def recordAll (collector : MetricsCollector F) (recordings : List (String × UInt64))
    : MetricsCollector F :=
  recordings.foldl (fun collector recording => collector.histogramRecord recording.1 recording.2)
    collector

def valuesOf (name : String) (recordings : List (String × UInt64)) : List UInt64 :=
  (recordings.filter (fun recording => decide (recording.1 = name))).map Prod.snd

theorem valuesOf_cons (recording : String × UInt64) (rest : List (String × UInt64))
    : valuesOf name (recording :: rest)
        = if recording.1 = name then recording.2 :: valuesOf name rest else valuesOf name rest := by
  unfold valuesOf
  rw [List.filter_cons]
  by_cases hname : recording.1 = name
  . rw [if_pos hname, if_pos (decide_eq_true hname), List.map_cons]
  . rw [if_neg hname, if_neg (fun h => hname (of_decide_eq_true h))]

def histogram (collector : MetricsCollector F) (name : String) : HistogramValue :=
  (collector.histograms.get name).getD (.new [])

theorem histogram_histogramRecord (other : String) (value : UInt64)
    : (collector.histogramRecord other value).histogram name
        = if other = name then (collector.histogram name).record value
          else collector.histogram name := by
  unfold histogram histogramRecord
  dsimp only
  rw [IndexMap.get_insert_eq]
  by_cases hname : name = other
  . simp [hname]
  . have hne : other ≠ name := fun h => hname h.symm
    simp [hname, hne]

theorem records_recordAll {bounds values : List UInt64}
    (h : (collector.histogram name).Records bounds values) (recordings : List (String × UInt64))
    : ((collector.recordAll recordings).histogram name).Records bounds
        (values ++ valuesOf name recordings) := by
  induction recordings generalizing collector values with
  | nil =>
    rw [show valuesOf name [] = [] from rfl, List.append_nil]
    exact h
  | cons recording rest ih =>
    have hstep := @histogram_histogramRecord F collector name recording.1 recording.2
    rw [valuesOf_cons]
    by_cases hname : recording.1 = name
    . rw [if_pos hname] at hstep ⊢
      rw [List.append_cons]
      exact ih (hstep ▸ h.record recording.2)
    . rw [if_neg hname] at hstep ⊢
      exact ih (hstep ▸ h)

theorem isSome_recordAll {recordings : List (String × UInt64)}
    (h : (collector.histograms.get name).isSome ∨ valuesOf name recordings ≠ [])
    : ((collector.recordAll recordings).histograms.get name).isSome := by
  induction recordings generalizing collector with
  | nil => exact h.resolve_right (fun hne => hne rfl)
  | cons recording rest ih =>
    refine @ih (collector.histogramRecord recording.1 recording.2) ?_
    unfold histogramRecord
    dsimp only
    rw [IndexMap.get_insert_eq]
    rw [valuesOf_cons] at h
    by_cases hname : recording.1 = name
    . rw [if_pos hname.symm]
      exact .inl rfl
    . rw [if_neg (fun heq => hname heq.symm)]
      rw [if_neg hname] at h
      exact h

theorem render_infix_renderLines [ToString F] {histogram : HistogramValue}
    (h : collector.histograms.get name = some histogram) (readings : List (String × Int64))
    : histogram.render (collector.metricPrefix ++ "_" ++ name) <:+: collector.renderLines readings := by
  have hmem : (name, histogram) ∈ collector.histograms.entries := IndexMap.get_eq_some_iff.mp h
  have hlines : histogram.render (collector.metricPrefix ++ "_" ++ name)
      <:+: collector.histograms.entries.flatMap (fun entry =>
        entry.2.render (collector.metricPrefix ++ "_" ++ entry.1)) := by
    rw [List.flatMap_def]
    exact List.infix_of_mem_flatten (List.mem_map.mpr ⟨_, hmem, rfl⟩)
  unfold renderLines
  exact hlines.trans (List.infix_append _ _ _)

theorem recordAll_shows [ToString F] (collector : MetricsCollector F) (name : String)
    {bounds : List UInt64} (hunused : (collector.histogram name).Unused bounds)
    (hbounds : bounds.Pairwise (· < ·)) (recordings : List (String × UInt64))
    (hknown : (collector.histograms.get name).isSome ∨ valuesOf name recordings ≠ [])
    (hnumber : (valuesOf name recordings).length < 2 ^ 64)
    (hsum : ((valuesOf name recordings).map UInt64.toNat).sum < 2 ^ 64)
    (readings : List (String × Int64))
    : let after := collector.recordAll recordings
      ∃ recorded, after.histograms.get name = some recorded
        ∧ recorded.render (after.metricPrefix ++ "_" ++ name) <:+: after.renderLines readings
        ∧ recorded.buckets = bounds
        ∧ recorded.Shows (valuesOf name recordings)
        ∧ recorded.sum.toNat = ((valuesOf name recordings).map UInt64.toNat).sum := by
  obtain ⟨recorded, hrecorded⟩ := Option.isSome_iff_exists.mp (isSome_recordAll hknown)
  have hrecords := records_recordAll hunused.records recordings
  unfold histogram at hrecords
  rw [hrecorded, Option.getD_some, List.nil_append] at hrecords
  refine ⟨recorded, hrecorded, render_infix_renderLines hrecorded readings, hrecords.buckets_eq,
    hrecords.shows (hbounds.imp UInt64.le_of_lt) hnumber, ?_⟩
  rw [hrecords.sum_eq]
  exact UInt64.toNat_ofNat_of_lt' hsum

theorem get_registerAgentMetrics (collector : MetricsCollector F) (name : String)
    : collector.registerAgentMetrics.histograms.get name
        = ((collector.histograms.get name).or
          (if name = "message_latency" then
            some (.new [10, 50, 100, 250, 500, 1000, 2500, 5000])
          else
            none)).or
          (if name = "task_duration" then
            some (.new [100, 500, 1000, 5000, 10000, 30000, 60000])
          else
            none) := by
  unfold registerAgentMetrics
  dsimp only
  rw [IndexMap.get_orInsert, IndexMap.get_orInsert]

theorem unused_registerAgentMetrics (metricPrefix : Option String) (name : String)
    : ∃ bounds : List UInt64, bounds.Pairwise (· < ·)
        ∧ (((new metricPrefix : MetricsCollector F).registerAgentMetrics).histogram name).Unused
          bounds := by
  unfold histogram
  rw [get_registerAgentMetrics, show (new metricPrefix : MetricsCollector F).histograms.get name
    = none from rfl, Option.none_or]
  by_cases hlatency : name = "message_latency"
  . rw [if_pos hlatency]
    exact ⟨_, by decide, HistogramValue.unused_new _⟩
  . rw [if_neg hlatency, Option.none_or]
    by_cases hduration : name = "task_duration"
    . rw [if_pos hduration]
      exact ⟨_, by decide, HistogramValue.unused_new _⟩
    . rw [if_neg hduration]
      exact ⟨[], .nil, HistogramValue.unused_new _⟩

def registered : MetricsCollector Nat :=
  (new none).registerAgentMetrics

theorem unused_latency
    : (registered.histogram "message_latency").Unused [10, 50, 100, 250, 500, 1000, 2500, 5000] := by
  exact HistogramValue.unused_new _

def fourRecordings : List (String × UInt64) :=
  [("message_latency", 10), ("queue_wait", 7), ("message_latency", 120), ("message_latency", 9000)]

theorem recordAll_shows_fourRecordings
    : ∃ recorded, (registered.recordAll fourRecordings).histograms.get "message_latency" = some recorded
        ∧ recorded.Shows [10, 120, 9000] ∧ recorded.sum.toNat = 9130 := by
  obtain ⟨recorded, hrecorded, -, -, hshows, hsum⟩ := recordAll_shows registered "message_latency"
    unused_latency (by decide) fourRecordings (.inr (by decide)) (by decide) (by decide) []
  exact ⟨recorded, hrecorded, hshows, hsum⟩

def zeroRecordings (n : Nat) : List (String × UInt64) :=
  List.replicate n ("message_latency", 0)

theorem valuesOf_zeroRecordings (n : Nat)
    : valuesOf "message_latency" (zeroRecordings n) = List.replicate n 0 := by
  unfold valuesOf zeroRecordings
  rw [List.filter_replicate_of_pos (by simp), List.map_replicate]

/-- The sum of so many latencies of zero does not overflow, but their number does. -/
theorem zeroRecordings_not_shows
    : let values := valuesOf "message_latency" (zeroRecordings (2 ^ 64))
      (values.map UInt64.toNat).sum < 2 ^ 64
        ∧ ∃ recorded, (registered.recordAll (zeroRecordings (2 ^ 64))).histograms.get
            "message_latency" = some recorded
          ∧ recorded.rows.head? = some (toString (10 : UInt64), 0)
          ∧ Buckets.countUpTo values 10 = 2 ^ 64
          ∧ ¬recorded.Shows values := by
  have hcount : Buckets.countUpTo (List.replicate (2 ^ 64) (0 : UInt64)) 10 = 2 ^ 64 := by
    unfold Buckets.countUpTo
    rw [List.countP_replicate, if_pos (by decide)]
  have hrecords := records_recordAll unused_latency.records (zeroRecordings (2 ^ 64))
  obtain ⟨recorded, hrecorded⟩ := Option.isSome_iff_exists.mp
    (@isSome_recordAll Nat registered "message_latency" (zeroRecordings (2 ^ 64)) (.inl rfl))
  unfold histogram at hrecords
  rw [hrecorded, Option.getD_some, List.nil_append, valuesOf_zeroRecordings] at hrecords
  dsimp only
  rw [valuesOf_zeroRecordings]
  refine ⟨?_, recorded, hrecorded, ?_, hcount, ?_⟩
  . rw [List.map_replicate, List.sum_replicate_nat]
    decide
  . rw [hrecords.rows_eq (by decide), List.map_cons, hcount]
    rfl
  . intro hshows
    have hlt := hshows.length_lt
    rw [List.length_replicate] at hlt
    exact Nat.lt_irrefl _ hlt

end MetricsCollector

end AnimaAgent
