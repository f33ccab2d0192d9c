import AnimaAgent.Streaming.Lemmas.Executor

namespace AnimaAgent

namespace StreamAccumulator

section Model

variable (serde : SerdeJson)

def drainLoop (tools : AList (fun _ : Nat => ToolAccState)) (indexed : List (Nat × ParsedToolUse))
    : List Nat
      → Except String (List (Nat × ParsedToolUse)) × AList (fun _ : Nat => ToolAccState)
  | [] => (.ok indexed, tools)
  | idx :: indices =>
    match tools.lookup idx with
    | some state =>
      if state.complete then
        -- The tool is removed before its input is read.
        match readyTool serde state with
        | .ok tool => drainLoop (tools.erase idx) (indexed ++ [(idx, tool)]) indices
        | .error e => (.error e, tools.erase idx)
      else
        drainLoop tools indexed indices
    | none => drainLoop tools indexed indices

def drainReadyIn (indices : List Nat) (acc : StreamAccumulator)
    : Except String (List ParsedToolUse) × StreamAccumulator :=
  let (indexed, tools) := drainLoop serde acc.tools [] indices
  (indexed.map (fun indexed => (sortByIndex indexed).map Prod.snd), { acc with tools })

def Ready (acc : StreamAccumulator) (index : Nat) : Prop :=
  ∃ state, acc.tools.lookup index = some state ∧ state.complete = true

def Malformed (acc : StreamAccumulator) (index : Nat) : Prop :=
  ∃ state, acc.tools.lookup index = some state ∧ state.complete = true ∧ ¬state.WellFormed serde

def MalformedOnce (acc : StreamAccumulator) : Prop :=
  ∀ i j, acc.Malformed serde i → acc.Malformed serde j → j = i

def MalformedAlone (acc : StreamAccumulator) : Prop :=
  ∀ i j, acc.Malformed serde i → acc.Ready j → j = i

end Model

variable {serde : SerdeJson}

def readyEntries (tools : AList (fun _ : Nat => ToolAccState)) (indices : List Nat)
    : List (Sigma (fun _ : Nat => ToolAccState)) :=
  indices.filterMap (fun index =>
    ((tools.lookup index).filter ToolAccState.complete).map (fun state => ⟨index, state⟩))

section ReadyEntries

variable {tools : AList (fun _ : Nat => ToolAccState)} {indices : List Nat}

theorem mem_readyEntries {entry : Sigma (fun _ : Nat => ToolAccState)}
    : entry ∈ readyEntries tools indices
        ↔ entry.1 ∈ indices ∧ tools.lookup entry.1 = some entry.2
          ∧ entry.2.complete = true := by
  unfold readyEntries
  rw [List.mem_filterMap]
  constructor
  . rintro ⟨index, hmem, hentry⟩
    obtain ⟨state, hstate, rfl⟩ := Option.map_eq_some_iff.mp hentry
    obtain ⟨hlookup, hcomplete⟩ := Option.filter_eq_some_iff.mp hstate
    exact ⟨hmem, hlookup, hcomplete⟩
  . rintro ⟨hmem, hlookup, hcomplete⟩
    refine ⟨entry.1, hmem, Option.map_eq_some_iff.mpr ⟨entry.2, ?_, rfl⟩⟩
    exact Option.filter_eq_some_iff.mpr ⟨hlookup, hcomplete⟩

theorem readyEntries_erase {index : Nat} (h : index ∉ indices)
    : readyEntries (tools.erase index) indices = readyEntries tools indices := by
  apply List.filterMap_congr
  intro index' hmem
  rw [AList.lookup_erase_ne (ne_of_mem_of_not_mem hmem h)]

theorem nodup_readyEntries (h : indices.Nodup) : (readyEntries tools indices).Nodup := by
  apply h.filterMap
  intro index index' entry hentry hentry'
  obtain ⟨state, _, rfl⟩ := Option.map_eq_some_iff.mp hentry
  obtain ⟨state', _, hstate'⟩ := Option.map_eq_some_iff.mp hentry'
  exact (congrArg Sigma.fst hstate').symm

end ReadyEntries

theorem fst_drainLoop {indices : List Nat} (h : indices.Nodup)
    (tools : AList (fun _ : Nat => ToolAccState)) (indexed : List (Nat × ParsedToolUse))
    : (drainLoop serde tools indexed indices).1
        = ((readyEntries tools indices).mapM (readyEntry serde)).map (fun xs => indexed ++ xs) := by
  induction indices generalizing tools indexed with
  | nil => exact congrArg Except.ok (List.append_nil indexed).symm
  | cons idx indices ih =>
    obtain ⟨hidx, hindices⟩ := List.nodup_cons.mp h
    rw [drainLoop]
    unfold readyEntries
    rw [List.filterMap_cons]
    cases hlookup : tools.lookup idx with
    | none => exact ih hindices tools indexed
    | some state =>
      dsimp only
      by_cases hcomplete : state.complete = true
      . rw [if_pos hcomplete, Option.filter_some, if_pos hcomplete]
        change _ = ((⟨idx, state⟩ :: readyEntries tools indices).mapM (readyEntry serde)).map _
        rw [List.mapM_cons]
        cases htool : readyTool serde state with
        | ok tool =>
          have hentry : readyEntry serde ⟨idx, state⟩ = .ok (idx, tool) := by
            unfold readyEntry
            rw [htool]
            rfl
          dsimp only
          rw [ih hindices, readyEntries_erase hidx, hentry]
          cases (readyEntries tools indices).mapM (readyEntry serde) with
          | ok xs => exact congrArg Except.ok (List.append_assoc indexed [(idx, tool)] xs)
          | error e => rfl
        | error e =>
          have hentry : readyEntry serde ⟨idx, state⟩ = .error e := by
            unfold readyEntry
            rw [htool]
            rfl
          rw [hentry]
          rfl
      . rw [if_neg hcomplete, Option.filter_some, if_neg hcomplete]
        exact ih hindices tools indexed

theorem fst_drainReadyIn {indices : List Nat} (h : indices.Nodup) (acc : StreamAccumulator)
    : (drainReadyIn serde indices acc).1
        = ((readyEntries acc.tools indices).mapM (readyEntry serde)).map
          (fun indexed => (sortByIndex indexed).map Prod.snd) := by
  unfold drainReadyIn
  dsimp only
  rw [fst_drainLoop h]
  cases (readyEntries acc.tools indices).mapM (readyEntry serde) <;> rfl

section Result

variable {acc acc' : StreamAccumulator} {indices indices' : List Nat}

theorem readyTool_of_wellFormed {state : ToolAccState} (h : state.WellFormed serde)
    : readyTool serde state = .ok (state.parsed serde) := by
  obtain ⟨input, hinput⟩ := h
  unfold readyTool ToolAccState.parsed
  rw [hinput]
  rfl

theorem exists_readyTool_of_not_wellFormed {state : ToolAccState} (h : ¬state.WellFormed serde)
    : ∃ e, readyTool serde state = .error e := by
  unfold readyTool
  cases hinput : serde.fromStr state.jsonBuf with
  | ok input => exact absurd ⟨input, hinput⟩ h
  | error e => exact ⟨_, rfl⟩

theorem not_wellFormed_of_readyTool {state : ToolAccState} {e : String}
    (h : readyTool serde state = .error e)
    : ¬state.WellFormed serde := by
  intro hformed
  rw [readyTool_of_wellFormed hformed] at h
  cases h

theorem mem_indices_of_lookup (hindices : indices.Perm acc.tools.keys) {index : Nat}
    {state : ToolAccState} (h : acc.tools.lookup index = some state)
    : index ∈ indices := by
  apply hindices.mem_iff.mpr
  apply AList.mem_keys.mp
  apply AList.lookup_isSome.mp
  rw [h]
  rfl

theorem mem_readyEntries_of_perm (hindices : indices.Perm acc.tools.keys)
    {entry : Sigma (fun _ : Nat => ToolAccState)}
    : entry ∈ readyEntries acc.tools indices
        ↔ acc.tools.lookup entry.1 = some entry.2 ∧ entry.2.complete = true := by
  rw [mem_readyEntries]
  exact and_iff_right_of_imp (fun h => mem_indices_of_lookup hindices h.1)

def readTools (serde : SerdeJson) (tools : AList (fun _ : Nat => ToolAccState))
    (indices : List Nat)
    : List (Nat × ParsedToolUse) :=
  sortByIndex
    ((readyEntries tools indices).map (fun entry => (entry.1, entry.2.parsed serde)))

theorem mem_readTools (hindices : indices.Perm acc.tools.keys) {index : Nat}
    {tool : ParsedToolUse}
    : (index, tool) ∈ readTools serde acc.tools indices
        ↔ ∃ state, acc.tools.lookup index = some state ∧ state.complete = true
          ∧ state.parsed serde = tool := by
  unfold readTools sortByIndex
  rw [(List.perm_insertionSort _ _).mem_iff, List.mem_map]
  constructor
  . rintro ⟨entry, hmem, hentry⟩
    cases hentry
    obtain ⟨hlookup, hcomplete⟩ := (mem_readyEntries_of_perm hindices).mp hmem
    exact ⟨entry.2, hlookup, hcomplete, rfl⟩
  . rintro ⟨state, hlookup, hcomplete, rfl⟩
    exact ⟨⟨index, state⟩, (mem_readyEntries_of_perm hindices).mpr ⟨hlookup, hcomplete⟩, rfl⟩

theorem pairwise_ne_readyEntries (h : indices.Nodup) (tools : AList (fun _ : Nat => ToolAccState))
    : (readyEntries tools indices).Pairwise (fun a b => a.1 ≠ b.1) := by
  apply (nodup_readyEntries h).imp_of_mem
  intro a b ha hb hne hkey
  apply hne
  obtain ⟨_, ha, _⟩ := mem_readyEntries.mp ha
  obtain ⟨_, hb, _⟩ := mem_readyEntries.mp hb
  rw [hkey, hb] at ha
  exact Sigma.ext hkey (heq_of_eq (Option.some.inj ha).symm)

theorem pairwise_readTools (h : indices.Nodup) (tools : AList (fun _ : Nat => ToolAccState))
    : (readTools serde tools indices).Pairwise (fun a b => a.1 < b.1) := by
  have hne : (readTools serde tools indices).Pairwise (fun a b => a.1 ≠ b.1) := by
    unfold readTools sortByIndex
    apply (List.perm_insertionSort _ _).symm.pairwise
    . rw [List.pairwise_map]
      exact pairwise_ne_readyEntries h tools
    . exact fun hab => hab.symm
  exact (pairwise_sortByIndex _).imp₂ (fun _ _ hle hne => Nat.lt_of_le_of_ne hle hne) hne

theorem fst_drainReadyIn_of_wellFormed (hindices : indices.Perm acc.tools.keys)
    (h : ∀ index, ¬acc.Malformed serde index)
    : (drainReadyIn serde indices acc).1
        = .ok ((readTools serde acc.tools indices).map Prod.snd) := by
  have hentries : ∀ entry ∈ readyEntries acc.tools indices,
      readyEntry serde entry = .ok (entry.1, entry.2.parsed serde) := by
    intro entry hmem
    obtain ⟨hlookup, hcomplete⟩ := (mem_readyEntries_of_perm hindices).mp hmem
    have hformed : entry.2.WellFormed serde := by
      by_contra hformed
      exact h entry.1 ⟨entry.2, hlookup, hcomplete, hformed⟩
    unfold readyEntry
    rw [readyTool_of_wellFormed hformed]
    rfl
  rw [fst_drainReadyIn (hindices.nodup_iff.mpr acc.tools.keys_nodup),
    mapM_of_forall_ok hentries]
  rfl

theorem exists_of_mapM_error {ε α β : Type} {f : α → Except ε β} {xs : List α} {e : ε}
    (h : xs.mapM f = .error e)
    : ∃ x ∈ xs, f x = .error e := by
  induction xs with
  | nil => cases h
  | cons x xs ih =>
    rw [List.mapM_cons] at h
    cases hx : f x with
    | error e' =>
      rw [hx] at h
      cases h
      exact ⟨x, List.mem_cons_self .., hx⟩
    | ok y =>
      rw [hx] at h
      cases hxs : xs.mapM f with
      | error e' =>
        rw [hxs] at h
        cases h
        obtain ⟨x', hmem, hx'⟩ := ih hxs
        exact ⟨x', List.mem_cons_of_mem x hmem, hx'⟩
      | ok ys =>
        rw [hxs] at h
        cases h

theorem exists_of_drainReadyIn_error (hindices : indices.Perm acc.tools.keys) {e : String}
    (h : (drainReadyIn serde indices acc).1 = .error e)
    : ∃ index state, acc.tools.lookup index = some state ∧ state.complete = true
        ∧ readyTool serde state = .error e := by
  rw [fst_drainReadyIn (hindices.nodup_iff.mpr acc.tools.keys_nodup)] at h
  cases hread : (readyEntries acc.tools indices).mapM (readyEntry serde) with
  | ok indexed =>
    rw [hread] at h
    cases h
  | error e' =>
    rw [hread] at h
    cases h
    obtain ⟨entry, hmem, hentry⟩ := exists_of_mapM_error hread
    obtain ⟨hlookup, hcomplete⟩ := (mem_readyEntries_of_perm hindices).mp hmem
    refine ⟨entry.1, entry.2, hlookup, hcomplete, ?_⟩
    unfold readyEntry at hentry
    cases htool : readyTool serde entry.2 with
    | ok tool =>
      rw [htool] at hentry
      cases hentry
    | error e' =>
      rw [htool] at hentry
      cases hentry
      rfl

theorem exists_drainReadyIn_error (hindices : indices.Perm acc.tools.keys) {index : Nat}
    (h : acc.Malformed serde index)
    : ∃ e, (drainReadyIn serde indices acc).1 = .error e := by
  obtain ⟨state, hlookup, hcomplete, hformed⟩ := h
  obtain ⟨e, htool⟩ := exists_readyTool_of_not_wellFormed hformed
  have hentry : readyEntry serde ⟨index, state⟩ = .error e := by
    unfold readyEntry
    rw [htool]
    rfl
  have hmem : ⟨index, state⟩ ∈ readyEntries acc.tools indices :=
    (mem_readyEntries_of_perm hindices).mpr ⟨hlookup, hcomplete⟩
  obtain ⟨e', hread⟩ := mapM_of_error hmem hentry
  refine ⟨e', ?_⟩
  rw [fst_drainReadyIn (hindices.nodup_iff.mpr acc.tools.keys_nodup), hread]
  rfl

theorem fst_drainReadyIn_congr (hlookup : ∀ index, acc.tools.lookup index = acc'.tools.lookup index)
    (hindices : indices.Perm acc.tools.keys) (hindices' : indices'.Perm acc'.tools.keys)
    (honce : acc.MalformedOnce serde)
    : (drainReadyIn serde indices acc).1 = (drainReadyIn serde indices' acc').1 := by
  have hmalformed : ∀ index, acc.Malformed serde index ↔ acc'.Malformed serde index := by
    intro index
    unfold Malformed
    rw [hlookup]
  by_cases h : ∃ index, acc.Malformed serde index
  . obtain ⟨index, hindex⟩ := h
    obtain ⟨e, he⟩ := exists_drainReadyIn_error hindices hindex
    obtain ⟨e', he'⟩ := exists_drainReadyIn_error hindices' ((hmalformed index).mp hindex)
    obtain ⟨i, state, hi, hcomplete, htool⟩ := exists_of_drainReadyIn_error hindices he
    obtain ⟨j, state', hj, hcomplete', htool'⟩ := exists_of_drainReadyIn_error hindices' he'
    have hij : j = i := by
      rw [← hlookup] at hj
      exact honce i j ⟨state, hi, hcomplete, not_wellFormed_of_readyTool htool⟩
        ⟨state', hj, hcomplete', not_wellFormed_of_readyTool htool'⟩
    subst hij
    rw [hlookup, hj] at hi
    cases hi
    rw [htool] at htool'
    cases htool'
    rw [he, he']
  . have hnone : ∀ index, ¬acc.Malformed serde index := fun index hindex => h ⟨index, hindex⟩
    have hnone' : ∀ index, ¬acc'.Malformed serde index :=
      fun index hindex => h ⟨index, (hmalformed index).mpr hindex⟩
    have hnodup := hindices.nodup_iff.mpr acc.tools.keys_nodup
    have hnodup' := hindices'.nodup_iff.mpr acc'.tools.keys_nodup
    have hperm : (readyEntries acc.tools indices).Perm (readyEntries acc'.tools indices') := by
      apply (List.perm_ext_iff_of_nodup (nodup_readyEntries hnodup)
        (nodup_readyEntries hnodup')).mpr
      intro entry
      rw [mem_readyEntries_of_perm hindices, mem_readyEntries_of_perm hindices', hlookup]
    rw [fst_drainReadyIn_of_wellFormed hindices hnone,
      fst_drainReadyIn_of_wellFormed hindices' hnone']
    unfold readTools
    rw [sortByIndex_eq_of_perm (hperm.map _)]
    rw [List.pairwise_map]
    exact pairwise_ne_readyEntries hnodup' acc'.tools

end Result

section Remaining

variable {tools : AList (fun _ : Nat => ToolAccState)} {indices : List Nat} {index : Nat}

theorem lookup_drainLoop_of_not_complete
    (h : ∀ state, tools.lookup index = some state → state.complete = false)
    (indexed : List (Nat × ParsedToolUse))
    : (drainLoop serde tools indexed indices).2.lookup index = tools.lookup index := by
  induction indices generalizing tools indexed with
  | nil => rfl
  | cons idx indices ih =>
    rw [drainLoop]
    cases hlookup : tools.lookup idx with
    | none => exact ih h indexed
    | some state =>
      dsimp only
      split
      . next hcomplete =>
        have hne : index ≠ idx := by
          rintro rfl
          rw [h state hlookup] at hcomplete
          cases hcomplete
        have herase : (tools.erase idx).lookup index = tools.lookup index :=
          AList.lookup_erase_ne hne
        cases readyTool serde state with
        | ok tool =>
          dsimp only
          rw [ih (by rw [herase]; exact h), herase]
        | error e => exact herase
      . exact ih h indexed

theorem lookup_of_lookup_erase {idx : Nat} {state : ToolAccState}
    (h : (tools.erase idx).lookup index = some state)
    : tools.lookup index = some state := by
  have hne : index ≠ idx := by
    rintro rfl
    rw [AList.lookup_erase] at h
    cases h
  rw [← h, AList.lookup_erase_ne hne]

theorem MalformedAlone.of_lookup {acc acc' : StreamAccumulator} (h : acc.MalformedAlone serde)
    (hkept : ∀ index state, acc'.tools.lookup index = some state
      → acc.tools.lookup index = some state)
    : acc'.MalformedAlone serde := by
  rintro i j ⟨state, hi, hmalformed⟩ ⟨state', hj, hready⟩
  exact h i j ⟨state, hkept i state hi, hmalformed⟩ ⟨state', hkept j state' hj, hready⟩

theorem lookup_drainLoop_of_complete {acc : StreamAccumulator} (h : acc.MalformedAlone serde)
    (hindex : index ∈ indices) (hready : acc.Ready index) (indexed : List (Nat × ParsedToolUse))
    : (drainLoop serde acc.tools indexed indices).2.lookup index = none := by
  induction indices generalizing acc indexed with
  | nil => cases hindex
  | cons idx indices ih =>
    obtain ⟨state, hstate, hcomplete⟩ := hready
    rw [drainLoop]
    by_cases hidx : idx = index
    . subst hidx
      rw [hstate]
      dsimp only
      rw [if_pos hcomplete]
      have herase : (acc.tools.erase idx).lookup idx = none := AList.lookup_erase idx acc.tools
      cases readyTool serde state with
      | ok tool =>
        dsimp only
        rw [lookup_drainLoop_of_not_complete _, herase]
        intro state' hstate'
        rw [herase] at hstate'
        cases hstate'
      | error e => exact herase
    . have hindices : index ∈ indices := by
        rcases List.mem_cons.mp hindex with rfl | hmem
        . exact absurd rfl hidx
        . exact hmem
      cases hlookup : acc.tools.lookup idx with
      | none => exact ih h hindices ⟨state, hstate, hcomplete⟩ indexed
      | some state' =>
        dsimp only
        split
        . next hcomplete' =>
          have herase : (acc.tools.erase idx).lookup index = acc.tools.lookup index :=
            AList.lookup_erase_ne (Ne.symm hidx)
          cases htool : readyTool serde state' with
          | ok tool =>
            have hrest : MalformedAlone serde { acc with tools := acc.tools.erase idx } :=
              h.of_lookup (fun _ _ hkept => lookup_of_lookup_erase hkept)
            exact ih hrest hindices ⟨state, herase.trans hstate, hcomplete⟩ _
          | error e =>
            have hmalformed : acc.Malformed serde idx :=
              ⟨state', hlookup, hcomplete', not_wellFormed_of_readyTool htool⟩
            exact absurd (h idx index hmalformed ⟨state, hstate, hcomplete⟩).symm hidx
        . exact ih h hindices ⟨state, hstate, hcomplete⟩ indexed

theorem lookup_snd_drainReadyIn {acc : StreamAccumulator} (h : acc.MalformedAlone serde)
    (hindices : indices.Perm acc.tools.keys) (index : Nat)
    : (drainReadyIn serde indices acc).2.tools.lookup index
        = (acc.tools.lookup index).filter (fun state => !state.complete) := by
  change (drainLoop serde acc.tools [] indices).2.lookup index = _
  cases hlookup : acc.tools.lookup index with
  | none =>
    rw [lookup_drainLoop_of_not_complete (by simp [hlookup]), hlookup]
    rfl
  | some state =>
    rw [Option.filter_some]
    cases hcomplete : state.complete with
    | true =>
      rw [lookup_drainLoop_of_complete h (mem_indices_of_lookup hindices hlookup)
        ⟨state, hlookup, hcomplete⟩]
      rfl
    | false =>
      rw [lookup_drainLoop_of_not_complete, hlookup]
      . rfl
      . intro state' hstate'
        rw [hlookup] at hstate'
        cases hstate'
        exact hcomplete

end Remaining

end StreamAccumulator

end AnimaAgent
