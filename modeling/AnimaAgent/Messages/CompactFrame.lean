import AnimaAgent.Messages.CompactAccounts

namespace AnimaAgent

namespace InternalMsg

def isAssistant (msg : InternalMsg) : Bool :=
  msg.role == .assistant

def identity (msg : InternalMsg) : MessageRole × String × Option String :=
  (msg.role, msg.messageId, msg.toolUseId)

theorem isToolResult_eq_false_of_isAssistant {msg : InternalMsg} (h : msg.isAssistant = true)
    : msg.isToolResult = false := by
  unfold isToolResult
  rw [beq_iff_eq.mp h]
  rfl

theorem isToolResult_congr {msg msg' : InternalMsg} (h : msg.identity = msg'.identity)
    : msg.isToolResult = msg'.isToolResult := by
  unfold identity at h
  rw [Prod.mk.injEq, Prod.mk.injEq] at h
  unfold isToolResult
  rw [h.1, h.2.2]

theorem isAssistant_congr {msg msg' : InternalMsg} (h : msg.identity = msg'.identity)
    : msg.isAssistant = msg'.isAssistant := by
  unfold identity at h
  rw [Prod.mk.injEq] at h
  unfold isAssistant
  rw [h.1]

end InternalMsg

inductive TurnBoundary (messages : List InternalMsg) (turns : Nat) : Nat → Prop
  | none (h : turns = 0) : TurnBoundary messages turns messages.length
  | few (h : messages.countP InternalMsg.isAssistant < turns) : TurnBoundary messages turns 0
  | turn {front recent : List InternalMsg} {assistant : InternalMsg}
      (hsplit : messages = front ++ assistant :: recent) (hrole : assistant.isAssistant = true)
      (hcount : (assistant :: recent).countP InternalMsg.isAssistant = turns)
    : TurnBoundary messages turns front.length

theorem findRecentTurnBoundary.turnBoundary_go {turns : Nat} (older recent : List InternalMsg)
    (h : recent.countP InternalMsg.isAssistant < turns)
    : TurnBoundary (older.reverse ++ recent) turns
        (go turns older (recent.countP InternalMsg.isAssistant)) := by
  induction older generalizing recent with
  | nil => exact .few h
  | cons msg older ih =>
    rw [List.reverse_cons, List.append_assoc, List.singleton_append]
    unfold go
    by_cases hrole : msg.isAssistant = true
    . have hcount : (msg :: recent).countP InternalMsg.isAssistant
          = recent.countP InternalMsg.isAssistant + 1 := List.countP_cons_of_pos hrole
      rw [InternalMsg.isToolResult_eq_false_of_isAssistant hrole, Bool.false_and,
        if_neg Bool.false_ne_true, if_pos (beq_iff_eq.mp hrole)]
      split
      . rw [← List.length_reverse]
        exact .turn rfl hrole (by omega)
      . rw [← hcount]
        exact ih (msg :: recent) (by omega)
    . have hcount : (msg :: recent).countP InternalMsg.isAssistant
          = recent.countP InternalMsg.isAssistant := List.countP_cons_of_neg hrole
      have ih := ih (msg :: recent) (hcount ▸ h)
      rw [hcount] at ih
      rw [if_neg (fun h => hrole (beq_iff_eq.mpr h)), ite_self]
      exact ih

theorem turnBoundary_findRecentTurnBoundary (messages : List InternalMsg) (turns : Nat)
    : TurnBoundary messages turns (findRecentTurnBoundary messages turns) := by
  unfold findRecentTurnBoundary
  split
  . next h =>
    rw [Bool.or_eq_true, List.isEmpty_iff, beq_iff_eq] at h
    obtain rfl | rfl := h
    . cases turns with
      | zero => exact .none rfl
      | succ turns => exact .few (Nat.succ_pos turns)
    . exact .none rfl
  . next h =>
    rw [Bool.or_eq_true, not_or, List.isEmpty_iff, beq_iff_eq] at h
    have := @findRecentTurnBoundary.turnBoundary_go turns messages.reverse []
      (Nat.pos_of_ne_zero h.2)
    rw [List.reverse_reverse, List.append_nil] at this
    exact this

theorem TurnBoundary.not_isToolResult {messages : List InternalMsg} {turns boundary : Nat}
    (h : TurnBoundary messages turns boundary) (hpos : 0 < boundary) {msg : InternalMsg}
    (hget : messages[boundary]? = some msg)
    : msg.isToolResult = false := by
  cases h with
  | none h =>
    rw [List.getElem?_eq_none (Nat.le_refl _)] at hget
    cases hget
  | few h => exact absurd hpos (Nat.lt_irrefl 0)
  | turn hsplit hrole hcount =>
    rw [hsplit, List.getElem?_append_right (Nat.le_refl _), Nat.sub_self] at hget
    cases hget
    exact InternalMsg.isToolResult_eq_false_of_isAssistant hrole

theorem TurnBoundary.le_length {messages : List InternalMsg} {turns boundary : Nat}
    (h : TurnBoundary messages turns boundary)
    : boundary ≤ messages.length := by
  cases h with
  | none h => exact Nat.le_refl _
  | few h => exact Nat.zero_le _
  | turn hsplit hrole hcount =>
    rw [hsplit, List.length_append]
    exact Nat.le_add_right ..

section Frame

variable (serde : SerdeJson)

namespace clearOldToolResults

@[simp]
theorem identity_clear (msg : InternalMsg) : (clear serde msg).1.identity = msg.identity := by
  unfold clear
  split <;> rfl

end clearOldToolResults

namespace filterOldestMessages

theorem endsInGroup_append (inGroup : Bool) (messages others : List InternalMsg)
    : endsInGroup inGroup (messages ++ others)
        = endsInGroup (endsInGroup inGroup messages) others := by
  induction messages generalizing inGroup with
  | nil => rfl
  | cons msg messages ih =>
    rw [List.cons_append, endsInGroup, endsInGroup]
    exact ih _

theorem endsInGroup_results {results : List InternalMsg}
    (h : ∀ result ∈ results, result.isToolResult = true)
    : endsInGroup true results = true := by
  induction results with
  | nil => rfl
  | cons result results ih =>
    unfold endsInGroup
    rw [h result (List.mem_cons_self ..)]
    exact ih (fun other hmem => h other (List.mem_cons_of_mem result hmem))

theorem endsInGroup_of_getElem? (inGroup : Bool) {messages : List InternalMsg} {i : Nat}
    {assistant : InternalMsg} (hget : messages[i]? = some assistant)
    (hrole : assistant.isAssistant = true) (hfiltered : assistant.filtered = false)
    (hresults : ∀ k result, i < k → messages[k]? = some result → result.isToolResult = true)
    : endsInGroup inGroup messages = true := by
  obtain ⟨hlt, heq⟩ := List.getElem?_eq_some_iff.mp hget
  have hsplit : messages = messages.take i ++ assistant :: messages.drop (i + 1) := by
    rw [← heq, ← List.drop_eq_getElem_cons hlt, List.take_append_drop]
  have hrole : (assistant.role == .assistant) = true := hrole
  rw [hsplit, endsInGroup_append, endsInGroup, hfiltered, hrole, Bool.not_false, Bool.true_and,
    Bool.or_true]
  apply endsInGroup_results
  intro result hmem
  obtain ⟨k, hk⟩ := List.mem_iff_getElem?.mp hmem
  rw [List.getElem?_drop] at hk
  exact hresults (i + 1 + k) result (by omega) hk

end filterOldestMessages

theorem getElem?_append_map (f : InternalMsg → InternalMsg)
    (front earlier later rest : List InternalMsg) (i : Nat)
    : (front ++ (earlier.map f ++ later) ++ rest)[i]?
        = if front.length ≤ i ∧ i < front.length + earlier.length then
            (front ++ (earlier ++ later) ++ rest)[i]?.map f
          else
            (front ++ (earlier ++ later) ++ rest)[i]? := by
  grind

def FiltersAt (messages out : List InternalMsg) (i : Nat) : Prop :=
  messages[i]?.any (fun msg => !msg.filtered) = true ∧ out[i]?.any InternalMsg.filtered = true

def ResultFollows (messages : List InternalMsg) (i j : Nat) : Prop :=
  i < j ∧ ∀ k, i < k → k ≤ j → messages[k]?.any InternalMsg.isToolResult = true

structure CompactionKeepsFrame (messages : List InternalMsg) (config : CompactConfig) : Prop where
  boundary : TurnBoundary messages config.preserveRecentTurns
    (findRecentTurnBoundary messages config.preserveRecentTurns)
  identities : (compactIfNeeded serde messages config).1.map InternalMsg.identity
    = messages.map InternalMsg.identity
  first : (compactIfNeeded serde messages config).1.head?.map InternalMsg.filtered
    = messages.head?.map InternalMsg.filtered
  recent : (compactIfNeeded serde messages config).1.drop
      (findRecentTurnBoundary messages config.preserveRecentTurns)
    = messages.drop (findRecentTurnBoundary messages config.preserveRecentTurns)
  groups : ∀ i j, i < findRecentTurnBoundary messages config.preserveRecentTurns
    → messages[i]?.any InternalMsg.isAssistant = true
    → FiltersAt messages (compactIfNeeded serde messages config).1 i
    → ResultFollows messages i j
    → (compactIfNeeded serde messages config).1[j]?.any InternalMsg.filtered = true
  frees : entersFiltering serde messages config
    → estimateTotalTokens serde (compactIfNeeded serde messages config).1
          + needToFree serde messages config
        ≤ estimateTotalTokens serde messages
      ∨ ∀ msg ∈ ((compactIfNeeded serde messages config).1.take
          (findRecentTurnBoundary messages config.preserveRecentTurns)).tail, msg.filtered = true

variable {serde} {messages : List InternalMsg}

variable (messages) in
theorem map_clearOldToolResults {β : Type} {f : InternalMsg → β}
    (hf : ∀ msg, f (clearOldToolResults.clear serde msg).1 = f msg) (boundary : Nat)
    : (clearOldToolResults serde messages boundary).1.map f = messages.map f := by
  rw [clearOldToolResults_eq, List.map_append]
  unfold clearedFront
  rw [List.map_map]
  simp only [Function.comp_def, hf]
  rw [← List.map_append, List.take_append_drop]

theorem any_getElem?_congr {f : InternalMsg → Bool} {others : List InternalMsg}
    (h : others.map f = messages.map f) (i : Nat)
    : others[i]?.any f = messages[i]?.any f := by
  have hany : ∀ msg : Option InternalMsg, msg.any f = (msg.map f).any id := by
    intro msg
    cases msg <;> rfl
  rw [hany, hany, ← List.getElem?_map, ← List.getElem?_map, h]

structure Filters (serde : SerdeJson) (messages : List InternalMsg) (boundary target : Nat)
    (out earlier later : List InternalMsg) : Prop where
  stops : filterOldestMessages.Stops serde target false 0 (clearedFront serde messages boundary).tail
    earlier later
  out : out = (clearedFront serde messages boundary).take 1
    ++ (earlier.map InternalMsg.markFiltered ++ later) ++ messages.drop boundary

namespace Filters

variable {boundary target : Nat} {out earlier later : List InternalMsg}
variable (h : Filters serde messages boundary target out earlier later)

include h

theorem cleared_eq
    : (clearOldToolResults serde messages boundary).1
        = (clearedFront serde messages boundary).take 1 ++ (earlier ++ later)
          ++ messages.drop boundary := by
  rw [← h.stops.split, ← List.drop_one, List.take_append_drop, clearOldToolResults_eq]

theorem identities : out.map InternalMsg.identity = messages.map InternalMsg.identity := by
  have hcleared := map_clearOldToolResults messages
    (clearOldToolResults.identity_clear serde) boundary
  rw [← hcleared, h.cleared_eq, h.out]
  simp only [List.map_append, List.map_map]
  rfl

theorem length_front
    : ((clearedFront serde messages boundary).take 1).length + earlier.length + later.length
        = min boundary messages.length := by
  have hlength : (clearedFront serde messages boundary).length = min boundary messages.length := by
    unfold clearedFront
    rw [List.length_map, List.length_take]
  rw [← hlength, Nat.add_assoc, ← List.length_append, ← h.stops.split, ← List.drop_one,
    ← List.length_append, List.take_append_drop]

theorem first : out.head?.map InternalMsg.filtered = messages.head?.map InternalMsg.filtered := by
  have hhead : out.head? = (clearOldToolResults serde messages boundary).1.head? := by
    rw [h.cleared_eq, h.out]
    cases hfront : clearedFront serde messages boundary with
    | nil =>
      have hsplit := h.stops.split
      rw [hfront] at hsplit
      obtain ⟨rfl, rfl⟩ := List.append_eq_nil_iff.mp hsplit.symm
      rfl
    | cons first rest => rfl
  have hcleared := map_clearOldToolResults messages
    (clearOldToolResults.filtered_clear serde) boundary
  rw [hhead, ← List.head?_map, hcleared, List.head?_map]

theorem recent (hle : boundary ≤ messages.length) : out.drop boundary = messages.drop boundary := by
  have hlength := h.length_front
  rw [Nat.min_eq_left hle] at hlength
  rw [h.out]
  apply List.drop_left'
  simp only [List.length_append, List.length_map]
  omega

theorem getElem?_earlier {k : Nat} (hk : k < earlier.length)
    : (clearOldToolResults serde messages boundary).1[
          ((clearedFront serde messages boundary).take 1).length + k]?
        = earlier[k]? := by
  rw [h.cleared_eq, List.append_assoc, List.append_assoc,
    List.getElem?_append_right (Nat.le_add_right ..), Nat.add_sub_cancel_left,
    List.getElem?_append_left hk]

theorem getElem?_later {result : InternalMsg} {rest : List InternalMsg} (hlater : later = result :: rest)
    : (clearOldToolResults serde messages boundary).1[
          ((clearedFront serde messages boundary).take 1).length + earlier.length]?
        = some result := by
  rw [h.cleared_eq, hlater, List.append_assoc, List.append_assoc,
    List.getElem?_append_right (Nat.le_add_right ..), Nat.add_sub_cancel_left,
    List.getElem?_append_right (Nat.le_refl _), Nat.sub_self]
  rfl

theorem not_resultFollows {turns : Nat} (hboundary : TurnBoundary messages turns boundary) {i : Nat}
    (hrole : messages[i]?.any InternalMsg.isAssistant = true)
    (hbefore : messages[i]?.any (fun msg => !msg.filtered) = true)
    (hstart : ((clearedFront serde messages boundary).take 1).length ≤ i)
    (hend : i < ((clearedFront serde messages boundary).take 1).length + earlier.length)
    : ¬ ResultFollows messages i
        (((clearedFront serde messages boundary).take 1).length + earlier.length) := by
  have hresult := map_clearOldToolResults messages (fun msg =>
    InternalMsg.isToolResult_congr (clearOldToolResults.identity_clear serde msg)) boundary
  have hassistant := map_clearOldToolResults messages (fun msg =>
    InternalMsg.isAssistant_congr (clearOldToolResults.identity_clear serde msg)) boundary
  have hunfiltered := @map_clearOldToolResults serde messages Bool (fun msg => !msg.filtered)
    (fun msg => congrArg not (clearOldToolResults.filtered_clear serde msg)) boundary
  rw [← any_getElem?_congr hassistant] at hrole
  rw [← any_getElem?_congr hunfiltered] at hbefore
  have hlength := h.length_front
  rintro ⟨hlt, hresults⟩
  obtain ⟨k, rfl⟩ := Nat.exists_eq_add_of_le hstart
  rw [h.getElem?_earlier (by omega)] at hrole hbefore
  have hgroup : filterOldestMessages.endsInGroup false earlier = true := by
    cases hget : earlier[k]? with
    | none =>
      rw [hget] at hrole
      cases hrole
    | some assistant =>
      rw [hget, Option.any_some] at hrole hbefore
      refine filterOldestMessages.endsInGroup_of_getElem? false hget hrole
        (Bool.not_eq_true' _ ▸ hbefore) ?_
      intro k' result hk' hget'
      have hk'' := (List.getElem?_eq_some_iff.mp hget').1
      have hresult' := hresults (((clearedFront serde messages boundary).take 1).length + k')
        (by omega) (by omega)
      rw [← any_getElem?_congr hresult, h.getElem?_earlier hk'', hget', Option.any_some] at hresult'
      exact hresult'
  have hnext := hresults _ hlt (Nat.le_refl _)
  cases hlater : later with
  | nil =>
    -- the message would stand at the boundary
    rw [hlater, List.length_nil, Nat.add_zero] at hlength
    obtain ⟨result, hget, hisResult⟩ := (Option.any_eq_true ..).mp hnext
    have hbound := (List.getElem?_eq_some_iff.mp hget).1
    rw [hlength] at hget hbound hlt
    rw [Nat.min_eq_left (by omega)] at hget hlt
    rw [hboundary.not_isToolResult (by omega) hget] at hisResult
    cases hisResult
  | cons result rest =>
    have henough := (h.stops.enough (by simp [hlater])).2
    unfold filterOldestMessages.cutsGroup at henough
    rw [hgroup, hlater, List.head?_cons, Option.any_some, Bool.true_and] at henough
    rw [← any_getElem?_congr hresult, h.getElem?_later hlater, Option.any_some, henough] at hnext
    cases hnext

theorem groups {turns : Nat} (hboundary : TurnBoundary messages turns boundary) {i j : Nat}
    (hrole : messages[i]?.any InternalMsg.isAssistant = true) (hi : FiltersAt messages out i)
    (hj : ResultFollows messages i j)
    : out[j]?.any InternalMsg.filtered = true := by
  have hresult := map_clearOldToolResults messages (fun msg =>
    InternalMsg.isToolResult_congr (clearOldToolResults.identity_clear serde msg)) boundary
  have hfiltered := map_clearOldToolResults messages
    (clearOldToolResults.filtered_clear serde) boundary
  obtain ⟨hbefore, hafter⟩ := hi
  have hget := getElem?_append_map InternalMsg.markFiltered
    ((clearedFront serde messages boundary).take 1) earlier later (messages.drop boundary)
  rw [← h.out, ← h.cleared_eq] at hget
  have hrange : ((clearedFront serde messages boundary).take 1).length ≤ i
      ∧ i < ((clearedFront serde messages boundary).take 1).length + earlier.length := by
    by_contra hrange
    rw [hget, if_neg hrange, any_getElem?_congr hfiltered] at hafter
    obtain ⟨msg, hmsg, hunfiltered⟩ := (Option.any_eq_true ..).mp hbefore
    rw [hmsg, Option.any_some] at hafter
    rw [hafter] at hunfiltered
    cases hunfiltered
  by_cases hinside : j < ((clearedFront serde messages boundary).take 1).length + earlier.length
  . have hj' := hj.2 j hj.1 (Nat.le_refl j)
    rw [← any_getElem?_congr hresult] at hj'
    obtain ⟨msg, hmsg, _⟩ := (Option.any_eq_true ..).mp hj'
    rw [hget, if_pos ⟨by have := hj.1; omega, hinside⟩, hmsg]
    rfl
  . refine absurd ⟨hrange.2, ?_⟩
      (h.not_resultFollows hboundary hrole hbefore hrange.1 hrange.2)
    exact fun k hik hk => hj.2 k hik (by omega)

theorem tail_take (hle : boundary ≤ messages.length)
    : (out.take boundary).tail = earlier.map InternalMsg.markFiltered ++ later := by
  have hlength := h.length_front
  rw [Nat.min_eq_left hle] at hlength
  have htake : out.take boundary = (clearedFront serde messages boundary).take 1
      ++ (earlier.map InternalMsg.markFiltered ++ later) := by
    rw [h.out]
    apply List.take_left'
    simp only [List.length_append, List.length_map]
    omega
  rw [htake]
  have hsplit := h.stops.split
  cases hfront : clearedFront serde messages boundary with
  | nil =>
    rw [hfront] at hsplit
    obtain ⟨rfl, rfl⟩ := List.append_eq_nil_iff.mp hsplit.symm
    rfl
  | cons first rest => rfl

theorem estimateTotalTokens_out
    : estimateTotalTokens serde out + estimateTotalTokens serde earlier
          + (clearOldToolResults serde messages boundary).2
        = estimateTotalTokens serde messages
          + clearOldToolResults.totalGrowth serde messages boundary := by
  have hcleared := estimateTotalTokens_clearOldToolResults serde messages boundary
  rw [h.cleared_eq] at hcleared
  rw [h.out]
  simp only [estimateTotalTokens_append, estimateTotalTokens_markFiltered] at hcleared ⊢
  omega

theorem frees_iff {need : Nat} (hle : boundary ≤ messages.length)
    (htarget : target = need - (clearOldToolResults serde messages boundary).2)
    : (estimateTotalTokens serde out + need ≤ estimateTotalTokens serde messages
          ∨ ∀ msg ∈ (out.take boundary).tail, msg.filtered = true)
        ↔ ∀ earlier' later', (clearedFront serde messages boundary).tail = earlier' ++ later'
          → filterOldestMessages.cutsGroup false earlier' later' = false
          → (∃ msg ∈ later', msg.filtered = false)
          → need ≤ (clearOldToolResults serde messages boundary).2
              + estimateTotalTokens serde earlier'
          → need + clearOldToolResults.totalGrowth serde messages boundary
              ≤ (clearOldToolResults serde messages boundary).2
                + estimateTotalTokens serde earlier' := by
  have hout := h.estimateTotalTokens_out
  rw [h.tail_take hle]
  constructor
  . rintro hfrees earlier' later' hsplit hcuts ⟨msg, hmem, hunfiltered⟩ hneed
    obtain ⟨between, rfl⟩ := h.stops.first earlier' later' hsplit hcuts (by omega)
    rw [estimateTotalTokens_append] at hneed ⊢
    obtain henough | hall := hfrees
    . omega
    . have hlater : later = between ++ later' := by
        rw [h.stops.split, List.append_assoc] at hsplit
        exact List.append_cancel_left hsplit
      have := hall msg (by simp [hlater, hmem])
      rw [hunfiltered] at this
      cases this
  . intro henough
    by_cases hall : ∀ msg ∈ later, msg.filtered = true
    . right
      intro msg hmem
      obtain hmem | hmem := List.mem_append.mp hmem
      . obtain ⟨old, _, rfl⟩ := List.mem_map.mp hmem
        rfl
      . exact hall msg hmem
    . left
      simp only [not_forall, Bool.not_eq_true] at hall
      obtain ⟨msg, hmem, hunfiltered⟩ := hall
      have hstop := h.stops.enough (List.ne_nil_of_mem hmem)
      have := henough earlier later h.stops.split hstop.2 ⟨msg, hmem, hunfiltered⟩ (by omega)
      omega

end Filters

theorem exists_filters {config : CompactConfig} (h : entersFiltering serde messages config)
    : ∃ earlier later,
        Filters serde messages (findRecentTurnBoundary messages config.preserveRecentTurns)
          (needToFree serde messages config - (clearOldToolResults serde messages
            (findRecentTurnBoundary messages config.preserveRecentTurns)).2)
          (compactIfNeeded serde messages config).1 earlier later := by
  obtain ⟨earlier, later, hstops, hfilter⟩ := exists_stops_filterOldestMessages serde messages
    (findRecentTurnBoundary messages config.preserveRecentTurns)
    (needToFree serde messages config - (clearOldToolResults serde messages
      (findRecentTurnBoundary messages config.preserveRecentTurns)).2)
  refine ⟨earlier, later, hstops, ?_⟩
  rw [compactIfNeeded_of_entersFiltering h]
  exact congrArg Prod.fst hfilter

theorem compactIfNeeded_of_not_entersFiltering {config : CompactConfig}
    (h : ¬ entersFiltering serde messages config)
    : (compactIfNeeded serde messages config).1 = messages
        ∨ (compactIfNeeded serde messages config).1 = (clearOldToolResults serde messages
          (findRecentTurnBoundary messages config.preserveRecentTurns)).1 := by
  by_cases hlt : estimateTotalTokens serde messages < config.threshold
  . left
    rw [compactIfNeeded_of_lt hlt]
  . right
    have hle := Nat.le_of_not_lt hlt
    rw [compactIfNeeded_of_cleared hle (Nat.lt_of_not_le (fun hcleared => h ⟨hle, hcleared⟩))]

theorem keepsFrame_of_not_entersFiltering {config : CompactConfig}
    (h : ¬ entersFiltering serde messages config)
    : CompactionKeepsFrame serde messages config := by
  have hout := compactIfNeeded_of_not_entersFiltering h
  have hmap : ∀ {β : Type} {f : InternalMsg → β},
      (∀ msg, f (clearOldToolResults.clear serde msg).1 = f msg)
        → (compactIfNeeded serde messages config).1.map f = messages.map f := by
    intro β f hf
    obtain hout | hout := hout
    . rw [hout]
    . rw [hout, map_clearOldToolResults messages hf]
  have hfiltered := hmap (clearOldToolResults.filtered_clear serde)
  constructor
  . exact turnBoundary_findRecentTurnBoundary messages config.preserveRecentTurns
  . exact hmap (clearOldToolResults.identity_clear serde)
  . rw [← List.head?_map, hfiltered, List.head?_map]
  . obtain hout | hout := hout
    . rw [hout]
    . rw [hout, drop_clearOldToolResults]
  . rintro i j _ _ ⟨hbefore, hafter⟩ _
    rw [any_getElem?_congr hfiltered] at hafter
    obtain ⟨msg, hmsg, hunfiltered⟩ := (Option.any_eq_true ..).mp hbefore
    rw [hmsg, Option.any_some] at hafter
    rw [hafter] at hunfiltered
    cases hunfiltered
  . exact fun henters => absurd henters h

/--
Everything is kept as it should be, and enough is freed if and only if no part of the old messages whose
groups are whole frees what is needed without freeing what the placeholders add as well, while a
message is left behind it.
-/
theorem compactIfNeeded_keepsFrame_iff (serde : SerdeJson) (messages : List InternalMsg)
    (config : CompactConfig)
    : CompactionKeepsFrame serde messages config
        ↔ (entersFiltering serde messages config
          → let boundary := findRecentTurnBoundary messages config.preserveRecentTurns
            ∀ earlier later, (clearedFront serde messages boundary).tail = earlier ++ later
              → filterOldestMessages.cutsGroup false earlier later = false
              → (∃ msg ∈ later, msg.filtered = false)
              → needToFree serde messages config
                  ≤ (clearOldToolResults serde messages boundary).2
                    + estimateTotalTokens serde earlier
              → needToFree serde messages config
                    + clearOldToolResults.totalGrowth serde messages boundary
                  ≤ (clearOldToolResults serde messages boundary).2
                    + estimateTotalTokens serde earlier) := by
  have hboundary := turnBoundary_findRecentTurnBoundary messages config.preserveRecentTurns
  by_cases henters : entersFiltering serde messages config
  . obtain ⟨earlier, later, hfilters⟩ := exists_filters henters
    have hfrees := hfilters.frees_iff hboundary.le_length rfl
    dsimp only
    rw [forall_prop_of_true henters, ← hfrees]
    constructor
    . intro h
      exact h.frees henters
    . intro h
      exact
        { boundary := hboundary
          identities := hfilters.identities
          first := hfilters.first
          recent := hfilters.recent hboundary.le_length
          groups := fun i j _ => hfilters.groups hboundary
          frees := fun _ => h }
  . exact iff_of_true (keepsFrame_of_not_entersFiltering henters) (fun h => absurd h henters)

end Frame

def briefResultAndQuestion : List InternalMsg :=
  briefResult.take 3
    ++ [{ role := .user
          blocks := [.text "more"]
          messageId := "m4"
          toolUseId := none
          filtered := false
          metadata := .object [] }]
    ++ briefResult.drop 3

/-- The walk stops in front of the question, since what the placeholder has added is not counted. -/
theorem briefResultAndQuestion_not_keepsFrame
    : ¬ CompactionKeepsFrame (.ofValues []) briefResultAndQuestion
        { threshold := 69, bufferTokens := 10 } := by
  intro h
  have henters : entersFiltering (.ofValues []) briefResultAndQuestion
      { threshold := 69, bufferTokens := 10 } := by
    unfold entersFiltering
    decide +kernel
  have hfrees := h.frees henters
  revert hfrees
  decide +kernel

end AnimaAgent
