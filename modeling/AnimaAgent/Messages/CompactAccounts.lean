import Mathlib.Algebra.BigOperators.Group.List.Basic
import AnimaAgent.Messages.Compact

namespace AnimaAgent

def InternalMsg.markFiltered (msg : InternalMsg) : InternalMsg :=
  { msg with filtered := true }

theorem InternalMsg.markFiltered_of_filtered {msg : InternalMsg} (h : msg.filtered = true)
    : msg.markFiltered = msg := by
  unfold markFiltered
  rw [← h]

section Accounts

variable (serde : SerdeJson)

@[simp]
theorem estimateTotalTokens_nil : estimateTotalTokens serde [] = 0 := by
  rfl

@[simp]
theorem estimateTotalTokens_cons (msg : InternalMsg) (messages : List InternalMsg)
    : estimateTotalTokens serde (msg :: messages)
        = (if msg.filtered then 0 else estimateMsgTokens serde msg)
          + estimateTotalTokens serde messages := by
  unfold estimateTotalTokens
  cases h : msg.filtered <;> simp [h]

@[simp]
theorem estimateTotalTokens_append (messages others : List InternalMsg)
    : estimateTotalTokens serde (messages ++ others)
        = estimateTotalTokens serde messages + estimateTotalTokens serde others := by
  unfold estimateTotalTokens
  rw [List.filter_append, List.map_append, List.sum_append]

theorem estimateTotalTokens_markFiltered (messages : List InternalMsg)
    : estimateTotalTokens serde (messages.map InternalMsg.markFiltered) = 0 := by
  induction messages with
  | nil => rfl
  | cons msg messages ih =>
    rw [List.map_cons, estimateTotalTokens_cons, ih]
    rfl

namespace clearOldToolResults

def growth (msg : InternalMsg) : Nat :=
  if skipped msg then
    0
  else
    estimateMsgTokens serde (cleared serde msg) - estimateMsgTokens serde msg

theorem growth_eq_zero_iff (msg : InternalMsg)
    : growth serde msg = 0
        ↔ (skipped msg = false
            → estimateMsgTokens serde (cleared serde msg) ≤ estimateMsgTokens serde msg) := by
  unfold growth
  split
  . next h => simp [h]
  . next h => simp [h, Nat.sub_eq_zero_iff_le]

@[simp]
theorem filtered_clear (msg : InternalMsg) : (clear serde msg).1.filtered = msg.filtered := by
  unfold clear
  split <;> rfl

theorem filtered_of_not_skipped {msg : InternalMsg} (h : ¬ skipped msg = true)
    : msg.filtered = false := by
  unfold skipped at h
  simp only [Bool.or_eq_true, not_or, Bool.not_eq_true] at h
  exact h.1.2

theorem estimateTotalTokens_clear (messages : List InternalMsg)
    : estimateTotalTokens serde (messages.map (fun msg => (clear serde msg).1))
          + (messages.map (fun msg => (clear serde msg).2)).sum
        = estimateTotalTokens serde messages + (messages.map (growth serde)).sum := by
  induction messages with
  | nil => rfl
  | cons msg messages ih =>
    simp only [List.map_cons, List.sum_cons, estimateTotalTokens_cons, filtered_clear]
    unfold clear growth at *
    by_cases hskipped : skipped msg = true
    . simp only [if_pos hskipped]
      omega
    . simp only [if_neg hskipped, filtered_of_not_skipped hskipped, Bool.false_eq_true, if_false]
      omega

end clearOldToolResults

/-- By how much the placeholders in front of the boundary are larger than what they replace. -/
def clearOldToolResults.totalGrowth (messages : List InternalMsg) (boundary : Nat) : Nat :=
  ((messages.take boundary).map (growth serde)).sum

theorem estimateTotalTokens_clearOldToolResults (messages : List InternalMsg) (boundary : Nat)
    : estimateTotalTokens serde (clearOldToolResults serde messages boundary).1
          + (clearOldToolResults serde messages boundary).2
        = estimateTotalTokens serde messages
          + clearOldToolResults.totalGrowth serde messages boundary := by
  have hclear := clearOldToolResults.estimateTotalTokens_clear serde (messages.take boundary)
  have hsplit := estimateTotalTokens_append serde (messages.take boundary) (messages.drop boundary)
  rw [List.take_append_drop] at hsplit
  unfold clearOldToolResults clearOldToolResults.totalGrowth
  simp only [List.map_map, estimateTotalTokens_append]
  simp only [Function.comp_def]
  omega

namespace filterOldestMessages

def endsInGroup : Bool → List InternalMsg → Bool
  | inGroup, [] => inGroup
  | inGroup, msg :: rest =>
    endsInGroup ((inGroup && msg.isToolResult) || (!msg.filtered && msg.role == .assistant)) rest

def cutsGroup (inGroup : Bool) (earlier later : List InternalMsg) : Bool :=
  endsInGroup inGroup earlier && later.head?.any InternalMsg.isToolResult

structure Stops (target : Nat) (inGroup : Bool) (freed : Nat)
    (messages earlier later : List InternalMsg) : Prop where
  split : messages = earlier ++ later
  enough : later ≠ []
    → target ≤ freed + estimateTotalTokens serde earlier ∧ cutsGroup inGroup earlier later = false
  first : ∀ earlier' later', messages = earlier' ++ later'
    → cutsGroup inGroup earlier' later' = false
    → target ≤ freed + estimateTotalTokens serde earlier' → earlier <+: earlier'

variable {serde}

theorem Stops.cons {target : Nat} {inGroup inGroup' : Bool} {freed : Nat}
    {msg : InternalMsg} {messages earlier later : List InternalMsg}
    (hgroup : ((inGroup && msg.isToolResult) || (!msg.filtered && msg.role == .assistant)) = inGroup')
    (hwalks : (inGroup && msg.isToolResult) = true ∨ freed < target)
    (h : Stops serde target inGroup'
      (freed + if msg.filtered then 0 else estimateMsgTokens serde msg) messages earlier later)
    : Stops serde target inGroup freed (msg :: messages) (msg :: earlier) later where
  split := congrArg (msg :: ·) h.split
  enough := by
    intro hlater
    unfold cutsGroup endsInGroup
    rw [hgroup, estimateTotalTokens_cons, ← Nat.add_assoc]
    exact h.enough hlater
  first := by
    intro earlier' later' hsplit hcuts hfreed
    cases earlier' with
    | nil =>
      -- the walk does not stop in front of the message
      obtain hmember | hlt := hwalks
      . rw [List.nil_append] at hsplit
        subst hsplit
        unfold cutsGroup endsInGroup at hcuts
        rw [List.head?_cons, Option.any_some, hmember] at hcuts
        cases hcuts
      . rw [estimateTotalTokens_nil] at hfreed
        omega
    | cons msg' earlier' =>
      obtain ⟨rfl, hrest⟩ := List.cons_eq_cons.mp hsplit
      unfold cutsGroup endsInGroup at hcuts
      rw [hgroup] at hcuts
      rw [estimateTotalTokens_cons, ← Nat.add_assoc] at hfreed
      exact List.cons_prefix_cons.mpr ⟨rfl, h.first earlier' later' hrest hcuts hfreed⟩

theorem exists_stops (target : Nat) (inGroup : Bool) (freed : Nat) (messages : List InternalMsg)
    : ∃ earlier later, Stops serde target inGroup freed messages earlier later
        ∧ go serde target inGroup freed messages
          = (earlier.map InternalMsg.markFiltered ++ later,
              freed + estimateTotalTokens serde earlier) := by
  induction messages generalizing inGroup freed with
  | nil =>
    refine ⟨[], [], ⟨rfl, fun h => absurd rfl h, ?_⟩, rfl⟩
    exact fun _ _ _ _ _ => List.nil_prefix
  | cons msg rest ih =>
    unfold go
    split
    . next hmember =>
      obtain ⟨earlier, later, hstops, hgo⟩ := ih true
        (freed + if msg.filtered then 0 else estimateMsgTokens serde msg)
      refine ⟨msg :: earlier, later, hstops.cons ?_ (.inl hmember), ?_⟩
      . rw [hmember, Bool.true_or]
      . have hfreed : (if msg.filtered then freed else freed + estimateMsgTokens serde msg)
            = freed + if msg.filtered then 0 else estimateMsgTokens serde msg := by
          split <;> rfl
        dsimp only
        rw [hfreed, hgo, estimateTotalTokens_cons, Nat.add_assoc]
        rfl
    . next hmember =>
      rw [Bool.not_eq_true] at hmember
      split
      . next hlt =>
        split
        . next hfiltered =>
          obtain ⟨earlier, later, hstops, hgo⟩ := ih false freed
          have hgroup : ((inGroup && msg.isToolResult) || (!msg.filtered && msg.role == .assistant))
              = false := by
            rw [hmember, hfiltered]
            rfl
          refine ⟨msg :: earlier, later, Stops.cons hgroup (.inr hlt) ?_, ?_⟩
          . rw [if_pos hfiltered]
            exact hstops
          . rw [hgo, estimateTotalTokens_cons, if_pos hfiltered, Nat.zero_add, List.map_cons,
              InternalMsg.markFiltered_of_filtered hfiltered]
            rfl
        . next hfiltered =>
          obtain ⟨earlier, later, hstops, hgo⟩ := ih (msg.role == .assistant)
            (freed + estimateMsgTokens serde msg)
          have hgroup : ((inGroup && msg.isToolResult) || (!msg.filtered && msg.role == .assistant))
              = (msg.role == .assistant) := by
            rw [hmember, Bool.eq_false_of_not_eq_true hfiltered]
            rfl
          refine ⟨msg :: earlier, later, Stops.cons hgroup (.inr hlt) ?_, ?_⟩
          . rw [if_neg hfiltered]
            exact hstops
          . rw [hgo, estimateTotalTokens_cons, if_neg hfiltered, Nat.add_assoc]
            rfl
      . next hlt =>
        refine ⟨[], msg :: rest, ⟨rfl, fun _ => ⟨Nat.le_of_not_lt hlt, ?_⟩, ?_⟩, rfl⟩
        . exact hmember
        . exact fun _ _ _ _ _ => List.nil_prefix

end filterOldestMessages

def clearedFront (messages : List InternalMsg) (boundary : Nat) : List InternalMsg :=
  (messages.take boundary).map (fun msg => (clearOldToolResults.clear serde msg).1)

theorem clearOldToolResults_eq (messages : List InternalMsg) (boundary : Nat)
    : (clearOldToolResults serde messages boundary).1
        = clearedFront serde messages boundary ++ messages.drop boundary := by
  unfold clearOldToolResults clearedFront
  dsimp only
  rw [List.map_map]
  rfl

theorem take_clearOldToolResults (messages : List InternalMsg) (boundary : Nat)
    : (clearOldToolResults serde messages boundary).1.take boundary
        = clearedFront serde messages boundary := by
  have hlength : (clearedFront serde messages boundary).length = min boundary messages.length := by
    unfold clearedFront
    rw [List.length_map, List.length_take]
  rw [clearOldToolResults_eq, List.take_append, List.take_of_length_le (by omega), hlength]
  by_cases h : boundary ≤ messages.length
  . rw [Nat.min_eq_left h, Nat.sub_self, List.take_zero, List.append_nil]
  . rw [List.drop_of_length_le (by omega), List.take_nil, List.append_nil]

theorem drop_clearOldToolResults (messages : List InternalMsg) (boundary : Nat)
    : (clearOldToolResults serde messages boundary).1.drop boundary = messages.drop boundary := by
  have hsplit := List.take_append_drop boundary (clearOldToolResults serde messages boundary).1
  rw [take_clearOldToolResults] at hsplit
  conv at hsplit =>
    rhs
    rw [clearOldToolResults_eq]
  exact List.append_cancel_left hsplit

theorem exists_stops_filterOldestMessages (messages : List InternalMsg) (boundary target : Nat)
    : ∃ earlier later,
        filterOldestMessages.Stops serde target false 0 (clearedFront serde messages boundary).tail
            earlier later
          ∧ filterOldestMessages serde (clearOldToolResults serde messages boundary).1 boundary target
            = ((clearedFront serde messages boundary).take 1
                ++ (earlier.map InternalMsg.markFiltered ++ later) ++ messages.drop boundary,
              estimateTotalTokens serde earlier) := by
  obtain ⟨earlier, later, hstops, hgo⟩ := @filterOldestMessages.exists_stops serde target false 0
    (clearedFront serde messages boundary).tail
  refine ⟨earlier, later, hstops, ?_⟩
  unfold filterOldestMessages
  rw [take_clearOldToolResults, drop_clearOldToolResults]
  cases hfront : clearedFront serde messages boundary with
  | nil =>
    rw [hfront] at hstops
    obtain ⟨rfl, rfl⟩ := List.append_eq_nil_iff.mp hstops.split.symm
    rw [clearOldToolResults_eq, hfront]
    rfl
  | cons first old =>
    rw [hfront] at hgo
    dsimp only [List.tail_cons] at hgo ⊢
    rw [hgo, Nat.zero_add]
    rfl

theorem estimateTotalTokens_filterOldestMessages (messages : List InternalMsg)
    (boundary target : Nat)
    : let cleared := (clearOldToolResults serde messages boundary).1
      estimateTotalTokens serde (filterOldestMessages serde cleared boundary target).1
          + (filterOldestMessages serde cleared boundary target).2
        = estimateTotalTokens serde cleared := by
  intro cleared
  obtain ⟨earlier, later, hstops, hfilter⟩ :=
    exists_stops_filterOldestMessages serde messages boundary target
  have hcleared : cleared = (clearedFront serde messages boundary).take 1 ++ (earlier ++ later)
      ++ messages.drop boundary := by
    rw [← hstops.split, ← List.drop_one, List.take_append_drop]
    exact clearOldToolResults_eq serde messages boundary
  rw [hfilter, hcleared]
  simp only [estimateTotalTokens_append, estimateTotalTokens_markFiltered]
  omega

def entersFiltering (messages : List InternalMsg) (config : CompactConfig) : Prop :=
  let boundary := findRecentTurnBoundary messages config.preserveRecentTurns
  config.threshold ≤ estimateTotalTokens serde messages
    ∧ config.threshold ≤ estimateTotalTokens serde (clearOldToolResults serde messages boundary).1

/-- What has to be freed for the estimate to come down to the threshold less the buffer. -/
def needToFree (messages : List InternalMsg) (config : CompactConfig) : Nat :=
  estimateTotalTokens serde messages - (config.threshold - config.bufferTokens)

variable {serde} {messages : List InternalMsg} {config : CompactConfig}

theorem compactIfNeeded_of_lt (h : estimateTotalTokens serde messages < config.threshold)
    : compactIfNeeded serde messages config
        = (messages,
            { didCompact := false
              tokensBefore := estimateTotalTokens serde messages
              tokensAfter := estimateTotalTokens serde messages }) := by
  unfold compactIfNeeded
  rw [if_pos h]

theorem compactIfNeeded_of_cleared (hle : config.threshold ≤ estimateTotalTokens serde messages)
    (hlt : estimateTotalTokens serde (clearOldToolResults serde messages
        (findRecentTurnBoundary messages config.preserveRecentTurns)).1 < config.threshold)
    : compactIfNeeded serde messages config
        = (let cleared := clearOldToolResults serde messages
            (findRecentTurnBoundary messages config.preserveRecentTurns)
          (cleared.1,
            { didCompact := true
              tokensBefore := estimateTotalTokens serde messages
              tokensAfter := estimateTotalTokens serde cleared.1
              clearedTokens := cleared.2
              filteredTokens := 0 })) := by
  unfold compactIfNeeded
  dsimp only
  rw [if_neg (Nat.not_lt.mpr hle), if_pos hlt]

theorem compactIfNeeded_of_entersFiltering (h : entersFiltering serde messages config)
    : compactIfNeeded serde messages config
        = (let boundary := findRecentTurnBoundary messages config.preserveRecentTurns
          let cleared := clearOldToolResults serde messages boundary
          let filtered := filterOldestMessages serde cleared.1 boundary
            (needToFree serde messages config - cleared.2)
          (filtered.1,
            { didCompact := true
              tokensBefore := estimateTotalTokens serde messages
              tokensAfter := estimateTotalTokens serde filtered.1
              clearedTokens := cleared.2
              filteredTokens := filtered.2 })) := by
  unfold compactIfNeeded needToFree
  dsimp only
  rw [if_neg (Nat.not_lt.mpr h.1), if_neg (Nat.not_lt.mpr h.2)]

variable (serde messages config)

/-- The estimate does not go up, and the reported numbers account for what becomes of it. -/
structure CompactionBalances : Prop where
  tokensBefore :
    (compactIfNeeded serde messages config).2.tokensBefore = estimateTotalTokens serde messages
  tokensAfter :
    (compactIfNeeded serde messages config).2.tokensAfter
      = estimateTotalTokens serde (compactIfNeeded serde messages config).1
  le : estimateTotalTokens serde (compactIfNeeded serde messages config).1
    ≤ estimateTotalTokens serde messages
  balance :
    ((compactIfNeeded serde messages config).2.tokensBefore : Int)
        - (compactIfNeeded serde messages config).2.tokensAfter
      = (compactIfNeeded serde messages config).2.clearedTokens
        + (compactIfNeeded serde messages config).2.filteredTokens

variable {serde messages config}

theorem compactIfNeeded_balance (h : config.threshold ≤ estimateTotalTokens serde messages)
    : let result := (compactIfNeeded serde messages config).2
      result.tokensBefore = estimateTotalTokens serde messages
        ∧ result.tokensAfter = estimateTotalTokens serde (compactIfNeeded serde messages config).1
        ∧ result.tokensAfter + result.clearedTokens + result.filteredTokens
          = result.tokensBefore + clearOldToolResults.totalGrowth serde messages
            (findRecentTurnBoundary messages config.preserveRecentTurns) := by
  have hcleared := estimateTotalTokens_clearOldToolResults serde messages
    (findRecentTurnBoundary messages config.preserveRecentTurns)
  intro result
  by_cases hlt : estimateTotalTokens serde (clearOldToolResults serde messages
      (findRecentTurnBoundary messages config.preserveRecentTurns)).1 < config.threshold
  . have heq := compactIfNeeded_of_cleared h hlt
    unfold result
    rw [heq]
    exact ⟨rfl, rfl, hcleared⟩
  . have heq := compactIfNeeded_of_entersFiltering ⟨h, Nat.le_of_not_lt hlt⟩
    have hfiltered := estimateTotalTokens_filterOldestMessages serde messages
      (findRecentTurnBoundary messages config.preserveRecentTurns)
      (needToFree serde messages config - (clearOldToolResults serde messages
        (findRecentTurnBoundary messages config.preserveRecentTurns)).2)
    unfold result
    rw [heq]
    refine ⟨rfl, rfl, ?_⟩
    dsimp only at hfiltered ⊢
    omega

/--
The accounts are right if and only if no placeholder that is written is larger than the tool result that
it is put in place of.
-/
theorem compactIfNeeded_balances_iff (serde : SerdeJson) (messages : List InternalMsg)
    (config : CompactConfig)
    : CompactionBalances serde messages config
        ↔ estimateTotalTokens serde messages < config.threshold
          ∨ ∀ msg ∈ messages.take (findRecentTurnBoundary messages config.preserveRecentTurns),
            clearOldToolResults.skipped msg = false
              → estimateMsgTokens serde (clearOldToolResults.cleared serde msg)
                ≤ estimateMsgTokens serde msg := by
  by_cases hlt : estimateTotalTokens serde messages < config.threshold
  . refine iff_of_true ?_ (.inl hlt)
    have heq := compactIfNeeded_of_lt hlt
    constructor <;> rw [heq]
    dsimp only
    omega
  . have hgrowth : clearOldToolResults.totalGrowth serde messages
          (findRecentTurnBoundary messages config.preserveRecentTurns) = 0
        ↔ ∀ msg ∈ messages.take (findRecentTurnBoundary messages config.preserveRecentTurns),
          clearOldToolResults.skipped msg = false
            → estimateMsgTokens serde (clearOldToolResults.cleared serde msg)
              ≤ estimateMsgTokens serde msg := by
      unfold clearOldToolResults.totalGrowth
      rw [List.sum_eq_zero_iff_forall_eq_nat]
      simp only [List.mem_map, forall_exists_index, and_imp, forall_apply_eq_imp_iff₂,
        clearOldToolResults.growth_eq_zero_iff]
    obtain ⟨hbefore, hafter, hbalance⟩ := compactIfNeeded_balance (Nat.le_of_not_lt hlt)
    rw [or_iff_right hlt, ← hgrowth]
    constructor
    . intro h
      have := h.balance
      omega
    . intro hzero
      exact { tokensBefore := hbefore, tokensAfter := hafter, le := by omega, balance := by omega }

end Accounts

def briefResult : List InternalMsg :=
  [{ role := .user
     blocks := [.text "start"]
     messageId := "m0"
     toolUseId := none
     filtered := false
     metadata := .object [] },
   { role := .assistant
     blocks := [.toolUse "tu_1" "echo" (.object [])]
     messageId := "m1"
     toolUseId := none
     filtered := false
     metadata := .object [] },
   { role := .user
     blocks := [.toolResult "tu_1" (.string "ok") false]
     messageId := "m2"
     toolUseId := some "tu_1"
     filtered := false
     metadata := .object [] },
   { role := .assistant
     blocks := [.text "done"]
     messageId := "m3"
     toolUseId := none
     filtered := false
     metadata := .object [] }]

/-- The placeholder of the brief result is larger than the result. -/
theorem briefResult_not_balances
    : ¬ CompactionBalances (.ofValues []) briefResult { threshold := 100, bufferTokens := 10 } := by
  intro h
  have hbalance := h.balance
  revert hbalance
  decide +kernel

end AnimaAgent
