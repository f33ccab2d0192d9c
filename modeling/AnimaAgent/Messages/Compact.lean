import Mathlib.Data.List.Forall2
import AnimaAgent.Messages.Types

namespace AnimaAgent

/-- `threshold` is the part of the context window that `threshold_ratio` leaves. -/
structure CompactConfig where
  threshold : Nat
  bufferTokens : Nat := 13000
  preserveRecentTurns : Nat := 1

structure CompactResult where
  didCompact : Bool := false
  tokensBefore : Nat := 0
  tokensAfter : Nat := 0
  clearedTokens : Nat := 0
  filteredTokens : Nat := 0
  deriving DecidableEq

def InternalMsg.isToolResult (msg : InternalMsg) : Bool :=
  msg.role == .user && msg.toolUseId.isSome

section Compact

variable (serde : SerdeJson)

def estimateMsgTokens (msg : InternalMsg) : Nat :=
  (serde.toString (valueFromBlocks msg.blocks)).utf8ByteSize / 4 + 20

def estimateTotalTokens (messages : List InternalMsg) : Nat :=
  ((messages.filter (fun msg => !msg.filtered)).map (estimateMsgTokens serde)).sum

namespace findRecentTurnBoundary

def go (preserveTurns : Nat) : List InternalMsg → Nat → Nat
  | [], _ => 0
  | msg :: older, turnsFound =>
    if msg.isToolResult && !older.isEmpty then
      go preserveTurns older turnsFound
    else if msg.role = .assistant then
      if turnsFound + 1 ≥ preserveTurns then
        older.length
      else
        go preserveTurns older (turnsFound + 1)
    else
      go preserveTurns older turnsFound

end findRecentTurnBoundary

def findRecentTurnBoundary (messages : List InternalMsg) (preserveTurns : Nat) : Nat :=
  if messages.isEmpty || preserveTurns == 0 then
    messages.length
  else
    findRecentTurnBoundary.go preserveTurns messages.reverse 0

namespace clearOldToolResults

def skipped (msg : InternalMsg) : Bool :=
  msg.role != .user || msg.toolUseId.isNone || msg.filtered
    || (msg.metadata.get "compacted").isSome

def cleared (msg : InternalMsg) : InternalMsg :=
  let originalTokens := estimateMsgTokens serde msg
  { msg with
    blocks := [.toolResult (msg.toolUseId.getD "")
      (.string ("[cleared: " ++ toString originalTokens ++ " tokens]")) false]
    metadata := .object [("compacted", .bool true),
      ("original_tokens", .number (.posInt (UInt64.ofNat originalTokens)))] }

def clear (msg : InternalMsg) : InternalMsg × Nat :=
  if skipped msg then
    (msg, 0)
  else
    (cleared serde msg, estimateMsgTokens serde msg - estimateMsgTokens serde (cleared serde msg))

end clearOldToolResults

def clearOldToolResults (messages : List InternalMsg) (boundary : Nat) : List InternalMsg × Nat :=
  let old := (messages.take boundary).map (clearOldToolResults.clear serde)
  (old.map Prod.fst ++ messages.drop boundary, (old.map Prod.snd).sum)

namespace filterOldestMessages

def go (target : Nat) : Bool → Nat → List InternalMsg → List InternalMsg × Nat
  | _, freed, [] => ([], freed)
  | inGroup, freed, msg :: rest =>
    if inGroup && msg.isToolResult then
      let freed := if msg.filtered then freed else freed + estimateMsgTokens serde msg
      let (rest, freed) := go target true freed rest
      ({ msg with filtered := true } :: rest, freed)
    else if freed < target then
      if msg.filtered then
        let (rest, freed) := go target false freed rest
        (msg :: rest, freed)
      else
        let (rest, freed) :=
          go target (msg.role == .assistant) (freed + estimateMsgTokens serde msg) rest
        ({ msg with filtered := true } :: rest, freed)
    else
      (msg :: rest, freed)

end filterOldestMessages

def filterOldestMessages (messages : List InternalMsg) (boundary target : Nat)
    : List InternalMsg × Nat :=
  match messages.take boundary with
  | [] => (messages, 0)
  | first :: old =>
    let (old, freed) := filterOldestMessages.go serde target false 0 old
    (first :: old ++ messages.drop boundary, freed)

def compactIfNeeded (messages : List InternalMsg) (config : CompactConfig)
    : List InternalMsg × CompactResult :=
  let total := estimateTotalTokens serde messages
  if total < config.threshold then
    (messages, { didCompact := false, tokensBefore := total, tokensAfter := total })
  else
    let safeTarget := config.threshold - config.bufferTokens
    let needToFree := total - safeTarget
    let boundary := findRecentTurnBoundary messages config.preserveRecentTurns
    let (messages, cleared) := clearOldToolResults serde messages boundary
    let afterPhase1 := estimateTotalTokens serde messages
    if afterPhase1 < config.threshold then
      (messages,
        { didCompact := true
          tokensBefore := total
          tokensAfter := afterPhase1
          clearedTokens := cleared
          filteredTokens := 0 })
    else
      let remainingTarget := needToFree - cleared
      let (messages, filtered) := filterOldestMessages serde messages boundary remainingTarget
      (messages,
        { didCompact := true
          tokensBefore := total
          tokensAfter := estimateTotalTokens serde messages
          clearedTokens := cleared
          filteredTokens := filtered })

end Compact

structure Compacted (msg msg' : InternalMsg) : Prop where
  role : msg'.role = msg.role
  toolUseId : msg'.toolUseId = msg.toolUseId
  blocks : msg'.blocks = msg.blocks
    ∨ ∃ text, msg'.blocks = [.toolResult (msg.toolUseId.getD "") (.string text) false]

namespace Compacted

theorem refl (msg : InternalMsg) : Compacted msg msg where
  role := rfl
  toolUseId := rfl
  blocks := .inl rfl

theorem trans {a b c : InternalMsg} (hab : Compacted a b) (hbc : Compacted b c)
    : Compacted a c where
  role := hbc.role.trans hab.role
  toolUseId := hbc.toolUseId.trans hab.toolUseId
  blocks := by
    rcases hbc.blocks with h | ⟨text, h⟩
    . rw [h]
      exact hab.blocks
    . right
      rw [h, hab.toolUseId]
      exact ⟨text, rfl⟩

theorem filtered (msg : InternalMsg) : Compacted msg { msg with filtered := true } where
  role := rfl
  toolUseId := rfl
  blocks := .inl rfl

variable (serde : SerdeJson)

theorem clear (msg : InternalMsg) : Compacted msg (clearOldToolResults.clear serde msg).1 := by
  unfold clearOldToolResults.clear
  split
  . exact refl msg
  . exact { role := rfl, toolUseId := rfl, blocks := .inr ⟨_, rfl⟩ }

theorem forall₂_refl (messages : List InternalMsg) : List.Forall₂ Compacted messages messages := by
  exact List.forall₂_same.mpr (fun msg _ => refl msg)

theorem forall₂_clear (messages : List InternalMsg) (boundary : Nat)
    : List.Forall₂ Compacted messages (clearOldToolResults serde messages boundary).1 := by
  unfold clearOldToolResults
  dsimp only
  conv => lhs; rw [← List.take_append_drop boundary messages]
  apply List.rel_append
  . rw [List.map_map, List.forall₂_map_right_iff]
    exact List.forall₂_same.mpr (fun msg _ => clear serde msg)
  . exact forall₂_refl _

theorem forall₂_go (target : Nat) (inGroup : Bool) (freed : Nat) (messages : List InternalMsg)
    : List.Forall₂ Compacted messages
        (filterOldestMessages.go serde target inGroup freed messages).1 := by
  induction messages generalizing inGroup freed with
  | nil => exact .nil
  | cons msg rest ih =>
    unfold filterOldestMessages.go
    split
    . exact .cons (filtered msg) (ih _ _)
    . split
      . split
        . exact .cons (refl msg) (ih _ _)
        . exact .cons (filtered msg) (ih _ _)
      . exact forall₂_refl _

theorem forall₂_filter (messages : List InternalMsg) (boundary target : Nat)
    : List.Forall₂ Compacted messages
        (filterOldestMessages serde messages boundary target).1 := by
  unfold filterOldestMessages
  split
  . exact forall₂_refl _
  . next first old htake =>
    dsimp only
    conv => lhs; rw [← List.take_append_drop boundary messages, htake]
    apply List.rel_append
    . exact .cons (refl first) (forall₂_go serde target false 0 old)
    . exact forall₂_refl _

theorem forall₂_trans {as bs cs : List InternalMsg} (hab : List.Forall₂ Compacted as bs)
    (hbc : List.Forall₂ Compacted bs cs)
    : List.Forall₂ Compacted as cs := by
  induction hab generalizing cs with
  | nil =>
    cases hbc
    exact .nil
  | cons h _ ih =>
    cases hbc with
    | cons h' hbc => exact .cons (h.trans h') (ih hbc)

end Compacted

theorem compactIfNeeded_forall₂ (serde : SerdeJson) (messages : List InternalMsg)
    (config : CompactConfig)
    : List.Forall₂ Compacted messages (compactIfNeeded serde messages config).1 := by
  unfold compactIfNeeded
  dsimp only
  split
  . exact Compacted.forall₂_refl _
  . split
    . exact Compacted.forall₂_clear ..
    . exact Compacted.forall₂_trans (Compacted.forall₂_clear ..) (Compacted.forall₂_filter ..)

section Boundary

variable (serde : SerdeJson)

theorem findRecentTurnBoundary.go_le (preserveTurns : Nat) (messages : List InternalMsg)
    (turnsFound : Nat)
    : go preserveTurns messages turnsFound ≤ messages.length := by
  induction messages generalizing turnsFound with
  | nil =>
    unfold go
    exact Nat.le_refl 0
  | cons msg older ih =>
    have ih := fun turnsFound => Nat.le_succ_of_le (ih turnsFound)
    unfold go
    rw [List.length_cons]
    split
    . exact ih turnsFound
    . split
      . split
        . exact Nat.le_succ _
        . exact ih (turnsFound + 1)
      . exact ih turnsFound

theorem findRecentTurnBoundary.go_append (preserveTurns : Nat) {results older : List InternalMsg}
    (hresults : ∀ msg ∈ results, msg.isToolResult = true) (holder : older ≠ [])
    (turnsFound : Nat)
    : go preserveTurns (results ++ older) turnsFound = go preserveTurns older turnsFound := by
  induction results with
  | nil => rfl
  | cons msg results ih =>
    have ih := ih (fun msg' hmem => hresults msg' (List.mem_cons_of_mem msg hmem))
    rw [List.cons_append, go, hresults msg (List.mem_cons_self ..)]
    have : (results ++ older).isEmpty = false := by
      rw [List.isEmpty_eq_false_iff, ne_eq, List.append_eq_nil_iff]
      exact fun h => holder h.2
    rw [this]
    exact ih

theorem findRecentTurnBoundary_le (front : List InternalMsg) {results : List InternalMsg}
    {assistant : InternalMsg} (hrole : assistant.role = .assistant)
    (hresults : ∀ msg ∈ results, msg.isToolResult = true)
    {preserveTurns : Nat} (hpreserve : preserveTurns ≠ 0)
    : findRecentTurnBoundary (front ++ assistant :: results) preserveTurns ≤ front.length := by
  have hnotResult : assistant.isToolResult = false := by
    unfold InternalMsg.isToolResult
    rw [hrole]
    rfl
  unfold findRecentTurnBoundary
  rw [if_neg (by simp [hpreserve]), List.reverse_append, List.reverse_cons, List.append_assoc,
    findRecentTurnBoundary.go_append _ (fun msg hmem => hresults msg (List.mem_reverse.mp hmem))
      (by simp),
    List.singleton_append, findRecentTurnBoundary.go, hnotResult, Bool.false_and,
    if_neg Bool.false_ne_true, if_pos hrole]
  split
  . exact Nat.le_of_eq List.length_reverse
  . have := findRecentTurnBoundary.go_le preserveTurns front.reverse 1
    rw [List.length_reverse] at this
    exact this

theorem clearOldToolResults_append {front : List InternalMsg} (rest : List InternalMsg)
    {boundary : Nat} (h : boundary ≤ front.length)
    : ∃ front', (clearOldToolResults serde (front ++ rest) boundary).1 = front' ++ rest
        ∧ front'.length = front.length := by
  refine ⟨(clearOldToolResults serde front boundary).1, ?_, ?_⟩
  . unfold clearOldToolResults
    dsimp only
    rw [List.take_append_of_le_length h, List.drop_append_of_le_length h, List.append_assoc]
  . exact (Compacted.forall₂_clear serde front boundary).length_eq.symm

theorem filterOldestMessages_append {front rest : List InternalMsg} {boundary : Nat}
    (h : boundary ≤ front.length) (target : Nat)
    : ∃ front', (filterOldestMessages serde (front ++ rest) boundary target).1
        = front' ++ rest := by
  unfold filterOldestMessages
  rw [List.take_append_of_le_length h]
  split
  . exact ⟨front, rfl⟩
  . rw [List.drop_append_of_le_length h]
    exact ⟨_, (List.append_assoc ..).symm⟩

theorem compactIfNeeded_append (front : List InternalMsg) {results : List InternalMsg}
    {assistant : InternalMsg} (hrole : assistant.role = .assistant)
    (hresults : ∀ msg ∈ results, msg.isToolResult = true)
    {config : CompactConfig} (hpreserve : config.preserveRecentTurns ≠ 0)
    : ∃ front', (compactIfNeeded serde (front ++ assistant :: results) config).1
        = front' ++ assistant :: results := by
  have hboundary := findRecentTurnBoundary_le front hrole hresults hpreserve
  obtain ⟨front', hclear, hlength⟩ :=
    clearOldToolResults_append serde (assistant :: results) hboundary
  unfold compactIfNeeded
  dsimp only
  split
  . exact ⟨front, rfl⟩
  . rw [hclear]
    split
    . exact ⟨front', rfl⟩
    . exact filterOldestMessages_append serde (by rw [hlength]; exact hboundary) _

end Boundary

end AnimaAgent
