import Mathlib.Data.List.DropRight
import AnimaAgent.Execution.Lemmas.Segments
import AnimaAgent.Execution.Lemmas.Step

namespace AnimaAgent

def answeredIds (messages : List InternalMsg) : List String :=
  (messages.rtakeWhile (fun msg => msg.role != .assistant)).flatMap InternalMsg.toolResultIds

def ChatRequest.answeredIds (request : ChatRequest) : List String :=
  (request.messages.rtakeWhile (fun msg => msg.role != .assistant)).flatMap
    (fun msg => msg.content.filterMap ContentBlock.toolResultId?)

theorem rtakeWhile_append_cons {α : Type} (p : α → Bool) (front rest : List α) {a : α}
    (ha : p a = false) (hrest : ∀ x ∈ rest, p x = true)
    : (front ++ a :: rest).rtakeWhile p = rest := by
  unfold List.rtakeWhile
  rw [List.reverse_append, List.reverse_cons, List.append_assoc, List.singleton_append,
    List.takeWhile_append_of_pos (fun x hmem => hrest x (List.mem_reverse.mp hmem)),
    List.takeWhile_cons_of_neg (by simp [ha]), List.append_nil, List.reverse_reverse]

theorem forall₂_append_cons {α : Type} {R : α → α → Prop} {front rest ys : List α} {a : α}
    (h : List.Forall₂ R (front ++ a :: rest) ys)
    : ∃ front' a' rest', ys = front' ++ a' :: rest' ∧ R a a' ∧ List.Forall₂ R rest rest' := by
  induction front generalizing ys with
  | nil =>
    cases h with
    | cons ha hrest => exact ⟨[], _, _, rfl, ha, hrest⟩
  | cons x front ih =>
    cases h with
    | @cons _ y _ _ _ h =>
      obtain ⟨front', a', rest', rfl, ha, hrest⟩ := ih h
      exact ⟨y :: front', a', rest', rfl, ha, hrest⟩

namespace IsResultMsg

theorem compacted {id : String} {msg msg' : InternalMsg} (h : IsResultMsg id msg)
    (hcompacted : Compacted msg msg')
    : msg'.role = .user ∧ msg'.toolResultIds = [id] := by
  refine ⟨hcompacted.role.trans h.role, ?_⟩
  rcases hcompacted.blocks with hblocks | ⟨text, hblocks⟩
  . unfold InternalMsg.toolResultIds
    rw [hblocks]
    exact h.toolResultIds
  . unfold InternalMsg.toolResultIds
    rw [hblocks, h.toolUseId]
    rfl

theorem not_isText {id : String} {msg : InternalMsg} (h : IsResultMsg id msg)
    : ¬msg.toApiMsg.IsText := by
  rw [InternalMsg.isText_toApiMsg_iff]
  rintro ⟨t, ht⟩
  obtain ⟨content, isError, hblocks⟩ := h.blocks
  rw [hblocks] at ht
  cases ht

theorem blocks_toApiMsg {id : String} {msg : InternalMsg} (h : IsResultMsg id msg)
    : msg.toApiMsg.blocks = msg.blocks := by
  obtain ⟨content, isError, hblocks⟩ := h.blocks
  apply InternalMsg.blocks_toApiMsg
  rw [hblocks]
  intro block hmem
  rw [List.mem_singleton.mp hmem]
  trivial

end IsResultMsg

structure EndsInResults (messages : List InternalMsg) (ids : List String) : Prop where
  shape : ∃ front assistant results, messages = front ++ assistant :: results
    ∧ assistant.role = .assistant ∧ assistant.toolUseId = none ∧ assistant.filtered = false
    ∧ List.Forall₂ IsResultMsg ids results

namespace EndsInResults

variable {ids : List String} {messages : List InternalMsg}

theorem forall_isResultMsg {results : List InternalMsg} (h : List.Forall₂ IsResultMsg ids results)
    : ∀ msg ∈ results, ∃ id, IsResultMsg id msg := by
  induction h with
  | nil =>
    intro msg hmem
    cases hmem
  | @cons id _ _ _ hfirst _ ih =>
    intro msg hmem
    rcases List.mem_cons.mp hmem with rfl | hmem
    . exact ⟨id, hfirst⟩
    . exact ih msg hmem

theorem forall_user {results : List InternalMsg} (h : List.Forall₂ IsResultMsg ids results)
    : ∀ msg ∈ results, msg.role = .user ∧ msg.filtered = false := by
  intro msg hmem
  obtain ⟨id, hid⟩ := forall_isResultMsg h msg hmem
  exact ⟨hid.role, hid.filtered⟩

theorem ensureToolResultPairing (h : EndsInResults messages ids)
    : EndsInResults (ensureToolResultPairing messages) ids := by
  obtain ⟨front, assistant, results, rfl, hrole, hid, hfiltered, hresults⟩ := h.shape
  have hnone : NoAssistantToolUseId (assistant :: results) := by
    intro msg hmem hassistant
    rcases List.mem_cons.mp hmem with rfl | hmem
    . exact hid
    . rw [(forall_user hresults msg hmem).1] at hassistant
      cases hassistant
  obtain ⟨front', hfront⟩ := ensureToolResultPairing_append front hnone
  exact ⟨front', assistant, results, hfront, hrole, hid, hfiltered, hresults⟩

theorem compactIfNeeded (h : EndsInResults messages ids) (serde : SerdeJson)
    {config : CompactConfig} (hpreserve : config.preserveRecentTurns ≠ 0)
    : EndsInResults (compactIfNeeded serde messages config).1 ids := by
  obtain ⟨front, assistant, results, rfl, hrole, hid, hfiltered, hresults⟩ := h.shape
  have hisResult : ∀ msg ∈ results, msg.isToolResult = true := by
    intro msg hmem
    obtain ⟨id, hmsg⟩ := forall_isResultMsg hresults msg hmem
    unfold InternalMsg.isToolResult
    rw [hmsg.role, hmsg.toolUseId]
    rfl
  obtain ⟨front', hfront⟩ := compactIfNeeded_append serde front hrole hisResult hpreserve
  exact ⟨front', assistant, results, hfront, hrole, hid, hfiltered, hresults⟩

theorem flatMap_toolResultIds {results results' : List InternalMsg}
    (h : List.Forall₂ IsResultMsg ids results)
    (hcompacted : List.Forall₂ Compacted results results')
    : (∀ msg ∈ results', (msg.role != .assistant) = true)
        ∧ results'.flatMap InternalMsg.toolResultIds = ids := by
  induction h generalizing results' with
  | nil =>
    cases hcompacted
    exact ⟨by simp, rfl⟩
  | cons hfirst _ ih =>
    cases hcompacted with
    | cons hfirst' hrest' =>
      obtain ⟨hroles, hids⟩ := ih hrest'
      obtain ⟨hrole, hid⟩ := hfirst.compacted hfirst'
      constructor
      . intro msg hmem
        rcases List.mem_cons.mp hmem with rfl | hmem
        . rw [hrole]; rfl
        . exact hroles msg hmem
      . rw [List.flatMap_cons, hid, hids]
        rfl

theorem answeredIds_compacted {messages' : List InternalMsg} (h : EndsInResults messages ids)
    (hcompacted : List.Forall₂ Compacted messages messages')
    : answeredIds messages' = ids := by
  obtain ⟨front, assistant, results, rfl, hrole, _, _, hresults⟩ := h.shape
  obtain ⟨front', assistant', results', rfl, hassistant, hcompacted⟩ :=
    forall₂_append_cons hcompacted
  obtain ⟨hroles, hids⟩ := flatMap_toolResultIds hresults hcompacted
  unfold answeredIds
  rw [rtakeWhile_append_cons _ _ _ _ hroles, hids]
  rw [hassistant.role, hrole]
  rfl

theorem coalesce_results {first : InternalMsg} {rest : List InternalMsg}
    (h : ∀ msg ∈ first :: rest, msg.role = .user)
    : Coalesce.coalesce ApiMsg.sameRole ApiMsg.merge first.toApiMsg
          (rest.map InternalMsg.toApiMsg)
        = [(rest.map InternalMsg.toApiMsg).foldl ApiMsg.merge first.toApiMsg] := by
  apply Coalesce.coalesce_eq_singleton
  . intro a x y h
    exact h
  . intro x hmem
    obtain ⟨msg, hmem', rfl⟩ := List.mem_map.mp hmem
    unfold ApiMsg.sameRole InternalMsg.toApiMsg
    rw [h first (List.mem_cons_self ..), h msg (List.mem_cons_of_mem first hmem')]
    rfl

theorem role_foldl_merge (a : ApiMsg) (xs : List ApiMsg)
    : (xs.foldl ApiMsg.merge a).role = a.role := by
  induction xs generalizing a with
  | nil => rfl
  | cons x xs ih => rw [List.foldl_cons, ih, ApiMsg.role_merge]

theorem normalizeMessagesForApi_append (front : List InternalMsg) {results : List InternalMsg}
    {assistant first : InternalMsg} (hrole : assistant.role = .assistant)
    (hfiltered : assistant.filtered = false)
    (hresults : ∀ msg ∈ first :: results, msg.role = .user ∧ msg.filtered = false)
    : ∃ front' last, last.role = .assistant
        ∧ normalizeMessagesForApi (front ++ assistant :: first :: results)
          = front' ++ last
            :: [(results.map InternalMsg.toApiMsg).foldl ApiMsg.merge first.toApiMsg] := by
  have hunfiltered : unfiltered (first :: results) = first :: results := by
    unfold unfiltered
    rw [List.filter_eq_self]
    intro msg hmem
    rw [(hresults msg hmem).2]
    rfl
  have hmerged : ∃ front' last, last.role = .assistant
      ∧ mergedMessages (front ++ assistant :: first :: results)
        = front' ++ last
          :: [(results.map InternalMsg.toApiMsg).foldl ApiMsg.merge first.toApiMsg] := by
    rw [← foldl_step_eq_mergedMessages, List.foldl_append, List.foldl_cons]
    generalize front.foldl normalizeMessagesForApi.step [] = acc
    have hpush : ∃ front' last, last.role = .assistant
        ∧ normalizeMessagesForApi.step acc assistant = front' ++ [last] := by
      rw [normalizeMessagesForApi.step_of_unfiltered acc hfiltered]
      unfold Coalesce.push
      cases hlast : acc.getLast? with
      | none => exact ⟨acc, assistant.toApiMsg, hrole, rfl⟩
      | some last =>
        dsimp only
        split
        . next hsame =>
          refine ⟨acc.dropLast, last.merge assistant.toApiMsg, ?_, rfl⟩
          rw [ApiMsg.role_merge, eq_of_beq hsame]
          exact hrole
        . exact ⟨acc, assistant.toApiMsg, hrole, rfl⟩
    obtain ⟨front', last, hlast, hstep⟩ := hpush
    refine ⟨front', last, hlast, ?_⟩
    have hother : ApiMsg.sameRole last first.toApiMsg = false := by
      unfold ApiMsg.sameRole
      rw [hlast]
      change (MessageRole.assistant == first.role) = false
      rw [(hresults first (List.mem_cons_self ..)).1]
      rfl
    rw [hstep, normalizeMessagesForApi.foldl_step, hunfiltered, List.map_cons,
      Coalesce.foldl_push_append_singleton, Coalesce.coalesce,
      if_neg (by rw [hother]; exact Bool.false_ne_true),
      coalesce_results (fun msg hmem => (hresults msg hmem).1)]
  obtain ⟨front', last, hlast, hmerged⟩ := hmerged
  rw [normalizeMessagesForApi_eq]
  split
  . exact ⟨front', last, hlast, hmerged⟩
  . exact ⟨emptyUserMsg :: front', last, hlast, by rw [hmerged]; rfl⟩

theorem toolResultIds_foldl_merge {first : InternalMsg} {rest : List InternalMsg} {id : String}
    (hfirst : IsResultMsg id first) (hrest : ∀ msg ∈ rest, ∃ id, IsResultMsg id msg)
    : ((rest.map InternalMsg.toApiMsg).foldl ApiMsg.merge first.toApiMsg).blocks.filterMap
          ContentBlock.toolResultId?
        = if rest = [] then [id] else [] := by
  cases rest using List.reverseRec with
  | nil =>
    rw [if_pos rfl, List.map_nil, List.foldl_nil, hfirst.blocks_toApiMsg]
    exact hfirst.toolResultIds
  | append_singleton init last _ =>
    obtain ⟨id', hlast⟩ := hrest last (by simp)
    rw [if_neg (by simp), List.map_append, List.foldl_append]
    generalize hmerged : (init.map InternalMsg.toApiMsg).foldl ApiMsg.merge first.toApiMsg = merged
    have hwellFormed : merged.WellFormed := by
      rw [← hmerged]
      cases init using List.reverseRec with
      | nil => exact ApiMsg.wellFormed_toApiMsg first
      | append_singleton init' last' _ =>
        rw [List.map_append, List.foldl_append]
        exact ApiMsg.wellFormed_merge ..
    have hjson : (merged.merge last.toApiMsg).blocks
        = [.json merged.content, .json last.toApiMsg.content] := by
      rw [ApiMsg.blocks, ApiMsg.content_merge_of_not_isText (fun h => hlast.not_isText h.2),
        blocksFromValue_array]
      simp only [List.map_cons, List.map_nil]
      rw [ContentBlock.blockFromItem_of_wireType_none none (ApiMsg.wireType_content hwellFormed),
        ContentBlock.blockFromItem_of_wireType_none none
          (ApiMsg.wireType_content (ApiMsg.wellFormed_toApiMsg last))]
    change (merged.merge last.toApiMsg).blocks.filterMap ContentBlock.toolResultId? = []
    rw [hjson]
    rfl

theorem answeredIds_chatRequest (env : LoopEnv) (h : EndsInResults messages ids)
    (hids : ids ≠ [])
    : (env.chatRequest messages).answeredIds = if ids.length = 1 then ids else [] := by
  obtain ⟨front, assistant, results, rfl, hrole, _, hfiltered, hresults⟩ := h.shape
  cases hresults with
  | nil => exact absurd rfl hids
  | @cons id first ids rest hfirst hrest =>
    have huser := forall_user (.cons hfirst hrest)
    obtain ⟨front', last, hlast, hnormalized⟩ :=
      normalizeMessagesForApi_append front hrole hfiltered huser
    have hone := forall_isResultMsg hrest
    unfold LoopEnv.chatRequest buildChatRequest ChatRequest.answeredIds
    dsimp only
    rw [hnormalized, List.map_append, List.map_cons,
      rtakeWhile_append_cons]
    . have hlength := hrest.length_eq
      rw [List.map_singleton, List.flatMap_singleton]
      refine (toolResultIds_foldl_merge hfirst hone).trans ?_
      cases rest with
      | nil =>
        have : ids = [] := List.length_eq_zero_iff.mp hlength
        rw [this]
        rfl
      | cons msg rest =>
        rw [if_neg (by simp), if_neg (by simp [hlength])]
    . unfold ApiMsg.toChatMessage
      rw [hlast]
      rfl
    . intro msg hmem
      rw [List.map_singleton, List.mem_singleton] at hmem
      rw [hmem]
      unfold ApiMsg.toChatMessage
      rw [role_foldl_merge]
      change (first.role.toChatRole != _) = true
      rw [hfirst.role]
      rfl

end EndsInResults

end AnimaAgent
