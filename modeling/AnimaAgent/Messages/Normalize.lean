import Mathlib.Data.List.Chain
import AnimaAgent.Library.Coalesce
import AnimaAgent.Messages.Types

namespace AnimaAgent

def InternalMsg.toApiMsg (msg : InternalMsg) : ApiMsg where
  role := msg.role
  content := valueFromBlocks msg.blocks

def mergeContent (existing new : Value) : Value :=
  match existing, new with
  | .string a, .string b => .string (a ++ "\n" ++ b)
  | existing, new => .array [existing, new]

namespace normalizeMessagesForApi

def step (result : List ApiMsg) (msg : InternalMsg) : List ApiMsg :=
  if msg.filtered then
    result
  else
    match result.getLast? with
    | some last =>
      if last.role == msg.toApiMsg.role then
        result.dropLast ++ [{ last with content := mergeContent last.content msg.toApiMsg.content }]
      else
        result ++ [msg.toApiMsg]
    | none => result ++ [msg.toApiMsg]

end normalizeMessagesForApi

def normalizeMessagesForApi (messages : List InternalMsg) : List ApiMsg :=
  let result := messages.foldl normalizeMessagesForApi.step []
  if result.head?.map ApiMsg.role == some .user then
    result
  else
    { role := .user, content := .string "" } :: result

namespace ApiMsg

def sameRole (a b : ApiMsg) : Bool :=
  a.role == b.role

def merge (a b : ApiMsg) : ApiMsg :=
  { a with content := mergeContent a.content b.content }

@[simp]
theorem role_merge (a b : ApiMsg) : (a.merge b).role = a.role := by
  rfl

end ApiMsg

def unfiltered (messages : List InternalMsg) : List InternalMsg :=
  messages.filter (fun msg => !msg.filtered)

namespace normalizeMessagesForApi

theorem step_of_filtered (result : List ApiMsg) {msg : InternalMsg} (h : msg.filtered = true)
    : step result msg = result := by
  rw [step, if_pos h]

theorem step_of_unfiltered (result : List ApiMsg) {msg : InternalMsg} (h : msg.filtered = false)
    : step result msg = Coalesce.push ApiMsg.sameRole ApiMsg.merge result msg.toApiMsg := by
  unfold step Coalesce.push
  rw [if_neg (by simp [h])]
  cases result.getLast? with
  | none => rfl
  | some last => rfl

theorem foldl_step (messages : List InternalMsg) (result : List ApiMsg)
    : messages.foldl step result
        = ((unfiltered messages).map InternalMsg.toApiMsg).foldl
            (Coalesce.push ApiMsg.sameRole ApiMsg.merge) result := by
  induction messages generalizing result with
  | nil => rfl
  | cons msg messages ih =>
    rw [List.foldl_cons, ih]
    cases h : msg.filtered with
    | true =>
      rw [step_of_filtered result h]
      simp [unfiltered, h]
    | false =>
      rw [step_of_unfiltered result h]
      simp [unfiltered, h]

end normalizeMessagesForApi

def mergedMessages (messages : List InternalMsg) : List ApiMsg :=
  match (unfiltered messages).map InternalMsg.toApiMsg with
  | [] => []
  | first :: rest => Coalesce.coalesce ApiMsg.sameRole ApiMsg.merge first rest

theorem foldl_step_eq_mergedMessages (messages : List InternalMsg)
    : messages.foldl normalizeMessagesForApi.step [] = mergedMessages messages := by
  rw [normalizeMessagesForApi.foldl_step]
  unfold mergedMessages
  split
  . next h => rw [h]; rfl
  . next first rest h => rw [h, Coalesce.foldl_push_cons]

def emptyUserMsg : ApiMsg :=
  { role := .user, content := .string "" }

theorem normalizeMessagesForApi_eq (messages : List InternalMsg)
    : normalizeMessagesForApi messages
        = if (mergedMessages messages).head?.map ApiMsg.role = some .user
          then mergedMessages messages
          else emptyUserMsg :: mergedMessages messages := by
  unfold normalizeMessagesForApi
  rw [foldl_step_eq_mergedMessages]
  simp [emptyUserMsg]

theorem isChain_mergedMessages (messages : List InternalMsg)
    : (mergedMessages messages).IsChain (fun a b => a.role ≠ b.role) := by
  unfold mergedMessages
  split
  . exact .nil
  . next first rest _ =>
    obtain ⟨head, others, heq, _, hchain⟩ := Coalesce.exists_coalesce_eq_cons ApiMsg.sameRole
      ApiMsg.merge (fun _ _ _ => rfl) first rest
    rw [heq]
    refine hchain.imp ?_
    intro a b h
    simpa [ApiMsg.sameRole] using h

theorem normalizeMessagesForApi_alternates (messages : List InternalMsg)
    : (normalizeMessagesForApi messages = []
          ∨ (normalizeMessagesForApi messages).head?.map ApiMsg.role = some .user)
        ∧ (normalizeMessagesForApi messages).IsChain (fun a b => a.role ≠ b.role) := by
  have hmerged := isChain_mergedMessages messages
  rw [normalizeMessagesForApi_eq]
  split
  . next huser => exact ⟨.inr huser, hmerged⟩
  . next huser =>
    refine ⟨.inr rfl, ?_⟩
    cases h : mergedMessages messages with
    | nil => exact .singleton _
    | cons first rest =>
      rw [h] at hmerged huser
      refine List.isChain_cons_cons.mpr ⟨?_, hmerged⟩
      intro hrole
      exact huser (congrArg some hrole.symm)

inductive JoinsTo : List ContentBlock → List ContentBlock → Prop where
  | nil : JoinsTo [] []
  | cons (block : ContentBlock) {xs ys} : JoinsTo xs ys → JoinsTo (block :: xs) (block :: ys)
  | join (s t : String) {xs ys} :
    JoinsTo (.text (s ++ "\n" ++ t) :: xs) ys → JoinsTo (.text s :: .text t :: xs) ys

def jsonSize (blocks : List ContentBlock) : Nat :=
  (blocks.map ContentBlock.jsonSize).sum

@[simp]
theorem jsonSize_nil : jsonSize [] = 0 := by
  rfl

@[simp]
theorem jsonSize_cons (block : ContentBlock) (blocks : List ContentBlock)
    : jsonSize (block :: blocks) = block.jsonSize + jsonSize blocks := by
  simp [jsonSize]

@[simp]
theorem jsonSize_append (as bs : List ContentBlock)
    : jsonSize (as ++ bs) = jsonSize as + jsonSize bs := by
  simp [jsonSize]

theorem jsonSize_flatMap {α : Type} (f : α → List ContentBlock) (xs : List α)
    : jsonSize (xs.flatMap f) = (xs.map (fun x => jsonSize (f x))).sum := by
  induction xs with
  | nil => rfl
  | cons x xs ih => simp [ih]

namespace JoinsTo

theorem refl (xs : List ContentBlock) : JoinsTo xs xs := by
  induction xs with
  | nil => exact .nil
  | cons x xs ih => exact .cons x ih

theorem append_left (zs : List ContentBlock) {xs ys : List ContentBlock} (h : JoinsTo xs ys)
    : JoinsTo (zs ++ xs) (zs ++ ys) := by
  induction zs with
  | nil => exact h
  | cons z zs ih => exact .cons z ih

theorem jsonSize_eq {xs ys : List ContentBlock} (h : JoinsTo xs ys) : jsonSize xs = jsonSize ys := by
  induction h with
  | nil => rfl
  | cons block h ih => rw [jsonSize_cons, jsonSize_cons, ih]
  | join s t h ih =>
    rw [← ih]
    simp [ContentBlock.jsonSize]

theorem filter_isTool_eq {xs ys : List ContentBlock} (h : JoinsTo xs ys)
    : xs.filter ContentBlock.isTool = ys.filter ContentBlock.isTool := by
  induction h with
  | nil => rfl
  | cons block h ih => rw [List.filter_cons, List.filter_cons, ih]
  | join s t h ih =>
    rw [← ih]
    simp [ContentBlock.isTool]

end JoinsTo

namespace ApiMsg

def blocks (msg : ApiMsg) : List ContentBlock :=
  blocksFromValue msg.content none

def IsText (msg : ApiMsg) : Prop :=
  ∃ t, msg.content = .string t

def WellFormed (msg : ApiMsg) : Prop :=
  (∃ t, msg.content = .string t) ∨ (∃ items, msg.content = .array items)

theorem wellFormed_merge (a b : ApiMsg) : (a.merge b).WellFormed := by
  unfold WellFormed merge mergeContent
  dsimp
  split
  . exact .inl ⟨_, rfl⟩
  . exact .inr ⟨_, rfl⟩

theorem wellFormed_toApiMsg (msg : InternalMsg) : msg.toApiMsg.WellFormed := by
  unfold WellFormed InternalMsg.toApiMsg valueFromBlocks
  dsimp
  split
  . exact .inl ⟨_, rfl⟩
  . exact .inr ⟨_, rfl⟩

theorem wireType_content {msg : ApiMsg} (h : msg.WellFormed) : msg.content.wireType = none := by
  rcases h with ⟨t, h⟩ | ⟨items, h⟩
  . rw [h]; rfl
  . rw [h]; rfl

theorem jsonSize_blockFromItem_le (item : Value)
    : (blockFromItem none item).jsonSize ≤ item.size := by
  unfold blockFromItem
  split
  all_goals simp [ContentBlock.jsonSize]

theorem jsonSize_map_blockFromItem_le (items : List Value)
    : jsonSize (items.map (blockFromItem none)) ≤ Value.sizeItems items := by
  induction items with
  | nil => exact Nat.le_refl 0
  | cons item items ih =>
    have := jsonSize_blockFromItem_le item
    simp only [List.map_cons, jsonSize_cons, Value.sizeItems]
    omega

theorem jsonSize_blocks_lt {msg : ApiMsg} (h : msg.WellFormed)
    : jsonSize msg.blocks < msg.content.size := by
  unfold blocks
  rcases h with ⟨t, h⟩ | ⟨items, h⟩
  . rw [h]
    simp [ContentBlock.jsonSize, Value.size]
  . have := jsonSize_map_blockFromItem_le items
    rw [h, blocksFromValue_array, Value.size]
    omega

theorem blocks_of_isText {msg : ApiMsg} {t : String} (h : msg.content = .string t)
    : msg.blocks = [.text t] := by
  rw [blocks, h, blocksFromValue_string]

theorem content_merge_of_isText {a b : ApiMsg} {s t : String} (ha : a.content = .string s)
    (hb : b.content = .string t)
    : (a.merge b).content = .string (s ++ "\n" ++ t) := by
  unfold merge mergeContent
  dsimp
  rw [ha, hb]

theorem content_merge_of_not_isText {a b : ApiMsg} (h : ¬(a.IsText ∧ b.IsText))
    : (a.merge b).content = .array [a.content, b.content] := by
  unfold merge mergeContent
  dsimp
  split
  . next s t ha hb => exact absurd ⟨⟨s, ha⟩, ⟨t, hb⟩⟩ h
  . rfl

theorem isText_merge {a b : ApiMsg} (ha : a.IsText) (hb : b.IsText) : (a.merge b).IsText := by
  obtain ⟨s, ha⟩ := ha
  obtain ⟨t, hb⟩ := hb
  exact ⟨_, content_merge_of_isText ha hb⟩

theorem jsonSize_merge_of_isText {a b : ApiMsg} (ha : a.IsText) (hb : b.IsText)
    : jsonSize (a.merge b).blocks = jsonSize a.blocks + jsonSize b.blocks := by
  obtain ⟨s, ha⟩ := ha
  obtain ⟨t, hb⟩ := hb
  rw [blocks_of_isText (content_merge_of_isText ha hb), blocks_of_isText ha, blocks_of_isText hb]
  rfl

theorem jsonSize_merge_of_not_isText {a b : ApiMsg} (ha : a.WellFormed) (hb : b.WellFormed)
    (h : ¬(a.IsText ∧ b.IsText))
    : jsonSize a.blocks + jsonSize b.blocks < jsonSize (a.merge b).blocks := by
  have hblocks : (a.merge b).blocks = [.json a.content, .json b.content] := by
    rw [blocks, content_merge_of_not_isText h, blocksFromValue_array]
    simp only [List.map_cons, List.map_nil]
    rw [ContentBlock.blockFromItem_of_wireType_none none (wireType_content ha),
      ContentBlock.blockFromItem_of_wireType_none none (wireType_content hb)]
  have ha := jsonSize_blocks_lt ha
  have hb := jsonSize_blocks_lt hb
  rw [hblocks]
  simp only [jsonSize_cons, jsonSize_nil, ContentBlock.jsonSize]
  omega

theorem sameRole_merge {a x : ApiMsg} (y : ApiMsg) (h : sameRole a x)
    : sameRole (a.merge x) y = sameRole x y := by
  unfold sameRole at h ⊢
  rw [role_merge, eq_of_beq h]

end ApiMsg

def MergeKeeps (a b : ApiMsg) : Prop :=
  ApiMsg.sameRole a b → a.IsText ∧ b.IsText

theorem jsonSize_coalesce_eq_iff (first : ApiMsg) (rest : List ApiMsg)
    (hvalid : ∀ msg ∈ first :: rest, msg.WellFormed)
    : jsonSize ((Coalesce.coalesce ApiMsg.sameRole ApiMsg.merge first rest).flatMap ApiMsg.blocks)
        = jsonSize ((first :: rest).flatMap ApiMsg.blocks)
        ↔ (first :: rest).IsChain MergeKeeps := by
  rw [jsonSize_flatMap, jsonSize_flatMap]
  apply Coalesce.sum_coalesce_eq_iff_isChain
    (V := ApiMsg.WellFormed) (G := ApiMsg.IsText)
  . intro a x _ _ _
    exact ApiMsg.wellFormed_merge a x
  . intro a x ha hx _ h
    exact ApiMsg.jsonSize_merge_of_not_isText ha hx h
  . intro a x _ ha hx
    exact ApiMsg.jsonSize_merge_of_isText ha hx
  . intro a x _ ha hx
    exact ApiMsg.isText_merge ha hx
  . intro a x y h
    exact ApiMsg.sameRole_merge y h
  . exact hvalid first (List.mem_cons_self ..)
  . intro msg hmem
    exact hvalid msg (List.mem_cons_of_mem first hmem)

theorem joinsTo_coalesce (first : ApiMsg) (rest : List ApiMsg)
    (h : (first :: rest).IsChain MergeKeeps)
    : JoinsTo ((first :: rest).flatMap ApiMsg.blocks)
        ((Coalesce.coalesce ApiMsg.sameRole ApiMsg.merge first rest).flatMap ApiMsg.blocks) := by
  induction rest generalizing first with
  | nil => exact JoinsTo.refl _
  | cons x xs ih =>
    rw [List.isChain_cons_cons] at h
    obtain ⟨hkeep, htail⟩ := h
    rw [Coalesce.coalesce]
    split
    . next hsame =>
      obtain ⟨hfirst, hx⟩ := hkeep hsame
      have hchain : (first.merge x :: xs).IsChain MergeKeeps := by
        cases xs with
        | nil => exact .singleton _
        | cons y ys =>
          rw [List.isChain_cons_cons] at htail ⊢
          refine ⟨fun hy => ?_, htail.2⟩
          rw [ApiMsg.sameRole_merge y hsame] at hy
          exact ⟨ApiMsg.isText_merge hfirst hx, (htail.1 hy).2⟩
      obtain ⟨s, hs⟩ := hfirst
      obtain ⟨t, ht⟩ := hx
      have ih := ih (first.merge x) hchain
      rw [List.flatMap_cons, ApiMsg.blocks_of_isText (ApiMsg.content_merge_of_isText hs ht)] at ih
      rw [List.flatMap_cons, List.flatMap_cons, ApiMsg.blocks_of_isText hs,
        ApiMsg.blocks_of_isText ht]
      exact .join s t ih
    . rw [List.flatMap_cons, List.flatMap_cons]
      exact JoinsTo.append_left first.blocks (ih x htail)

def unfilteredBlocks (messages : List InternalMsg) : List ContentBlock :=
  (unfiltered messages).flatMap InternalMsg.blocks

namespace InternalMsg

def IsText (msg : InternalMsg) : Prop :=
  ∃ t, msg.blocks = [.text t]

theorem isText_toApiMsg_iff (msg : InternalMsg) : msg.toApiMsg.IsText ↔ msg.IsText := by
  unfold ApiMsg.IsText InternalMsg.IsText InternalMsg.toApiMsg
  simp only [valueFromBlocks_eq_string_iff]

theorem blocks_toApiMsg {msg : InternalMsg} (h : ∀ block ∈ msg.blocks, block.Plain)
    : msg.toApiMsg.blocks = msg.blocks := by
  exact blocksFromValue_valueFromBlocks msg.blocks none h

end InternalMsg

def OnlyTextsMerge (messages : List InternalMsg) : Prop :=
  (unfiltered messages).IsChain (fun a b => a.role = b.role → a.IsText ∧ b.IsText)

theorem isChain_mergeKeeps_iff (messages : List InternalMsg)
    : ((unfiltered messages).map InternalMsg.toApiMsg).IsChain MergeKeeps
        ↔ OnlyTextsMerge messages := by
  unfold OnlyTextsMerge
  rw [List.isChain_map]
  apply List.IsChain.iff
  intro a b
  unfold MergeKeeps ApiMsg.sameRole
  rw [InternalMsg.isText_toApiMsg_iff, InternalMsg.isText_toApiMsg_iff, beq_iff_eq]
  rfl

theorem flatMap_blocks_toApiMsg {messages : List InternalMsg}
    (hplain : ∀ msg ∈ messages, ∀ block ∈ msg.blocks, block.Plain)
    : (messages.map InternalMsg.toApiMsg).flatMap ApiMsg.blocks
        = messages.flatMap InternalMsg.blocks := by
  induction messages with
  | nil => rfl
  | cons msg messages ih =>
    rw [List.map_cons, List.flatMap_cons, List.flatMap_cons,
      InternalMsg.blocks_toApiMsg (hplain msg (List.mem_cons_self ..)),
      ih (fun msg' hmem => hplain msg' (List.mem_cons_of_mem msg hmem))]

section MergedMessages

variable {messages : List InternalMsg}
variable (hplain : ∀ msg ∈ unfiltered messages, ∀ block ∈ msg.blocks, block.Plain)

include hplain in
theorem jsonSize_mergedMessages_eq_iff
    : jsonSize ((mergedMessages messages).flatMap ApiMsg.blocks)
        = jsonSize (unfilteredBlocks messages)
        ↔ OnlyTextsMerge messages := by
  rw [← isChain_mergeKeeps_iff, unfilteredBlocks, ← flatMap_blocks_toApiMsg hplain]
  unfold mergedMessages
  split
  . next h => simp [h]
  . next first rest h =>
    rw [h]
    apply jsonSize_coalesce_eq_iff
    intro msg hmem
    rw [← h] at hmem
    obtain ⟨msg', _, rfl⟩ := List.mem_map.mp hmem
    exact ApiMsg.wellFormed_toApiMsg msg'

include hplain in
theorem joinsTo_mergedMessages (h : OnlyTextsMerge messages)
    : JoinsTo (unfilteredBlocks messages) ((mergedMessages messages).flatMap ApiMsg.blocks) := by
  rw [← isChain_mergeKeeps_iff] at h
  rw [unfilteredBlocks, ← flatMap_blocks_toApiMsg hplain]
  unfold mergedMessages
  split
  . next h' => rw [h']; exact .nil
  . next first rest h' =>
    rw [h'] at h ⊢
    exact joinsTo_coalesce first rest h

end MergedMessages

end AnimaAgent
