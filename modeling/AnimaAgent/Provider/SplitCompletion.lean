import AnimaAgent.Provider.Lemmas.MixedArguments

namespace AnimaAgent.OpenAiCompatProvider

abbrev Chunk := Value × Value × Value

namespace Chunk

def text (c : Chunk) : String :=
  ((c.2.2.get "content").bind Value.asStr).getD ""

def toolCalls? (c : Chunk) : Option (List Value) :=
  (c.2.2.get "tool_calls").bind Value.asArray

def fragments (c : Chunk) : List Fragment :=
  (c.toolCalls?.getD []).map fragmentOf

def finishReason (c : Chunk) : String :=
  reasonOf c.2.1

def textPieces (c : Chunk) : List Piece :=
  if c.text = "" then [] else [.text c.text]

def callPieces (c : Chunk) : List Piece :=
  match c.toolCalls? with
  | some toolCalls => .toolCalls :: toolCalls.map Piece.fragment
  | none => []

def finishPieces (c : Chunk) : List Piece :=
  if c.finishReason = "" then [] else [.finish c.2.1]

def pieces (c : Chunk) : List Piece :=
  c.textPieces ++ c.callPieces ++ c.finishPieces

end Chunk

namespace ChunkState

variable (order : List UInt64 → List UInt64)

theorem run_textDelta (state : ChunkState) (c : Chunk)
    : (state.textDelta c.2.2).run = runPieces order state c.textPieces := by
  unfold textDelta Chunk.textPieces Chunk.text
  cases (c.2.2.get "content").bind Value.asStr with
  | none => rfl
  | some text =>
    dsimp only [Option.getD_some]
    split
    . rfl
    . rw [runPieces_cons, runPieces_nil, List.append_nil]
      rfl

theorem run_foldlM_toolCallDelta (state : ChunkState) (toolCalls : List Value)
    : (toolCalls.foldlM (toolCallDelta order) state).run
        = runPieces order state (toolCalls.map Piece.fragment) := by
  induction toolCalls generalizing state with
  | nil => rfl
  | cons tc toolCalls ih =>
    rw [List.foldlM_cons, run_bind, ih, List.map_cons, runPieces_cons]
    rfl

theorem run_toolCallsDelta (state : ChunkState) (c : Chunk)
    : (state.toolCallsDelta order c.2.2).run = runPieces order state c.callPieces := by
  unfold toolCallsDelta Chunk.callPieces Chunk.toolCalls?
  cases (c.2.2.get "tool_calls").bind Value.asArray with
  | none => rfl
  | some toolCalls =>
    dsimp only
    rw [run_bind, run_foldlM_toolCallDelta, runPieces_cons]
    rfl

theorem run_finish_pieces (state : ChunkState) (c : Chunk)
    : (state.finish c.2.1).run = runPieces order state c.finishPieces := by
  unfold Chunk.finishPieces Chunk.finishReason
  split
  . next h =>
    unfold finish
    change (if reasonOf c.2.1 = "" then _ else _ : ChunkM ChunkState).run = _
    rw [if_pos h]
    rfl
  . rw [runPieces_cons, runPieces_nil, List.append_nil]
    rfl

theorem run_chunk {state : ChunkState} (h : state.started = true) (c : Chunk)
    : (state.chunk order c.1 c.2.1 c.2.2).run = runPieces order state c.pieces := by
  have hstart : state.startMessage c.1 = pure state := by
    unfold startMessage
    rw [if_pos h]
  unfold chunk Chunk.pieces
  rw [hstart, runPieces_append, runPieces_append, run_bind, run_bind, run_bind]
  change ((_ : ChunkState × List StreamEvent).1, [] ++ _) = _
  rw [List.nil_append, run_textDelta order, run_toolCallsDelta, run_finish_pieces order,
    List.append_assoc]
  rfl

theorem started_piece (state : ChunkState) (p : Piece)
    : (state.piece order p).run.1.started = state.started := by
  cases p with
  | text t =>
    change state.openText.run.1.started = _
    rw [run_openText]
  | toolCalls =>
    change state.closeText.run.1.started = _
    rw [run_closeText]
  | fragment tc =>
    rw [piece_fragment_state]
    unfold withCall
    split <;> rfl
  | finish choice => exact congrArg ChunkState.started (state_finish state choice)

theorem started_runPieces (state : ChunkState) (ps : List Piece)
    : (runPieces order state ps).1.started = state.started := by
  induction ps generalizing state with
  | nil => rfl
  | cons p ps ih => rw [runPieces_cons, ih, started_piece]

end ChunkState

theorem streamEvents_of_started (order : List UInt64 → List UInt64) {state : ChunkState}
    (h : state.started = true) (chunks : List Chunk)
    : streamEvents order state chunks
        = (ChunkState.runPieces order state (chunks.flatMap Chunk.pieces)).2 := by
  induction chunks generalizing state with
  | nil => rfl
  | cons c chunks ih =>
    have hrun := ChunkState.run_chunk order h c
    have hstarted := (ChunkState.started_runPieces order state c.pieces).trans h
    obtain ⟨json, choice, delta⟩ := c
    rw [streamEvents, List.flatMap_cons, ChunkState.runPieces_append]
    dsimp only at hrun
    rw [hrun, ← ih hstarted]

theorem streamEvents_cons (order : List UInt64 → List UInt64) (c : Chunk) (chunks : List Chunk)
    : streamEvents order {} (c :: chunks)
        = .messageStart (c.1.strField "id")
          :: (ChunkState.runPieces order { started := true }
            ((c :: chunks).flatMap Chunk.pieces)).2 := by
  rw [← @streamEvents_of_started order { started := true } rfl (c :: chunks)]
  rfl

def toolCallsOf (choice : Value) : List Value :=
  ((choice.get "tool_calls").bind Value.asArray).getD []

def callName (tc : Value) : String :=
  ((tc.get "function").getD .null).strField "name"

def callArguments (tc : Value) : Option String :=
  (((tc.get "function").getD .null).get "arguments").bind Value.asStr

def AssembledFrom (serde : SerdeJson) (tc : Value) (fragments : List Fragment) : Prop :=
  ∃ first rest, fragments = first :: rest
    ∧ first.id = tc.strField "id"
    ∧ first.name = callName tc
    ∧ ∃ input, callArguments tc = some (String.join (fragments.map Fragment.arguments))
      ∧ serde.fromStr (String.join (fragments.map Fragment.arguments)) = .ok input

structure SplitCompletion (serde : SerdeJson) where
  raw : Value
  choice : Value
  message : raw.pointer ["choices", "0", "message"] = some choice
  reason : String
  reason_raw : raw.pointer ["choices", "0", "finish_reason"] = some (.string reason)
  lines : List (Except String String)
  init : List Chunk
  last : Chunk
  chunks_eq : lines.filterMap (chunkOfLine serde) = init ++ [last]
  unfinished : ∀ c ∈ init, c.finishReason = ""
  finished : last.finishReason = reason
  reason_ne : reason ≠ ""
  text_eq : String.join ((init ++ [last]).map Chunk.text)
    = ((choice.get "content").bind Value.asStr).getD ""
  known : ∀ f ∈ (init ++ [last]).flatMap Chunk.fragments,
    f.index.toNat < (toolCallsOf choice).length
  assembled : ∀ i (h : i < (toolCallsOf choice).length),
    AssembledFrom serde (toolCallsOf choice)[i]
      (((init ++ [last]).flatMap Chunk.fragments).filter (fun f => f.index.toNat = i))

namespace SplitCompletion

variable {serde : SerdeJson} (split : SplitCompletion serde)

def chunks : List Chunk :=
  split.init ++ [split.last]

def fragments : List Fragment :=
  split.chunks.flatMap Chunk.fragments

def calls : List Value :=
  toolCallsOf split.choice

/-- Whatever the order of the set, the stream gives what the completion in one piece gives. -/
def StreamsAlike : Prop :=
  ∃ response, parseResponse serde split.raw = .ok response
    ∧ ∀ order, IterationOrder order →
      ∃ parsed value, consumeStreamEvents serde (streamItems serde order split.lines)
          = .ok (parsed, value)
        ∧ parsed.text = (parseChatResponse response).text
        ∧ parsed.toolUses = (parseChatResponse response).toolUses
        ∧ parsed.stopReason = (parseChatResponse response).stopReason

/-- The reason is not one that only the consumer of the events knows. -/
def ReasonKept : Prop :=
  split.reason ∉ ["max_tokens", "tool_use", "stop_sequence"]

/-- No text comes in a chunk behind one with fragments of calls. -/
def TextFirst : Prop :=
  split.chunks.Pairwise (fun c d => c.fragments = [] ∨ d.text = "")

/-- The calls start in their order, as far as their ids and names tell. -/
def StartedInOrder : Prop :=
  (firstFragments [] split.fragments).map (fun f => (f.id, f.name))
    = split.calls.map (fun tc => (tc.strField "id", callName tc))

/--
The calls can be exchanged: whichever of the calls that have started is chosen for a call at each time,
its arguments of that time give, put together, a text with the value of the call's own arguments.
-/
def Exchangeable : Prop :=
  ∀ slot (h : slot < split.calls.length) chosen,
    Chosen (startedIndices split.fragments) slot chosen
      → serde.fromStr (mixed slot chosen (timed [] split.fragments))
        = serde.fromStr ((callArguments (split.calls[slot])).getD "")

def body : List Piece :=
  split.chunks.flatMap (fun c => c.textPieces ++ c.callPieces)

theorem finishPieces_last : split.last.finishPieces = [.finish split.last.2.1] := by
  unfold Chunk.finishPieces
  rw [if_neg (by rw [split.finished]; exact split.reason_ne)]

theorem pieces_eq : split.chunks.flatMap Chunk.pieces = split.body ++ [.finish split.last.2.1] := by
  have hinit : split.init.flatMap Chunk.pieces
      = split.init.flatMap (fun c => c.textPieces ++ c.callPieces) := by
    apply List.flatMap_congr
    intro c hmem
    unfold Chunk.pieces Chunk.finishPieces
    rw [if_pos (split.unfinished c hmem), List.append_nil]
  unfold body chunks
  rw [List.flatMap_append, List.flatMap_append, hinit, List.append_assoc]
  congr 1
  rw [List.flatMap_singleton, List.flatMap_singleton]
  unfold Chunk.pieces
  rw [split.finishPieces_last]

end SplitCompletion

namespace Chunk

variable (c : Chunk)

theorem fragment?_of_mem_textPieces : ∀ p ∈ c.textPieces, p.fragment? = none := by
  intro p hmem
  unfold textPieces at hmem
  split at hmem
  . cases hmem
  . rw [List.mem_singleton.mp hmem]
    rfl

theorem isCall_of_mem_callPieces : ∀ p ∈ c.callPieces, p.IsCall := by
  intro p hmem
  unfold callPieces at hmem
  split at hmem
  . rcases List.mem_cons.mp hmem with rfl | hmem
    . trivial
    . obtain ⟨tc, _, rfl⟩ := List.mem_map.mp hmem
      trivial
  . cases hmem

theorem fragments_eq : c.callPieces.filterMap Piece.fragment? = c.fragments := by
  unfold callPieces fragments
  cases c.toolCalls? with
  | none => rfl
  | some toolCalls =>
    change (toolCalls.map Piece.fragment).filterMap Piece.fragment? = toolCalls.map fragmentOf
    rw [List.filterMap_map]
    exact congrFun (List.filterMap_eq_map) toolCalls

theorem filterMap_fragment?_pieces
    : (c.textPieces ++ c.callPieces).filterMap Piece.fragment? = c.fragments := by
  rw [List.filterMap_append, c.fragments_eq,
    List.filterMap_eq_nil_iff.mpr c.fragment?_of_mem_textPieces, List.nil_append]

theorem fragment?_of_no_fragments (h : c.fragments = [])
    : ∀ p ∈ c.textPieces ++ c.callPieces, p.fragment? = none := by
  have hfragments := c.filterMap_fragment?_pieces
  rw [h] at hfragments
  exact List.filterMap_eq_nil_iff.mp hfragments

theorem join_ownText_pieces
    : String.join ((c.textPieces ++ c.callPieces).map Piece.ownText) = c.text := by
  have hcalls : String.join (c.callPieces.map Piece.ownText) = "" := by
    apply Text.join_eq_empty_iff.mpr
    intro s hmem
    obtain ⟨p, hp, rfl⟩ := List.mem_map.mp hmem
    have hcall := c.isCall_of_mem_callPieces p hp
    cases p with
    | text t => exact absurd hcall id
    | _ => rfl
  rw [List.map_append, String.join_append, hcalls, String.append_empty]
  unfold textPieces
  split
  . next h => exact h.symm
  . exact String.empty_append

theorem flatMap_ownStop_pieces : (c.textPieces ++ c.callPieces).flatMap Piece.ownStop = [] := by
  rw [List.flatMap_eq_nil_iff]
  intro p hmem
  rcases List.mem_append.mp hmem with hmem | hmem
  . unfold textPieces at hmem
    split at hmem
    . cases hmem
    . rw [List.mem_singleton.mp hmem]
      rfl
  . have hcall := c.isCall_of_mem_callPieces p hmem
    cases p with
    | finish choice => exact absurd hcall id
    | _ => rfl

end Chunk

namespace SplitCompletion

variable {serde : SerdeJson} (split : SplitCompletion serde)

theorem filterMap_fragment?_body : split.body.filterMap Piece.fragment? = split.fragments := by
  unfold body fragments
  rw [List.filterMap_flatMap]
  exact List.flatMap_congr (fun c _ => c.filterMap_fragment?_pieces)

theorem join_ownText_body
    : String.join (split.body.map Piece.ownText)
        = ((split.choice.get "content").bind Value.asStr).getD "" := by
  have hjoin : ∀ cs : List Chunk,
      String.join ((cs.flatMap (fun c => c.textPieces ++ c.callPieces)).map Piece.ownText)
        = String.join (cs.map Chunk.text) := by
    intro cs
    induction cs with
    | nil => rfl
    | cons c cs ih =>
      rw [List.flatMap_cons, List.map_append, String.join_append, c.join_ownText_pieces, ih,
        List.map_cons, String.join_cons]
  unfold body
  rw [hjoin]
  exact split.text_eq

theorem flatMap_ownStop_body : split.body.flatMap Piece.ownStop = [] := by
  unfold body
  rw [List.flatMap_assoc, List.flatMap_eq_nil_iff]
  exact fun c _ => c.flatMap_ownStop_pieces

def events (order : List UInt64 → List UInt64) : List StreamEvent :=
  streamEvents order {} split.chunks

theorem streamItems_eq (order : List UInt64 → List UInt64)
    : streamItems serde order split.lines = (split.events order).map Except.ok := by
  unfold streamItems
  rw [split.chunks_eq]
  rfl

theorem events_eq (order : List UInt64 → List UInt64)
    : ∃ messageId, split.events order
        = .messageStart messageId
          :: (ChunkState.runPieces order { started := true }
            (split.body ++ [.finish split.last.2.1])).2 := by
  rw [← split.pieces_eq]
  unfold events
  obtain ⟨c, chunks, hchunks⟩ : ∃ c chunks, split.chunks = c :: chunks := by
    apply List.exists_cons_of_ne_nil
    exact List.append_ne_nil_of_right_ne_nil _ (List.cons_ne_nil _ _)
  rw [hchunks, streamEvents_cons]
  exact ⟨_, rfl⟩

theorem summary_events (order : List UInt64 → List UInt64)
    : String.join ((split.events order).map StreamEvent.textPart)
          = ((split.choice.get "content").bind Value.asStr).getD ""
        ∧ lastStopReason (split.events order) = some (ChunkState.wireStopReason split.reason)
        ∧ ∀ event ∈ split.events order, event.isError = false := by
  obtain ⟨messageId, hevents⟩ := split.events_eq order
  obtain ⟨htext, hstop, herror⟩ := ChunkState.summary_runPieces order { started := true }
    (split.body ++ [.finish split.last.2.1])
  rw [hevents]
  refine ⟨?_, ?_, ?_⟩
  . rw [List.map_cons, String.join_cons, htext, List.map_append, String.join_append,
      split.join_ownText_body]
    change "" ++ (_ ++ ("" ++ "")) = _
    rw [String.empty_append, String.append_empty, String.append_empty]
  . unfold lastStopReason
    rw [List.filterMap_cons]
    dsimp only [StreamEvent.stopReason?]
    rw [hstop, List.flatMap_append, split.flatMap_ownStop_body, List.flatMap_singleton]
    have hreason : reasonOf split.last.2.1 = split.reason := split.finished
    change ([] ++ (if reasonOf split.last.2.1 = "" then [] else
      [some (ChunkState.wireStopReason (reasonOf split.last.2.1))])).getLast?.join = _
    rw [hreason, if_neg split.reason_ne]
    rfl
  . intro event hmem
    rcases List.mem_cons.mp hmem with rfl | hmem
    . rfl
    . exact herror event hmem

theorem isFinish_of_mem_body {cs : List Chunk}
    : ∀ p ∈ cs.flatMap (fun c => c.textPieces ++ c.callPieces), p.isFinish = false := by
  intro p hmem
  obtain ⟨c, _, hp⟩ := List.mem_flatMap.mp hmem
  rcases List.mem_append.mp hp with hp | hp
  . unfold Chunk.textPieces at hp
    split at hp
    . cases hp
    . rw [List.mem_singleton.mp hp]
      rfl
  . have hcall := c.isCall_of_mem_callPieces p hp
    cases p with
    | finish choice => exact absurd hcall id
    | _ => rfl

theorem isCall_body_iff {cs : List Chunk}
    : (∀ p ∈ cs.flatMap (fun c => c.textPieces ++ c.callPieces), p.IsCall)
        ↔ ∀ c ∈ cs, c.text = "" := by
  constructor
  . intro h c hc
    by_contra htext
    have hmem : Piece.text c.text ∈ c.textPieces ++ c.callPieces := by
      unfold Chunk.textPieces
      rw [if_neg htext]
      exact List.mem_cons_self ..
    exact h _ (List.mem_flatMap.mpr ⟨c, hc, hmem⟩)
  . intro h p hmem
    obtain ⟨c, hc, hp⟩ := List.mem_flatMap.mp hmem
    unfold Chunk.textPieces at hp
    rw [if_pos (h c hc), List.nil_append] at hp
    exact c.isCall_of_mem_callPieces p hp

theorem chunks_cases (cs : List Chunk)
    : (∀ c ∈ cs, c.fragments = [])
        ∨ ∃ ps tc qs, cs.flatMap (fun c => c.textPieces ++ c.callPieces)
            = ps ++ .toolCalls :: .fragment tc :: qs
          ∧ (∀ p ∈ ps, p.fragment? = none)
          ∧ (∀ p ∈ qs, p.isFinish = false)
          ∧ (cs.Pairwise (fun c d => c.fragments = [] ∨ d.text = "") ↔ ∀ p ∈ qs, p.IsCall) := by
  induction cs with
  | nil => exact .inl (by simp)
  | cons c cs ih =>
    by_cases hc : c.fragments = []
    . rcases ih with hnone | ⟨ps, tc, qs, hbody, hps, hqs, hiff⟩
      . exact .inl (List.forall_mem_cons.mpr ⟨hc, hnone⟩)
      . refine .inr ⟨c.textPieces ++ c.callPieces ++ ps, tc, qs, ?_, ?_, hqs, ?_⟩
        . rw [List.flatMap_cons, hbody, List.append_assoc (c.textPieces ++ c.callPieces)]
        . intro p hmem
          rcases List.mem_append.mp hmem with hmem | hmem
          . exact c.fragment?_of_no_fragments hc p hmem
          . exact hps p hmem
        . rw [List.pairwise_cons, hiff]
          exact and_iff_right (fun d _ => .inl hc)
    . obtain ⟨tc, toolCalls, hcalls⟩ : ∃ tc toolCalls, c.toolCalls? = some (tc :: toolCalls) := by
        unfold Chunk.fragments at hc
        cases hcalls : c.toolCalls? with
        | none =>
          rw [hcalls] at hc
          exact absurd rfl hc
        | some toolCalls =>
          rw [hcalls] at hc
          cases toolCalls with
          | nil => exact absurd rfl hc
          | cons tc toolCalls => exact ⟨tc, toolCalls, rfl⟩
      have hpieces : c.callPieces
          = .toolCalls :: .fragment tc :: toolCalls.map Piece.fragment := by
        unfold Chunk.callPieces
        rw [hcalls]
        rfl
      refine .inr ⟨c.textPieces, tc,
        toolCalls.map Piece.fragment
          ++ cs.flatMap (fun c => c.textPieces ++ c.callPieces), ?_,
        c.fragment?_of_mem_textPieces, ?_, ?_⟩
      . rw [List.flatMap_cons, hpieces, List.append_assoc]
        rfl
      . intro p hmem
        rcases List.mem_append.mp hmem with hmem | hmem
        . obtain ⟨tc', _, rfl⟩ := List.mem_map.mp hmem
          rfl
        . exact isFinish_of_mem_body p hmem
      . rw [List.pairwise_cons, List.forall_mem_append, isCall_body_iff]
        constructor
        . rintro ⟨hafter, _⟩
          refine ⟨?_, fun d hd => (hafter d hd).resolve_left hc⟩
          intro p hmem
          obtain ⟨tc', _, rfl⟩ := List.mem_map.mp hmem
          trivial
        . rintro ⟨_, htexts⟩
          refine ⟨fun d hd => .inr (htexts d hd), ?_⟩
          exact List.pairwise_of_forall_mem_list (fun _ _ d hd => .inr (htexts d hd))

theorem body_cases
    : split.fragments = []
        ∨ ∃ ps tc qs, split.body = ps ++ .toolCalls :: .fragment tc :: qs
          ∧ (∀ p ∈ ps, p.fragment? = none)
          ∧ (∀ p ∈ qs, p.isFinish = false)
          ∧ (split.TextFirst ↔ ∀ p ∈ qs, p.IsCall) := by
  rcases chunks_cases split.chunks with hnone | hfirst
  . exact .inl (List.flatMap_eq_nil_iff.mpr hnone)
  . exact .inr hfirst

theorem counted_first (order : List UInt64 → List UInt64) {ps : List Piece}
    (hps : ∀ p ∈ ps, p.fragment? = none) (state : ChunkState)
    (hstate : state.toolBlockIndices = [])
    : ∃ texts, (ChunkState.runPieces order state (ps ++ [.toolCalls])).1.Counted texts
        ∧ (ChunkState.runPieces order state (ps ++ [.toolCalls])).1.toolBlockIndices = [] := by
  have hcalls : ∀ p ∈ ps ++ [Piece.toolCalls], p.fragment? = none := by
    rw [List.forall_mem_append]
    exact ⟨hps, by simp [Piece.fragment?]⟩
  have hindices := (ChunkState.toolBlockIndices_runPieces order hcalls state).trans hstate
  refine ⟨(ChunkState.runPieces order state (ps ++ [.toolCalls])).1.nextBlockIdx, ⟨?_, ?_⟩, hindices⟩
  . rw [ChunkState.runPieces_append, ChunkState.runPieces_cons]
    change (ChunkState.closeText _).run.1.textBlockOpen = false
    rw [ChunkState.run_closeText]
  . rw [hindices]
    rfl

theorem startedTools_events (order : List UInt64 → List UInt64)
    : startedTools (split.events order)
        = Keyed.started (ChunkState.toolActions order { started := true }
          (split.body ++ [.finish split.last.2.1])) := by
  obtain ⟨messageId, hevents⟩ := split.events_eq order
  unfold startedTools
  rw [hevents]
  rfl

theorem filterMap_fragment?_all
    : (split.body ++ [Piece.finish split.last.2.1]).filterMap Piece.fragment?
        = split.fragments := by
  rw [List.filterMap_append, split.filterMap_fragment?_body]
  exact List.append_nil _

theorem startedTools_of_first (order : List UInt64 → List UInt64) {ps qs : List Piece}
    {p : Piece} (hbody : split.body = ps ++ .toolCalls :: p :: qs)
    (hps : ∀ p ∈ ps, p.fragment? = none)
    : ∃ texts state, state.Counted texts
        ∧ state.toolBlockIndices = []
        ∧ startedTools (split.events order)
          = Keyed.started (ChunkState.toolActions order state
            (p :: (qs ++ [.finish split.last.2.1]))) := by
  obtain ⟨texts, hcounted, hindices⟩ := counted_first order hps { started := true } rfl
  refine ⟨texts, _, hcounted, hindices, ?_⟩
  have hsplit : split.body ++ [.finish split.last.2.1]
      = (ps ++ [.toolCalls]) ++ p :: (qs ++ [.finish split.last.2.1]) := by
    rw [hbody]
    simp
  have hcalls : ∀ p ∈ ps ++ [Piece.toolCalls], p.fragment? = none := by
    rw [List.forall_mem_append]
    exact ⟨hps, by simp [Piece.fragment?]⟩
  rw [split.startedTools_events, hsplit, ChunkState.toolActions_append,
    Keyed.started_append_of_no_starts (ChunkState.start_notMem_toolActions order hcalls)]

theorem deliveredTools_of_textFirst {order : List UInt64 → List UInt64}
    (horder : IterationOrder order) (h : split.TextFirst)
    : ∃ texts, deliveredTools (split.events order)
        = (firstFragments [] split.fragments).mapIdx
          (fun slot f => ChunkState.deliveredTool texts slot f
            (routed order [] slot split.fragments)) := by
  have hdelivered : ∀ (texts : Nat) (fs : List Fragment) (arguments : Nat → String),
      (fs.mapIdx (fun slot f => ChunkState.deliveredTool texts slot f (arguments slot))).filter
          (fun tool => !tool.restarted && tool.value.complete)
        = fs.mapIdx (fun slot f => ChunkState.deliveredTool texts slot f (arguments slot)) := by
    intro texts fs arguments
    rw [List.filter_eq_self]
    intro tool hmem
    obtain ⟨slot, _, rfl⟩ := List.mem_mapIdx.mp hmem
    rfl
  unfold deliveredTools
  rcases split.body_cases with hnone | ⟨ps, tc, qs, hbody, hps, _, hiff⟩
  . have hlength := ChunkState.length_started_toolActions order { started := true }
      (split.body ++ [.finish split.last.2.1])
    rw [split.filterMap_fragment?_all, hnone, ← split.startedTools_events] at hlength
    rw [List.eq_nil_of_length_eq_zero hlength, hnone]
    exact ⟨0, rfl⟩
  . obtain ⟨texts, state, hcounted, hindices, hstarted⟩ := split.startedTools_of_first order hbody hps
    have hcalls : ∀ p ∈ Piece.fragment tc :: qs, p.IsCall :=
      List.forall_mem_cons.mpr ⟨trivial, hiff.mp h⟩
    have hfragments : (Piece.fragment tc :: qs).filterMap Piece.fragment? = split.fragments := by
      rw [← split.filterMap_fragment?_body, hbody, List.filterMap_append,
        List.filterMap_eq_nil_iff.mpr hps]
      rfl
    have hfinish := split.finishPieces_last
    have hreason : reasonOf split.last.2.1 ≠ "" := by
      have : reasonOf split.last.2.1 = split.reason := split.finished
      rw [this]
      exact split.reason_ne
    have hrun := ChunkState.started_toolActions horder hcounted hcalls
      (ChunkState.start_notMem_finish order
        (ChunkState.runPieces order state (.fragment tc :: qs)).1 split.last.2.1)
      (fun slot hslot tool =>
        (hcounted.runPieces hcalls).1.own_finish hreason hslot tool)
    rw [hindices, hfragments, ← ChunkState.toolActions_append] at hrun
    refine ⟨texts, ?_⟩
    rw [hstarted, ← List.cons_append, hrun]
    simp only [List.length_nil, Nat.zero_add]
    exact hdelivered texts _ _

theorem firstFragments_nodup (seen : List UInt64) (fs : List Fragment)
    : ((firstFragments seen fs).map Fragment.index).Nodup
        ∧ ∀ f ∈ firstFragments seen fs, f.index ∉ seen ∧ f ∈ fs := by
  induction fs generalizing seen with
  | nil => exact ⟨.nil, by simp [firstFragments]⟩
  | cons f fs ih =>
    unfold firstFragments
    split
    . obtain ⟨hnodup, hmem⟩ := ih seen
      exact ⟨hnodup, fun g hg => ⟨(hmem g hg).1, List.mem_cons_of_mem _ (hmem g hg).2⟩⟩
    . next hseen =>
      obtain ⟨hnodup, hmem⟩ := ih (seenWith seen f.index)
      have hwith : seenWith seen f.index = f.index :: seen := by
        unfold seenWith
        rw [if_neg hseen]
      rw [hwith] at hnodup hmem ⊢
      refine ⟨?_, ?_⟩
      . rw [List.map_cons, List.nodup_cons]
        refine ⟨?_, hnodup⟩
        intro hf
        obtain ⟨g, hg, hindex⟩ := List.mem_map.mp hf
        exact (hmem g hg).1 (hindex ▸ List.mem_cons_self ..)
      . rw [List.forall_mem_cons]
        refine ⟨⟨fun hf => hseen (List.contains_iff_mem.mpr hf), List.mem_cons_self ..⟩, ?_⟩
        intro g hg
        exact ⟨fun hgs => (hmem g hg).1 (List.mem_cons_of_mem _ hgs),
          List.mem_cons_of_mem _ (hmem g hg).2⟩

theorem length_firstFragments_le
    : (firstFragments [] split.fragments).length ≤ split.calls.length := by
  obtain ⟨hnodup, hmem⟩ := firstFragments_nodup [] split.fragments
  have hnats : ((firstFragments [] split.fragments).map (fun f => f.index.toNat)).Nodup := by
    have := hnodup.map (fun a b (h : UInt64.toNat a = UInt64.toNat b) => UInt64.toNat_inj.mp h)
    rwa [List.map_map] at this
  have hsub : (firstFragments [] split.fragments).map (fun f => f.index.toNat)
      ⊆ List.range split.calls.length := by
    intro n hn
    obtain ⟨f, hf, rfl⟩ := List.mem_map.mp hn
    exact List.mem_range.mpr (split.known f (hmem f hf).2)
  have := (List.subperm_of_subset hnats hsub).length_le
  rwa [List.length_map, List.length_range] at this

theorem length_deliveredTools_lt {order : List UInt64 → List UInt64}
    (horder : IterationOrder order) (h : ¬split.TextFirst)
    : (deliveredTools (split.events order)).length < split.calls.length := by
  have hlength := ChunkState.length_started_toolActions order { started := true }
    (split.body ++ [.finish split.last.2.1])
  rw [split.filterMap_fragment?_all, ← split.startedTools_events] at hlength
  rcases split.body_cases with hnone | ⟨ps, tc, qs, hbody, hps, hfinish, hiff⟩
  . refine absurd ?_ h
    exact List.pairwise_of_forall_mem_list
      (fun c hc d hd => .inl (List.flatMap_eq_nil_iff.mp hnone c hc))
  . obtain ⟨texts, state, hcounted, hindices, hstarted⟩ :=
      split.startedTools_of_first order hbody hps
    obtain ⟨pos, hpos, hactions⟩ := hcounted.actions_fragment horder tc
    have hwith : (state.withCall (fragmentOf tc).index).toolBlockIndices = [(fragmentOf tc).index] := by
      rw [ChunkState.toolBlockIndices_withCall, hindices]
      rfl
    have htext : qs.any Piece.isText = true := by
      rw [hiff] at h
      push Not at h
      obtain ⟨p, hp, hcall⟩ := h
      refine List.any_eq_true.mpr ⟨p, hp, ?_⟩
      cases p with
      | text t => rfl
      | finish choice => cases hfinish _ hp
      | toolCalls => exact absurd trivial hcall
      | fragment tc => exact absurd trivial hcall
    have hnofinish : qs.any Piece.isFinish = false := by
      rw [List.any_eq_false]
      intro p hp
      rw [hfinish p hp]
      exact Bool.false_ne_true
    have hstop : StreamEvent.contentBlockStop (0 + texts)
        ∉ (ChunkState.runPieces order (state.withCall (fragmentOf tc).index)
          (qs ++ [.finish split.last.2.1])).2 := by
      intro hmem
      have := ChunkState.lt_of_stop_mem_of_text (hcounted.withCall _)
        (by rw [hwith]; exact Nat.zero_lt_one) htext hnofinish hmem
      omega
    have hcomplete := ChunkState.complete_own_of_no_stop hstop
    rw [hstarted, ChunkState.toolActions_cons, hactions, ChunkState.piece_fragment_state,
      hindices] at hlength
    unfold deliveredTools
    rw [hstarted, ChunkState.toolActions_cons, hactions, ChunkState.piece_fragment_state, hindices]
    unfold ChunkState.fragmentActions at hlength ⊢
    rw [List.contains_nil, Bool.not_false, if_pos rfl, List.append_assoc, List.singleton_append,
      Keyed.started] at hlength ⊢
    have hvalue := ChunkState.own_feed texts 0 pos (fragmentOf tc).arguments
      (ChunkState.toolActions order (state.withCall (fragmentOf tc).index)
        (qs ++ [.finish split.last.2.1])) (ChunkState.freshTool (fragmentOf tc))
    rw [List.length_nil, hvalue, List.filter_cons, if_neg]
    . refine lt_of_le_of_lt (List.length_filter_le ..) ?_
      have hle := split.length_firstFragments_le
      change _ = (firstFragments [] split.fragments).length at hlength
      rw [List.length_cons] at hlength
      omega
    . have := hcomplete (ChunkState.withArguments
        (if some pos = some 0 then (fragmentOf tc).arguments else "")
        (ChunkState.freshTool (fragmentOf tc)))
      unfold ChunkState.toolActions
      rw [Bool.and_eq_true, this]
      exact fun h => Bool.false_ne_true h.2

def response : ChatResponse where
  content := messageBlocks serde split.choice
  stopReason := stopReason split.raw
  usage := Usage.ofValue "prompt_tokens" "completion_tokens" split.raw
  raw := split.raw

theorem parseResponse_raw : parseResponse serde split.raw = .ok split.response := by
  unfold parseResponse
  rw [split.message]
  rfl

theorem parsed_response
    : (parseChatResponse split.response).text
          = ((split.choice.get "content").bind Value.asStr).getD ""
        ∧ (parseChatResponse split.response).toolUses
          = split.calls.map (fun tc =>
            { id := tc.strField "id"
              name := callName tc
              input := (serde.fromStr ((callArguments tc).getD "{}")).toOption.getD (.object []) }) := by
  have hcalls : ∀ tcs : List Value, (tcs.map (toolCallBlock serde)).filterMap ContentBlock.text? = [] := by
    intro tcs
    rw [List.filterMap_eq_nil_iff]
    intro block hmem
    obtain ⟨tc, _, rfl⟩ := List.mem_map.mp hmem
    rfl
  constructor
  . unfold parseChatResponse response messageBlocks
    dsimp only
    rw [List.filterMap_append, hcalls, List.append_nil]
    cases (split.choice.get "content").bind Value.asStr with
    | none => rfl
    | some text =>
      dsimp only [Option.getD_some]
      split
      . next h => exact h.symm
      . rfl
  . unfold parseChatResponse response messageBlocks
    dsimp only
    rw [List.filterMap_append, List.filterMap_map]
    -- a text is no tool use
    cases (split.choice.get "content").bind Value.asStr with
    | none => exact congrFun List.filterMap_eq_map split.calls
    | some text =>
      dsimp only
      split
      . exact congrFun List.filterMap_eq_map split.calls
      . exact congrFun List.filterMap_eq_map split.calls

theorem map_mapIdx {α β γ : Type} (f : Nat → α → β) (g : β → γ) (xs : List α)
    : (xs.mapIdx f).map g = xs.mapIdx (fun i x => g (f i x)) := by
  apply List.ext_getElem
  . simp
  . simp

theorem streamedToolUses_eq {order : List UInt64 → List UInt64} {texts : Nat}
    {fs : List Fragment} {arguments : Nat → String}
    (h : deliveredTools (split.events order)
      = fs.mapIdx (fun slot f => ChunkState.deliveredTool texts slot f (arguments slot)))
    : streamedToolUses serde (split.events order)
        = fs.mapIdx (fun slot f =>
          { id := f.id
            name := f.name
            input := (serde.fromStr (arguments slot)).toOption.getD .null }) := by
  have hsorted : (fs.mapIdx (fun slot f => (slot + texts,
      (ChunkState.deliveredTool texts slot f (arguments slot)).value.parsed serde))).Pairwise
        (fun a b => a.1 ≤ b.1) := by
    rw [List.pairwise_iff_getElem]
    intro i j hi hj hij
    rw [List.getElem_mapIdx, List.getElem_mapIdx]
    exact Nat.add_le_add_right hij.le texts
  unfold streamedToolUses
  rw [h, map_mapIdx]
  change (sortByIndex (fs.mapIdx (fun slot f => (slot + texts,
    (ChunkState.deliveredTool texts slot f (arguments slot)).value.parsed serde)))).map Prod.snd = _
  unfold sortByIndex
  rw [hsorted.insertionSort_eq, map_mapIdx]
  rfl

theorem resolveStopReason_of_unknown (reason : String)
    (h : reason ∉ ["max_tokens", "length", "tool_use", "tool_calls", "stop_sequence"])
    : resolveStopReason (some reason) = .endTurn := by
  unfold resolveStopReason
  split
  . next heq => exact absurd (by rw [Option.some.inj heq]; decide) h
  . next heq => exact absurd (by rw [Option.some.inj heq]; decide) h
  . next heq => exact absurd (by rw [Option.some.inj heq]; decide) h
  . next heq => exact absurd (by rw [Option.some.inj heq]; decide) h
  . next heq => exact absurd (by rw [Option.some.inj heq]; decide) h
  . rfl

theorem wireStopReason_of_unknown (reason : String) (h : reason ∉ ["tool_calls", "length", "stop"])
    : ChunkState.wireStopReason reason = reason := by
  unfold ChunkState.wireStopReason
  split
  . exact absurd (by decide) h
  . exact absurd (by decide) h
  . exact absurd (by decide) h
  . rfl

theorem resolveStopReason_wireStopReason_iff (reason : String)
    : resolveStopReason (some (ChunkState.wireStopReason reason))
          = (match reason with
            | "tool_calls" => .toolUse
            | "length" => .maxTokens
            | "stop" => .endTurn
            | _ => .endTurn)
        ↔ reason ∉ ["max_tokens", "tool_use", "stop_sequence"] := by
  by_cases hmax : reason = "max_tokens"
  . subst hmax
    simp [ChunkState.wireStopReason, resolveStopReason]
  by_cases huse : reason = "tool_use"
  . subst huse
    simp [ChunkState.wireStopReason, resolveStopReason]
  by_cases hsequence : reason = "stop_sequence"
  . subst hsequence
    simp [ChunkState.wireStopReason, resolveStopReason]
  refine iff_of_true ?_ (by simp [hmax, huse, hsequence])
  by_cases hcalls : reason = "tool_calls"
  . subst hcalls
    rfl
  by_cases hlength : reason = "length"
  . subst hlength
    rfl
  by_cases hstop : reason = "stop"
  . subst hstop
    rfl
  rw [wireStopReason_of_unknown reason (by simp [hcalls, hlength, hstop]),
    resolveStopReason_of_unknown reason (by simp [hmax, hlength, huse, hcalls, hsequence])]
  split
  . exact absurd rfl hcalls
  . exact absurd rfl hlength
  . rfl
  . rfl

theorem consume_iff (order : List UInt64 → List UInt64) (text : String)
    (toolUses : List ParsedToolUse) (stopReason : StopReason)
    : (∃ parsed value, consumeStreamEvents serde (streamItems serde order split.lines)
          = .ok (parsed, value)
        ∧ parsed.text = text ∧ parsed.toolUses = toolUses ∧ parsed.stopReason = stopReason)
      ↔ (∀ tool ∈ deliveredTools (split.events order), tool.value.WellFormed serde)
        ∧ ((split.choice.get "content").bind Value.asStr).getD "" = text
        ∧ streamedToolUses serde (split.events order) = toolUses
        ∧ resolveStopReason (some (ChunkState.wireStopReason split.reason)) = stopReason := by
  obtain ⟨htext, hstop, herror⟩ := split.summary_events order
  have hevents : eventsOf (streamItems serde order split.lines) = split.events order := by
    rw [split.streamItems_eq]
    unfold eventsOf
    rw [List.filterMap_map]
    exact List.filterMap_some
  have hfailing : (streamItems serde order split.lines).any StreamState.failingItem = false := by
    rw [split.streamItems_eq, List.any_map, List.any_eq_false]
    intro event hmem
    change ¬event.isError = true
    rw [herror event hmem]
    exact Bool.false_ne_true
  by_cases hformed : ∀ tool ∈ deliveredTools (split.events order), tool.value.WellFormed serde
  . obtain ⟨value, hconsume, _⟩ := consumeStreamEvents_of_ok hfailing (by rwa [hevents])
    rw [hconsume, hevents]
    unfold streamedResponse
    rw [htext, hstop]
    constructor
    . rintro ⟨parsed, value', heq, rfl, rfl, rfl⟩
      cases heq
      exact ⟨hformed, rfl, rfl, rfl⟩
    . rintro ⟨_, rfl, rfl, rfl⟩
      exact ⟨_, value, rfl, rfl, rfl, rfl⟩
  . constructor
    . rintro ⟨parsed, value, hconsume, _⟩
      push Not at hformed
      obtain ⟨tool, hmem, htool⟩ := hformed
      rw [← hevents] at hmem
      obtain ⟨error, herror⟩ := consumeStreamEvents_of_malformed hfailing hmem htool
      rw [herror] at hconsume
      cases hconsume
    . exact fun h => absurd h.1 hformed

theorem calls_json {slot : Nat} (h : slot < split.calls.length)
    : ∃ arguments input, callArguments split.calls[slot] = some arguments
        ∧ serde.fromStr arguments = .ok input := by
  obtain ⟨first, rest, _, _, _, input, harguments, hinput⟩ := split.assembled slot h
  exact ⟨_, input, harguments, hinput⟩

def callUses : List ParsedToolUse :=
  split.calls.map (fun tc =>
    { id := tc.strField "id"
      name := callName tc
      input := (serde.fromStr ((callArguments tc).getD "{}")).toOption.getD (.object []) })

theorem delivered_iff {order : List UInt64 → List UInt64} (horder : IterationOrder order)
    (htext : split.TextFirst)
    : (∀ tool ∈ deliveredTools (split.events order), tool.value.WellFormed serde)
          ∧ streamedToolUses serde (split.events order) = split.callUses
        ↔ split.StartedInOrder
          ∧ ∀ slot (h : slot < split.calls.length),
            serde.fromStr (routed order [] slot split.fragments)
              = serde.fromStr ((callArguments split.calls[slot]).getD "") := by
  obtain ⟨texts, hdelivered⟩ := split.deliveredTools_of_textFirst horder htext
  rw [split.streamedToolUses_eq hdelivered, hdelivered]
  constructor
  . rintro ⟨hformed, huses⟩
    have hlength := congrArg List.length huses
    unfold callUses at hlength
    rw [List.length_mapIdx, List.length_map] at hlength
    refine ⟨?_, ?_⟩
    . have hids := congrArg (List.map (fun tool : ParsedToolUse => (tool.id, tool.name))) huses
      unfold callUses at hids
      rw [map_mapIdx, List.map_map] at hids
      have hmap : (firstFragments [] split.fragments).mapIdx (fun _ f => (f.id, f.name))
          = (firstFragments [] split.fragments).map (fun f => (f.id, f.name)) := by
        apply List.ext_getElem
        . simp
        . simp
      exact hmap.symm.trans hids
    . intro slot hslot
      obtain ⟨arguments, input, harguments, hinput⟩ := split.calls_json hslot
      have hslot' : slot < (firstFragments [] split.fragments).length := by omega
      obtain ⟨input', hinput'⟩ := hformed _ (List.mem_mapIdx.mpr ⟨slot, hslot', rfl⟩)
      have huse := List.getElem_of_eq huses (by rw [List.length_mapIdx]; exact hslot')
      unfold callUses at huse
      rw [List.getElem_mapIdx, List.getElem_map] at huse
      have heq := congrArg ParsedToolUse.input huse
      change serde.fromStr (routed order [] slot split.fragments) = .ok input' at hinput'
      dsimp only at heq
      rw [harguments, Option.getD_some, hinput, hinput'] at heq
      change input' = input at heq
      rw [hinput', harguments, Option.getD_some, hinput, heq]
  . rintro ⟨hstarted, hrouted⟩
    have hlength := congrArg List.length hstarted
    rw [List.length_map, List.length_map] at hlength
    refine ⟨?_, ?_⟩
    . intro tool hmem
      obtain ⟨slot, hslot, rfl⟩ := List.mem_mapIdx.mp hmem
      obtain ⟨arguments, input, harguments, hinput⟩ := split.calls_json (hlength ▸ hslot)
      refine ⟨input, ?_⟩
      change serde.fromStr (routed order [] slot split.fragments) = _
      rw [hrouted slot (hlength ▸ hslot), harguments]
      exact hinput
    . unfold callUses
      apply List.ext_getElem
      . rw [List.length_mapIdx, List.length_map, hlength]
      . intro slot hslot hslot'
        rw [List.length_map] at hslot'
        obtain ⟨arguments, input, harguments, hinput⟩ := split.calls_json hslot'
        have hids := List.getElem_of_eq hstarted
          (by rw [List.length_map, hlength]; exact hslot')
        rw [List.getElem_map, List.getElem_map, Prod.mk.injEq] at hids
        rw [List.getElem_mapIdx, List.getElem_map, hrouted slot hslot', harguments,
          Option.getD_some, Option.getD_some, hinput, hids.1, hids.2]
        rfl

theorem length_streamedToolUses (events : List StreamEvent)
    : (streamedToolUses serde events).length = (deliveredTools events).length := by
  unfold streamedToolUses sortByIndex
  rw [List.length_map, List.length_insertionSort, List.length_map]

theorem stopReason_raw_iff
    : resolveStopReason (some (ChunkState.wireStopReason split.reason)) = stopReason split.raw
        ↔ split.ReasonKept := by
  have hraw : split.raw.pointerStr ["choices", "0", "finish_reason"] "stop" = split.reason := by
    unfold Value.pointerStr
    rw [split.reason_raw]
    rfl
  unfold stopReason
  rw [hraw]
  exact resolveStopReason_wireStopReason_iff split.reason

theorem routed_iff_exchangeable
    : (∀ order, IterationOrder order → ∀ slot (h : slot < split.calls.length),
          serde.fromStr (routed order [] slot split.fragments)
            = serde.fromStr ((callArguments split.calls[slot]).getD ""))
        ↔ split.Exchangeable := by
  have hnodup : (startedIndices split.fragments).Nodup := (firstFragments_nodup [] _).1
  constructor
  . intro h slot hslot
    exact (forall_routed_iff hnodup slot (fun text => serde.fromStr text = _)).mp
      (fun order horder => h order horder slot hslot)
  . intro h order horder slot hslot
    exact (forall_routed_iff hnodup slot (fun text => serde.fromStr text = _)).mpr
      (h slot hslot) order horder

theorem exchanges_single (h : split.calls.length ≤ 1)
    : split.StartedInOrder ∧ split.Exchangeable := by
  have hindex : ∀ f ∈ split.fragments, f.index = 0 := by
    intro f hmem
    have := split.known f hmem
    exact UInt64.toNat_inj.mp (by change f.index.toNat = 0; unfold calls at h; omega)
  rcases Nat.eq_zero_or_pos split.calls.length with hzero | hpos
  . have hnone : split.fragments = [] := by
      rw [List.eq_nil_iff_forall_not_mem]
      intro f hmem
      have := split.known f hmem
      unfold calls at hzero
      omega
    refine ⟨?_, fun slot hslot => by omega⟩
    unfold StartedInOrder
    rw [hnone, List.eq_nil_of_length_eq_zero hzero]
    rfl
  . obtain ⟨first, rest, hfragments, hid, hname, input, harguments, _⟩ := split.assembled 0 hpos
    have hall : split.fragments = first :: rest := by
      rw [← hfragments]
      refine (List.filter_eq_self.mpr ?_).symm
      intro f hmem
      rw [hindex f hmem]
      rfl
    have hone : ∀ f ∈ first :: rest, f.index = first.index := by
      rw [hall] at hindex
      exact fun f hmem => (hindex f hmem).trans (hindex first (List.mem_cons_self ..)).symm
    have hstarted : firstFragments [] split.fragments = [first] := by
      rw [hall, firstFragments_of_one_index hone]
    obtain ⟨call, hcall⟩ : ∃ call, split.calls = [call] :=
      List.length_eq_one_iff.mp (by omega)
    have hcall' : (toolCallsOf split.choice)[0] = call := List.getElem_of_eq hcall hpos
    rw [hcall'] at hid hname harguments
    constructor
    . unfold StartedInOrder
      rw [hstarted, hcall, List.map_singleton, List.map_singleton, hid, hname]
    . intro slot hslot chosen hchosen
      obtain rfl : slot = 0 := by omega
      have hchosen : chosen 1 = first.index := by
        have := hchosen 1 Nat.zero_lt_one (by unfold startedIndices; rw [hstarted]; rfl)
        unfold startedIndices at this
        rw [hstarted] at this
        exact List.mem_singleton.mp this
      rw [List.getElem_of_eq hcall hslot, List.getElem_singleton, harguments, Option.getD_some,
        hfragments, hall, mixed_of_one_index hone hchosen]

/--
The stream gives what the completion in one piece gives, whatever the order, exactly then. A single
call needs nothing else than what is said of the text and of the reason.
-/
theorem splitStreamsAlike_iff
    : split.StreamsAlike
        ↔ split.ReasonKept ∧ split.TextFirst
          ∧ (split.calls.length ≤ 1 ∨ split.StartedInOrder ∧ split.Exchangeable) := by
  obtain ⟨htext, huses⟩ := split.parsed_response
  have halike : split.StreamsAlike ↔ ∀ order, IterationOrder order →
      ((∀ tool ∈ deliveredTools (split.events order), tool.value.WellFormed serde)
        ∧ streamedToolUses serde (split.events order) = split.callUses)
        ∧ split.ReasonKept := by
    unfold StreamsAlike
    rw [split.parseResponse_raw]
    constructor
    . rintro ⟨response, heq, h⟩ order horder
      cases heq
      obtain ⟨hformed, _, htools, hstop⟩ := (split.consume_iff order _ _ _).mp (h order horder)
      exact ⟨⟨hformed, htools.trans huses⟩, split.stopReason_raw_iff.mp hstop⟩
    . intro h
      refine ⟨split.response, rfl, ?_⟩
      intro order horder
      obtain ⟨⟨hformed, htools⟩, hreason⟩ := h order horder
      exact (split.consume_iff order _ _ _).mpr
        ⟨hformed, htext.symm, htools.trans huses.symm, split.stopReason_raw_iff.mpr hreason⟩
  rw [halike]
  constructor
  . intro h
    have hid : IterationOrder id := fun xs => List.Perm.refl xs
    have hfirst : split.TextFirst := by
      by_contra hfirst
      have hlt := split.length_deliveredTools_lt hid hfirst
      have hlength := congrArg List.length (h id hid).1.2
      unfold callUses at hlength
      rw [length_streamedToolUses, List.length_map] at hlength
      omega
    have hstarted := ((split.delivered_iff hid hfirst).mp (h id hid).1).1
    refine ⟨(h id hid).2, hfirst, .inr ⟨hstarted, split.routed_iff_exchangeable.mp ?_⟩⟩
    intro order horder
    exact ((split.delivered_iff horder hfirst).mp (h order horder).1).2
  . rintro ⟨hreason, hfirst, hcalls⟩ order horder
    obtain ⟨hstarted, hexchangeable⟩ := hcalls.elim split.exchanges_single id
    have hrouted := split.routed_iff_exchangeable.mpr hexchangeable order horder
    exact ⟨(split.delivered_iff horder hfirst).mpr ⟨hstarted, hrouted⟩, hreason⟩

end SplitCompletion

theorem chunkOfLine_data {serde : SerdeJson} {data : String} {json choice delta : Value}
    (hcolon : ':' ∈ data.toList) (hjson : serde.fromStr data = .ok json)
    (hchoice : json.pointer ["choices", "0"] = some choice)
    (hdelta : choice.get "delta" = some delta)
    : chunkOfLine serde (.ok ("data: " ++ data)) = some (json, choice, delta) := by
  have hempty : Text.trim data ≠ "" := Text.trim_ne hcolon rfl (by decide)
  have hdone : Text.trim data ≠ "[DONE]" := Text.trim_ne hcolon rfl (by decide)
  unfold chunkOfLine
  simp [Text.stripPrefix_append, hempty, hdone, hjson, hchoice, hdelta, Except.toOption]

def echoFunction : Value :=
  .object [("arguments", .string "{}"), ("name", .string "echo")]

def echoDelta (id : String) (index : UInt64) : Value :=
  .object [
    ("tool_calls", .array [
      .object [
        ("function", echoFunction),
        ("id", .string id),
        ("index", .number (.posInt index))]])]

def chunkOf (choice delta : Value) : Chunk :=
  (.object [("choices", .array [choice]), ("id", .string "chatcmpl_1")], choice, delta)

def echoChunk (id : String) (index : UInt64) : Chunk :=
  chunkOf (.object [("delta", echoDelta id index)]) (echoDelta id index)

def finishChunk : Chunk :=
  chunkOf (.object [("delta", .object []), ("finish_reason", .string "tool_calls")]) (.object [])

def echoLine (id index : String) : String :=
  "\x7b\"id\":\"chatcmpl_1\",\"choices\":[\x7b\"delta\":"
    ++ "\x7b\"tool_calls\":[\x7b\"index\":" ++ index ++ ",\"id\":\"" ++ id
    ++ "\",\"function\":\x7b\"name\":\"echo\","
    ++ "\"arguments\":\"\x7b\x7d\"\x7d\x7d]\x7d\x7d]\x7d"

def finishLine : String :=
  "\x7b\"id\":\"chatcmpl_1\",\"choices\":[\x7b\"delta\":\x7b\x7d,"
    ++ "\"finish_reason\":\"tool_calls\"\x7d]\x7d"

def parallelSerde : SerdeJson where
  toString := SerdeJson.small.toString
  fromStr s :=
    if s = echoLine "call_1" "0" then
      .ok (echoChunk "call_1" 0).1
    else if s = echoLine "call_2" "1" then
      .ok (echoChunk "call_2" 1).1
    else if s = finishLine then
      .ok finishChunk.1
    else
      SerdeJson.small.fromStr s

def parallelMessage : Value :=
  .object [
    ("tool_calls", .array [
      .object [("function", echoFunction), ("id", .string "call_1")],
      .object [("function", echoFunction), ("id", .string "call_2")]])]

theorem chunkOfLine_echoLine {id index : String} {chunk : Chunk}
    (hjson : parallelSerde.fromStr (echoLine id index) = .ok chunk.1)
    (hchoice : chunk.1.pointer ["choices", "0"] = some chunk.2.1)
    (hdelta : chunk.2.1.get "delta" = some chunk.2.2)
    : chunkOfLine parallelSerde (.ok ("data: " ++ echoLine id index)) = some chunk := by
  refine chunkOfLine_data ?_ hjson hchoice hdelta
  unfold echoLine
  simp

theorem chunkOfLine_finishLine
    : chunkOfLine parallelSerde (.ok ("data: " ++ finishLine)) = some finishChunk := by
  have hfirst : finishLine ≠ echoLine "call_1" "0" := by decide +kernel
  have hsecond : finishLine ≠ echoLine "call_2" "1" := by decide +kernel
  have hjson : parallelSerde.fromStr finishLine = .ok finishChunk.1 := by
    unfold parallelSerde
    dsimp only
    rw [if_neg hfirst, if_neg hsecond, if_pos rfl]
  refine chunkOfLine_data ?_ hjson rfl rfl
  unfold finishLine
  simp

def parallelCalls : SplitCompletion parallelSerde where
  raw := .object [
    ("choices", .array [.object [
      ("finish_reason", .string "tool_calls"),
      ("message", parallelMessage)]])]
  choice := parallelMessage
  message := rfl
  reason := "tool_calls"
  reason_raw := rfl
  lines := [
    .ok ("data: " ++ echoLine "call_1" "0"),
    .ok "",
    .ok ("data: " ++ echoLine "call_2" "1"),
    .ok "",
    .ok ("data: " ++ finishLine),
    .ok "",
    .ok "data: [DONE]"]
  init := [echoChunk "call_1" 0, echoChunk "call_2" 1]
  last := finishChunk
  chunks_eq := by
    rw [List.filterMap_cons_some (@chunkOfLine_echoLine _ _ (echoChunk "call_1" 0)
        (if_pos rfl) rfl rfl),
      List.filterMap_cons_none rfl,
      List.filterMap_cons_some (@chunkOfLine_echoLine _ _ (echoChunk "call_2" 1)
        ((if_neg (by decide +kernel)).trans (if_pos rfl)) rfl rfl),
      List.filterMap_cons_none rfl, List.filterMap_cons_some chunkOfLine_finishLine,
      List.filterMap_cons_none rfl, List.filterMap_cons_none rfl, List.filterMap_nil]
    rfl
  unfinished := by decide +kernel
  finished := by decide +kernel
  reason_ne := by decide
  text_eq := by decide +kernel
  known := by decide +kernel
  assembled
    | 0, _ => ⟨_, _, rfl, rfl, rfl, _, rfl, rfl⟩
    | 1, _ => ⟨_, _, rfl, rfl, rfl, _, rfl, rfl⟩

/-- Iterated from the newest index, the set hands the arguments of the second call to the first. -/
theorem parallelCalls_not_streamsAlike : ¬parallelCalls.StreamsAlike := by
  rintro ⟨response, _, h⟩
  obtain ⟨parsed, value, hconsume, _⟩ := h id (fun xs => List.Perm.refl xs)
  have hfails : (consumeStreamEvents parallelSerde
      ((parallelCalls.events id).map Except.ok)).toOption = none := by
    decide +kernel
  rw [← parallelCalls.streamItems_eq, hconsume] at hfails
  cases hfails

end AnimaAgent.OpenAiCompatProvider
