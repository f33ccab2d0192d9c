import AnimaAgent.Provider.OpenAiCompat
import AnimaAgent.Streaming.Lemmas.Executor

namespace AnimaAgent.OpenAiCompatProvider

structure Fragment where
  index : UInt64
  id : String
  name : String
  arguments : String
  deriving DecidableEq

def fragmentOf (tc : Value) : Fragment where
  index := ((tc.get "index").bind Value.asU64).getD 0
  id := tc.strField "id"
  name := tc.pointerStr ["function", "name"] ""
  arguments := tc.pointerStr ["function", "arguments"] ""

def reasonOf (choice : Value) : String :=
  ((choice.get "finish_reason").bind Value.asStr).getD ""

def seenWith (seen : List UInt64) (index : UInt64) : List UInt64 :=
  if seen.contains index then seen else index :: seen

def firstFragments : List UInt64 → List Fragment → List Fragment
  | _, [] => []
  | seen, f :: fs =>
    if seen.contains f.index then
      firstFragments seen fs
    else
      f :: firstFragments (seenWith seen f.index) fs

def position (order : List UInt64 → List UInt64) (seen : List UInt64) (index : UInt64)
    : Option Nat :=
  (order seen).findIdx? (fun i => i == index)

def routed (order : List UInt64 → List UInt64) : List UInt64 → Nat → List Fragment → String
  | _, _, [] => ""
  | seen, slot, f :: fs =>
    (if position order (seenWith seen f.index) f.index = some slot then f.arguments else "")
      ++ routed order (seenWith seen f.index) slot fs

def IterationOrder (order : List UInt64 → List UInt64) : Prop :=
  ∀ xs, (order xs).Perm xs

theorem mem_seenWith (seen : List UInt64) (index : UInt64) : index ∈ seenWith seen index := by
  unfold seenWith
  split
  . next h => exact List.contains_iff_mem.mp h
  . exact List.mem_cons_self ..

theorem position_seenWith {order : List UInt64 → List UInt64} (horder : IterationOrder order)
    (seen : List UInt64) (index : UInt64)
    : ∃ pos, position order (seenWith seen index) index = some pos
        ∧ pos < (seenWith seen index).length := by
  have hmem := (horder _).mem_iff.mpr (mem_seenWith seen index)
  unfold position
  cases hfind : (order (seenWith seen index)).findIdx? (fun i => i == index) with
  | none =>
    have hnone := List.findIdx?_eq_none_iff.mp hfind index hmem
    simp at hnone
  | some pos =>
    refine ⟨pos, rfl, ?_⟩
    rw [← (horder _).length_eq]
    exact (List.findIdx?_eq_some_iff_findIdx_eq.mp hfind).1

theorem position_lt {order : List UInt64 → List UInt64} (horder : IterationOrder order)
    {seen : List UInt64} {index : UInt64} {pos : Nat} (h : position order seen index = some pos)
    : pos < seen.length := by
  unfold position at h
  rw [← (horder _).length_eq]
  exact (List.findIdx?_eq_some_iff_findIdx_eq.mp h).1

inductive Piece where
  | text (t : String)
  | toolCalls
  | fragment (tc : Value)
  | finish (choice : Value)

def Piece.IsCall : Piece → Prop
  | .toolCalls => True
  | .fragment _ => True
  | _ => False

def Piece.isText : Piece → Bool
  | .text _ => true
  | _ => false

def Piece.isFinish : Piece → Bool
  | .finish _ => true
  | _ => false

def Piece.ownText : Piece → String
  | .text t => t
  | _ => ""

def Piece.ownStop : Piece → List (Option String)
  | .finish choice =>
    if reasonOf choice = "" then
      []
    else
      [some (ChunkState.wireStopReason (reasonOf choice))]
  | _ => []

def Piece.fragment? : Piece → Option Fragment
  | .fragment tc => some (fragmentOf tc)
  | _ => none

namespace ChunkState

theorem run_bind {α β : Type} (x : ChunkM α) (f : α → ChunkM β)
    : (x >>= f).run = ((f x.run.1).run.1, x.run.2 ++ (f x.run.1).run.2) := by
  rfl

variable (order : List UInt64 → List UInt64)

def piece (state : ChunkState) : Piece → ChunkM ChunkState
  | .text t => do
    let state ← state.openText
    tell [.contentBlockDelta (state.nextBlockIdx - 1) (.textDelta t)]
    pure state
  | .toolCalls => state.closeText
  | .fragment tc => state.toolCallDelta order tc
  | .finish choice => state.finish choice

def runPieces (state : ChunkState) (pieces : List Piece) : ChunkState × List StreamEvent :=
  (pieces.foldlM (piece order) state).run

theorem runPieces_nil (state : ChunkState) : runPieces order state [] = (state, []) := by
  rfl

theorem runPieces_cons (state : ChunkState) (p : Piece) (pieces : List Piece)
    : runPieces order state (p :: pieces)
        = ((runPieces order (state.piece order p).run.1 pieces).1,
          (state.piece order p).run.2 ++ (runPieces order (state.piece order p).run.1 pieces).2) := by
  rfl

theorem runPieces_append (state : ChunkState) (ps qs : List Piece)
    : runPieces order state (ps ++ qs)
        = ((runPieces order (runPieces order state ps).1 qs).1,
          (runPieces order state ps).2 ++ (runPieces order (runPieces order state ps).1 qs).2) := by
  induction ps generalizing state with
  | nil => rfl
  | cons p ps ih =>
    rw [List.cons_append, runPieces_cons, runPieces_cons, ih, List.append_assoc]

def withCall (state : ChunkState) (index : UInt64) : ChunkState :=
  if state.toolBlockIndices.contains index then
    state
  else
    { state with
      toolBlockIndices := index :: state.toolBlockIndices
      nextBlockIdx := state.nextBlockIdx + 1 }

theorem run_startToolCall (state : ChunkState) (tc : Value)
    : (state.startToolCall (fragmentOf tc).index tc).run
        = (state.withCall (fragmentOf tc).index,
          if state.toolBlockIndices.contains (fragmentOf tc).index then
            []
          else
            [.contentBlockStart state.nextBlockIdx
              (.toolUse (fragmentOf tc).id (fragmentOf tc).name (.object []))]) := by
  unfold startToolCall withCall
  split
  . rfl
  . rfl

theorem run_toolCallDelta (state : ChunkState) (tc : Value)
    : (state.toolCallDelta order tc).run
        = (state.withCall (fragmentOf tc).index,
          (if state.toolBlockIndices.contains (fragmentOf tc).index then
            []
          else
            [.contentBlockStart state.nextBlockIdx
              (.toolUse (fragmentOf tc).id (fragmentOf tc).name (.object []))])
          ++ (if (fragmentOf tc).arguments = "" then
            []
          else
            [.contentBlockDelta
              ((state.withCall (fragmentOf tc).index).argumentsIndex order (fragmentOf tc).index)
              (.inputJsonDelta (fragmentOf tc).arguments)])) := by
  have hstart := run_startToolCall state tc
  unfold toolCallDelta
  change (state.startToolCall (fragmentOf tc).index tc >>= fun state =>
    if (fragmentOf tc).arguments = "" then pure state else do
      tell [.contentBlockDelta (state.argumentsIndex order (fragmentOf tc).index)
        (.inputJsonDelta (fragmentOf tc).arguments)]
      pure state : ChunkM ChunkState).run = _
  rw [run_bind, hstart]
  by_cases h : (fragmentOf tc).arguments = ""
  . simp only [if_pos h]
    rfl
  . simp only [if_neg h]
    rfl

theorem run_openText (state : ChunkState)
    : state.openText.run
        = ({ state with
              textBlockOpen := true
              nextBlockIdx :=
                if state.textBlockOpen then state.nextBlockIdx else state.nextBlockIdx + 1 },
          if state.textBlockOpen then
            []
          else
            [.contentBlockStart state.nextBlockIdx (.text "")]) := by
  unfold openText
  cases h : state.textBlockOpen with
  | true =>
    rw [if_pos rfl, if_pos rfl, if_pos rfl, ← h]
    rfl
  | false => rfl

theorem run_closeText (state : ChunkState)
    : state.closeText.run
        = ({ state with textBlockOpen := false },
          if state.textBlockOpen then [.contentBlockStop (state.nextBlockIdx - 1)] else []) := by
  unfold closeText
  cases h : state.textBlockOpen with
  | true => rfl
  | false =>
    rw [if_neg Bool.false_ne_true, if_neg Bool.false_ne_true, ← h]
    rfl

theorem run_finish (state : ChunkState) {choice : Value} (h : reasonOf choice ≠ "")
    : (state.finish choice).run
        = (state,
          (if state.textBlockOpen then [.contentBlockStop (state.nextBlockIdx - 1)] else [])
          ++ (List.range state.toolBlockIndices.length).map
            (fun i => .contentBlockStop (i + state.textOffset))
          ++ [.messageDelta (some (wireStopReason (reasonOf choice))), .messageStop]) := by
  unfold finish
  change (if reasonOf choice = "" then _ else _ : ChunkM ChunkState).run = _
  rw [if_neg h]
  cases state.textBlockOpen with
  | true => rfl
  | false => rfl

theorem nextBlockIdx_withCall (state : ChunkState) (index : UInt64)
    : (state.withCall index).nextBlockIdx + state.toolBlockIndices.length
        = state.nextBlockIdx + (state.withCall index).toolBlockIndices.length := by
  unfold withCall
  split
  . rfl
  . simp only [List.length_cons]
    omega

theorem toolBlockIndices_withCall (state : ChunkState) (index : UInt64)
    : (state.withCall index).toolBlockIndices = seenWith state.toolBlockIndices index := by
  unfold withCall seenWith
  split
  . rfl
  . rfl

structure Counted (state : ChunkState) (texts : Nat) : Prop where
  closed : state.textBlockOpen = false
  next : state.nextBlockIdx = texts + state.toolBlockIndices.length

namespace Counted

variable {order} {state : ChunkState} {texts : Nat}

theorem withCall (h : state.Counted texts) (index : UInt64)
    : (state.withCall index).Counted texts := by
  constructor
  . unfold ChunkState.withCall
    split
    . exact h.closed
    . exact h.closed
  . have hnext := nextBlockIdx_withCall state index
    rw [h.next] at hnext
    omega

theorem textOffset (h : state.Counted texts) : state.textOffset = texts := by
  unfold ChunkState.textOffset
  rw [h.next]
  omega

theorem argumentsIndex (h : state.Counted texts) {index : UInt64} {pos : Nat}
    (hpos : position order state.toolBlockIndices index = some pos)
    : state.argumentsIndex order index = pos + texts := by
  unfold position at hpos
  unfold ChunkState.argumentsIndex
  rw [hpos]
  dsimp only
  rw [if_neg (by rw [h.closed]; exact Bool.false_ne_true), h.textOffset]

theorem piece_toolCalls (h : state.Counted texts)
    : (state.piece order .toolCalls).run = (state, []) := by
  have hclosed := h.closed
  unfold piece
  rw [run_closeText, hclosed, if_neg Bool.false_ne_true, ← hclosed]

end Counted

def freshTool (f : Fragment) : ToolAccState where
  id := f.id
  name := f.name
  jsonBuf := ""
  complete := false

def withArguments (arguments : String) (tool : ToolAccState) : ToolAccState :=
  { tool with jsonBuf := tool.jsonBuf ++ arguments }

def fragmentActions (isNew : Bool) (next block : Nat) (f : Fragment)
    : List (Keyed.Action Nat ToolAccState) :=
  (if isNew then [.start next (freshTool f)] else [])
    ++ (if f.arguments = "" then [] else [.update block (withArguments f.arguments)])

theorem actions_fragment (state : ChunkState) (tc : Value)
    : (state.piece order (.fragment tc)).run.2.map StreamEvent.toolAction
        = fragmentActions (!state.toolBlockIndices.contains (fragmentOf tc).index)
          state.nextBlockIdx
          ((state.withCall (fragmentOf tc).index).argumentsIndex order (fragmentOf tc).index)
          (fragmentOf tc) := by
  unfold piece fragmentActions
  dsimp only
  rw [run_toolCallDelta]
  dsimp only
  rw [List.map_append]
  congr 1
  . cases state.toolBlockIndices.contains (fragmentOf tc).index <;> rfl
  . split <;> rfl

theorem withArguments_withArguments (a b : String) (tool : ToolAccState)
    : withArguments b (withArguments a tool) = withArguments (a ++ b) tool := by
  unfold withArguments
  dsimp only
  rw [String.append_assoc]

theorem withArguments_empty (tool : ToolAccState) : withArguments "" tool = tool := by
  unfold withArguments
  rw [String.append_empty]

theorem own_feed (texts slot pos : Nat) (arguments : String)
    (rest : List (Keyed.Action Nat ToolAccState)) (tool : ToolAccState)
    : Keyed.own (slot + texts)
          ((if arguments = "" then [] else [.update (pos + texts) (withArguments arguments)])
            ++ rest) tool
        = Keyed.own (slot + texts) rest
          (withArguments (if some pos = some slot then arguments else "") tool) := by
  split
  . next h =>
    rw [h, ite_self, withArguments_empty]
    rfl
  . rw [List.singleton_append]
    by_cases hpos : pos = slot
    . subst hpos
      rw [Keyed.own, if_pos rfl, if_pos rfl]
    . rw [Keyed.own_of_update _ _ (by omega), if_neg (by simpa using hpos), withArguments_empty]

def toolActions (state : ChunkState) (pieces : List Piece) : List (Keyed.Action Nat ToolAccState) :=
  (runPieces order state pieces).2.map StreamEvent.toolAction

theorem toolActions_cons (state : ChunkState) (p : Piece) (pieces : List Piece)
    : toolActions order state (p :: pieces)
        = (state.piece order p).run.2.map StreamEvent.toolAction
          ++ toolActions order (state.piece order p).run.1 pieces := by
  unfold toolActions
  rw [runPieces_cons, List.map_append]

theorem toolActions_append (state : ChunkState) (ps qs : List Piece)
    : toolActions order state (ps ++ qs)
        = toolActions order state ps ++ toolActions order (runPieces order state ps).1 qs := by
  unfold toolActions
  rw [runPieces_append, List.map_append]

theorem piece_fragment_state (state : ChunkState) (tc : Value)
    : (state.piece order (.fragment tc)).run.1 = state.withCall (fragmentOf tc).index := by
  unfold piece
  dsimp only
  rw [run_toolCallDelta]

section Calls

variable {order} {state : ChunkState} {texts : Nat}

theorem Counted.runPieces (h : state.Counted texts) {ps : List Piece} (hps : ∀ p ∈ ps, p.IsCall)
    : (runPieces order state ps).1.Counted texts
        ∧ state.toolBlockIndices.length
          ≤ (ChunkState.runPieces order state ps).1.toolBlockIndices.length := by
  induction ps generalizing state with
  | nil => exact ⟨h, le_rfl⟩
  | cons p ps ih =>
    have hps' := fun p' hmem => hps p' (List.mem_cons_of_mem p hmem)
    rw [runPieces_cons]
    cases p with
    | toolCalls =>
      rw [h.piece_toolCalls]
      exact ih h hps'
    | fragment tc =>
      rw [piece_fragment_state]
      obtain ⟨hcounted, hle⟩ := ih (h.withCall (fragmentOf tc).index) hps'
      refine ⟨hcounted, le_trans ?_ hle⟩
      rw [toolBlockIndices_withCall]
      unfold seenWith
      split
      . exact le_rfl
      . exact Nat.le_succ _
    | text t => exact absurd (hps _ (List.mem_cons_self ..)) id
    | finish choice => exact absurd (hps _ (List.mem_cons_self ..)) id

theorem Counted.actions_fragment (h : state.Counted texts) (horder : IterationOrder order)
    (tc : Value)
    : ∃ pos, position order (seenWith state.toolBlockIndices (fragmentOf tc).index)
          (fragmentOf tc).index = some pos
        ∧ (state.piece order (.fragment tc)).run.2.map StreamEvent.toolAction
          = fragmentActions (!state.toolBlockIndices.contains (fragmentOf tc).index)
            (state.toolBlockIndices.length + texts) (pos + texts) (fragmentOf tc) := by
  obtain ⟨pos, hpos, _⟩ := position_seenWith horder state.toolBlockIndices (fragmentOf tc).index
  refine ⟨pos, hpos, ?_⟩
  rw [ChunkState.actions_fragment, h.next, Nat.add_comm texts]
  congr 1
  apply (h.withCall _).argumentsIndex
  rw [toolBlockIndices_withCall]
  exact hpos

theorem own_toolActions (horder : IterationOrder order) (h : state.Counted texts)
    {ps : List Piece} (hps : ∀ p ∈ ps, p.IsCall) {slot : Nat}
    (hslot : slot < state.toolBlockIndices.length)
    (rest : List (Keyed.Action Nat ToolAccState)) (tool : ToolAccState)
    : Keyed.own (slot + texts) (toolActions order state ps ++ rest) tool
        = Keyed.own (slot + texts) rest
          (withArguments
            (routed order state.toolBlockIndices slot (ps.filterMap Piece.fragment?)) tool) := by
  induction ps generalizing state tool with
  | nil =>
    change _ = Keyed.own _ rest (withArguments "" tool)
    rw [withArguments_empty]
    rfl
  | cons p ps ih =>
    have hps' := fun p' hmem => hps p' (List.mem_cons_of_mem p hmem)
    rw [toolActions_cons, List.append_assoc]
    cases p with
    | toolCalls =>
      rw [h.piece_toolCalls]
      exact ih h hps' hslot tool
    | fragment tc =>
      obtain ⟨pos, hpos, hactions⟩ := h.actions_fragment horder tc
      have hslot' : slot < (state.withCall (fragmentOf tc).index).toolBlockIndices.length := by
        rw [toolBlockIndices_withCall]
        unfold seenWith
        split
        . exact hslot
        . exact Nat.lt_succ_of_lt hslot
      rw [hactions, piece_fragment_state]
      -- a new call has a block of its own, which is not the one looked at
      have hstart : ∀ (isNew : Bool) (rest : List (Keyed.Action Nat ToolAccState)),
          Keyed.own (slot + texts)
              (fragmentActions isNew (state.toolBlockIndices.length + texts) (pos + texts)
                (fragmentOf tc) ++ rest) tool
            = Keyed.own (slot + texts) rest
              (withArguments (if some pos = some slot then (fragmentOf tc).arguments else "")
                tool) := by
        intro isNew rest
        unfold fragmentActions
        cases isNew with
        | true =>
          rw [if_pos rfl, List.append_assoc, List.singleton_append, Keyed.own, if_neg (by omega)]
          exact own_feed ..
        | false => exact own_feed ..
      rw [hstart, ih (h.withCall _) hps' hslot', withArguments_withArguments,
        toolBlockIndices_withCall, List.filterMap_cons]
      change _ = Keyed.own _ rest (withArguments ((if position order (seenWith
        state.toolBlockIndices (fragmentOf tc).index) (fragmentOf tc).index = some slot then
          (fragmentOf tc).arguments else "") ++ _) tool)
      rw [hpos]
    | text t => exact absurd (hps _ (List.mem_cons_self ..)) id
    | finish choice => exact absurd (hps _ (List.mem_cons_self ..)) id

theorem le_of_start_mem (horder : IterationOrder order) (h : state.Counted texts) {ps : List Piece}
    (hps : ∀ p ∈ ps, p.IsCall) {key : Nat} {tool : ToolAccState}
    (hmem : Keyed.Action.start key tool ∈ toolActions order state ps)
    : state.toolBlockIndices.length + texts ≤ key := by
  induction ps generalizing state with
  | nil => cases hmem
  | cons p ps ih =>
    have hps' := fun p' hmem => hps p' (List.mem_cons_of_mem p hmem)
    rw [toolActions_cons, List.mem_append] at hmem
    cases p with
    | toolCalls =>
      rw [h.piece_toolCalls] at hmem
      rcases hmem with hmem | hmem
      . cases hmem
      . exact ih h hps' hmem
    | fragment tc =>
      obtain ⟨pos, hpos, hactions⟩ := h.actions_fragment horder tc
      rw [hactions, piece_fragment_state] at hmem
      rcases hmem with hmem | hmem
      . unfold fragmentActions at hmem
        rw [List.mem_append] at hmem
        rcases hmem with hmem | hmem
        . split at hmem
          . cases List.mem_singleton.mp hmem
            exact le_rfl
          . cases hmem
        . split at hmem
          . cases hmem
          . cases List.mem_singleton.mp hmem
      . have hle := ih (h.withCall _) hps' hmem
        rw [toolBlockIndices_withCall] at hle
        unfold seenWith at hle
        split at hle
        . exact hle
        . rw [List.length_cons] at hle
          omega
    | text t => exact absurd (hps _ (List.mem_cons_self ..)) id
    | finish choice => exact absurd (hps _ (List.mem_cons_self ..)) id

theorem routed_cons_of_length_le (horder : IterationOrder order) {seen : List UInt64} {slot : Nat}
    {f : Fragment} (hslot : (seenWith seen f.index).length ≤ slot) (fs : List Fragment)
    : routed order seen slot (f :: fs) = routed order (seenWith seen f.index) slot fs := by
  rw [routed, if_neg, String.empty_append]
  intro hpos
  have := position_lt horder hpos
  omega

def deliveredTool (texts slot : Nat) (f : Fragment) (arguments : String)
    : Keyed.Started Nat ToolAccState where
  key := slot + texts
  value := { id := f.id, name := f.name, jsonBuf := arguments, complete := true }
  restarted := false

theorem started_feed (block : Nat) (arguments : String)
    (rest : List (Keyed.Action Nat ToolAccState))
    : Keyed.started ((if arguments = "" then [] else
          [Keyed.Action.update block (withArguments arguments)]) ++ rest)
        = Keyed.started rest := by
  split <;> rfl

theorem any_starts_feed (key block : Nat) (arguments : String)
    : (if arguments = "" then [] else
          [Keyed.Action.update block (withArguments arguments)]).any (Keyed.Action.starts key)
        = false := by
  split <;> rfl

theorem any_starts_toolActions (horder : IterationOrder order) (h : state.Counted texts)
    {ps : List Piece} (hps : ∀ p ∈ ps, p.IsCall) {slot : Nat}
    (hslot : slot < state.toolBlockIndices.length) {rest : List (Keyed.Action Nat ToolAccState)}
    (hrest : ∀ key value, Keyed.Action.start key value ∉ rest)
    : (toolActions order state ps ++ rest).any (Keyed.Action.starts (slot + texts)) = false := by
  rw [Keyed.any_starts_eq_false_iff]
  intro value hmem
  rcases List.mem_append.mp hmem with hmem | hmem
  . have := le_of_start_mem horder h hps hmem
    omega
  . exact hrest _ value hmem

theorem started_toolActions (horder : IterationOrder order) (h : state.Counted texts)
    {ps : List Piece} (hps : ∀ p ∈ ps, p.IsCall) {rest : List (Keyed.Action Nat ToolAccState)}
    (hrest : ∀ key value, Keyed.Action.start key value ∉ rest)
    (hcomplete : ∀ slot, slot < (runPieces order state ps).1.toolBlockIndices.length →
      ∀ tool, Keyed.own (slot + texts) rest tool = { tool with complete := true })
    : Keyed.started (toolActions order state ps ++ rest)
        = (firstFragments state.toolBlockIndices (ps.filterMap Piece.fragment?)).mapIdx
          (fun j f => deliveredTool texts (state.toolBlockIndices.length + j) f
            (routed order state.toolBlockIndices (state.toolBlockIndices.length + j)
              (ps.filterMap Piece.fragment?))) := by
  induction ps generalizing state with
  | nil =>
    have := Keyed.started_append_of_no_starts hrest []
    rw [List.append_nil] at this
    exact this
  | cons p ps ih =>
    have hps' := fun p' hmem => hps p' (List.mem_cons_of_mem p hmem)
    rw [runPieces_cons] at hcomplete
    rw [toolActions_cons]
    cases p with
    | toolCalls =>
      rw [h.piece_toolCalls] at hcomplete ⊢
      exact ih h hps' hcomplete
    | fragment tc =>
      obtain ⟨pos, hpos, hactions⟩ := h.actions_fragment horder tc
      have hih := ih (h.withCall (fragmentOf tc).index) hps'
      rw [piece_fragment_state] at hcomplete
      rw [hactions, piece_fragment_state, List.append_assoc]
      have hih := hih hcomplete
      have hfragments : (Piece.fragment tc :: ps).filterMap Piece.fragment?
          = fragmentOf tc :: ps.filterMap Piece.fragment? := by
        rfl
      rw [hfragments]
      rw [toolBlockIndices_withCall] at hih
      unfold fragmentActions firstFragments
      cases hseen : state.toolBlockIndices.contains (fragmentOf tc).index with
      | true =>
        have hwith : seenWith state.toolBlockIndices (fragmentOf tc).index
            = state.toolBlockIndices := by
          unfold seenWith
          rw [if_pos hseen]
        rw [hwith] at hih
        rw [Bool.not_true, if_neg Bool.false_ne_true, List.nil_append, started_feed, hih, if_pos rfl]
        apply List.mapIdx_eq_mapIdx_iff.mpr
        intro j hj
        rw [routed_cons_of_length_le horder (by rw [hwith]; omega), hwith]
      | false =>
        have hwith : seenWith state.toolBlockIndices (fragmentOf tc).index
            = (fragmentOf tc).index :: state.toolBlockIndices := by
          unfold seenWith
          rw [if_neg (by rw [hseen]; exact Bool.false_ne_true)]
        rw [Bool.not_false, if_pos rfl, if_neg Bool.false_ne_true, List.mapIdx_cons,
          List.append_assoc, List.singleton_append, Keyed.started, started_feed, hih]
        have hslot : state.toolBlockIndices.length
            < (state.withCall (fragmentOf tc).index).toolBlockIndices.length := by
          rw [toolBlockIndices_withCall, hwith]
          exact Nat.lt_succ_self _
        congr 1
        . have hlast : _ < (runPieces order (state.withCall (fragmentOf tc).index)
              ps).1.toolBlockIndices.length :=
            lt_of_lt_of_le hslot ((h.withCall _).runPieces hps').2
          have hvalue := own_feed texts state.toolBlockIndices.length pos (fragmentOf tc).arguments
            (toolActions order (state.withCall (fragmentOf tc).index) ps ++ rest)
            (freshTool (fragmentOf tc))
          rw [own_toolActions horder (h.withCall _) hps' hslot, hcomplete _ hlast,
            withArguments_withArguments, toolBlockIndices_withCall, ← hpos] at hvalue
          have hfresh := any_starts_toolActions horder (h.withCall _) hps' hslot hrest
          rw [hvalue, List.any_append, hfresh, Bool.or_false, any_starts_feed]
          unfold deliveredTool withArguments freshTool
          rw [Nat.add_zero, routed, String.empty_append]
        . apply List.mapIdx_eq_mapIdx_iff.mpr
          intro j hj
          have hlength : (seenWith state.toolBlockIndices (fragmentOf tc).index).length + j
              = state.toolBlockIndices.length + (j + 1) := by
            rw [hwith, List.length_cons]
            omega
          rw [routed_cons_of_length_le horder (by omega), hlength]
    | text t => exact absurd (hps _ (List.mem_cons_self ..)) id
    | finish choice => exact absurd (hps _ (List.mem_cons_self ..)) id

end Calls

def stopped (tool : ToolAccState) : ToolAccState :=
  { tool with complete := true }

theorem own_stops (key : Nat) (blocks : List Nat) (tool : ToolAccState)
    : Keyed.own key (blocks.map (fun block => .update block stopped)) tool
        = if key ∈ blocks then stopped tool else tool := by
  induction blocks generalizing tool with
  | nil => rfl
  | cons block blocks ih =>
    rw [List.map_cons, Keyed.own, ih]
    by_cases hkey : block = key
    . subst hkey
      rw [if_pos rfl, if_pos (List.mem_cons_self ..)]
      exact ite_self _
    . have hmem : key ∈ block :: blocks ↔ key ∈ blocks := by
        rw [List.mem_cons]
        exact or_iff_right (Ne.symm hkey)
      rw [if_neg hkey]
      simp only [hmem]

section Finish

variable {order} {state : ChunkState} {texts : Nat} {choice : Value}

theorem Counted.finish (h : state.Counted texts) (hreason : reasonOf choice ≠ "")
    : toolActions order state [.finish choice]
        = ((List.range state.toolBlockIndices.length).map (fun i => i + texts)).map
            (fun block => .update block stopped)
          ++ List.replicate 2 .skip := by
  unfold toolActions
  rw [runPieces_cons, runPieces_nil]
  change ((state.finish choice).run.2 ++ []).map _ = _
  rw [run_finish state hreason, h.closed, if_neg Bool.false_ne_true, h.textOffset, List.append_nil,
    List.nil_append, List.map_append, List.map_map, List.map_map]
  rfl

theorem Counted.own_finish (h : state.Counted texts) (hreason : reasonOf choice ≠ "") {slot : Nat}
    (hslot : slot < state.toolBlockIndices.length) (tool : ToolAccState)
    : Keyed.own (slot + texts) (toolActions order state [.finish choice]) tool
        = { tool with complete := true } := by
  rw [h.finish hreason, Keyed.own_append_skips, own_stops, if_pos]
  . rfl
  . exact List.mem_map.mpr ⟨slot, List.mem_range.mpr hslot, rfl⟩

theorem start_notMem_finish (order : List UInt64 → List UInt64) (state : ChunkState)
    (choice : Value) (key : Nat) (value : ToolAccState)
    : Keyed.Action.start key value ∉ toolActions order state [.finish choice] := by
  unfold toolActions
  rw [runPieces_cons, runPieces_nil, List.append_nil]
  change _ ∉ (state.finish choice).run.2.map _
  by_cases hreason : reasonOf choice = ""
  . unfold finish
    change _ ∉ (if reasonOf choice = "" then _ else _ : ChunkM ChunkState).run.2.map _
    rw [if_pos hreason]
    exact List.not_mem_nil
  . rw [run_finish state hreason]
    intro hmem
    rw [List.map_append, List.map_append, List.mem_append, List.mem_append, List.map_map] at hmem
    rcases hmem with (hmem | hmem) | hmem
    . split at hmem
      . cases List.mem_singleton.mp hmem
      . cases hmem
    . obtain ⟨i, _, hi⟩ := List.mem_map.mp hmem
      cases hi
    . rcases List.mem_cons.mp hmem with hmem | hmem
      . cases hmem
      . cases List.mem_singleton.mp hmem

end Finish

section Reopened

variable {order} {state : ChunkState} {texts : Nat}

theorem le_of_stop_mem_piece (hnext : state.nextBlockIdx = texts + state.toolBlockIndices.length)
    (hcalls : 0 < state.toolBlockIndices.length) (p : Piece) {block : Nat}
    (hmem : StreamEvent.contentBlockStop block ∈ (state.piece order p).run.2)
    : texts ≤ block := by
  have hoffset : state.textOffset = texts := by
    unfold textOffset
    omega
  have hlast : ∀ stops : List StreamEvent,
      stops = (if state.textBlockOpen then [.contentBlockStop (state.nextBlockIdx - 1)] else [])
        → StreamEvent.contentBlockStop block ∈ stops → texts ≤ block := by
    intro stops hstops hmem
    rw [hstops] at hmem
    split at hmem
    . cases List.mem_singleton.mp hmem
      omega
    . cases hmem
  cases p with
  | text t =>
    change _ ∈ (state.openText.run.2 ++ ([_] ++ [])) at hmem
    rw [run_openText, List.append_nil, List.mem_append, List.mem_singleton] at hmem
    rcases hmem with hmem | hmem
    . split at hmem
      . cases hmem
      . cases List.mem_singleton.mp hmem
    . cases hmem
  | toolCalls =>
    change _ ∈ state.closeText.run.2 at hmem
    rw [run_closeText] at hmem
    exact hlast _ rfl hmem
  | fragment tc =>
    change _ ∈ (state.toolCallDelta order tc).run.2 at hmem
    rw [run_toolCallDelta, List.mem_append] at hmem
    rcases hmem with hmem | hmem
    . split at hmem
      . cases hmem
      . cases List.mem_singleton.mp hmem
    . split at hmem
      . cases hmem
      . cases List.mem_singleton.mp hmem
  | finish choice =>
    change _ ∈ (state.finish choice).run.2 at hmem
    by_cases hreason : reasonOf choice = ""
    . unfold finish at hmem
      change _ ∈ (if reasonOf choice = "" then _ else _ : ChunkM ChunkState).run.2 at hmem
      rw [if_pos hreason] at hmem
      cases hmem
    . rw [run_finish state hreason, List.mem_append, List.mem_append, hoffset] at hmem
      rcases hmem with (hmem | hmem) | hmem
      . exact hlast _ rfl hmem
      . obtain ⟨i, _, hi⟩ := List.mem_map.mp hmem
        cases hi
        omega
      . rcases List.mem_cons.mp hmem with hmem | hmem
        . cases hmem
        . cases List.mem_singleton.mp hmem

theorem length_le_withCall (state : ChunkState) (index : UInt64)
    : state.toolBlockIndices.length ≤ (state.withCall index).toolBlockIndices.length := by
  rw [toolBlockIndices_withCall]
  unfold seenWith
  split
  . exact le_rfl
  . exact Nat.le_succ _

theorem state_finish (state : ChunkState) (choice : Value)
    : (state.finish choice).run.1 = state := by
  by_cases hreason : reasonOf choice = ""
  . unfold finish
    change (if reasonOf choice = "" then _ else _ : ChunkM ChunkState).run.1 = _
    rw [if_pos hreason]
    rfl
  . rw [run_finish state hreason]

theorem next_piece (hnext : state.nextBlockIdx = texts + state.toolBlockIndices.length) (p : Piece)
    : ∃ texts', texts ≤ texts'
        ∧ (state.piece order p).run.1.nextBlockIdx
          = texts' + (state.piece order p).run.1.toolBlockIndices.length
        ∧ state.toolBlockIndices.length
          ≤ (state.piece order p).run.1.toolBlockIndices.length := by
  cases p with
  | text t =>
    change ∃ texts', _ ∧ state.openText.run.1.nextBlockIdx
      = texts' + state.openText.run.1.toolBlockIndices.length
        ∧ _ ≤ state.openText.run.1.toolBlockIndices.length
    rw [run_openText]
    dsimp only
    split
    . exact ⟨texts, le_rfl, hnext, le_rfl⟩
    . exact ⟨texts + 1, Nat.le_succ _, by omega, le_rfl⟩
  | toolCalls =>
    change ∃ texts', _ ∧ state.closeText.run.1.nextBlockIdx
      = texts' + state.closeText.run.1.toolBlockIndices.length
        ∧ _ ≤ state.closeText.run.1.toolBlockIndices.length
    rw [run_closeText]
    exact ⟨texts, le_rfl, hnext, le_rfl⟩
  | fragment tc =>
    rw [piece_fragment_state]
    have := nextBlockIdx_withCall state (fragmentOf tc).index
    exact ⟨texts, le_rfl, by omega, length_le_withCall ..⟩
  | finish choice =>
    change ∃ texts', _ ∧ (state.finish choice).run.1.nextBlockIdx
      = texts' + (state.finish choice).run.1.toolBlockIndices.length
        ∧ _ ≤ (state.finish choice).run.1.toolBlockIndices.length
    rw [state_finish]
    exact ⟨texts, le_rfl, hnext, le_rfl⟩

theorem le_of_stop_mem (hnext : state.nextBlockIdx = texts + state.toolBlockIndices.length)
    (hcalls : 0 < state.toolBlockIndices.length) {ps : List Piece} {block : Nat}
    (hmem : StreamEvent.contentBlockStop block ∈ (runPieces order state ps).2)
    : texts ≤ block := by
  induction ps generalizing state texts with
  | nil => cases hmem
  | cons p ps ih =>
    rw [runPieces_cons, List.mem_append] at hmem
    rcases hmem with hmem | hmem
    . exact le_of_stop_mem_piece hnext hcalls p hmem
    . obtain ⟨texts', hle, hnext', hlength⟩ := next_piece hnext p
      exact le_trans hle (ih hnext' (lt_of_lt_of_le hcalls hlength) hmem)

theorem lt_of_stop_mem_of_text (h : state.Counted texts) (hcalls : 0 < state.toolBlockIndices.length)
    {ps : List Piece} (htext : ps.any Piece.isText = true) (hfinish : ps.any Piece.isFinish = false)
    {block : Nat} {rest : List Piece}
    (hmem : StreamEvent.contentBlockStop block ∈ (runPieces order state (ps ++ rest)).2)
    : texts < block := by
  induction ps generalizing state with
  | nil => cases htext
  | cons p ps ih =>
    rw [List.any_cons, Bool.or_eq_false_iff] at hfinish
    rw [List.cons_append, runPieces_cons, List.mem_append] at hmem
    cases p with
    | text t =>
      have hrun : (state.piece order (.text t)).run
          = ({ state with textBlockOpen := true, nextBlockIdx := state.nextBlockIdx + 1 },
            [.contentBlockStart state.nextBlockIdx (.text ""),
              .contentBlockDelta state.nextBlockIdx (.textDelta t)]) := by
        change (state.openText >>= _).run = _
        rw [run_bind, run_openText, h.closed]
        rfl
      rw [hrun] at hmem
      rcases hmem with hmem | hmem
      . simp at hmem
      . have hnext := h.next
        refine le_of_stop_mem ?_ ?_ hmem
        . change state.nextBlockIdx + 1 = texts + 1 + state.toolBlockIndices.length
          omega
        . exact hcalls
    | toolCalls =>
      rw [h.piece_toolCalls] at hmem
      rcases hmem with hmem | hmem
      . cases hmem
      . exact ih h hcalls htext hfinish.2 hmem
    | fragment tc =>
      rw [piece_fragment_state] at hmem
      rcases hmem with hmem | hmem
      . change _ ∈ (state.toolCallDelta order tc).run.2 at hmem
        rw [run_toolCallDelta, List.mem_append] at hmem
        rcases hmem with hmem | hmem
        . split at hmem
          . cases hmem
          . cases List.mem_singleton.mp hmem
        . split at hmem
          . cases hmem
          . cases List.mem_singleton.mp hmem
      . exact ih (h.withCall _) (lt_of_lt_of_le hcalls (length_le_withCall ..)) htext hfinish.2 hmem
    | finish choice => cases hfinish.1

theorem complete_own_of_no_stop {block : Nat} {events : List StreamEvent}
    (h : StreamEvent.contentBlockStop block ∉ events) (tool : ToolAccState)
    : (Keyed.own block (events.map StreamEvent.toolAction) tool).complete = tool.complete := by
  apply Keyed.own_of_updates_keep ToolAccState.complete
  intro f hmem value
  obtain ⟨event, hevent, haction⟩ := List.mem_map.mp hmem
  rcases event with _ | ⟨index, _ | _ | _⟩ | ⟨index, _ | _ | _⟩ | index | _ | _ | _ | _
  case contentBlockDelta.inputJsonDelta partialJson =>
    cases haction
    rfl
  case contentBlockStop =>
    cases haction
    exact absurd hevent h
  all_goals cases haction

theorem length_started_toolActions (order : List UInt64 → List UInt64) (state : ChunkState)
    (ps : List Piece)
    : (Keyed.started (toolActions order state ps)).length
        = (firstFragments state.toolBlockIndices (ps.filterMap Piece.fragment?)).length := by
  induction ps generalizing state with
  | nil => rfl
  | cons p ps ih =>
    rw [toolActions_cons]
    have hquiet : (∀ key value, Keyed.Action.start key value
          ∉ (state.piece order p).run.2.map StreamEvent.toolAction)
        → (state.piece order p).run.1.toolBlockIndices = state.toolBlockIndices
        → (Keyed.started ((state.piece order p).run.2.map StreamEvent.toolAction
            ++ toolActions order (state.piece order p).run.1 ps)).length
          = (firstFragments state.toolBlockIndices (ps.filterMap Piece.fragment?)).length := by
      intro hstarts hindices
      rw [Keyed.started_append_of_no_starts hstarts, ih, hindices]
    cases p with
    | text t =>
      apply hquiet
      . intro key value hmem
        change _ ∈ (state.openText.run.2 ++ ([_] ++ [])).map _ at hmem
        rw [run_openText] at hmem
        dsimp only at hmem
        split at hmem
        . cases List.mem_singleton.mp hmem
        . simp [StreamEvent.toolAction] at hmem
      . change state.openText.run.1.toolBlockIndices = _
        rw [run_openText]
    | toolCalls =>
      apply hquiet
      . intro key value hmem
        change _ ∈ state.closeText.run.2.map _ at hmem
        rw [run_closeText] at hmem
        dsimp only at hmem
        split at hmem
        . cases List.mem_singleton.mp hmem
        . cases hmem
      . change state.closeText.run.1.toolBlockIndices = _
        rw [run_closeText]
    | fragment tc =>
      have hih := ih (state.withCall (fragmentOf tc).index)
      rw [toolBlockIndices_withCall] at hih
      have hfragments : (Piece.fragment tc :: ps).filterMap Piece.fragment?
          = fragmentOf tc :: ps.filterMap Piece.fragment? := by
        rfl
      rw [actions_fragment, piece_fragment_state, hfragments]
      unfold fragmentActions firstFragments
      cases hseen : state.toolBlockIndices.contains (fragmentOf tc).index with
      | true =>
        unfold seenWith at hih
        rw [if_pos hseen] at hih
        rw [Bool.not_true, if_neg Bool.false_ne_true, List.nil_append, started_feed, hih, if_pos rfl]
      | false =>
        rw [Bool.not_false, if_pos rfl, if_neg Bool.false_ne_true, List.append_assoc,
          List.singleton_append, Keyed.started, started_feed, List.length_cons, hih, List.length_cons]
    | finish choice =>
      apply hquiet
      . intro key value hmem
        have hfinish := start_notMem_finish order state choice key value
        unfold toolActions at hfinish
        rw [runPieces_cons, runPieces_nil, List.append_nil] at hfinish
        exact hfinish hmem
      . exact congrArg toolBlockIndices (state_finish state choice)

end Reopened

theorem toolBlockIndices_runPieces {ps : List Piece} (hps : ∀ p ∈ ps, p.fragment? = none)
    (state : ChunkState)
    : (runPieces order state ps).1.toolBlockIndices = state.toolBlockIndices := by
  induction ps generalizing state with
  | nil => rfl
  | cons p ps ih =>
    rw [runPieces_cons, ih (fun p' hmem => hps p' (List.mem_cons_of_mem p hmem))]
    cases p with
    | text t =>
      change state.openText.run.1.toolBlockIndices = _
      rw [run_openText]
    | toolCalls =>
      change state.closeText.run.1.toolBlockIndices = _
      rw [run_closeText]
    | fragment tc => cases hps _ (List.mem_cons_self ..)
    | finish choice => exact congrArg toolBlockIndices (state_finish state choice)

theorem start_notMem_toolActions {ps : List Piece} (hps : ∀ p ∈ ps, p.fragment? = none)
    {state : ChunkState} (key : Nat) (value : ToolAccState)
    : Keyed.Action.start key value ∉ toolActions order state ps := by
  intro hmem
  have hlength := length_started_toolActions order state ps
  have hfragments : ps.filterMap Piece.fragment? = [] := by
    rw [List.filterMap_eq_nil_iff]
    exact hps
  rw [hfragments] at hlength
  exact Keyed.started_ne_nil_of_mem hmem (List.eq_nil_of_length_eq_zero hlength)

theorem summary_piece (state : ChunkState) (p : Piece)
    : String.join ((state.piece order p).run.2.map StreamEvent.textPart) = p.ownText
        ∧ (state.piece order p).run.2.filterMap StreamEvent.stopReason? = p.ownStop
        ∧ ∀ event ∈ (state.piece order p).run.2, event.isError = false := by
  cases p with
  | text t =>
    change String.join ((state.openText.run.2 ++ ([_] ++ [])).map _) = _
      ∧ (state.openText.run.2 ++ ([_] ++ [])).filterMap _ = _
      ∧ ∀ event ∈ state.openText.run.2 ++ ([_] ++ []), _
    rw [run_openText]
    cases state.textBlockOpen <;> simp [StreamEvent.textPart, StreamEvent.stopReason?,
      StreamEvent.isError, Piece.ownText, Piece.ownStop]
  | toolCalls =>
    change String.join (state.closeText.run.2.map _) = _ ∧ state.closeText.run.2.filterMap _ = _
      ∧ ∀ event ∈ state.closeText.run.2, _
    rw [run_closeText]
    cases state.textBlockOpen <;> simp [StreamEvent.textPart, StreamEvent.stopReason?,
      StreamEvent.isError, Piece.ownText, Piece.ownStop]
  | fragment tc =>
    change String.join ((state.toolCallDelta order tc).run.2.map _) = _
      ∧ (state.toolCallDelta order tc).run.2.filterMap _ = _
      ∧ ∀ event ∈ (state.toolCallDelta order tc).run.2, _
    rw [run_toolCallDelta]
    cases state.toolBlockIndices.contains (fragmentOf tc).index <;>
      by_cases h : (fragmentOf tc).arguments = "" <;>
      simp [h, StreamEvent.textPart, StreamEvent.stopReason?, StreamEvent.isError, Piece.ownText,
        Piece.ownStop]
  | finish choice =>
    change String.join ((state.finish choice).run.2.map _) = _
      ∧ (state.finish choice).run.2.filterMap _ = _
      ∧ ∀ event ∈ (state.finish choice).run.2, _
    by_cases hreason : reasonOf choice = ""
    . have hrun : (state.finish choice).run.2 = [] := by
        unfold finish
        change (if reasonOf choice = "" then _ else _ : ChunkM ChunkState).run.2 = _
        rw [if_pos hreason]
        rfl
      rw [hrun, Piece.ownStop, if_pos hreason]
      exact ⟨rfl, rfl, by simp⟩
    . have hstops : ∀ event ∈ (if state.textBlockOpen then
            [StreamEvent.contentBlockStop (state.nextBlockIdx - 1)] else [])
          ++ (List.range state.toolBlockIndices.length).map
            (fun i => .contentBlockStop (i + state.textOffset)),
          ∃ block, event = .contentBlockStop block := by
        intro event hmem
        rcases List.mem_append.mp hmem with hmem | hmem
        . split at hmem
          . exact ⟨_, List.mem_singleton.mp hmem⟩
          . cases hmem
        . obtain ⟨i, _, rfl⟩ := List.mem_map.mp hmem
          exact ⟨_, rfl⟩
      rw [run_finish state hreason, Piece.ownStop, if_neg hreason]
      refine ⟨?_, ?_, ?_⟩
      . apply Text.join_eq_empty_iff.mpr
        intro s hmem
        obtain ⟨event, hevent, rfl⟩ := List.mem_map.mp hmem
        rcases List.mem_append.mp hevent with hevent | hevent
        . obtain ⟨block, rfl⟩ := hstops event hevent
          rfl
        . rcases List.mem_cons.mp hevent with rfl | hevent
          . rfl
          . rw [List.mem_singleton.mp hevent]
            rfl
      . rw [List.filterMap_append, List.filterMap_eq_nil_iff.mpr, List.nil_append]
        . rfl
        . intro event hevent
          obtain ⟨block, rfl⟩ := hstops event hevent
          rfl
      . intro event hevent
        rcases List.mem_append.mp hevent with hevent | hevent
        . obtain ⟨block, rfl⟩ := hstops event hevent
          rfl
        . rcases List.mem_cons.mp hevent with rfl | hevent
          . rfl
          . rw [List.mem_singleton.mp hevent]
            rfl

theorem summary_runPieces (state : ChunkState) (ps : List Piece)
    : String.join ((runPieces order state ps).2.map StreamEvent.textPart)
          = String.join (ps.map Piece.ownText)
        ∧ (runPieces order state ps).2.filterMap StreamEvent.stopReason?
          = ps.flatMap Piece.ownStop
        ∧ ∀ event ∈ (runPieces order state ps).2, event.isError = false := by
  induction ps generalizing state with
  | nil => exact ⟨rfl, rfl, by simp [runPieces_nil]⟩
  | cons p ps ih =>
    obtain ⟨htext, hstop, herror⟩ := summary_piece order state p
    obtain ⟨htexts, hstops, herrors⟩ := ih (state.piece order p).run.1
    rw [runPieces_cons]
    refine ⟨?_, ?_, ?_⟩
    . rw [List.map_append, String.join_append, htext, htexts, List.map_cons, String.join_cons]
    . rw [List.filterMap_append, hstop, hstops, List.flatMap_cons]
    . intro event hmem
      rcases List.mem_append.mp hmem with hmem | hmem
      . exact herror event hmem
      . exact herrors event hmem

end ChunkState

end AnimaAgent.OpenAiCompatProvider
