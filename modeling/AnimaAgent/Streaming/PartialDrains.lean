import Mathlib.Data.List.Induction
import AnimaAgent.Library.Barriers
import AnimaAgent.Streaming.Lemmas.Drains

namespace AnimaAgent

/-- A call of the accumulator; a drain goes through the indices in the order of the hash map. -/
inductive AccumulatorCall where
  | onThinkingStart (index : Nat) (thinking : String)
  | onThinkingDelta (index : Nat) (thinking : String)
  | drainThinking
  | onToolStart (index : Nat) (id name : String)
  | onInputDelta (index : Nat) (partialJson : String)
  | onToolStop (index : Nat)
  | drainReady (indices : List Nat)

inductive ToolStep where
  | start (id name : String)
  | delta (partialJson : String)
  | stop
  | drain
  deriving DecidableEq

namespace ToolStep

def apply (tool : Option ToolAccState) : ToolStep → Option ToolAccState
  | start id name => some { id, name, jsonBuf := "", complete := false }
  | delta partialJson =>
    tool.map (fun state => { state with jsonBuf := state.jsonBuf ++ partialJson })
  | stop => tool.map (fun state => { state with complete := true })
  | drain => tool.filter (fun state => !state.complete)

def tool (steps : List ToolStep) : Option ToolAccState :=
  steps.foldl apply none

def received (steps : List ToolStep) : List ToolStep :=
  steps.filter (fun step => step ≠ drain)

def opening (id name : String) (parts : List String) : List ToolStep :=
  start id name :: parts.map delta

/-- The tool is started once, receives its input and is stopped, or it is still on the way there. -/
def Once (steps : List ToolStep) : Prop :=
  ∃ id name parts, received steps <+: opening id name parts ++ [stop]

def Unstopped (steps : List ToolStep) (id name : String) (parts : List String) : Prop :=
  received steps = opening id name parts

def Stopped (steps : List ToolStep) (id name : String) (parts : List String) : Prop :=
  ∃ earlier, steps = earlier ++ [stop] ∧ Unstopped earlier id name parts

theorem tool_concat (steps : List ToolStep) (step : ToolStep)
    : tool (steps ++ [step]) = apply (tool steps) step := by
  exact List.foldl_concat ..

theorem received_concat_of_ne (steps : List ToolStep) {step : ToolStep} (h : step ≠ drain)
    : received (steps ++ [step]) = received steps ++ [step] := by
  unfold received
  rw [List.filter_append]
  simp [h]

theorem received_concat_drain (steps : List ToolStep)
    : received (steps ++ [drain]) = received steps := by
  unfold received
  rw [List.filter_append]
  simp

theorem opening_concat (id name : String) (parts : List String) (part : String)
    : opening id name parts ++ [delta part] = opening id name (parts ++ [part]) := by
  unfold opening
  rw [List.map_append, List.cons_append]
  rfl

theorem tool_of_received_eq_nil {steps : List ToolStep} (h : received steps = [])
    : tool steps = none := by
  induction steps using List.reverseRecOn with
  | nil => rfl
  | append_singleton steps step ih =>
    by_cases hstep : step = drain
    . subst hstep
      rw [received_concat_drain] at h
      rw [tool_concat, ih h]
      rfl
    . rw [received_concat_of_ne steps hstep] at h
      exact absurd h (List.concat_ne_nil _ _)

theorem concat_eq_opening {steps : List ToolStep} {step : ToolStep} {id name : String}
    {parts : List String} (h : steps ++ [step] = opening id name parts)
    : (steps = [] ∧ step = start id name ∧ parts = [])
        ∨ ∃ parts' part, steps = opening id name parts' ∧ step = delta part
          ∧ parts = parts' ++ [part] := by
  rcases List.eq_nil_or_concat parts with rfl | ⟨parts', part, rfl⟩
  . obtain ⟨rfl, hstep⟩ := List.append_eq_singleton_iff.mp h
      |>.resolve_right (fun hsteps => absurd hsteps.2 (List.cons_ne_nil _ _))
    exact .inl ⟨rfl, List.singleton_inj.mp hstep, rfl⟩
  . rw [List.concat_eq_append, ← opening_concat] at h
    obtain ⟨rfl, hstep⟩ := List.append_inj' h rfl
    exact .inr ⟨parts', part, rfl, List.singleton_inj.mp hstep, List.concat_eq_append⟩

theorem tool_of_unstopped {steps : List ToolStep} {id name : String} {parts : List String}
    (h : Unstopped steps id name parts)
    : tool steps = some { id, name, jsonBuf := String.join parts, complete := false } := by
  induction steps using List.reverseRecOn generalizing parts with
  | nil => cases h
  | append_singleton steps step ih =>
    unfold Unstopped at h ih
    rw [tool_concat]
    by_cases hdrain : step = drain
    . subst hdrain
      rw [received_concat_drain] at h
      rw [ih h]
      rfl
    . rw [received_concat_of_ne steps hdrain] at h
      rcases concat_eq_opening h with ⟨_, rfl, rfl⟩ | ⟨parts', part, hparts, rfl, rfl⟩
      . rfl
      . rw [ih hparts]
        unfold String.join
        rw [List.foldl_concat]
        rfl

theorem tool_of_stopped {steps : List ToolStep} {id name : String} {parts : List String}
    (h : Stopped steps id name parts)
    : tool steps = some { id, name, jsonBuf := String.join parts, complete := true } := by
  obtain ⟨earlier, rfl, hearlier⟩ := h
  rw [tool_concat, tool_of_unstopped hearlier]
  rfl

theorem stopped_or_tool_eq_none {steps : List ToolStep} {id name : String} {parts : List String}
    (h : received steps = opening id name parts ++ [stop])
    : Stopped steps id name parts ∨ tool steps = none := by
  induction steps using List.reverseRecOn with
  | nil => cases h
  | append_singleton steps step ih =>
    by_cases hdrain : step = drain
    . subst hdrain
      rw [received_concat_drain] at h
      rw [tool_concat]
      rcases ih h with hstopped | hnone
      . rw [tool_of_stopped hstopped]
        exact .inr rfl
      . rw [hnone]
        exact .inr rfl
    . rw [received_concat_of_ne steps hdrain] at h
      obtain ⟨hsteps, hstep⟩ := List.append_inj' h rfl
      rw [List.singleton_inj.mp hstep]
      exact .inl ⟨steps, rfl, hsteps⟩

theorem exists_stopped_of_complete {steps : List ToolStep} {state : ToolAccState}
    (h : Once steps) (hstate : tool steps = some state) (hcomplete : state.complete = true)
    : ∃ id name parts, Stopped steps id name parts
        ∧ state = { id, name, jsonBuf := String.join parts, complete := true } := by
  obtain ⟨id, name, parts, hreceived⟩ := h
  rcases List.prefix_concat_iff.mp hreceived with hall | hopening
  . rcases stopped_or_tool_eq_none hall with hstopped | hnone
    . rw [tool_of_stopped hstopped] at hstate
      cases hstate
      exact ⟨id, name, parts, hstopped, rfl⟩
    . rw [hnone] at hstate
      cases hstate
  . rcases List.prefix_cons_iff.mp hopening with hnil | ⟨deltas, hcons, hdeltas⟩
    . rw [tool_of_received_eq_nil hnil] at hstate
      cases hstate
    . have hunstopped : Unstopped steps id name (parts.take deltas.length) := by
        unfold Unstopped opening
        rw [hcons, List.map_take, ← List.prefix_iff_eq_take.mp hdeltas]
      rw [tool_of_unstopped hunstopped] at hstate
      cases hstate
      cases hcomplete

end ToolStep

namespace AccumulatorCall

def toolStep (index : Nat) : AccumulatorCall → Option ToolStep
  | onToolStart i id name => if i = index then some (.start id name) else none
  | onInputDelta i partialJson => if i = index then some (.delta partialJson) else none
  | onToolStop i => if i = index then some .stop else none
  | drainReady _ => some .drain
  | _ => none

def isDrain : AccumulatorCall → Bool
  | drainReady _ => true
  | _ => false

theorem any_toolStep (index : Nat) (call : AccumulatorCall)
    : (toolStep index call).any (fun step => step = .drain) = isDrain call := by
  cases call with
  | onToolStart i id name =>
    rw [toolStep]
    split <;> rfl
  | onInputDelta i partialJson =>
    rw [toolStep]
    split <;> rfl
  | onToolStop i =>
    rw [toolStep]
    split <;> rfl
  | _ => rfl

def barriers : Barriers Nat AccumulatorCall ToolStep where
  seen := toolStep
  isBarrier := isDrain
  isSeenBarrier := fun step => step = .drain
  any_seen := any_toolStep

def own (index : Nat) (calls : List AccumulatorCall) : List ToolStep :=
  barriers.own index calls

theorem own_concat (index : Nat) (calls : List AccumulatorCall) (call : AccumulatorCall)
    : own index (calls ++ [call]) = own index calls ++ (toolStep index call).toList := by
  unfold own
  rw [Barriers.own_append]
  change _ ++ [call].filterMap (toolStep index) = _
  rw [List.filterMap_cons]
  cases toolStep index call <;> rfl

end AccumulatorCall

namespace StreamAccumulator

section Runs

variable (serde : SerdeJson)

def apply (acc : StreamAccumulator) : AccumulatorCall → StreamAccumulator
  | .onThinkingStart index thinking => acc.onThinkingStart index thinking
  | .onThinkingDelta index thinking => acc.onThinkingDelta index thinking
  | .drainThinking => { acc with thinkingBufs := ∅ }
  | .onToolStart index id name => acc.onToolStart index id name
  | .onInputDelta index partialJson => acc.onInputDelta index partialJson
  | .onToolStop index => acc.onToolStop index
  | .drainReady indices => (acc.drainReadyIn serde indices).2

def gathered (calls : List AccumulatorCall) : StreamAccumulator :=
  calls.foldl (apply serde) {}

/-- Every drain goes through the indices of the map in some order. -/
def InMapOrder (calls : List AccumulatorCall) : Prop :=
  ∀ earlier indices later, calls = earlier ++ .drainReady indices :: later
    → indices.Perm (gathered serde earlier).tools.keys

/-- No drain meets a malformed tool together with another stopped one. -/
def MalformedApart (calls : List AccumulatorCall) : Prop :=
  ∀ earlier indices later, calls = earlier ++ .drainReady indices :: later
    → (gathered serde earlier).MalformedAlone serde

/-- A drain of the indices behind some calls gives each index what is its own. -/
structure DrainsOwn (calls : List AccumulatorCall) (indices : List Nat) : Prop where
  interleaved : ∀ other indices', InMapOrder serde (other ++ [.drainReady indices'])
    → AccumulatorCall.barriers.Interleaved other calls
    → (drainReadyIn serde indices' (gathered serde other)).1
      = (drainReadyIn serde indices (gathered serde calls)).1
  returned : ∀ toolUses, (drainReadyIn serde indices (gathered serde calls)).1 = .ok toolUses
    → ∃ indexed : List (Nat × ParsedToolUse), toolUses = indexed.map Prod.snd
      ∧ indexed.Pairwise (fun a b => a.1 < b.1)
      ∧ (∀ index tool, (index, tool) ∈ indexed
        → ∃ parts, ToolStep.Stopped (AccumulatorCall.own index calls) tool.id tool.name parts
          ∧ serde.fromStr (String.join parts) = .ok tool.input)
      ∧ ∀ index id name parts, ToolStep.Stopped (AccumulatorCall.own index calls) id name parts
        → ∃ tool, (index, tool) ∈ indexed
  failed : ∀ e, (drainReadyIn serde indices (gathered serde calls)).1 = .error e
    → ∃ index id name parts, ToolStep.Stopped (AccumulatorCall.own index calls) id name parts
      ∧ readyTool serde { id, name, jsonBuf := String.join parts, complete := true } = .error e
  kept : ∀ index id name parts, ToolStep.Unstopped (AccumulatorCall.own index calls) id name parts
    → (drainReadyIn serde indices (gathered serde calls)).2.tools.lookup index
      = some { id, name, jsonBuf := String.join parts, complete := false }

end Runs

variable {serde : SerdeJson}

theorem lookup_update {tools : AList (fun _ : Nat => ToolAccState)} {index i : Nat}
    {f : ToolAccState → ToolAccState} {step : ToolStep}
    (hstep : ToolStep.apply (tools.lookup index) step = (tools.lookup index).map f)
    : (Keyed.step tools (.update i f)).lookup index
        = (if i = index then some step else none).elim (tools.lookup index)
          (ToolStep.apply (tools.lookup index)) := by
  rw [Keyed.lookup_step_update]
  by_cases hindex : i = index
  . subst hindex
    rw [if_pos rfl, if_pos rfl]
    exact hstep.symm
  . rw [if_neg (Ne.symm hindex), if_neg hindex]
    rfl

theorem lookup_apply {acc : StreamAccumulator} {call : AccumulatorCall}
    (h : ∀ indices, call = .drainReady indices
      → indices.Perm acc.tools.keys ∧ acc.MalformedAlone serde) (index : Nat)
    : (acc.apply serde call).tools.lookup index
        = (call.toolStep index).elim (acc.tools.lookup index)
          (ToolStep.apply (acc.tools.lookup index)) := by
  cases call with
  | onThinkingStart i thinking => rfl
  | onThinkingDelta i thinking =>
    exact congrArg (AList.lookup index) (StreamState.tools_onThinkingDelta acc i thinking)
  | drainThinking => rfl
  | onToolStart i id name =>
    change (acc.tools.insert i _).lookup index = _
    rw [AccumulatorCall.toolStep]
    by_cases hindex : i = index
    . subst hindex
      rw [if_pos rfl, AList.lookup_insert]
      rfl
    . rw [if_neg hindex, AList.lookup_insert_ne (Ne.symm hindex)]
      rfl
  | onInputDelta i partialJson =>
    change (acc.onInputDelta i partialJson).tools.lookup index = _
    rw [StreamState.tools_onInputDelta]
    exact lookup_update rfl
  | onToolStop i =>
    change (acc.onToolStop i).tools.lookup index = _
    rw [StreamState.tools_onToolStop]
    exact lookup_update rfl
  | drainReady indices =>
    obtain ⟨hindices, halone⟩ := h indices rfl
    exact lookup_snd_drainReadyIn halone hindices index

theorem gathered_concat (calls : List AccumulatorCall) (call : AccumulatorCall)
    : gathered serde (calls ++ [call]) = (gathered serde calls).apply serde call := by
  exact List.foldl_concat ..

section Earlier

variable {calls later : List AccumulatorCall}

theorem InMapOrder.earlier (h : InMapOrder serde (calls ++ later)) : InMapOrder serde calls := by
  intro earlier indices later' hcalls
  apply h earlier indices (later' ++ later)
  rw [hcalls, List.append_assoc]
  rfl

theorem MalformedApart.earlier (h : MalformedApart serde (calls ++ later))
    : MalformedApart serde calls := by
  intro earlier indices later' hcalls
  apply h earlier indices (later' ++ later)
  rw [hcalls, List.append_assoc]
  rfl

end Earlier

theorem lookup_gathered {calls : List AccumulatorCall} (horder : InMapOrder serde calls)
    (hapart : MalformedApart serde calls) (index : Nat)
    : (gathered serde calls).tools.lookup index
        = ToolStep.tool (AccumulatorCall.own index calls) := by
  induction calls using List.reverseRecOn with
  | nil => rfl
  | append_singleton calls call ih =>
    have hcall : ∀ indices, call = .drainReady indices
        → indices.Perm (gathered serde calls).tools.keys
          ∧ (gathered serde calls).MalformedAlone serde := by
      rintro indices rfl
      exact ⟨horder calls indices [] rfl, hapart calls indices [] rfl⟩
    rw [gathered_concat, lookup_apply hcall, ih horder.earlier hapart.earlier,
      AccumulatorCall.own_concat]
    cases call.toolStep index with
    | none =>
      change _ = ToolStep.tool (_ ++ [])
      rw [List.append_nil]
      rfl
    | some step => exact (ToolStep.tool_concat _ step).symm

theorem MalformedApart.of_interleaved {calls other : List AccumulatorCall}
    (hapart : MalformedApart serde calls) (horder : InMapOrder serde calls)
    (hother : InMapOrder serde other)
    (h : AccumulatorCall.barriers.Interleaved other calls)
    : MalformedApart serde other := by
  -- By induction on the length: each drain of `other` has its counterpart in `calls`.
  induction hlength : other.length using Nat.strongRecOn generalizing other calls with
  | ind n ih =>
    rintro earlier indices later rfl
    have hsymm : AccumulatorCall.barriers.Interleaved calls
        (earlier ++ .drainReady indices :: later) := fun key => (h key).symm
    obtain ⟨earlier', call, later', rfl, hcall, hearlier⟩ := hsymm.before 0 rfl
    have hapart' : MalformedApart serde earlier' := hapart.earlier
    have horder' : InMapOrder serde earlier' := horder.earlier
    have hrest : MalformedApart serde earlier := by
      apply ih earlier.length _ hapart' horder' hother.earlier
        (fun key => (hearlier key).symm) rfl
      rw [← hlength, List.length_append, List.length_cons]
      omega
    have halone : (gathered serde earlier').MalformedAlone serde := by
      cases call with
      | drainReady indices' => exact hapart earlier' indices' later' rfl
      | _ => cases hcall
    apply halone.of_lookup
    intro index state hstate
    rw [lookup_gathered hother.earlier hrest] at hstate
    rw [lookup_gathered horder' hapart', ← hstate]
    exact congrArg ToolStep.tool (hearlier index)

section DrainsOwn

variable {calls : List AccumulatorCall} {indices : List Nat}

theorem InMapOrder.perm_keys (h : InMapOrder serde (calls ++ [.drainReady indices]))
    : indices.Perm (gathered serde calls).tools.keys := by
  exact h calls indices [] rfl

theorem fst_drainReadyIn_of_interleaved (horder : InMapOrder serde (calls ++ [.drainReady indices]))
    (hapart : MalformedApart serde calls) (honce : (gathered serde calls).MalformedOnce serde)
    {other : List AccumulatorCall} {indices' : List Nat}
    (hother : InMapOrder serde (other ++ [.drainReady indices']))
    (h : AccumulatorCall.barriers.Interleaved other calls)
    : (drainReadyIn serde indices' (gathered serde other)).1
        = (drainReadyIn serde indices (gathered serde calls)).1 := by
  have hapart' := hapart.of_interleaved horder.earlier hother.earlier h
  apply Eq.symm
  apply fst_drainReadyIn_congr _ horder.perm_keys hother.perm_keys honce
  intro index
  rw [lookup_gathered horder.earlier hapart, lookup_gathered hother.earlier hapart']
  exact congrArg ToolStep.tool (h index).symm

theorem lookup_gathered_complete (horder : InMapOrder serde calls)
    (hapart : MalformedApart serde calls)
    (hsteps : ∀ index, ToolStep.Once (AccumulatorCall.own index calls)) {index : Nat}
    {state : ToolAccState}
    : (gathered serde calls).tools.lookup index = some state ∧ state.complete = true
        ↔ ∃ id name parts, ToolStep.Stopped (AccumulatorCall.own index calls) id name parts
          ∧ state = { id, name, jsonBuf := String.join parts, complete := true } := by
  rw [lookup_gathered horder hapart]
  constructor
  . rintro ⟨hstate, hcomplete⟩
    exact ToolStep.exists_stopped_of_complete (hsteps index) hstate hcomplete
  . rintro ⟨id, name, parts, hstopped, rfl⟩
    exact ⟨ToolStep.tool_of_stopped hstopped, rfl⟩

/--
As long as malformed tools are drained alone, each drain gives every index what is its own, unless two
of the stopped tools are malformed at once.
-/
theorem drainsOwn_of_malformedApart
    (hsteps : ∀ index, ToolStep.Once (AccumulatorCall.own index calls))
    (horder : InMapOrder serde (calls ++ [.drainReady indices]))
    (hapart : MalformedApart serde calls) (honce : (gathered serde calls).MalformedOnce serde)
    : DrainsOwn serde calls indices where
  interleaved other indices' hother h :=
    fst_drainReadyIn_of_interleaved horder hapart honce hother h
  returned := by
    intro toolUses hok
    have hformed : ∀ index, ¬(gathered serde calls).Malformed serde index := by
      intro index hmalformed
      obtain ⟨e, herror⟩ := exists_drainReadyIn_error horder.perm_keys hmalformed
      rw [hok] at herror
      cases herror
    rw [fst_drainReadyIn_of_wellFormed horder.perm_keys hformed] at hok
    cases hok
    have hnodup := horder.perm_keys.nodup_iff.mpr (gathered serde calls).tools.keys_nodup
    refine ⟨_, rfl, pairwise_readTools hnodup _, ?_, ?_⟩
    . intro index tool hmem
      obtain ⟨state, hlookup, hcomplete, rfl⟩ := (mem_readTools horder.perm_keys).mp hmem
      have hwell : state.WellFormed serde := by
        by_contra hwell
        exact hformed index ⟨state, hlookup, hcomplete, hwell⟩
      obtain ⟨input, hinput⟩ := hwell
      obtain ⟨id, name, parts, hstopped, rfl⟩ :=
        (lookup_gathered_complete horder.earlier hapart hsteps).mp ⟨hlookup, hcomplete⟩
      refine ⟨parts, hstopped, ?_⟩
      unfold ToolAccState.parsed
      dsimp only at hinput ⊢
      rw [hinput]
      rfl
    . intro index id name parts hstopped
      obtain ⟨hlookup, hcomplete⟩ :=
        (lookup_gathered_complete horder.earlier hapart hsteps).mpr ⟨id, name, parts, hstopped, rfl⟩
      exact ⟨_, (mem_readTools horder.perm_keys).mpr ⟨_, hlookup, hcomplete, rfl⟩⟩
  failed := by
    intro e herror
    obtain ⟨index, state, hlookup, hcomplete, htool⟩ :=
      exists_of_drainReadyIn_error horder.perm_keys herror
    obtain ⟨id, name, parts, hstopped, rfl⟩ :=
      (lookup_gathered_complete horder.earlier hapart hsteps).mp ⟨hlookup, hcomplete⟩
    exact ⟨index, id, name, parts, hstopped, htool⟩
  kept := by
    intro index id name parts hunstopped
    have hlookup : (gathered serde calls).tools.lookup index
        = some { id, name, jsonBuf := String.join parts, complete := false } := by
      rw [lookup_gathered horder.earlier hapart]
      exact ToolStep.tool_of_unstopped hunstopped
    change (drainLoop serde _ [] indices).2.lookup index = _
    rw [lookup_drainLoop_of_not_complete _, hlookup]
    intro state hstate
    rw [hlookup] at hstate
    cases hstate
    rfl

end DrainsOwn

section Instances

theorem forall_drains_iff {P : List AccumulatorCall → List Nat → Prop}
    {calls : List AccumulatorCall}
    : (∀ earlier indices later, calls = earlier ++ .drainReady indices :: later
          → P earlier indices)
        ↔ ∀ n indices, calls[n]? = some (.drainReady indices) → P (calls.take n) indices := by
  constructor
  . intro h n indices hn
    apply h (calls.take n) indices (calls.drop (n + 1))
    obtain ⟨hlt, hget⟩ := List.getElem?_eq_some_iff.mp hn
    rw [← hget, ← List.drop_eq_getElem_cons hlt, List.take_append_drop]
  . rintro h earlier indices later rfl
    have := h earlier.length indices (by simp)
    rwa [List.take_left] at this

theorem inMapOrder_iff {calls : List AccumulatorCall}
    : InMapOrder serde calls
        ↔ ∀ (n : Nat) (indices : List Nat), calls[n]? = some (AccumulatorCall.drainReady indices)
          → indices.Perm (gathered serde (calls.take n)).tools.keys := by
  exact forall_drains_iff (P := fun earlier indices =>
    indices.Perm (gathered serde earlier).tools.keys)

theorem malformedApart_iff {calls : List AccumulatorCall}
    : MalformedApart serde calls
        ↔ ∀ (n : Nat) (indices : List Nat), calls[n]? = some (AccumulatorCall.drainReady indices)
          → (gathered serde (calls.take n)).MalformedAlone serde := by
  exact forall_drains_iff (P := fun earlier _ => (gathered serde earlier).MalformedAlone serde)

instance decidableWellFormed (state : ToolAccState) : Decidable (state.WellFormed serde) :=
  match h : serde.fromStr state.jsonBuf with
  | .ok input => isTrue ⟨input, h⟩
  | .error e => isFalse (by
      rintro ⟨input, hinput⟩
      rw [h] at hinput
      cases hinput)

theorem not_malformed_of_entries {acc : StreamAccumulator}
    (h : ∀ entry ∈ acc.tools.entries, entry.2.complete = true → entry.2.WellFormed serde)
    (index : Nat)
    : ¬acc.Malformed serde index := by
  rintro ⟨state, hlookup, hcomplete, hformed⟩
  exact hformed (h ⟨index, state⟩ (AList.mem_lookup_iff.mp hlookup) hcomplete)

end Instances

def drainedBetween : List AccumulatorCall :=
  [.onToolStart 1 "t1" "bash", .onToolStart 0 "t0" "read", .onInputDelta 1 "nu",
    .onInputDelta 0 "null", .onToolStop 0, .drainReady [1, 0], .onInputDelta 1 "ll",
    .onToolStop 1]

theorem once_drainedBetween (index : Nat)
    : ToolStep.Once (AccumulatorCall.own index drainedBetween) := by
  match index with
  | 0 => exact ⟨"t0", "read", ["null"], by decide +kernel⟩
  | 1 => exact ⟨"t1", "bash", ["nu", "ll"], by decide +kernel⟩
  | n + 2 => exact ⟨"", "", [], List.nil_prefix⟩

theorem inMapOrder_drainedBetween
    : InMapOrder SerdeJson.small (drainedBetween ++ [.drainReady [1]]) := by
  apply inMapOrder_iff.mpr
  intro n indices hn
  match n with
  | 5 =>
    cases hn
    decide +kernel
  | 8 =>
    cases hn
    decide +kernel
  | 0 | 1 | 2 | 3 | 4 | 6 | 7 => cases hn
  | n + 9 => cases hn

theorem malformedApart_drainedBetween : MalformedApart SerdeJson.small drainedBetween := by
  apply malformedApart_iff.mpr
  intro n indices hn
  match n with
  | 5 =>
    intro i j hi
    exact absurd hi (not_malformed_of_entries (by decide +kernel) i)
  | 0 | 1 | 2 | 3 | 4 | 6 | 7 => cases hn
  | n + 8 => cases hn

theorem drainsOwn_drainedBetween : DrainsOwn SerdeJson.small drainedBetween [1] := by
  have honce : (gathered SerdeJson.small drainedBetween).MalformedOnce SerdeJson.small := by
    intro i j hi
    exact absurd hi (not_malformed_of_entries (by decide +kernel) i)
  exact drainsOwn_of_malformedApart once_drainedBetween inMapOrder_drainedBetween
    malformedApart_drainedBetween honce

def drainedTogether (indices : List Nat) : List AccumulatorCall :=
  [.onToolStart 0 "t0" "read", .onInputDelta 0 "null", .onToolStop 0,
    .onToolStart 1 "t1" "bash", .onToolStop 1, .drainReady indices]

theorem inMapOrder_drainedTogether {indices indices' : List Nat} (h : indices.Perm [0, 1])
    (h' : indices'.Perm (gathered SerdeJson.small (drainedTogether indices)).tools.keys)
    : InMapOrder SerdeJson.small (drainedTogether indices ++ [.drainReady indices']) := by
  apply inMapOrder_iff.mpr
  intro n indices'' hn
  match n with
  | 5 =>
    cases hn
    have hkeys : [0, 1].Perm
        (gathered SerdeJson.small ((drainedTogether []).take 5)).tools.keys := by
      decide +kernel
    exact h.trans hkeys
  | 6 =>
    cases hn
    exact h'
  | 0 | 1 | 2 | 3 | 4 => cases hn
  | n + 7 => cases hn

/--
Whether the well-formed tool is left for the next drain or is lost depends on the order of the hash map.
-/
theorem drainedTogether_not_drainsOwn
    : (∀ index, ToolStep.Once (AccumulatorCall.own index (drainedTogether [0, 1])))
        ∧ InMapOrder SerdeJson.small (drainedTogether [0, 1] ++ [.drainReady []])
        ∧ ¬DrainsOwn SerdeJson.small (drainedTogether [0, 1]) [] := by
  refine ⟨?_, inMapOrder_drainedTogether (by decide) (by decide +kernel), ?_⟩
  . intro index
    match index with
    | 0 => exact ⟨"t0", "read", ["null"], by decide +kernel⟩
    | 1 => exact ⟨"t1", "bash", [], by decide +kernel⟩
    | n + 2 => exact ⟨"", "", [], List.nil_prefix⟩
  . intro h
    have hother : InMapOrder SerdeJson.small (drainedTogether [1, 0] ++ [.drainReady [0]]) :=
      inMapOrder_drainedTogether (by decide) (by decide +kernel)
    have hresult := h.interleaved (drainedTogether [1, 0]) [0] hother (fun _ => rfl)
    have hlost : (drainReadyIn SerdeJson.small [] (gathered SerdeJson.small
        (drainedTogether [0, 1]))).1 = .ok [] := by
      decide +kernel
    have hleft : (drainReadyIn SerdeJson.small [0] (gathered SerdeJson.small
        (drainedTogether [1, 0]))).1 = .ok [{ id := "t0", name := "read", input := .null }] := by
      decide +kernel
    rw [hlost, hleft] at hresult
    cases hresult

end StreamAccumulator

end AnimaAgent
