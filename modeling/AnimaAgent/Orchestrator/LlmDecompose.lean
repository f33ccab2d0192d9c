import AnimaAgent.Orchestrator.ExtractedJson

namespace AnimaAgent

open Text (SlicePanic isCharBoundary sliceTo)

/-- The levels of the log; the arguments of a message are evaluated only if its level is enabled. -/
structure LogLevels where
  debug : Bool
  warn : Bool

def ChatResponse.firstText (response : ChatResponse) : String :=
  Text.trim ((response.content.findSome? (fun
    | .text text => some text
    | _ => none)).getD "")

def logPreview (enabled : Bool) (text : String) (limit : Nat) : Except SlicePanic Unit := do
  if enabled then
    let _ ← sliceTo text (min (Text.len text) limit)

namespace LlmDecompose

variable (levels : LogLevels) (parseSpecs : String → Except String (List LlmSubtaskSpec))

def specsOfJson (jsonStr : String) : Except SlicePanic (Option (List LlmSubtaskSpec)) := do
  match parseSpecs jsonStr with
  | .error _ =>
    logPreview levels.warn jsonStr 300
    return none
  | .ok specs => if specs.isEmpty then return none else return some (specs.take 6)

def specsOfText (text : String) : Except SlicePanic (Option (List LlmSubtaskSpec)) := do
  logPreview levels.debug text 500
  match ← extractJsonArray text with
  | none =>
    logPreview levels.warn text 200
    return none
  | some jsonStr => specsOfJson levels parseSpecs jsonStr

def decomposeRequest (prompt request sessionId : String) : ChatRequest where
  messages := [
    { role := .user, content := [.text (Text.replace "\x7brequest\x7d" request prompt)] }]
  maxTokens := some 4096
  metadata := .object [("session_id", .string sessionId)]

def tryLlmDecompose (provider : Option Provider) (calls : Nat) (prompt request sessionId : String)
    : Except SlicePanic (Option (List LlmSubtaskSpec)) :=
  match provider with
  | none => .ok none
  | some provider =>
    match provider.chat calls (decomposeRequest prompt request sessionId) with
    | .error _ => .ok none
    | .ok response => specsOfText levels parseSpecs response.firstText

/-- Every preview that is logged of the text of a response ends between two characters. -/
structure CutAtCharacters (text : String) : Prop where
  response : levels.debug = true → isCharBoundary text (min (Text.len text) 500) = true
  unfound : levels.warn = true → extractJsonArray text = .ok none
    → isCharBoundary text (min (Text.len text) 200) = true
  unparsed : levels.warn = true → ∀ jsonStr error, extractJsonArray text = .ok (some jsonStr)
    → parseSpecs jsonStr = .error error
    → isCharBoundary jsonStr (min (Text.len jsonStr) 300) = true

section Returns

variable {levels parseSpecs}

theorem logPreview_isOk_iff (enabled : Bool) (text : String) (limit : Nat)
    : logPreview enabled text limit = .ok ()
        ↔ (enabled = true → isCharBoundary text (min (Text.len text) limit) = true) := by
  rw [← Text.sliceTo_isOk_iff]
  cases enabled with
  | false => exact iff_of_true rfl (fun h => absurd h Bool.false_ne_true)
  | true =>
    unfold logPreview
    cases sliceTo text (min (Text.len text) limit) with
    | error panic => simp [bind, Except.bind]
    | ok front => simp [bind, Except.bind, pure, Except.pure]

theorem logPreview_bind_isOk_iff {α : Type} (enabled : Bool) (text : String) (limit : Nat)
    (rest : Except SlicePanic α)
    : (∃ result, (do logPreview enabled text limit; rest) = .ok result)
        ↔ (enabled = true → isCharBoundary text (min (Text.len text) limit) = true)
          ∧ ∃ result, rest = .ok result := by
  rw [← logPreview_isOk_iff]
  cases logPreview enabled text limit with
  | error panic => simp [bind, Except.bind]
  | ok _ => simp [bind, Except.bind]

theorem specsOfJson_isOk_iff (jsonStr : String)
    : (∃ result, specsOfJson levels parseSpecs jsonStr = .ok result)
        ↔ (levels.warn = true → ∀ error, parseSpecs jsonStr = .error error
          → isCharBoundary jsonStr (min (Text.len jsonStr) 300) = true) := by
  unfold specsOfJson
  cases parseSpecs jsonStr with
  | error message =>
    dsimp only
    rw [logPreview_bind_isOk_iff, and_iff_left ⟨none, rfl⟩]
    exact ⟨fun h hwarn _ _ => h hwarn, fun h hwarn => h hwarn message rfl⟩
  | ok specs =>
    dsimp only
    refine iff_of_true ?_ (fun _ _ herror => by cases herror)
    split
    . exact ⟨none, rfl⟩
    . exact ⟨_, rfl⟩

theorem specsOfText_isOk_iff (text : String)
    : (∃ result, specsOfText levels parseSpecs text = .ok result)
        ↔ CutAtCharacters levels parseSpecs text := by
  obtain ⟨extracted, hextracted⟩ := @extractBracketed_isOk '[' ']' (by decide) text
  have hextracted : extractJsonArray text = .ok extracted := hextracted
  have hnext : (∃ result, specsOfText levels parseSpecs text = .ok result)
      ↔ (levels.debug = true → isCharBoundary text (min (Text.len text) 500) = true)
        ∧ ∃ result, (match extracted with
          | none => (do logPreview levels.warn text 200; return none)
          | some jsonStr => specsOfJson levels parseSpecs jsonStr) = .ok result := by
    unfold specsOfText
    rw [logPreview_bind_isOk_iff, hextracted]
    rfl
  rw [hnext]
  cases extracted with
  | none =>
    have hnone : ∃ result, (return none : Except SlicePanic (Option (List LlmSubtaskSpec)))
        = .ok result := ⟨none, rfl⟩
    dsimp only
    rw [logPreview_bind_isOk_iff, and_iff_left hnone]
    constructor
    . rintro ⟨hresponse, hunfound⟩
      refine ⟨hresponse, fun hwarn _ => hunfound hwarn, fun _ _ _ hsome => ?_⟩
      cases hextracted.symm.trans hsome
    . exact fun h => ⟨h.response, fun hwarn => h.unfound hwarn hextracted⟩
  | some jsonStr =>
    dsimp only
    rw [specsOfJson_isOk_iff]
    constructor
    . rintro ⟨hresponse, hunparsed⟩
      refine ⟨hresponse, fun _ hnone => ?_, fun hwarn other error hother herror => ?_⟩
      . cases hextracted.symm.trans hnone
      . cases hextracted.symm.trans hother
        exact hunparsed hwarn error herror
    . exact fun h => ⟨h.response, fun hwarn error => h.unparsed hwarn jsonStr error hextracted⟩

end Returns

/--
The decomposition returns if and only if no preview of the response ends within a character; all other
offsets, those of the extraction, are between characters.
-/
theorem tryLlmDecompose_returns_iff (provider : Option Provider) (calls : Nat)
    (prompt request sessionId : String)
    : (∃ result, tryLlmDecompose levels parseSpecs provider calls prompt request sessionId = .ok result)
        ↔ ∀ model response, provider = some model
          → model.chat calls (decomposeRequest prompt request sessionId) = .ok response
          → CutAtCharacters levels parseSpecs response.firstText := by
  unfold tryLlmDecompose
  cases provider with
  | none => exact iff_of_true ⟨none, rfl⟩ (fun _ _ h => by cases h)
  | some model =>
    dsimp only
    cases hresponse : model.chat calls (decomposeRequest prompt request sessionId) with
    | error error =>
      refine iff_of_true ⟨none, rfl⟩ (fun other response h hother => ?_)
      cases h
      cases hresponse.symm.trans hother
    | ok response =>
      dsimp only
      rw [specsOfText_isOk_iff]
      constructor
      . intro h other response' hmodel hother
        cases hmodel
        cases hresponse.symm.trans hother
        exact h
      . exact fun h => h model response rfl hresponse

def accentedRefusal : String :=
  "x" ++ String.ofList (List.replicate 100 'é')

theorem accentedRefusal_panics
    : ¬∃ result, tryLlmDecompose ⟨false, true⟩ (fun _ => .error "expected value")
        (some (.replying accentedRefusal)) 0 "Split: \x7brequest\x7d" "build a shop" "session_1"
        = .ok result := by
  have hpanics : (tryLlmDecompose ⟨false, true⟩ (fun _ => .error "expected value")
      (some (.replying accentedRefusal)) 0 "Split: \x7brequest\x7d" "build a shop"
      "session_1").toOption.isNone = true := by
    decide +kernel
  rintro ⟨result, h⟩
  rw [h] at hpanics
  cases hpanics

end LlmDecompose

end AnimaAgent
