import AnimaAgent.Execution.Lemmas.Resume
import AnimaAgent.Execution.Lemmas.Step

/-!
This module contains the execution of the tool uses of a response where the code that they call may
panic. A panic in a thread of a segment becomes an error result, a panic in the thread of the loop
itself unwinds it.
-/

namespace AnimaAgent

structure Panics where
  panicsAt : ToolEvent → Bool
  uuid : Nat → Nat → String

def Panics.never : Panics where
  panicsAt _ := false
  uuid _ _ := ""

structure Answer where
  index : Nat
  message : InternalMsg
  deriving DecidableEq

abbrev ItemOutcome := IndexedToolUse × IndexedToolOutcome

namespace LoopEnv

variable (env : LoopEnv) (panics : Panics)

def attemptItem (i : Nat) (item : IndexedToolUse)
    : Writer (List ToolEvent) (Option IndexedToolOutcome) :=
  let run := (env.executeItem i item).run
  match run.2.findIdx? panics.panicsAt with
  | none => WriterT.mk (some run.1, run.2)
  | some n => WriterT.mk (none, run.2.take (n + 1))

def panickedOutcome (i place : Nat) (item : IndexedToolUse) : IndexedToolOutcome where
  index := place
  toolUseId := item.toolUse.id
  outcome :=
    .completed
      (ToolInvocationRecord.new env.now (panics.uuid i item.index) item.toolUse.name
        (some item.toolUse.id))
      (.error "tool execution thread panicked")

def joinThreads (i : Nat)
    : (place : Nat) → List IndexedToolUse → Writer (List ToolEvent) (List ItemOutcome)
  | _, [] => pure []
  | place, item :: rest => do
    let outcome := (← attemptItem env panics i item).getD (panickedOutcome env panics i place item)
    let outcomes ← joinThreads i (place + 1) rest
    pure ((item, outcome) :: outcomes)

def executeThreads (i : Nat) (segment : List IndexedToolUse)
    : Writer (List ToolEvent) (List ItemOutcome) := do
  let outcomes ← env.joinThreads panics i 0 segment
  pure (outcomes.insertionSort (fun a b => a.2.index ≤ b.2.index))

def executeInOrder (i : Nat)
    : List IndexedToolUse → Writer (List ToolEvent) (Option (List ItemOutcome))
  | [] => pure (some [])
  | item :: rest => do
    match ← attemptItem env panics i item with
    | none => pure none
    | some outcome =>
      let outcomes ← executeInOrder i rest
      pure (outcomes.map (List.cons (item, outcome)))

/-- The segment is executed in threads of its own: it is concurrency-safe and not a single item. -/
def runsInThreads (segment : List IndexedToolUse) : Bool :=
  segment.head?.any (fun item => env.isToolUseConcurrencySafe item.toolUse) && 2 ≤ segment.length

def attemptSegment (i : Nat) (segment : List IndexedToolUse)
    : Writer (List ToolEvent) (Option (List ItemOutcome)) :=
  if env.runsInThreads segment then do
    let outcomes ← env.executeThreads panics i segment
    pure (some outcomes)
  else
    env.executeInOrder panics i segment

def recordAnswers (i : Nat)
    : (place : Nat) → List ItemOutcome → Writer (List ToolEvent) (List Answer)
  | _, [] => pure []
  | place, (item, outcome) :: rest => do
    let messages ← env.recordOutcome i { outcome with index := place }
    let answers ← recordAnswers i (place + 1) rest
    pure (messages.map (Answer.mk item.index) ++ answers)

def attemptSegments (i : Nat)
    : List (List IndexedToolUse) → List Answer
      → Writer (List ToolEvent) (Option (List Answer × Option (String × AwaitingToolPermission)))
  | [], answers => pure (some (answers, none))
  | segment :: rest, answers => do
    match ← env.attemptSegment panics i segment with
    | none => pure none
    | some outcomes =>
      match earliestPermission (outcomes.map Prod.snd) with
      | some awaiting => pure (some (answers, some awaiting))
      | none =>
        let recorded ← env.recordAnswers i answers.length outcomes
        attemptSegments i rest (answers ++ recorded)

def attemptToolUses (state : LoopState) (toolUses : List ParsedToolUse)
    : Writer (List ToolEvent) (Option LoopStep) := do
  match ← env.attemptSegments panics state.iterations (env.segments toolUses) [] with
  | none => pure none
  | some (answers, awaiting) =>
    let messages := state.messages ++ answers.map Answer.message
    match awaiting with
    | some (toolUseId, awaiting) =>
      pure (some (.done (.suspended (suspend { state with messages } toolUseId awaiting))))
    | none => pure (some (.continue { state with messages, iterations := state.iterations + 1 }))

def ownOutcome (i : Nat) (item : IndexedToolUse) : IndexedToolOutcome :=
  (env.attemptItem panics i item).run.1.getD (env.panickedOutcome panics i item.index item)

def items (toolUses : List ParsedToolUse) : List IndexedToolUse :=
  toolUses.zipIdx.map (fun entry => { index := entry.2, toolUse := entry.1 })

def ownAnswers (i : Nat) (toolUses : List ParsedToolUse) : List Answer :=
  (env.recordAnswers i 0
    ((items toolUses).map (fun item => (item, env.ownOutcome panics i item)))).run.1

def ItemPanics (i : Nat) (item : IndexedToolUse) : Prop :=
  (env.attemptItem panics i item).run.1 = none

/--
The index of every item that returns is at most the place in the segment of every later item that
panics.
-/
def InPlace (i : Nat) (segment : List IndexedToolUse) : Prop :=
  segment.zipIdx.Pairwise (fun a b =>
    ¬env.ItemPanics panics i a.1 → env.ItemPanics panics i b.1 → a.1.index ≤ b.2)

section Attempts

variable {env panics} {i : Nat}

theorem index_attemptItem {item : IndexedToolUse} {outcome : IndexedToolOutcome}
    (h : (env.attemptItem panics i item).run.1 = some outcome)
    : outcome.index = item.index := by
  unfold attemptItem at h
  dsimp only at h
  split at h
  . cases h
    rfl
  . cases h

def threadOutcome (env : LoopEnv) (panics : Panics) (i place : Nat) (item : IndexedToolUse)
    : IndexedToolOutcome :=
  (env.attemptItem panics i item).run.1.getD (env.panickedOutcome panics i place item)

theorem index_threadOutcome_of_panics {item : IndexedToolUse} (place : Nat)
    (h : env.ItemPanics panics i item)
    : (env.threadOutcome panics i place item).index = place := by
  unfold threadOutcome
  rw [h]
  rfl

theorem index_threadOutcome_of_returns {item : IndexedToolUse} (place : Nat)
    (h : ¬env.ItemPanics panics i item)
    : (env.threadOutcome panics i place item).index = item.index := by
  unfold threadOutcome
  cases hattempt : (env.attemptItem panics i item).run.1 with
  | none => exact absurd hattempt h
  | some outcome => exact index_attemptItem hattempt

theorem threadOutcome_eq (place : Nat) (item : IndexedToolUse)
    : (env.threadOutcome panics i place item).toolUseId = (env.ownOutcome panics i item).toolUseId
        ∧ (env.threadOutcome panics i place item).outcome
          = (env.ownOutcome panics i item).outcome := by
  unfold threadOutcome ownOutcome
  cases (env.attemptItem panics i item).run.1 with
  | none => exact ⟨rfl, rfl⟩
  | some outcome => exact ⟨rfl, rfl⟩

def threadOutcomes (env : LoopEnv) (panics : Panics) (i place : Nat)
    (segment : List IndexedToolUse)
    : List ItemOutcome :=
  (segment.zipIdx place).map (fun entry =>
    (entry.1, env.threadOutcome panics i entry.2 entry.1))

def ownOutcomes (env : LoopEnv) (panics : Panics) (i : Nat) (segment : List IndexedToolUse)
    : List ItemOutcome :=
  segment.map (fun item => (item, env.ownOutcome panics i item))

theorem fst_joinThreads (place : Nat) (segment : List IndexedToolUse)
    : (env.joinThreads panics i place segment).run.1
        = env.threadOutcomes panics i place segment := by
  induction segment generalizing place with
  | nil => rfl
  | cons item rest ih =>
    rw [joinThreads, WriterT.fst_bind, WriterT.fst_bind, WriterT.fst_pure, ih]
    rfl

theorem executeInOrder_eq_some {segment : List IndexedToolUse} {outcomes : List ItemOutcome}
    (h : (env.executeInOrder panics i segment).run.1 = some outcomes)
    : outcomes = env.ownOutcomes panics i segment := by
  induction segment generalizing outcomes with
  | nil =>
    cases h
    rfl
  | cons item rest ih =>
    rw [executeInOrder, WriterT.fst_bind] at h
    cases hattempt : (env.attemptItem panics i item).run.1 with
    | none =>
      rw [hattempt] at h
      cases h
    | some outcome =>
      rw [hattempt] at h
      dsimp only at h
      rw [WriterT.fst_bind, WriterT.fst_pure, Option.map_eq_some_iff] at h
      obtain ⟨outcomes', hrest, rfl⟩ := h
      have hown : env.ownOutcome panics i item = outcome := by
        unfold ownOutcome
        rw [hattempt]
        rfl
      rw [ih hrest]
      unfold ownOutcomes
      rw [List.map_cons, hown]

theorem attemptSegment_eq_some {segment : List IndexedToolUse} {outcomes : List ItemOutcome}
    (h : (env.attemptSegment panics i segment).run.1 = some outcomes)
    : outcomes
        = if env.runsInThreads segment then
            (env.threadOutcomes panics i 0 segment).insertionSort (fun a b => a.2.index ≤ b.2.index)
          else
            env.ownOutcomes panics i segment := by
  unfold attemptSegment at h
  split at h
  . next hthreads =>
    unfold executeThreads at h
    rw [WriterT.fst_bind, WriterT.fst_pure, WriterT.fst_bind, WriterT.fst_pure, fst_joinThreads] at h
    cases h
    rw [if_pos hthreads]
  . next hthreads =>
    rw [if_neg hthreads]
    exact executeInOrder_eq_some h

end Attempts

section Answers

variable {env panics} {i : Nat}

theorem fst_recordAnswers_cons (place : Nat) (item : IndexedToolUse) (outcome : IndexedToolOutcome)
    (rest : List ItemOutcome)
    : (env.recordAnswers i place ((item, outcome) :: rest)).run.1
        = (env.recordOutcome i { outcome with index := place }).run.1.map (Answer.mk item.index)
          ++ (env.recordAnswers i (place + 1) rest).run.1 := by
  rw [recordAnswers, WriterT.fst_bind, WriterT.fst_bind, WriterT.fst_pure]

theorem index_recordAnswers (place : Nat) {outcomes : List ItemOutcome}
    (h : ∀ entry ∈ outcomes, ¬entry.2.Awaits)
    : (env.recordAnswers i place outcomes).run.1.map Answer.index
        = outcomes.map (fun entry => entry.1.index) := by
  induction outcomes generalizing place with
  | nil => rfl
  | cons entry rest ih =>
    obtain ⟨item, outcome⟩ := entry
    have hrest := ih (place + 1) (fun entry hmem => h entry (List.mem_cons_of_mem _ hmem))
    have hfirst := h _ (List.mem_cons_self ..)
    rw [fst_recordAnswers_cons, List.map_append, hrest]
    unfold recordOutcome
    cases houtcome : outcome.outcome with
    | completed invocation result => rfl
    | awaitingPermission awaiting => exact absurd ⟨awaiting, houtcome⟩ hfirst

theorem length_recordAnswers (place : Nat) {outcomes : List ItemOutcome}
    (h : ∀ entry ∈ outcomes, ¬entry.2.Awaits)
    : (env.recordAnswers i place outcomes).run.1.length = outcomes.length := by
  have hindices : (env.recordAnswers i place outcomes).run.1.map Answer.index
      = outcomes.map (fun entry => entry.1.index) :=
    index_recordAnswers place h
  have hlengths := congrArg List.length hindices
  rw [List.length_map, List.length_map] at hlengths
  exact hlengths

theorem fst_recordAnswers_append (place : Nat) (outcomes outcomes' : List ItemOutcome)
    : (env.recordAnswers i place (outcomes ++ outcomes')).run.1
        = (env.recordAnswers i place outcomes).run.1
          ++ (env.recordAnswers i (place + outcomes.length) outcomes').run.1 := by
  induction outcomes generalizing place with
  | nil => rfl
  | cons entry rest ih =>
    obtain ⟨item, outcome⟩ := entry
    rw [List.cons_append, fst_recordAnswers_cons, fst_recordAnswers_cons, ih, List.append_assoc,
      List.length_cons, Nat.add_right_comm, Nat.add_assoc]

theorem recordAnswers_threadOutcomes (first place : Nat) (segment : List IndexedToolUse)
    : (env.recordAnswers i place (env.threadOutcomes panics i first segment)).run.1
        = (env.recordAnswers i place (env.ownOutcomes panics i segment)).run.1 := by
  induction segment generalizing first place with
  | nil => rfl
  | cons item rest ih =>
    have hfirst : ({ env.threadOutcome panics i first item with index := place } : IndexedToolOutcome)
        = { env.ownOutcome panics i item with index := place } := by
      obtain ⟨hid, houtcome⟩ := @threadOutcome_eq env panics i first item
      rw [IndexedToolOutcome.mk.injEq]
      exact ⟨rfl, hid, houtcome⟩
    have hrest := ih (first + 1) (place + 1)
    unfold threadOutcomes ownOutcomes at hrest ⊢
    rw [List.zipIdx_cons, List.map_cons, List.map_cons, fst_recordAnswers_cons,
      fst_recordAnswers_cons, hfirst, hrest]

end Answers

section Never

variable {env} {i : Nat}

theorem attemptItem_never (item : IndexedToolUse)
    : (env.attemptItem .never i item).run
        = (some (env.executeItem i item).run.1, (env.executeItem i item).run.2) := by
  unfold attemptItem
  have hnone : (env.executeItem i item).run.2.findIdx? Panics.never.panicsAt = none :=
    List.findIdx?_eq_none_iff.mpr (fun _ _ => rfl)
  dsimp only
  rw [hnone]
  rfl

def outcomes (env : LoopEnv) (i : Nat) (segment : List IndexedToolUse) : List ItemOutcome :=
  segment.map (fun item => (item, (env.executeItem i item).run.1))

def eventsOf (env : LoopEnv) (i : Nat) (segment : List IndexedToolUse) : List ToolEvent :=
  segment.flatMap (fun item => (env.executeItem i item).run.2)

theorem joinThreads_never (place : Nat) (segment : List IndexedToolUse)
    : (env.joinThreads .never i place segment).run
        = (env.outcomes i segment, env.eventsOf i segment) := by
  induction segment generalizing place with
  | nil => rfl
  | cons item rest ih =>
    apply Prod.ext
    . rw [joinThreads, WriterT.fst_bind, WriterT.fst_bind, WriterT.fst_pure, attemptItem_never, ih]
      rfl
    . rw [joinThreads, WriterT.snd_bind, WriterT.snd_bind, WriterT.snd_pure, attemptItem_never, ih,
        List.append_nil]
      rfl

theorem executeInOrder_never (segment : List IndexedToolUse)
    : (env.executeInOrder .never i segment).run
        = (some (env.outcomes i segment), env.eventsOf i segment) := by
  induction segment with
  | nil => rfl
  | cons item rest ih =>
    apply Prod.ext
    . rw [executeInOrder, WriterT.fst_bind, attemptItem_never]
      dsimp only
      rw [WriterT.fst_bind, WriterT.fst_pure, ih]
      rfl
    . rw [executeInOrder, WriterT.snd_bind, attemptItem_never]
      dsimp only
      rw [WriterT.snd_bind, WriterT.snd_pure, ih, List.append_nil]
      rfl

end Never

def Consecutive (first : Nat) (segment : List IndexedToolUse) : Prop :=
  segment.map IndexedToolUse.index = List.range' first segment.length

section Order

variable {env panics} {i first : Nat} {segment : List IndexedToolUse}

theorem Consecutive.append {rest : List IndexedToolUse} (h : Consecutive first (segment ++ rest))
    : Consecutive first segment ∧ Consecutive (first + segment.length) rest := by
  unfold Consecutive at h ⊢
  rw [List.map_append, List.length_append, ← List.range'_append_1] at h
  exact List.append_inj h (by rw [List.length_map, List.length_range'])

theorem Consecutive.index_eq (h : Consecutive first segment) {entry : IndexedToolUse × Nat}
    (hmem : entry ∈ segment.zipIdx)
    : entry.1.index = first + entry.2 := by
  have hitem := List.mem_zipIdx_iff_getElem?.mp hmem
  have hindex : (segment.map IndexedToolUse.index)[entry.2]?
      = (List.range' first segment.length)[entry.2]? := by
    rw [show segment.map IndexedToolUse.index = _ from h]
  rw [List.getElem?_map, hitem, List.getElem?_range' (by grind)] at hindex
  have := Option.some.inj hindex
  omega

theorem pairwise_snd_zipIdx (segment : List IndexedToolUse)
    : segment.zipIdx.Pairwise (fun a b => a.2 < b.2) := by
  have h := List.pairwise_lt_range' (s := 0) (n := segment.length)
  rw [← List.zipIdx_map_snd 0 segment, List.pairwise_map] at h
  exact h

theorem sorted_threadOutcomes_iff (h : Consecutive first segment)
    : (env.threadOutcomes panics i 0 segment).Pairwise (fun a b => a.2.index ≤ b.2.index)
        ↔ env.InPlace panics i segment := by
  unfold threadOutcomes InPlace
  rw [List.pairwise_map]
  constructor
  . intro hsorted
    apply hsorted.imp
    intro a b hle ha hb
    rw [index_threadOutcome_of_returns _ ha, index_threadOutcome_of_panics _ hb] at hle
    exact hle
  . intro hplace
    apply (hplace.and (pairwise_snd_zipIdx segment)).imp_of_mem
    rintro a b hamem hbmem ⟨hle, hlt⟩
    have haindex := h.index_eq hamem
    have hbindex := h.index_eq hbmem
    by_cases ha : env.ItemPanics panics i a.1
    . rw [index_threadOutcome_of_panics _ ha]
      by_cases hb : env.ItemPanics panics i b.1
      . rw [index_threadOutcome_of_panics _ hb]
        omega
      . rw [index_threadOutcome_of_returns _ hb]
        omega
    . rw [index_threadOutcome_of_returns _ ha]
      by_cases hb : env.ItemPanics panics i b.1
      . rw [index_threadOutcome_of_panics _ hb]
        exact hle ha hb
      . rw [index_threadOutcome_of_returns _ hb]
        omega

theorem eq_of_perm_of_map_eq {α β : Type} {f : α → β} {l l' : List α} (hperm : l.Perm l')
    (hmap : l.map f = l'.map f) (hnodup : (l'.map f).Nodup)
    : l = l' := by
  apply List.ext_getElem hperm.length_eq
  intro k hk hk'
  apply List.inj_on_of_nodup_map hnodup (hperm.mem_iff.mp (List.getElem_mem hk))
    (List.getElem_mem hk')
  have hk := List.getElem_map f (h := by rw [List.length_map]; exact hk)
  have hk' := List.getElem_map f (h := by rw [List.length_map]; exact hk')
  rw [← hk, ← hk', List.getElem_of_eq hmap]

theorem recordAnswers_threads_iff (h : Consecutive first segment) (place : Nat)
    (hawaits : ∀ entry ∈ env.threadOutcomes panics i 0 segment, ¬entry.2.Awaits)
    : (env.recordAnswers i place ((env.threadOutcomes panics i 0 segment).insertionSort
            (fun a b => a.2.index ≤ b.2.index))).run.1
          = (env.recordAnswers i place (env.ownOutcomes panics i segment)).run.1
        ↔ env.InPlace panics i segment := by
  rw [← sorted_threadOutcomes_iff h, ← recordAnswers_threadOutcomes 0]
  generalize hthreads : env.threadOutcomes panics i 0 segment = outcomes at hawaits ⊢
  have hperm := List.perm_insertionSort (fun a b : ItemOutcome => a.2.index ≤ b.2.index) outcomes
  constructor
  . intro hanswers
    have hindices := congrArg (List.map Answer.index) hanswers
    rw [index_recordAnswers place hawaits,
      index_recordAnswers place (fun entry hmem => hawaits entry (hperm.mem_iff.mp hmem))] at hindices
    -- The indices of the items are distinct, so the sort has moved nothing.
    have hmap : outcomes.map (fun entry => entry.1.index) = List.range' first segment.length := by
      rw [← hthreads]
      unfold threadOutcomes
      rw [List.map_map]
      rw [← h, ← List.zipIdx_map_fst 0 segment, List.map_map, List.zipIdx_map_fst]
      rfl
    have hsame : outcomes.insertionSort (fun a b => a.2.index ≤ b.2.index) = outcomes := by
      have hnodup : (outcomes.map (fun entry => entry.1.index)).Nodup := by
        rw [hmap]
        exact List.nodup_range'
      exact eq_of_perm_of_map_eq hperm hindices hnodup
    rw [← hsame]
    exact List.pairwise_insertionSort _ outcomes
  . intro hsorted
    rw [List.Pairwise.insertionSort_eq hsorted]

theorem awaits_threadOutcomes_iff (place : Nat) (segment : List IndexedToolUse)
    : (∀ entry ∈ env.threadOutcomes panics i place segment, ¬entry.2.Awaits)
        ↔ ∀ entry ∈ env.ownOutcomes panics i segment, ¬entry.2.Awaits := by
  unfold threadOutcomes ownOutcomes
  rw [List.forall_mem_map, List.forall_mem_map]
  have hsame : ∀ place item, (env.threadOutcome panics i place item).Awaits
      ↔ (env.ownOutcome panics i item).Awaits := by
    intro place item
    unfold IndexedToolOutcome.Awaits
    rw [(threadOutcome_eq place item).2]
  constructor
  . intro h item hmem
    obtain ⟨n, hn⟩ := List.getElem?_of_mem hmem
    have hentry : (item, place + n) ∈ segment.zipIdx place := List.mk_add_mem_zipIdx_iff_getElem?.mpr hn
    exact fun hawaits => h _ hentry ((hsame _ item).mpr hawaits)
  . intro h entry hmem hawaits
    exact h entry.1 (List.fst_mem_of_mem_zipIdx hmem) ((hsame _ _).mp hawaits)

theorem attemptSegment_spec {outcomes : List ItemOutcome} (hsegment : Consecutive first segment)
    (h : (env.attemptSegment panics i segment).run.1 = some outcomes)
    (hawaits : ∀ entry ∈ outcomes, ¬entry.2.Awaits)
    : (∀ entry ∈ env.ownOutcomes panics i segment, ¬entry.2.Awaits)
        ∧ outcomes.length = segment.length
        ∧ ∀ place, (env.recordAnswers i place outcomes).run.1
              = (env.recordAnswers i place (env.ownOutcomes panics i segment)).run.1
            ↔ (env.runsInThreads segment = true → env.InPlace panics i segment) := by
  have houtcomes := attemptSegment_eq_some h
  by_cases hthreads : env.runsInThreads segment
  . rw [if_pos hthreads] at houtcomes
    have hperm := List.perm_insertionSort (fun a b : ItemOutcome => a.2.index ≤ b.2.index)
      (env.threadOutcomes panics i 0 segment)
    have hthreadAwaits : ∀ entry ∈ env.threadOutcomes panics i 0 segment, ¬entry.2.Awaits := by
      intro entry hmem
      apply hawaits entry
      rw [houtcomes]
      exact hperm.mem_iff.mpr hmem
    refine ⟨(awaits_threadOutcomes_iff 0 segment).mp hthreadAwaits, ?_, ?_⟩
    . rw [houtcomes, hperm.length_eq]
      unfold threadOutcomes
      rw [List.length_map, List.length_zipIdx]
    . intro place
      rw [houtcomes, recordAnswers_threads_iff hsegment place hthreadAwaits]
      exact ⟨fun hplace _ => hplace, fun hplace => hplace hthreads⟩
  . rw [if_neg hthreads] at houtcomes
    rw [houtcomes] at hawaits
    refine ⟨hawaits, ?_, ?_⟩
    . rw [houtcomes]
      unfold ownOutcomes
      rw [List.length_map]
    . intro place
      rw [houtcomes]
      exact ⟨fun _ hthreads' => absurd hthreads' hthreads, fun _ => rfl⟩

theorem attemptSegments_spec {segments : List (List IndexedToolUse)} {earlier answers : List Answer}
    (hitems : Consecutive first segments.flatten)
    (h : (env.attemptSegments panics i segments earlier).run.1 = some (answers, none))
    : (∀ entry ∈ env.ownOutcomes panics i segments.flatten, ¬entry.2.Awaits)
        ∧ ∃ recorded, answers = earlier ++ recorded
        ∧ (recorded
            = (env.recordAnswers i earlier.length (env.ownOutcomes panics i segments.flatten)).run.1
          ↔ ∀ segment ∈ segments,
              env.runsInThreads segment = true → env.InPlace panics i segment) := by
  induction segments generalizing earlier first with
  | nil =>
    cases h
    refine ⟨?_, [], (List.append_nil _).symm, ?_, fun _ => rfl⟩
    . intro entry hmem
      cases hmem
    . intro _ segment hmem
      cases hmem
  | cons segment rest ih =>
    rw [List.flatten_cons] at hitems
    obtain ⟨hsegment, hrest⟩ := hitems.append
    rw [attemptSegments, WriterT.fst_bind] at h
    cases hattempt : (env.attemptSegment panics i segment).run.1 with
    | none =>
      rw [hattempt] at h
      cases h
    | some outcomes =>
      rw [hattempt] at h
      dsimp only at h
      split at h
      . cases h
      . next hnone =>
        rw [earliestPermission_eq_none_iff, List.forall_mem_map] at hnone
        rw [WriterT.fst_bind] at h
        obtain ⟨hown, hlength, hiff⟩ := attemptSegment_spec hsegment hattempt hnone
        obtain ⟨hrestOwn, recorded, hanswers, hrestIff⟩ := ih hrest h
        have hownLength : (env.ownOutcomes panics i segment).length = segment.length := by
          unfold ownOutcomes
          rw [List.length_map]
        have hsplit : env.ownOutcomes panics i (segment :: rest).flatten
            = env.ownOutcomes panics i segment ++ env.ownOutcomes panics i rest.flatten := by
          unfold ownOutcomes
          rw [List.flatten_cons, List.map_append]
        refine ⟨?_, _, by rw [hanswers, List.append_assoc], ?_⟩
        . rw [hsplit, List.forall_mem_append]
          exact ⟨hown, hrestOwn⟩
        have hplace : (earlier ++ (env.recordAnswers i earlier.length outcomes).run.1).length
            = earlier.length + segment.length := by
          rw [List.length_append, length_recordAnswers _ hnone, hlength]
        rw [hplace] at hrestIff
        rw [hsplit, fst_recordAnswers_append, hownLength, List.forall_mem_cons, ← hrestIff,
          ← hiff earlier.length]
        have hsame : (env.recordAnswers i earlier.length outcomes).run.1.length
            = (env.recordAnswers i earlier.length (env.ownOutcomes panics i segment)).run.1.length := by
          rw [length_recordAnswers _ hnone, length_recordAnswers _ hown, hlength, hownLength]
        constructor
        . intro happend
          exact List.append_inj happend hsame
        . rintro ⟨hfirst, hlater⟩
          rw [hfirst, hlater]

theorem forall₂_recordAnswers (place : Nat) {items : List IndexedToolUse}
    (h : ∀ entry ∈ env.ownOutcomes panics i items, ¬entry.2.Awaits)
    : List.Forall₂ (fun item answer =>
          answer.index = item.index ∧ IsResultMsg item.toolUse.id answer.message)
        items (env.recordAnswers i place (env.ownOutcomes panics i items)).run.1 := by
  induction items generalizing place with
  | nil => exact .nil
  | cons item rest ih =>
    unfold ownOutcomes at h ih ⊢
    rw [List.map_cons, List.forall_mem_cons] at h
    obtain ⟨hfirst, hrest⟩ := h
    rw [List.map_cons, fst_recordAnswers_cons]
    have hid : (env.ownOutcome panics i item).toolUseId = item.toolUse.id := by
      unfold ownOutcome attemptItem
      dsimp only
      split
      . rfl
      . rfl
    unfold recordOutcome
    cases houtcome : (env.ownOutcome panics i item).outcome with
    | completed invocation result =>
      refine .cons ⟨rfl, ?_⟩ (ih _ hrest)
      rw [← hid]
      dsimp only
      exact isResultMsg_buildToolResultMsg env.serde (env.uuid i (2 * place + 3)) _ result _
    | awaitingPermission awaiting => exact absurd ⟨awaiting, houtcome⟩ hfirst

section Never

theorem executeSegment_of_alone (h : env.runsInThreads segment = false)
    : env.executeSegment i segment = segment.mapM (env.executeItem i) := by
  unfold executeSegment
  split
  . next hsafe =>
    unfold runsInThreads at h
    rw [hsafe, Bool.true_and, decide_eq_false_iff_not] at h
    match segment, h with
    | [], _ => rfl
    | [item], _ =>
      rw [List.mapM_cons, List.mapM_nil]
      rfl
    | _ :: _ :: _, h => exact absurd (Nat.le_add_left 2 _) h
  . rfl

theorem executeSegment_of_threads (h : env.runsInThreads segment = true)
    : env.executeSegment i segment
        = segment.mapM (env.executeItem i) >>= fun outcomes =>
            pure (outcomes.insertionSort (fun a b => a.index ≤ b.index)) := by
  unfold runsInThreads at h
  rw [Bool.and_eq_true, decide_eq_true_iff] at h
  obtain ⟨hsafe, hlength⟩ := h
  unfold executeSegment
  rw [if_pos hsafe]
  match segment, hlength with
  | _ :: _ :: _, _ => rfl

theorem attemptSegment_never (h : Consecutive first segment)
    : (env.attemptSegment .never i segment).run
          = (some (env.outcomes i segment), env.eventsOf i segment)
        ∧ (env.executeSegment i segment).run
          = ((env.outcomes i segment).map Prod.snd, env.eventsOf i segment) := by
  have hmap : (env.outcomes i segment).map Prod.snd
      = segment.map (fun item => (env.executeItem i item).run.1) := by
    unfold outcomes
    rw [List.map_map]
    rfl
  have hmapM : (segment.mapM (env.executeItem i)).run
      = ((env.outcomes i segment).map Prod.snd, env.eventsOf i segment) := by
    rw [hmap]
    exact Prod.ext (WriterT.fst_mapM _ _) (WriterT.snd_mapM _ _)
  have hlt : segment.Pairwise (fun a b => a.index < b.index) := by
    have hrange := List.pairwise_lt_range' (s := first) (n := segment.length)
    rw [← show segment.map IndexedToolUse.index = _ from h, List.pairwise_map] at hrange
    exact hrange
  have hsorted : (env.outcomes i segment).Pairwise (fun a b => a.2.index ≤ b.2.index) := by
    unfold outcomes
    rw [List.pairwise_map]
    exact hlt.imp Nat.le_of_lt
  have hsorted' : ((env.outcomes i segment).map Prod.snd).Pairwise (fun a b => a.index ≤ b.index) :=
    List.pairwise_map.mpr hsorted
  unfold attemptSegment
  cases hthreads : env.runsInThreads segment with
  | false =>
    rw [executeSegment_of_alone hthreads, if_neg Bool.false_ne_true]
    exact ⟨executeInOrder_never segment, hmapM⟩
  | true =>
    rw [executeSegment_of_threads hthreads, if_pos rfl]
    unfold executeThreads
    constructor
    . apply Prod.ext
      . rw [WriterT.fst_bind, WriterT.fst_pure, WriterT.fst_bind, WriterT.fst_pure, joinThreads_never,
          List.Pairwise.insertionSort_eq hsorted]
      . rw [WriterT.snd_bind, WriterT.snd_pure, WriterT.snd_bind, WriterT.snd_pure, joinThreads_never,
          List.append_nil, List.append_nil]
    . apply Prod.ext
      . rw [WriterT.fst_bind, WriterT.fst_pure, hmapM, List.Pairwise.insertionSort_eq hsorted']
      . rw [WriterT.snd_bind, WriterT.snd_pure, List.append_nil, hmapM]

theorem recordAnswers_never {place : Nat} (h : Consecutive place segment)
    : (env.recordAnswers i place (env.outcomes i segment)).run.1.map Answer.message
          = (((env.outcomes i segment).map Prod.snd).mapM (env.recordOutcome i)).run.1.flatten
        ∧ (env.recordAnswers i place (env.outcomes i segment)).run.2
          = (((env.outcomes i segment).map Prod.snd).mapM (env.recordOutcome i)).run.2 := by
  rw [WriterT.fst_mapM, WriterT.snd_mapM, ← List.flatMap_def]
  induction segment generalizing place with
  | nil => exact ⟨rfl, rfl⟩
  | cons item rest ih =>
    obtain ⟨hindex, hrest⟩ := List.cons.inj h
    obtain ⟨hmessages, hevents⟩ := ih hrest
    have hsame : ({ (env.executeItem i item).run.1 with index := place } : IndexedToolOutcome)
        = (env.executeItem i item).run.1 := by
      rw [← show item.index = place from hindex]
      rfl
    unfold outcomes at hmessages hevents ⊢
    rw [List.map_cons, List.map_cons, List.flatMap_cons, List.flatMap_cons, recordAnswers]
    constructor
    . rw [WriterT.fst_bind, WriterT.fst_bind, WriterT.fst_pure, List.map_append, hmessages, hsame,
        List.map_map]
      congr 1
      exact List.map_id _
    . rw [WriterT.snd_bind, WriterT.snd_bind, WriterT.snd_pure, List.append_nil, hevents, hsame]

theorem attemptSegments_never {segments : List (List IndexedToolUse)} (earlier : List Answer)
    (messages : List InternalMsg) (h : Consecutive earlier.length segments.flatten)
    : ∃ recorded awaiting,
        (env.attemptSegments .never i segments earlier).run
            = (some (earlier ++ recorded, awaiting), (env.runSegments i segments messages).run.2)
          ∧ (env.runSegments i segments messages).run.1
            = (messages ++ recorded.map Answer.message, awaiting) := by
  induction segments generalizing earlier messages with
  | nil =>
    refine ⟨[], none, ?_, ?_⟩
    . rw [List.append_nil]
      rfl
    . rw [List.map_nil, List.append_nil]
      rfl
  | cons segment rest ih =>
    rw [List.flatten_cons] at h
    obtain ⟨hsegment, hrest⟩ := h.append
    obtain ⟨hattempt, hexecute⟩ := @attemptSegment_never env i _ _ hsegment
    obtain ⟨hmessages, hevents⟩ := @recordAnswers_never env i _ _ hsegment
    cases hawaiting : earliestPermission ((env.outcomes i segment).map Prod.snd) with
    | some awaiting =>
      refine ⟨[], some awaiting, ?_, ?_⟩
      . rw [attemptSegments, runSegments, List.append_nil]
        apply Prod.ext
        . rw [WriterT.fst_bind, hattempt]
          dsimp only
          rw [hawaiting]
          rfl
        . rw [WriterT.snd_bind, WriterT.snd_bind, hattempt, hexecute]
          dsimp only
          rw [hawaiting]
          rfl
      . rw [runSegments, WriterT.fst_bind, hexecute, List.map_nil, List.append_nil]
        dsimp only
        rw [hawaiting]
        rfl
    | none =>
      have hlength : (env.recordAnswers i earlier.length (env.outcomes i segment)).run.1.length
          = segment.length := by
        rw [length_recordAnswers]
        . unfold outcomes
          rw [List.length_map]
        . rw [earliestPermission_eq_none_iff, List.forall_mem_map] at hawaiting
          exact hawaiting
      have hrest' : Consecutive
          (earlier ++ (env.recordAnswers i earlier.length (env.outcomes i segment)).run.1).length
          rest.flatten := by
        rw [List.length_append, hlength]
        exact hrest
      obtain ⟨recorded, awaiting, hlater, hlater'⟩ := ih _ (messages
        ++ (((env.outcomes i segment).map Prod.snd).mapM (env.recordOutcome i)).run.1.flatten) hrest'
      refine ⟨(env.recordAnswers i earlier.length (env.outcomes i segment)).run.1 ++ recorded,
        awaiting, ?_, ?_⟩
      . rw [attemptSegments, runSegments]
        apply Prod.ext
        . rw [WriterT.fst_bind, hattempt]
          dsimp only
          rw [hawaiting]
          dsimp only
          rw [WriterT.fst_bind, hlater, List.append_assoc]
        . rw [WriterT.snd_bind, WriterT.snd_bind, hattempt, hexecute]
          dsimp only
          rw [hawaiting]
          dsimp only
          rw [WriterT.snd_bind, WriterT.snd_bind, hlater, hevents]
      . rw [runSegments, WriterT.fst_bind, hexecute]
        dsimp only
        rw [hawaiting]
        dsimp only
        rw [WriterT.fst_bind, hlater', List.map_append, hmessages, List.append_assoc]

end Never

theorem consecutive_items (toolUses : List ParsedToolUse) : Consecutive 0 (items toolUses) := by
  unfold Consecutive items
  rw [List.map_map, List.length_map, List.length_zipIdx, ← List.zipIdx_map_snd 0 toolUses]
  rfl

end Order

/--
The answers of a response are one for each tool use, in their order, under the id of the tool use and
as if the tools had been executed one after the other.
-/
structure AnsweredInOrder (i : Nat) (toolUses : List ParsedToolUse) (answers : List Answer)
    : Prop where
  each : List.Forall₂ (fun item answer =>
      answer.index = item.index ∧ IsResultMsg item.toolUse.id answer.message)
    (items toolUses) answers
  asOwn : answers = env.ownAnswers panics i toolUses

/--
The loop appends the answers of a response that is not suspended, whatever panics in the threads of
its segments. They are in order exactly if every segment that runs in threads is in place.
-/
theorem answeredInOrder_iff {state : LoopState} {toolUses : List ParsedToolUse}
    {answers : List Answer}
    (h : (env.attemptSegments panics state.iterations (env.segments toolUses) []).run.1
      = some (answers, none))
    : (env.attemptToolUses panics state toolUses).run.1
          = some (.continue
            { state with
              messages := state.messages ++ answers.map Answer.message
              iterations := state.iterations + 1 })
        ∧ (env.AnsweredInOrder panics state.iterations toolUses answers
          ↔ ∀ segment ∈ env.segments toolUses,
              env.runsInThreads segment = true → env.InPlace panics state.iterations segment) := by
  have hitems : (env.segments toolUses).flatten = items toolUses := env.flatten_segments toolUses
  have hconsecutive : Consecutive 0 (env.segments toolUses).flatten := by
    rw [hitems]
    exact consecutive_items toolUses
  obtain ⟨hown, recorded, hanswers, hiff⟩ := attemptSegments_spec hconsecutive h
  rw [List.nil_append] at hanswers
  rw [hitems] at hiff hown
  constructor
  . unfold attemptToolUses
    rw [WriterT.fst_bind, h]
    rfl
  . rw [← hiff, ← hanswers]
    constructor
    . intro hinOrder
      exact hinOrder.asOwn
    . intro hasOwn
      refine ⟨?_, hasOwn⟩
      rw [hasOwn]
      exact forall₂_recordAnswers 0 hown

theorem attemptToolUses_never (state : LoopState) (toolUses : List ParsedToolUse)
    : (env.attemptToolUses .never state toolUses).run
        = (some (env.runToolUses state toolUses).run.1, (env.runToolUses state toolUses).run.2) := by
  have hconsecutive : Consecutive 0 (env.segments toolUses).flatten := by
    rw [env.flatten_segments toolUses]
    exact consecutive_items toolUses
  obtain ⟨recorded, awaiting, hattempt, hrun⟩ := 
    @attemptSegments_never env state.iterations _ [] state.messages hconsecutive
  apply Prod.ext
  . unfold attemptToolUses
    rw [WriterT.fst_bind, hattempt, runToolUses_fst, hrun]
    cases awaiting with
    | none => rfl
    | some awaiting => rfl
  . unfold attemptToolUses runToolUses
    rw [WriterT.snd_bind, WriterT.snd_bind, hattempt, hrun]
    cases awaiting with
    | none => rfl
    | some awaiting => rfl

instance (i : Nat) (item : IndexedToolUse) : Decidable (env.ItemPanics panics i item) :=
  inferInstanceAs (Decidable (_ = none))

instance (i : Nat) (segment : List IndexedToolUse) : Decidable (env.InPlace panics i segment) :=
  inferInstanceAs (Decidable (List.Pairwise _ _))

def editAndRead : LoopEnv :=
  LoopEnv.withTools
    [ { constTool "edit" (.ok (.text "edited")) with isConcurrencySafe := false }
    , constTool "read" (.ok (.text "content")) ]

def panicsOnNull : Panics where
  panicsAt event :=
    match event with
    | .call _ .null _ => true
    | _ => false
  uuid _ _ := "panicked"

def editUse (id : String) : ParsedToolUse where
  id := id
  name := "edit"
  input := .bool true

def readUse (id : String) (input : Value) : ParsedToolUse where
  id := id
  name := "read"
  input := input

def appended (toolUses : List ParsedToolUse) : List Answer :=
  ((editAndRead.attemptSegments panicsOnNull 0 (editAndRead.segments toolUses) []).run.1.map
    Prod.fst).getD []

theorem answeredInOrder_iff_panickedFirst
    : editAndRead.AnsweredInOrder panicsOnNull 0 [readUse "t0" (.bool true), readUse "t1" .null]
        (appended [readUse "t0" (.bool true), readUse "t1" .null]) := by
  have h : (editAndRead.attemptSegments panicsOnNull 0
        (editAndRead.segments [readUse "t0" (.bool true), readUse "t1" .null]) []).run.1
      = some (appended [readUse "t0" (.bool true), readUse "t1" .null], none) := by
    decide +kernel
  let state : LoopState := { messages := [], iterations := 0, compactCount := 0 }
  have hiff := (@answeredInOrder_iff editAndRead panicsOnNull state _ _ h).2
  exact hiff.mpr (by decide +kernel)

/-- After two edits, the error of the second read precedes the result of the first one. -/
theorem panickedAfterEdits_not_answeredInOrder
    : let toolUses := [editUse "t0", editUse "t1", readUse "t2" (.bool true), readUse "t3" .null]
      (editAndRead.attemptSegments panicsOnNull 0 (editAndRead.segments toolUses) []).run.1
          = some (appended toolUses, none)
        ∧ ¬editAndRead.AnsweredInOrder panicsOnNull 0 toolUses (appended toolUses) := by
  intro toolUses
  refine ⟨by decide +kernel, ?_⟩
  intro h
  have hids := congrArg (List.map (fun answer : Answer => answer.message.toolUseId)) h.asOwn
  have happended : (appended toolUses).map (fun answer => answer.message.toolUseId)
      = [some "t0", some "t1", some "t3", some "t2"] := by
    decide +kernel
  have hown : (editAndRead.ownAnswers panicsOnNull 0 toolUses).map
        (fun answer => answer.message.toolUseId)
      = [some "t0", some "t1", some "t2", some "t3"] := by
    decide +kernel
  rw [happended, hown] at hids
  revert hids
  decide

end LoopEnv

end AnimaAgent
