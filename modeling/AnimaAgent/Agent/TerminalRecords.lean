import AnimaAgent.Agent.EventEmitter
import AnimaAgent.Library.Runs

namespace AnimaAgent

def RunStatus.isTerminal : RunStatus → Bool
  | completed => true
  | failed => true
  | running => false

def TurnStatus.isTerminal : TurnStatus → Bool
  | completed => true
  | failed => true
  | running => false
  | waiting => false

def TaskStatus.isTerminal : TaskStatus → Bool
  | completed => true
  | failed => true
  | pending => false
  | running => false
  | suspended => false

structure EndsInTime (terminal : Bool) (startedAtMs completedAtMs : Option UInt64) : Prop where
  completed : terminal = true
    → ∃ completedAt, completedAtMs = some completedAt
      ∧ ∀ startedAt, startedAtMs = some startedAt → startedAt ≤ completedAt
  unfinished : terminal = false → completedAtMs = none

inductive StatusUpsert where
  | run (now : UInt64) (inbound : InboundMessage) (status : RunStatus) (currentTurnId : Option String)
  | turn (now : UInt64) (inbound : InboundMessage) (source : String) (status : TurnStatus)
  | task (now : UInt64) (inbound : InboundMessage) (phase : RuntimeTaskPhase) (status : TaskStatus)
    (description : String) (error : Option String)

def StatusUpsert.isTerminal : StatusUpsert → Bool
  | run _ _ status _ => status.isTerminal
  | turn _ _ _ status => status.isTerminal
  | task _ _ _ status _ _ => status.isTerminal

namespace RuntimeStateSnapshot

def record (snapshot : RuntimeStateSnapshot) : StatusUpsert → RuntimeStateSnapshot
  | .run now inbound status currentTurnId => snapshot.upsertRun now inbound status currentTurnId
  | .turn now inbound source status => snapshot.upsertTurn now inbound source status
  | .task now inbound phase status description error =>
    snapshot.upsertTask now inbound phase status description error

def recordStep (snapshot : RuntimeStateSnapshot) (upsert : StatusUpsert)
    : Option RuntimeStateSnapshot :=
  some (snapshot.record upsert)

/-- Every record tells of its end, and a failed run of the error that it has ended with. -/
structure EndsRecorded (endedWith : RunRecord → String) (snapshot : RuntimeStateSnapshot)
    : Prop where
  runs : ∀ id run, snapshot.runs.lookup id = some run
    → EndsInTime run.status.isTerminal (some run.createdAtMs) run.completedAtMs
  errors : ∀ id run, snapshot.runs.lookup id = some run → run.status = .failed
    → run.latestError = some (endedWith run)
  turns : ∀ id turn, snapshot.turns.lookup id = some turn
    → EndsInTime turn.status.isTerminal (some turn.startedAtMs) turn.completedAtMs
  tasks : ∀ id task, snapshot.tasks.lookup id = some task
    → EndsInTime task.status.isTerminal task.startedAtMs task.completedAtMs

structure NoEnds (snapshot : RuntimeStateSnapshot) : Prop where
  runs : ∀ id run, snapshot.runs.lookup id = some run → run.completedAtMs = none
  turns : ∀ id turn, snapshot.turns.lookup id = some turn → turn.completedAtMs = none
  tasks : ∀ id task, snapshot.tasks.lookup id = some task → task.completedAtMs = none

structure AllOpen (snapshot : RuntimeStateSnapshot) : Prop where
  runs : ∀ id run, snapshot.runs.lookup id = some run → run.status.isTerminal = false
  turns : ∀ id turn, snapshot.turns.lookup id = some turn → turn.status.isTerminal = false
  tasks : ∀ id task, snapshot.tasks.lookup id = some task → task.status.isTerminal = false

end RuntimeStateSnapshot

theorem endsInTime_none_iff {terminal : Bool} {startedAtMs : Option UInt64}
    : EndsInTime terminal startedAtMs none ↔ terminal = false := by
  constructor
  . intro h
    cases terminal with
    | false => rfl
    | true =>
      obtain ⟨completedAt, hnone, -⟩ := h.completed rfl
      cases hnone
  . rintro rfl
    exact ⟨fun h => absurd h (by decide), fun _ => rfl⟩

section Lookup

variable {ν : Type} {records : AList (fun _ : String => ν)} {key : String} {record : ν} {P : ν → Prop}

theorem forall_lookup_insert_iff (h : ∀ id r, records.lookup id = some r → P r)
    : (∀ id r, (records.insert key record).lookup id = some r → P r) ↔ P record := by
  constructor
  . intro hall
    exact hall key record (AList.lookup_insert _)
  . intro hrecord id r hlookup
    by_cases heq : id = key
    . subst heq
      cases (AList.lookup_insert _).symm.trans hlookup
      exact hrecord
    . rw [AList.lookup_insert_ne heq] at hlookup
      exact h id r hlookup

end Lookup

namespace RuntimeStateSnapshot

variable {snapshot : RuntimeStateSnapshot}

theorem noEnds_empty : NoEnds {} := by
  refine ⟨?_, ?_, ?_⟩
  . intro id run h
    cases h
  . intro id turn h
    cases h
  . intro id task h
    cases h

theorem allOpen_empty : AllOpen {} := by
  refine ⟨?_, ?_, ?_⟩
  . intro id run h
    cases h
  . intro id turn h
    cases h
  . intro id task h
    cases h

theorem NoEnds.endsRecorded_iff (h : NoEnds snapshot) (endedWith : RunRecord → String)
    : snapshot.EndsRecorded endedWith ↔ snapshot.AllOpen := by
  constructor
  . intro hends
    refine ⟨?_, ?_, ?_⟩
    . intro id run hrun
      have hend := hends.runs id run hrun
      rw [h.runs id run hrun, endsInTime_none_iff] at hend
      exact hend
    . intro id turn hturn
      have hend := hends.turns id turn hturn
      rw [h.turns id turn hturn, endsInTime_none_iff] at hend
      exact hend
    . intro id task htask
      have hend := hends.tasks id task htask
      rw [h.tasks id task htask, endsInTime_none_iff] at hend
      exact hend
  . intro hopen
    refine ⟨?_, ?_, ?_, ?_⟩
    . intro id run hrun
      rw [h.runs id run hrun, endsInTime_none_iff]
      exact hopen.runs id run hrun
    . intro id run hrun hfailed
      have hnot := hopen.runs id run hrun
      rw [hfailed] at hnot
      cases hnot
    . intro id turn hturn
      rw [h.turns id turn hturn, endsInTime_none_iff]
      exact hopen.turns id turn hturn
    . intro id task htask
      rw [h.tasks id task htask, endsInTime_none_iff]
      exact hopen.tasks id task htask

theorem forall_lookup_enterTurn {P : RunRecord → Prop} (turn : TurnRecord)
    (hsame : ∀ run : RunRecord, P run
      → P { run with currentTurnId := some turn.turnId, updatedAtMs := turn.updatedAtMs })
    (h : ∀ id run, snapshot.runs.lookup id = some run → P run)
    : ∀ id run, (snapshot.enterTurn turn).lookup id = some run → P run := by
  unfold enterTurn
  cases hrun : snapshot.runs.lookup turn.runId with
  | none => exact h
  | some run => exact (forall_lookup_insert_iff h).mpr (hsame run (h _ run hrun))

section Record

variable (now : UInt64) (inbound : InboundMessage)

theorem NoEnds.upsertRun (h : NoEnds snapshot) (status : RunStatus) (currentTurnId : Option String)
    : NoEnds (snapshot.upsertRun now inbound status currentTurnId) := by
  refine ⟨?_, h.turns, h.tasks⟩
  exact (forall_lookup_insert_iff h.runs).mpr rfl

theorem NoEnds.turnUpserted (h : NoEnds snapshot) {turn : TurnRecord}
    (hturn : turn.completedAtMs = none)
    : NoEnds (reduceEvent snapshot (.turnUpserted turn)) := by
  refine ⟨?_, (forall_lookup_insert_iff h.turns).mpr hturn, h.tasks⟩
  exact forall_lookup_enterTurn turn (fun run hrun => hrun) h.runs

theorem NoEnds.record (h : NoEnds snapshot) (upsert : StatusUpsert)
    : NoEnds (snapshot.record upsert) := by
  cases upsert with
  | run now inbound status currentTurnId => exact h.upsertRun now inbound status currentTurnId
  | turn now inbound source status =>
    apply NoEnds.upsertRun
    exact h.turnUpserted rfl
  | task now inbound phase status description error =>
    refine ⟨h.runs, h.turns, (forall_lookup_insert_iff h.tasks).mpr ?_⟩
    -- an end is taken over from the task before, which has none
    cases hexisting : snapshot.tasks.lookup (runtimeTaskId inbound.id phase) with
    | none => rfl
    | some existing => exact h.tasks _ existing hexisting

theorem AllOpen.upsertRun_iff (h : AllOpen snapshot) (status : RunStatus)
    (currentTurnId : Option String)
    : AllOpen (snapshot.upsertRun now inbound status currentTurnId) ↔ status.isTerminal = false := by
  constructor
  . intro hopen
    exact (forall_lookup_insert_iff h.runs).mp hopen.runs
  . intro hstatus
    exact ⟨(forall_lookup_insert_iff h.runs).mpr hstatus, h.turns, h.tasks⟩

theorem AllOpen.turnUpserted (h : AllOpen snapshot) {turn : TurnRecord}
    (hturn : turn.status.isTerminal = false)
    : AllOpen (reduceEvent snapshot (.turnUpserted turn)) := by
  refine ⟨?_, (forall_lookup_insert_iff h.turns).mpr hturn, h.tasks⟩
  exact forall_lookup_enterTurn turn (fun run hrun => hrun) h.runs

theorem AllOpen.record_iff (h : AllOpen snapshot) (upsert : StatusUpsert)
    : AllOpen (snapshot.record upsert) ↔ upsert.isTerminal = false := by
  cases upsert with
  | run now inbound status currentTurnId => exact h.upsertRun_iff now inbound status currentTurnId
  | turn now inbound source status =>
    constructor
    . intro hopen
      exact (forall_lookup_insert_iff h.turns).mp hopen.turns
    . intro hstatus
      change AllOpen (RuntimeStateSnapshot.upsertRun now inbound .running _
        (reduceEvent snapshot (.turnUpserted _)))
      refine (AllOpen.upsertRun_iff now inbound ?_ .running _).mpr rfl
      exact h.turnUpserted hstatus
  | task now inbound phase status description error =>
    constructor
    . intro hopen
      exact (forall_lookup_insert_iff h.tasks).mp hopen.tasks
    . intro hstatus
      exact ⟨h.runs, h.turns, (forall_lookup_insert_iff h.tasks).mpr hstatus⟩

end Record

end RuntimeStateSnapshot

open RuntimeStateSnapshot in
theorem always_endsRecorded_iff (endedWith : RunRecord → String) (upserts : List StatusUpsert)
    : Runs.Always recordStep (EndsRecorded endedWith) {} upserts
        ↔ ∀ upsert ∈ upserts, upsert.isTerminal = false := by
  have hends : ∀ {snapshot}, NoEnds snapshot → AllOpen snapshot
      → (Runs.Always recordStep (EndsRecorded endedWith) snapshot upserts
        ↔ ∀ upsert ∈ upserts, upsert.isTerminal = false) := by
    induction upserts with
    | nil =>
      intro snapshot hends hopen
      exact iff_of_true ((hends.endsRecorded_iff endedWith).mpr hopen) (by simp)
    | cons upsert rest ih =>
      intro snapshot hends hopen
      rw [List.forall_mem_cons]
      constructor
      . rintro ⟨-, hrest⟩
        have hafter := hrest _ rfl
        have hopen' := ((hends.record upsert).endsRecorded_iff endedWith).mp hafter.head
        exact ⟨(hopen.record_iff upsert).mp hopen', (ih (hends.record upsert) hopen').mp hafter⟩
      . rintro ⟨hupsert, hrest⟩
        refine ⟨(hends.endsRecorded_iff endedWith).mpr hopen, ?_⟩
        rintro s' hstep
        cases hstep
        exact (ih (hends.record upsert) ((hopen.record_iff upsert).mpr hupsert)).mpr hrest
  exact hends noEnds_empty allOpen_empty

def completedRun : List StatusUpsert :=
  [.run 1 { id := "job_1", channel := "web", senderId := "user", chatId := none, content := "hi" }
    .completed none]

theorem completedRun_not_endsRecorded
    : ¬∃ endedWith, Runs.Always RuntimeStateSnapshot.recordStep
        (RuntimeStateSnapshot.EndsRecorded endedWith) {} completedRun := by
  rintro ⟨endedWith, h⟩
  have hends := (h.2 _ rfl).head.runs "run_job_1" _ rfl
  obtain ⟨completedAt, hnone, -⟩ := hends.completed rfl
  cases hnone

end AnimaAgent
