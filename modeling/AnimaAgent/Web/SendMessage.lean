import AnimaAgent.Bus.Core
import AnimaAgent.Library.Runs
import AnimaAgent.Web.JobStore

namespace AnimaAgent

structure SendMessageRequest where
  content : String
  sessionId : Option String

inductive SendMessageResponse where
  | accepted (jobId chatId sessionId : String)
  | failed (error : String)

def SendMessageResponse.isAccepted : SendMessageResponse → Bool
  | .accepted .. => true
  | .failed _ => false

namespace SendMessageRequest

variable (req : SendMessageRequest) (jobId : String)

def postedSessionId : String :=
  req.sessionId.getD jobId

def message : InboundMessage where
  id := jobId
  channel := "web"
  senderId := "web-user"
  chatId := some (req.postedSessionId jobId)
  content := req.content
  sessionKey := some (req.postedSessionId jobId)

def acceptedJob (now : UInt64) : AcceptedJob where
  jobId := jobId
  traceId := jobId
  messageId := jobId
  kind := .main
  parentJobId := none
  channel := "web"
  chatId := some (req.postedSessionId jobId)
  senderId := "web-user"
  userContent := req.content
  acceptedAtMs := now

def respond : Except String Unit → SendMessageResponse
  | .ok _ => .accepted jobId (req.postedSessionId jobId) (req.postedSessionId jobId)
  | .error error => .failed error

end SendMessageRequest

inductive SendMessagePhase where
  | registering
  | publishing (phase : PublishPhase)
  | responded (response : SendMessageResponse)

structure InboundPublisher where
  posted : Posted InboundMessage
  request : Option SendMessageRequest
  phase : SendMessagePhase

structure SendMessageBoard where
  jobs : JobStore
  bus : Bus

namespace InboundPublisher

def act (now : UInt64) (board : SendMessageBoard) (publisher : InboundPublisher)
    : Option (SendMessageBoard × InboundPublisher) :=
  match publisher.phase, publisher.request with
  | .registering, some req =>
    some ({ board with
        jobs := board.jobs.registerAcceptedJob (req.acceptedJob publisher.posted.msg.id now) },
      { publisher with phase := .publishing .checking })
  | .publishing (.returned result), some req =>
    some (board,
      { publisher with phase := .responded (req.respond publisher.posted.msg.id result) })
  | .publishing phase, _ =>
    (board.bus.publishInbound publisher.posted phase).map (fun (bus, phase) =>
      ({ board with bus }, { publisher with phase := .publishing phase }))
  | _, _ => none

end InboundPublisher

inductive SendMessageAction where
  | request (req : SendMessageRequest) (uuid : String)
  | publishOther (msg : InboundMessage)
  | advance (i : Nat) (now : UInt64)
  | consume
  | close
  | removeJobs (chatId : String)

abbrev SendMessageServer := Threads SendMessageBoard InboundPublisher

namespace SendMessageServer

def init (board : SendMessageBoard) : SendMessageServer where
  shared := board
  threads := []

def step (s : SendMessageServer) : SendMessageAction → Option SendMessageServer
  | .request req uuid =>
    some (s.start {
      posted := { call := s.threads.length, msg := req.message uuid }
      request := some req
      phase := .registering })
  | .publishOther msg =>
    some (s.start {
      posted := { call := s.threads.length, msg }
      request := none
      phase := .publishing .checking })
  | .advance i now => s.advance (InboundPublisher.act now) i
  | .consume =>
    s.shared.bus.consumeInbound.map (fun consumed =>
      { s with shared := { s.shared with bus := consumed.2 } })
  | .close => some { s with shared := { s.shared with bus := s.shared.bus.close } }
  | .removeJobs chatId =>
    some { s with shared := { s.shared with jobs := s.shared.jobs.removeByChatId chatId } }

def placed (board : SendMessageBoard) : List (Posted InboundMessage) :=
  board.bus.inbound.placed

/-- A message that is reported as accepted was queued, and one that was not queued leaves no job behind. -/
structure Reports (s : SendMessageServer) : Prop where
  accepted : ∀ publisher ∈ s.threads, ∀ response, publisher.phase = .responded response
    → response.isAccepted = true → publisher.posted ∈ placed s.shared
  refused : ∀ publisher ∈ s.threads, ∀ response, publisher.phase = .responded response
    → publisher.posted ∉ placed s.shared
    → response.isAccepted = false ∧ s.shared.jobs.acceptedJob publisher.posted.msg.id = none

/-- A request finds the bus open, and the inbound queue below its capacity. -/
def FindsRoom (s : SendMessageServer) : SendMessageAction → Prop
  | .advance i _ => ∀ publisher, s.threads[i]? = some publisher → publisher.request.isSome
    → (publisher.phase = .publishing .checking → s.shared.bus.closed = false)
      ∧ ∀ before, publisher.phase = .publishing (.sending before .testing)
        → s.shared.bus.inbound.queue.length < s.shared.bus.config.inboundCapacity
  | _ => True

def Tracked (board : SendMessageBoard) (publisher : InboundPublisher) : Prop :=
  match publisher.phase with
  | .registering | .publishing .checking | .publishing .loading => True
  | .publishing (.sending _ phase) =>
    SendCall.DropsOwn { posted := publisher.posted, phase }
      ∧ (phase = .discarding → publisher.request = none)
  | .publishing (.comparing _) | .publishing (.measuring _) | .publishing (.reporting _)
  | .publishing (.returned (.ok _)) =>
    publisher.request.isSome → publisher.posted ∈ placed board
  | .publishing (.returned (.error _)) => publisher.request = none
  | .responded response => response.isAccepted = true ∧ publisher.posted ∈ placed board

variable {s s' : SendMessageServer}

theorem Tracked.mono {board board' : SendMessageBoard} {publisher : InboundPublisher}
    (h : Tracked board publisher) (hplaced : placed board ⊆ placed board')
    : Tracked board' publisher := by
  unfold Tracked at h ⊢
  split at h
  . trivial
  . trivial
  . trivial
  . exact h
  . exact fun hrequest => hplaced (h hrequest)
  . exact fun hrequest => hplaced (h hrequest)
  . exact fun hrequest => hplaced (h hrequest)
  . exact fun hrequest => hplaced (h hrequest)
  . exact h
  . exact ⟨h.1, hplaced h.2⟩

theorem reports_of_tracked (h : ∀ publisher ∈ s.threads, Tracked s.shared publisher)
    : s.Reports := by
  have hresponded : ∀ publisher ∈ s.threads, ∀ response, publisher.phase = .responded response
      → response.isAccepted = true ∧ publisher.posted ∈ placed s.shared := by
    intro publisher hmem response hphase
    have htracked := h publisher hmem
    unfold Tracked at htracked
    rw [hphase] at htracked
    exact htracked
  constructor
  . intro publisher hmem response hphase _
    exact (hresponded publisher hmem response hphase).2
  . intro publisher hmem response hphase hnot
    exact absurd (hresponded publisher hmem response hphase).2 hnot

theorem tracked_publishInbound {board : SendMessageBoard} {posted : Posted InboundMessage}
    {request : Option SendMessageRequest} {phase phase' : PublishPhase} {bus' : Bus}
    (h : Tracked board { posted, request, phase := .publishing phase })
    (hopen : request.isSome → phase = .checking → board.bus.closed = false)
    (hroom : request.isSome → ∀ before, phase = .sending before .testing
      → board.bus.inbound.queue.length < board.bus.config.inboundCapacity)
    (hstep : board.bus.publishInbound posted phase = some (bus', phase'))
    : placed board ⊆ placed { board with bus := bus' }
        ∧ Tracked { board with bus := bus' } { posted, request, phase := .publishing phase' } := by
  unfold Bus.publishInbound at hstep
  split at hstep
  . cases hstep
    refine ⟨fun _ h => h, ?_⟩
    split
    . next hclosed =>
      cases hrequest : request with
      | none => rfl
      | some req => cases hclosed.symm.trans (hopen (by rw [hrequest]; rfl) rfl)
    . trivial
  . cases hstep
    exact ⟨fun _ h => h, ⟨nofun, nofun⟩, nofun⟩
  . next before phase =>
    obtain ⟨⟨inbound', call'⟩, hact, heq⟩ := Option.map_eq_some_iff.mp hstep
    cases heq
    obtain ⟨hown, hdiscarding⟩ := h
    obtain ⟨hplaced, hown', hposted, hfull, hreturned⟩ := SendCall.act_dropping hown hact
    refine ⟨hplaced, ?_⟩
    dsimp only at hposted
    split
    . next hphase' =>
      intro hrequest
      obtain hdropped | hqueued := hreturned hphase'
      . rw [hdiscarding hdropped] at hrequest
        cases hrequest
      . exact hqueued
    . next phase' =>
      refine ⟨hown', ?_⟩
      intro hphase'
      obtain ⟨hle, htesting⟩ := hfull hphase'
      cases hrequest : request with
      | none => rfl
      | some req =>
        dsimp only at htesting
        have hlt := hroom (by rw [hrequest]; rfl) before (by rw [htesting])
        exact absurd hlt (Nat.not_lt_of_le hle)
  . cases hstep
    refine ⟨fun _ h => h, ?_⟩
    split
    . exact h
    . exact h
  . cases hstep
    exact ⟨fun _ h => h, h⟩
  . obtain ⟨⟨internal', call'⟩, hact, heq⟩ := Option.map_eq_some_iff.mp hstep
    cases heq
    refine ⟨fun _ h => h, ?_⟩
    split
    . exact h
    . exact h
  . cases hstep

theorem tracked_act {i : Nat} {now : UInt64} {publisher publisher' : InboundPublisher}
    {board' : SendMessageBoard} (h : Tracked s.shared publisher)
    (hi : s.threads[i]? = some publisher) (hroom : s.FindsRoom (.advance i now))
    (hact : publisher.act now s.shared = some (board', publisher'))
    : placed s.shared ⊆ placed board' ∧ Tracked board' publisher' := by
  obtain ⟨posted, request, phase⟩ := publisher
  unfold InboundPublisher.act at hact
  dsimp only at hact
  split at hact
  . cases hact
    exact ⟨fun _ h => h, trivial⟩
  . next result req =>
    cases hact
    refine ⟨fun _ h => h, ?_⟩
    cases result with
    | ok _ => exact ⟨rfl, h rfl⟩
    | error error => cases h
  . next phase hnotReturned =>
    obtain ⟨⟨bus', phase'⟩, hstep, heq⟩ := Option.map_eq_some_iff.mp hact
    cases heq
    refine tracked_publishInbound h ?_ ?_ hstep
    . intro hrequest hphase
      exact (hroom _ hi hrequest).1 (by rw [hphase])
    . intro hrequest before hphase
      exact (hroom _ hi hrequest).2 before (by rw [hphase])
  . cases hact

theorem tracked_step {action : SendMessageAction}
    (h : ∀ publisher ∈ s.threads, Tracked s.shared publisher) (hroom : s.FindsRoom action)
    (hstep : s.step action = some s')
    : ∀ publisher ∈ s'.threads, Tracked s'.shared publisher := by
  cases action with
  | request req uuid =>
    cases hstep
    intro publisher hmem
    obtain hold | hnew := List.mem_append.mp hmem
    . exact h publisher hold
    . rw [List.mem_singleton.mp hnew]
      trivial
  | publishOther msg =>
    cases hstep
    intro publisher hmem
    obtain hold | hnew := List.mem_append.mp hmem
    . exact h publisher hold
    . rw [List.mem_singleton.mp hnew]
      trivial
  | advance i now =>
    obtain ⟨publisher, publisher', board', hi, hact, rfl⟩ := Threads.advance_eq_some hstep
    obtain ⟨hplaced, htracked⟩ := tracked_act (h publisher (List.mem_of_getElem? hi)) hi hroom hact
    intro other hmem
    obtain hold | rfl := List.mem_or_eq_of_mem_set hmem
    . exact (h other hold).mono hplaced
    . exact htracked
  | consume =>
    obtain ⟨⟨oldest, bus'⟩, hconsume, rfl⟩ := Option.map_eq_some_iff.mp hstep
    obtain ⟨⟨oldest, inbound'⟩, hreceive, heq⟩ := Option.map_eq_some_iff.mp hconsume
    cases heq
    have hplaced : inbound'.placed = s.shared.bus.inbound.placed :=
      ChannelBoard.placed_receive hreceive
    intro publisher hmem
    refine (h publisher hmem).mono ?_
    intro posted hposted
    unfold placed at hposted ⊢
    dsimp only
    rw [hplaced]
    exact hposted
  | close =>
    cases hstep
    exact fun publisher hmem => (h publisher hmem).mono (fun _ hposted => hposted)
  | removeJobs chatId =>
    cases hstep
    exact fun publisher hmem => (h publisher hmem).mono (fun _ hposted => hposted)

theorem always_reports (board : SendMessageBoard) (actions : List SendMessageAction)
    (hroom : Runs.Guarded step FindsRoom (init board) actions)
    : Runs.Always step Reports (init board) actions := by
  have htracked : Runs.Always step
      (fun s => ∀ publisher ∈ s.threads, Tracked s.shared publisher) (init board) actions := by
    refine Runs.always_of_guarded ?_ (fun _ hmem => absurd hmem List.not_mem_nil) hroom
    exact fun s action s' h hguard hstep => tracked_step h hguard hstep
  exact htracked.mono (fun _ => reports_of_tracked)

def emptyBoard (closed : Bool) : SendMessageBoard where
  jobs := .new
  bus := { config := {}, closed, inbound := .new true, internal := .new false }

theorem always_reports_open
    : Runs.Always step Reports (init (emptyBoard false))
        [.request { content := "hello", sessionId := none } "m", .advance 0 0, .advance 0 0,
          .advance 0 0, .advance 0 0, .advance 0 0, .advance 0 0, .advance 0 0] := by
  refine always_reports _ _ ?_
  iterate 8
    intro s' hstep
    cases hstep
    refine ⟨?_, ?_⟩
    on_goal 1 =>
      first
      | trivial
      | intro publisher hpublisher _
        cases hpublisher
        exact ⟨fun _ => rfl, fun _ _ => by decide⟩
  trivial

/-- On a closed bus the request is reported as failed, but its job stays registered. -/
theorem not_always_reports
    : ¬ Runs.Always step Reports (init (emptyBoard true))
        [.request { content := "hello", sessionId := none } "m", .advance 0 0, .advance 0 0,
          .advance 0 0] := by
  intro h
  have hreports := Runs.Always.run_eq_some h rfl
  obtain ⟨-, hjob⟩ := hreports.refused _ (List.mem_singleton_self _) _ rfl List.not_mem_nil
  cases hjob

end SendMessageServer

end AnimaAgent
