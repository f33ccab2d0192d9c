import AnimaAgent.Library.IndexMap

namespace AnimaAgent

inductive DispatchFailureStage where
  | balancerSelection
  | channelLookup
  | send
  deriving DecidableEq

structure DispatchMessage where
  id : String
  channel : String
  accountId : String
  chatId : Option String := none
  content : String
  media : List String := []
  stage : String := "final"
  replyTarget : Option String := none
  senderId : Option String := none
  priority : UInt8 := 5
  routingKey : Option String := none
  sessionKey : Option String := none
  deriving DecidableEq

namespace DispatchMessage

variable (message : DispatchMessage)

def target : String :=
  (message.replyTarget.or message.senderId).getD ""

def selectionKey : Option String :=
  (message.sessionKey.or message.chatId).or message.senderId

end DispatchMessage

structure DispatchEnvelope where
  message : DispatchMessage
  priority : UInt8
  routingKey : Option String
  sessionKey : Option String
  retryCount : UInt32
  maxRetries : UInt32
  backoffMs : UInt64
  nextAttemptAtMs : UInt64
  retryableStages : List DispatchFailureStage
  enqueueTimestampMs : UInt64
  deriving DecidableEq

namespace DispatchEnvelope

def fromMessage (now : UInt64) (message : DispatchMessage) : DispatchEnvelope where
  message
  priority := message.priority
  routingKey := message.routingKey
  sessionKey := message.sessionKey
  retryCount := 0
  maxRetries := 0
  backoffMs := 0
  nextAttemptAtMs := now
  retryableStages := [.send]
  enqueueTimestampMs := now

variable (envelope : DispatchEnvelope)

def withRetryPolicy (maxRetries : UInt32) (backoffMs : UInt64) : DispatchEnvelope :=
  { envelope with maxRetries, backoffMs }

def canRetry : Bool :=
  envelope.retryCount < envelope.maxRetries

def shouldRetryForStage : Option DispatchFailureStage → Bool
  | some stage => envelope.retryableStages.contains stage && envelope.canRetry
  | none => false

/-- The time of the next attempt is a sum that saturates. -/
def nextRetry (now : UInt64) : Option DispatchEnvelope :=
  if envelope.canRetry then
    some { envelope with
      retryCount := envelope.retryCount + 1
      nextAttemptAtMs := .ofNat (min (now.toNat + envelope.backoffMs.toNat) (UInt64.size - 1)) }
  else
    none

def ready (now : UInt64) : Bool :=
  envelope.nextAttemptAtMs ≤ now

end DispatchEnvelope

structure DispatchQueueSnapshot where
  totalLen : Nat := 0
  byPriority : IndexMap UInt8 Nat := .empty
  byRoute : IndexMap String Nat := .empty

structure DispatchQueue where
  routes : IndexMap String (IndexMap UInt8 (List DispatchEnvelope)) := .empty
  lastRouteKey : Option String := none

def selectNextRoute (eligibleRoutes : List String) (lastRouteKey : Option String) : Option String :=
  match lastRouteKey.bind (fun last => eligibleRoutes.idxOf? last) with
  | some idx => eligibleRoutes[(idx + 1) % eligibleRoutes.length]?
  | none => eligibleRoutes[0]?

namespace DispatchQueue

variable (queue : DispatchQueue)

def enqueue (envelope : DispatchEnvelope) : DispatchQueue :=
  let priorities := (queue.routes.get envelope.message.channel).getD .empty
  let waiting := (priorities.get envelope.priority).getD []
  { queue with
    routes := queue.routes.insert envelope.message.channel
      (priorities.insert envelope.priority (waiting ++ [envelope])) }

def minPriority (now : UInt64) (priorities : IndexMap UInt8 (List DispatchEnvelope)) : Option UInt8 :=
  (priorities.entries.filterMap (fun entry =>
    if entry.2.head?.any (fun envelope => envelope.ready now) then some entry.1 else none)).min?

def routeMinPriorities (now : UInt64) : List (String × UInt8) :=
  queue.routes.entries.filterMap (fun entry => (minPriority now entry.2).map (fun p => (entry.1, p)))

def globalPriority (now : UInt64) : Option UInt8 :=
  ((queue.routeMinPriorities now).map Prod.snd).min?

def eligibleRoutes (now : UInt64) (priority : UInt8) : List String :=
  ((queue.routeMinPriorities now).filter (fun entry => entry.2 == priority)).map Prod.fst

def popFront (route : String) (priority : UInt8)
    (priorities : IndexMap UInt8 (List DispatchEnvelope)) (waiting : List DispatchEnvelope)
    : DispatchQueue :=
  let remaining :=
    if waiting.tail.isEmpty then priorities.shiftRemove priority
    else priorities.insert priority waiting.tail
  if remaining.entries.isEmpty then
    { routes := queue.routes.shiftRemove route, lastRouteKey := none }
  else
    { routes := queue.routes.insert route remaining, lastRouteKey := some route }

def dequeue (now : UInt64) : Option DispatchEnvelope × DispatchQueue :=
  match queue.globalPriority now with
  | none => (none, queue)
  | some priority =>
    match selectNextRoute (queue.eligibleRoutes now priority) queue.lastRouteKey with
    | none => (none, queue)
    | some route =>
      match queue.routes.get route with
      | none => (none, { queue with lastRouteKey := some route })
      | some priorities =>
        match priorities.get priority with
        | none => (none, { queue with lastRouteKey := some route })
        | some waiting => (waiting.head?, queue.popFront route priority priorities waiting)

def len : Nat :=
  (queue.routes.values.flatMap IndexMap.values).flatten.length

def isEmpty : Bool :=
  queue.len == 0

def countRoute (byPriority : IndexMap UInt8 Nat)
    (priorities : List (UInt8 × List DispatchEnvelope)) : IndexMap UInt8 Nat × Nat :=
  priorities.foldl (fun counts entry =>
    (counts.1.addTo entry.1 entry.2.length, counts.2 + entry.2.length)) (byPriority, 0)

def snapshot : DispatchQueueSnapshot :=
  let counts := queue.routes.entries.foldl (fun counts entry =>
    let route := countRoute counts.1 entry.2.entries
    (route.1, counts.2.insert entry.1 route.2)) (IndexMap.empty, IndexMap.empty)
  { totalLen := counts.2.total
    byPriority := counts.1
    byRoute := counts.2 }

end DispatchQueue

end AnimaAgent
