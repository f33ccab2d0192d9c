import AnimaAgent.Library.IndexMap
import AnimaAgent.Library.Runs
import AnimaAgent.Support.Text
import AnimaAgent.Support.Value

namespace AnimaAgent

def extractSessionId (routingKey : String) : Option String :=
  Text.stripPrefix "anima.session." routingKey

def makeSessionRoutingKey (sessionId : String) : String :=
  "anima.session." ++ sessionId

structure Session where
  id : String
  channel : String
  routingKey : String
  context : Value
  metadata : Value
  createdAt : UInt64
  lastActive : UInt64

structure SessionCreateOptions where
  id : Option String := none
  routingKey : Option String := none
  context : Option Value := none
  metadata : Option Value := none
  accountId : Option String := none

structure FindSessionOptions where
  sessionId : Option String := none
  routingKey : Option String := none
  accountId : Option String := none

/-- `byChannel` lists the identifiers of the sessions of an account of a channel. -/
structure SessionStoreState where
  sessions : IndexMap String Session
  byRoutingKey : IndexMap String String
  byChannel : IndexMap String (IndexMap String (List String))

def mergeJsonObject (target update : Value) : Value :=
  match target, update with
  | .object _, .object fields =>
    fields.foldl (fun merged field => merged.insert field.1 field.2) target
  | _, _ => update

def pushHistory (message context : Value) : Value :=
  let context : Value :=
    match context with
    | .object fields => .object fields
    | _ => .object []
  let history := ((context.get "history").bind Value.asArray).getD []
  context.insert "history" (.array (history ++ [message]))

namespace SessionStoreState

def new : SessionStoreState where
  sessions := .empty
  byRoutingKey := .empty
  byChannel := .empty

variable (state : SessionStoreState)

/-- `uuid` is drawn for a session without an identifier of its own. -/
def createSession (channel : String) (opts : SessionCreateOptions) (uuid : String) (now : UInt64)
    : Session × SessionStoreState :=
  let sessionId := opts.id.getD uuid
  let routingKey := opts.routingKey.getD (makeSessionRoutingKey sessionId)
  let accountId := opts.accountId.getD "default"
  let session := {
    id := sessionId
    channel := channel
    routingKey := routingKey
    context := opts.context.getD (.object [])
    metadata := opts.metadata.getD (.object [])
    createdAt := now
    lastActive := now }
  let accounts := (state.byChannel.get channel).getD .empty
  let ids := (accounts.get accountId).getD []
  (session,
    { sessions := state.sessions.insert sessionId session
      byRoutingKey := state.byRoutingKey.insert routingKey sessionId
      byChannel :=
        state.byChannel.insert channel (accounts.insert accountId (ids ++ [sessionId])) })

def getSession (sessionId : String) : Option Session :=
  state.sessions.get sessionId

def getSessionByRoutingKey (routingKey : String) : Option Session :=
  (state.byRoutingKey.get routingKey).bind state.sessions.get

def updateWith (sessionId : String) (context : Value → Value) (now : UInt64)
    : Option Session × SessionStoreState :=
  match state.sessions.get sessionId with
  | none => (none, state)
  | some session =>
    let session := { session with context := context session.context, lastActive := now }
    (some session, { state with sessions := state.sessions.insert sessionId session })

def updateSessionContext (sessionId : String) (contextUpdate : Value) (now : UInt64)
    : Option Session × SessionStoreState :=
  state.updateWith sessionId (fun context => mergeJsonObject context contextUpdate) now

def setSessionContext (sessionId : String) (newContext : Value) (now : UInt64)
    : Option Session × SessionStoreState :=
  state.updateWith sessionId (fun _ => newContext) now

def addToHistory (sessionId : String) (message : Value) (now : UInt64)
    : Option Session × SessionStoreState :=
  state.updateWith sessionId (pushHistory message) now

def touchSession (sessionId : String) (now : UInt64) : Option Session × SessionStoreState :=
  state.updateWith sessionId (fun context => context) now

def retainOthers (sessionId : String) (accounts : IndexMap String (List String))
    : IndexMap String (List String) :=
  let accounts := accounts.mapValues (fun ids => ids.filter (fun id => id != sessionId))
  let emptyAccounts := (accounts.entries.filter (fun entry => entry.2.isEmpty)).map Prod.fst
  emptyAccounts.foldl IndexMap.shiftRemove accounts

def closeSession (sessionId : String) : Option Session × SessionStoreState :=
  match state.sessions.get sessionId with
  | none => (none, state)
  | some session =>
    (some session,
      { sessions := state.sessions.shiftRemove sessionId
        byRoutingKey := state.byRoutingKey.shiftRemove session.routingKey
        byChannel :=
          match state.byChannel.get session.channel with
          | none => state.byChannel
          | some accounts =>
            state.byChannel.insert session.channel (retainOthers sessionId accounts) })

def closeAllSessions : Nat × SessionStoreState :=
  (state.sessions.entries.length, new)

def findSession (opts : FindSessionOptions) : Option Session :=
  (opts.sessionId.bind state.getSession)
    <|> (opts.routingKey.bind state.getSessionByRoutingKey)
    <|> ((opts.routingKey.bind extractSessionId).bind state.getSession)

def findOrCreateSession (channelName : String) (opts : FindSessionOptions) (uuid : String)
    (now : UInt64)
    : Session × SessionStoreState :=
  match state.findSession opts with
  | some session => (session, state)
  | none =>
    state.createSession channelName
      { routingKey := opts.routingKey, accountId := opts.accountId } uuid now

def listed (channel account : String) : List String :=
  (((state.byChannel.get channel).getD .empty).get account).getD []

end SessionStoreState

end AnimaAgent
