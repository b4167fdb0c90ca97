import Pybrid.Library.Transition
import Pybrid.Proxy.MessageHandlers

/-! The proxy server's threads: one accepts and polls the queue, one serves the active session. -/

namespace Pybrid

/-- Whether a backend can be used. -/
inductive BackendHealth where
  | healthy
  | rebooting
  | dead
  deriving DecidableEq, Repr

/-- What a receive with a timeout yields. -/
inductive RecvStatus where
  | success
  | timeout
  | disconnected
  deriving DecidableEq, Repr

/-- One accepted client connection. -/
structure ClientSession where
  connected : Bool
  /-- The messages not yet taken from the transport, oldest first, with their arrival numbers. -/
  inbox : List (Nat × ClientPayload)
  pendingFirstMessage : Option (Nat × ClientRequest)
  authenticated : Bool
  deriving DecidableEq, Repr

/-- What `poll_queued` does next with the session it has come to. -/
inductive PollTask where
  /-- Go on to the next session of the snapshot. -/
  | next
  /-- Receive from the transport, the pending slot being empty. -/
  | receiving (session : Nat)
  /-- Look at the kind of the message and at the backends' health. -/
  | holding (session number : Nat) (request : ClientRequest)
  /-- Put the message into the pending slot. -/
  | stashing (session number : Nat) (request : ClientRequest)
  /-- Handle the message. -/
  | serving (session number : Nat) (request : ClientRequest)
  /-- Send the answer, once the backends have answered. -/
  | replying (session number : Nat) (payload : ClientPayload) (answer : Answer)
  deriving DecidableEq, Repr

/-- A round of `poll_queued`. -/
structure PollQueued where
  task : PollTask
  /-- The part of the snapshot not yet come to. -/
  rest : List Nat
  toDrop : List Nat
  deriving DecidableEq, Repr

/-- What the session thread does next. -/
inductive SessionThread where
  /-- Look for a session to promote. -/
  | idle
  /-- Take the pending message of the session just promoted. -/
  | promoted (session : Nat)
  /-- Dispatch a message. -/
  | dispatching (session number : Nat) (request : ClientRequest)
  /-- Send the answer, once the backends have answered. -/
  | replying (session : Nat) (id : String) (answer : Answer)
  /-- Begin the next turn of the receive loop. -/
  | looping (session : Nat)
  /-- Clear the active session. -/
  | ending (session : Nat)
  deriving DecidableEq, Repr

/-- What has happened at the server. -/
inductive ServerEvent where
  /-- The accept-time peek has read this from a connection that did not become a session. -/
  | peeked (connection : Nat) (payload : ClientPayload)
  /-- A session has received a message. -/
  | arrived (session number : Nat) (payload : ClientPayload)
  /-- The client of a session is gone. -/
  | disconnected (session : Nat)
  /-- A session has been put into the queue. -/
  | admitted (session : Nat)
  /-- A session has been taken out of the queue because its client is gone. -/
  | dropped (session : Nat)
  /-- A session has become active while the backends were in this state. -/
  | promoted (session : Nat) (health : List BackendHealth)
  /-- The active dispatch has read the pending slot. -/
  | slotRead (session : Nat)
  /-- A session has ceased to be active. -/
  | ended (session : Nat)
  /-- `poll_queued` has put a message into the pending slot. -/
  | stashed (session number : Nat)
  /-- `poll_queued` has answered a message. -/
  | answered (session number : Nat) (payload : ClientPayload)
  /-- The active dispatch has taken a message on. -/
  | dispatched (session number : Nat) (payload : ClientPayload)
  /-- What was received is no message, and nothing is done about it. -/
  | skipped (session number : Nat)
  /-- A command has been sent to the backends on behalf of a session. -/
  | toBackends (session : Nat) (command : BackendCommand)
  /-- Something has been sent to a client. -/
  | sent (session : Nat) (reply : ClientReply)
  deriving DecidableEq, Repr

/-- The state shared by the server's threads, with a record of what has happened. -/
structure ProxyServer where
  sessions : Nat → ClientSession
  /-- The number of connections accepted so far, which numbers the next one. -/
  accepted : Nat
  /-- The number of messages received so far, which numbers the next one. -/
  arrivals : Nat
  sessionDeque : List Nat
  active : Option Nat
  health : List BackendHealth
  /-- The round of `poll_queued` under way; without one the server thread accepts. -/
  poll : Option PollQueued
  worker : SessionThread
  /-- Everything that has happened, newest first. -/
  history : List ServerEvent

/-- How a turn of the active session's receive loop goes. -/
inductive LoopTurn where
  /-- The session is connected and the backends are there, and the receive yields this. -/
  | receive (status : RecvStatus)
  /-- The session has been idle for too long, or its client is gone. -/
  | leave
  /-- A backend has been lost. -/
  | backendLost
  deriving DecidableEq, Repr

/-- Atomic steps of the threads, of the clients and of the backends. -/
inductive ServerAction where
  /-- The server thread accepts a connection, whose first message may be there already. -/
  | accept (first : Option ClientPayload)
  /-- The server thread takes the next step of `poll_queued`. -/
  | poll (received : RecvStatus) (reachable : Bool) (outcome : BackendOutcome)
  /-- The session thread takes its next step. -/
  | work (turn : LoopTurn) (reachable : Bool) (outcome : BackendOutcome)
  /-- The dispatch of a message ends with an exception. -/
  | throw
  /-- A message arrives from a client. -/
  | arrive (session : Nat) (payload : ClientPayload)
  /-- A client disconnects. -/
  | disconnect (session : Nat)
  /-- A backend's health changes. -/
  | setHealth (backend : Nat) (health : BackendHealth)
  deriving DecidableEq, Repr

/-- The identifier an answer to a message carries. -/
def ClientPayload.id : ClientPayload → String
  | .request message => message.id
  | _ => ""

/-- The message asks for something. -/
def ClientPayload.wellFormed : ClientPayload → Bool
  | .unreadable => false
  | _ => true

namespace ProxyServer

/-- A started server without clients. -/
def initial (health : List BackendHealth) : ProxyServer where
  sessions := fun _ => ⟨false, [], none, false⟩
  accepted := 0
  arrivals := 0
  sessionDeque := []
  active := none
  health := health
  poll := none
  worker := .idle
  history := []

/-- Every backend is healthy. -/
def allBackendsHealthy (σ : ProxyServer) : Bool :=
  σ.health.all (· = .healthy)

/-- Replace a session's data. -/
def setSession (σ : ProxyServer) (session : Nat) (client : ClientSession) : ProxyServer :=
  { σ with sessions := Function.update σ.sessions session client }

/-- Add events to the record, the last of them first. -/
def record (σ : ProxyServer) (events : List ServerEvent) : ProxyServer :=
  { σ with history := events ++ σ.history }

/-- Go on with a round of `poll_queued`. -/
def polling (σ : ProxyServer) (task : PollTask) (rest toDrop : List Nat) : ProxyServer :=
  { σ with poll := some ⟨task, rest, toDrop⟩ }

/-- Let the session thread go on at a point. -/
def working (σ : ProxyServer) (worker : SessionThread) : ProxyServer :=
  { σ with worker := worker }

/-- The event of a command sent to the backends. -/
def commandEvent (session : Nat) (command : Option BackendCommand) : List ServerEvent :=
  command.toList.map (.toBackends session)

/-- The event of an answer sent to the client. -/
def replyEvent (session : Nat) (reply : Option ClientReply) : List ServerEvent :=
  reply.toList.map (.sent session)

/-- Leave only these messages in a session's transport. -/
def setInbox (σ : ProxyServer) (session : Nat) (inbox : List (Nat × ClientPayload)) : ProxyServer :=
  σ.setSession session { σ.sessions session with inbox := inbox }

/-- Leave this in a session's pending slot. -/
def setPending (σ : ProxyServer) (session : Nat) (pending : Option (Nat × ClientRequest)) :
    ProxyServer :=
  σ.setSession session { σ.sessions session with pendingFirstMessage := pending }

/-- Ask the backends for what a handler wants, and note whether the session is authenticated. -/
def handle (σ : ProxyServer) (session : Nat) (handling : Handling) : ProxyServer :=
  (σ.setSession session { σ.sessions session with
    authenticated := (σ.sessions session).authenticated || handling.authenticates }).record
    (commandEvent session handling.command)

/-- Put a connection into the queue as a session, with the message the peek has read. -/
def admitSession (first : Option ClientPayload) (σ : ProxyServer) : ProxyServer :=
  let session := σ.accepted
  let σ := { σ with accepted := σ.accepted + 1, sessionDeque := σ.sessionDeque ++ [session] }
  match first with
  | some (.request request) =>
    { σ.setSession session ⟨true, [], some (σ.arrivals, request), false⟩ with
      arrivals := σ.arrivals + 1 }.record
      [.arrived session σ.arrivals (.request request), .admitted session]
  -- The peek keeps nothing else: neither what cannot be read nor other generic messages.
  | _ => (σ.setSession session ⟨true, [], none, false⟩).record [.admitted session]

/-- Answer a connection that does not become a session. -/
def refuse (σ : ProxyServer) (events : List ServerEvent) : ProxyServer :=
  { σ with accepted := σ.accepted + 1 }.record events

/-- Accept a connection: pings are answered at once, and the others queue while there is room. -/
def accept (config : ProxyConfig) (first : Option ClientPayload) (σ : ProxyServer) : ProxyServer :=
  match first with
  -- The connection is closed after the pong.
  | some .ping => σ.refuse [.sent σ.accepted .pong, .peeked σ.accepted .ping]
  | _ =>
    if σ.sessionDeque.length + σ.active.toList.length < config.maxSessions then σ.admitSession first
    else σ.refuse [.sent σ.accepted (.message "" (.errorMessage "Server overloaded"))]

/-- Take a snapshot of the queue; without sessions there is nothing to do. -/
def startPoll (σ : ProxyServer) : ProxyServer :=
  if σ.sessionDeque = [] then σ else σ.polling .next σ.sessionDeque []

/-- Take a session out of the queue if it is there. -/
def dropSession (σ : ProxyServer) (session : Nat) : ProxyServer :=
  if session ∈ σ.sessionDeque then
    { σ with sessionDeque := σ.sessionDeque.erase session }.record [.dropped session]
  else σ

/-- Take the sessions found disconnected out of the queue. -/
def endPoll (σ : ProxyServer) (toDrop : List Nat) : ProxyServer :=
  { toDrop.foldl dropSession σ with poll := none }

/-- Come to a session of the snapshot. -/
def pollNext (σ : ProxyServer) (session : Nat) (rest toDrop : List Nat) : ProxyServer :=
  if (σ.sessions session).connected then
    match (σ.sessions session).pendingFirstMessage with
    | some (number, request) =>
      (σ.setPending session none).polling (.holding session number request) rest toDrop
    | none => σ.polling (.receiving session) rest toDrop
  -- It stays in the queue until the round is over.
  else σ.polling .next rest (toDrop ++ [session])

/-- Go on with a message received from a session of the snapshot. -/
def pollReceived (σ : ProxyServer) (session number : Nat) (payload : ClientPayload)
    (rest toDrop : List Nat) : ProxyServer :=
  match payload with
  | .ping =>
    (σ.handle session Handling.handlePing).polling
      (.replying session number .ping Handling.handlePing.answer) rest toDrop
  | .request request => σ.polling (.holding session number request) rest toDrop
  -- What does not parse and what holds neither a ping nor a message is passed over.
  | .unreadable => (σ.record [.skipped session number]).polling .next rest toDrop

/-- Receive from the transport of a session of the snapshot. -/
def pollReceive (σ : ProxyServer) (received : RecvStatus) (session : Nat) (rest toDrop : List Nat) :
    Option ProxyServer :=
  match received, (σ.sessions session).inbox with
  | .success, (number, payload) :: inbox =>
    some ((σ.setInbox session inbox).pollReceived session number payload rest toDrop)
  | .timeout, [] => some (σ.polling .next rest toDrop)
  -- A lost connection can be reported with messages still in the transport.
  | .disconnected, _ =>
    if (σ.sessions session).connected then none
    else some (σ.polling .next rest (toDrop ++ [session]))
  | _, _ => none

/-- Requests other than authentication are put back while a backend is not healthy. -/
def pollCheck (σ : ProxyServer) (session number : Nat) (request : ClientRequest)
    (rest toDrop : List Nat) : ProxyServer :=
  -- The test and the stashing are two steps: the session may be promoted in between.
  if !request.kind.isAuthRequest && !σ.allBackendsHealthy then
    σ.polling (.stashing session number request) rest toDrop
  else σ.polling (.serving session number request) rest toDrop

/-- Put a message into the pending slot. -/
def pollStash (σ : ProxyServer) (session number : Nat) (request : ClientRequest)
    (rest toDrop : List Nat) : ProxyServer :=
  ((σ.setPending session (some (number, request))).record [.stashed session number]).polling
    .next rest toDrop

/-- Handle a message of a session of the snapshot as a handler says. -/
def pollServe (σ : ProxyServer) (handling : Handling) (session number : Nat)
    (request : ClientRequest) (rest toDrop : List Nat) : ProxyServer :=
  (σ.handle session handling).polling
    (.replying session number (.request request) handling.answer) rest toDrop

/-- Answer a message of a session of the snapshot. -/
def pollReply (outcome : BackendOutcome) (σ : ProxyServer) (session number : Nat)
    (payload : ClientPayload) (answer : Answer) (rest toDrop : List Nat) : ProxyServer :=
  (σ.record (replyEvent session (answer.reply payload.id outcome) ++
    [.answered session number payload])).polling .next rest toDrop

/-- The next step of `poll_queued`. -/
def pollQueued (config : ProxyConfig) (received : RecvStatus) (reachable : Bool)
    (outcome : BackendOutcome) (σ : ProxyServer) : Option ProxyServer :=
  match σ.poll with
  | none => some σ.startPoll
  | some ⟨.next, [], toDrop⟩ => some (σ.endPoll toDrop)
  | some ⟨.next, session :: rest, toDrop⟩ => some (σ.pollNext session rest toDrop)
  | some ⟨.receiving session, rest, toDrop⟩ => σ.pollReceive received session rest toDrop
  | some ⟨.holding session number request, rest, toDrop⟩ =>
    some (σ.pollCheck session number request rest toDrop)
  | some ⟨.stashing session number request, rest, toDrop⟩ =>
    some (σ.pollStash session number request rest toDrop)
  | some ⟨.serving session number request, rest, toDrop⟩ =>
    let authenticated := (σ.sessions session).authenticated
    let handling := Handling.pollMessage config authenticated reachable request
    some (σ.pollServe handling session number request rest toDrop)
  | some ⟨.replying session number payload answer, rest, toDrop⟩ =>
    some (pollReply outcome σ session number payload answer rest toDrop)

/-- Drop the sessions at the front whose clients gave up while waiting. -/
def dropFronts (σ : ProxyServer) : ProxyServer :=
  (σ.sessionDeque.takeWhile fun session => !(σ.sessions session).connected).foldl dropSession σ

/-- Make the front session the active one if every backend is healthy. -/
def promoteFront (σ : ProxyServer) : ProxyServer :=
  match σ.sessionDeque with
  | session :: rest =>
    if σ.allBackendsHealthy then
      ({ σ with sessionDeque := rest, active := some session }.record
        [.promoted session σ.health]).working (.promoted session)
    else σ
  | [] => σ

/-- Take the pending message of the session just promoted. -/
def takePending (σ : ProxyServer) (session : Nat) : ProxyServer :=
  -- From now on nobody reads the slot of this session again.
  ((σ.setPending session none).record [.slotRead session]).working
    (match (σ.sessions session).pendingFirstMessage with
    | some (number, request) => .dispatching session number request
    | none => .looping session)

/-- Take a message of the active session on as a handler says. -/
def dispatch (σ : ProxyServer) (handling : Handling) (session number : Nat)
    (payload : ClientPayload) : ProxyServer :=
  ((σ.record [.dispatched session number payload]).handle session handling).working
    (.replying session payload.id handling.answer)

/-- Go on with a message received from the active session. -/
def loopReceived (σ : ProxyServer) (session number : Nat) (payload : ClientPayload) : ProxyServer :=
  match payload with
  | .ping => σ.dispatch Handling.handlePing session number .ping
  | .request request => σ.working (.dispatching session number request)
  | .unreadable => (σ.record [.skipped session number]).working (.looping session)

/-- Receive from the transport of the active session. -/
def loopReceive (σ : ProxyServer) (status : RecvStatus) (session : Nat) : Option ProxyServer :=
  match status, (σ.sessions session).inbox with
  | .success, (number, payload) :: inbox =>
    some ((σ.setInbox session inbox).loopReceived session number payload)
  | .timeout, [] => some (σ.working (.looping session))
  | .disconnected, _ => some (σ.working (.ending session))
  | _, _ => none

/-- One turn of the active session's receive loop. -/
def loopTurn (σ : ProxyServer) (turn : LoopTurn) (session : Nat) : Option ProxyServer :=
  match turn with
  | .leave => some (σ.working (.ending session))
  -- A backend found dead or disconnected ends the session with an error.
  | .backendLost =>
    some ((σ.record [.sent session (.message ""
      (.errorMessage "Cluster degraded: one or more backends disconnected"))]).working
      (.ending session))
  | .receive status => σ.loopReceive status session

/-- The session is over, and another one may become active. -/
def endSession (σ : ProxyServer) (session : Nat) : ProxyServer :=
  ({ σ with active := none }.record [.ended session]).working .idle

/-- The next step of the session thread. -/
def sessionLoop (config : ProxyConfig) (turn : LoopTurn) (reachable : Bool)
    (outcome : BackendOutcome) (σ : ProxyServer) : Option ProxyServer :=
  match σ.worker with
  | .idle => some σ.dropFronts.promoteFront
  | .promoted session => some (σ.takePending session)
  | .dispatching session number request =>
    let authenticated := (σ.sessions session).authenticated
    let handling := Handling.dispatchMessage config authenticated reachable request
    some (σ.dispatch handling session number (.request request))
  | .replying session id answer =>
    some ((σ.record (replyEvent session (answer.reply id outcome))).working (.looping session))
  | .looping session => σ.loopTurn turn session
  | .ending session => some (σ.endSession session)

/-- One atomic step. -/
def step (config : ProxyConfig) (σ : ProxyServer) : ServerAction → Option ProxyServer
  -- One thread accepts and polls, so there is no round under way.
  | .accept first => if σ.poll.isNone then some (accept config first σ) else none
  | .poll received reachable outcome => pollQueued config received reachable outcome σ
  | .work turn reachable outcome => sessionLoop config turn reachable outcome σ
  -- An exception out of a handler ends the session, and nothing is answered.
  | .throw =>
    match σ.worker with
    | .replying session _ _ => some (σ.working (.ending session))
    | _ => none
  | .arrive session payload =>
    if (σ.sessions session).connected then
      let inbox := (σ.sessions session).inbox ++ [(σ.arrivals, payload)]
      some ({ σ.setInbox session inbox with arrivals := σ.arrivals + 1 }.record
        [.arrived session σ.arrivals payload])
    else none
  -- What the client has sent before stays in the transport.
  | .disconnect session =>
    if (σ.sessions session).connected then
      some ((σ.setSession session { σ.sessions session with connected := false }).record
        [.disconnected session])
    else none
  | .setHealth backend health => some { σ with health := σ.health.set backend health }

end ProxyServer

end Pybrid
