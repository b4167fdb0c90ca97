import Pybrid.Library.Trace
import Pybrid.Proxy.Requests

/-! The proxy's authentication gate: without the token a session is served nothing but pings. -/

namespace Pybrid

/-- The answer is an error that no backend was asked for, or none at all. -/
def Answer.refuses : Answer → Bool
  | .nothing | .fixed (.errorMessage _) => true
  | _ => false

/-- The payload is an error message. -/
def ReplyPayload.isError : ReplyPayload → Bool
  | .errorMessage _ => true
  | _ => false

/-- The answer to be sent to the active session. -/
def SessionThread.answer : SessionThread → Option (Nat × Answer)
  | .replying session _ answer => some (session, answer)
  | _ => none

/-- The answer to be sent to a session of the snapshot. -/
def PollTask.answer : PollTask → Option (Nat × Answer)
  | .replying session _ _ answer => some (session, answer)
  | _ => none

namespace ProxyServer

/-- The session has sent an authentication request with the correct token. -/
def AuthSent (config : ProxyConfig) (history : List ServerEvent) (session : Nat) : Prop :=
  ∃ number id, .arrived session number (.request ⟨id, .authRequest config.authToken⟩) ∈ history

/-- The connection has sent an envelope-level ping. -/
def PingSent (history : List ServerEvent) (session : Nat) : Prop :=
  .peeked session .ping ∈ history ∨ ∃ number, .arrived session number .ping ∈ history

/--
Nothing but pings and errors without authentication.

A command is sent to the backends, and an answer other than an error to the client, only if the
client has sent the correct token before, or else an envelope-level ping to which this is the
reaction.
-/
def Gated (config : ProxyConfig) (earlier : List ServerEvent) : ServerEvent → Prop
  | .toBackends session command =>
    AuthSent config earlier session ∨ command = .ping ∧ PingSent earlier session
  -- A session that has not shown its token hears of errors alone.
  | .sent session (.message _ payload) => AuthSent config earlier session ∨ payload.isError = true
  | .sent session .pong => AuthSent config earlier session ∨ PingSent earlier session
  | _ => True

/-- What a session is not served before it has sent the correct token. -/
structure AuthenticationGate (config : ProxyConfig) (history : List ServerEvent) : Prop where
  /-- No command other than a ping reaches a backend. -/
  commands : ∀ later session command earlier,
    history = later ++ .toBackends session command :: earlier → ¬AuthSent config earlier session →
    command = .ping ∧ PingSent earlier session
  /-- No answer other than an error is sent, unless to a ping. -/
  answers : ∀ later session reply earlier,
    history = later ++ .sent session reply :: earlier → ¬AuthSent config earlier session →
    (∃ id description, reply = .message id (.errorMessage description)) ∨
      reply = .pong ∧ PingSent earlier session

/-- The answer to be sent to a session of the snapshot. -/
def pollAnswer (σ : ProxyServer) : Option (Nat × Answer) :=
  σ.poll.bind fun poll => poll.task.answer

/-- An answer may be sent to a session. -/
def Allowed (config : ProxyConfig) (history : List ServerEvent) (owed : Nat × Answer) : Prop :=
  AuthSent config history owed.1 ∨ owed.2.refuses = true ∨ owed.2 = .ping ∧ PingSent history owed.1

/-- What a handler does is allowed for a session. -/
def AllowedHandling (config : ProxyConfig) (history : List ServerEvent) (session : Nat)
    (handling : Handling) : Prop :=
  AuthSent config history session ∨
    -- Without the token, a request is refused or it is a ping.
    handling.authenticates = false ∧
      (handling.command = none ∧ handling.answer.refuses = true ∨
        handling = Handling.handlePing ∧ PingSent history session)

/-- What holds of authentication between the threads' steps. -/
structure Guarded (config : ProxyConfig) (σ : ProxyServer) : Prop where
  known : ∀ session, (σ.sessions session).authenticated = true →
    AuthSent config σ.history session
  pollAnswer : ∀ owed, σ.pollAnswer = some owed → Allowed config σ.history owed
  workAnswer : ∀ owed, σ.worker.answer = some owed → Allowed config σ.history owed
  events : Trace.Always (Gated config) σ.history

variable {config : ProxyConfig} {σ next : ProxyServer} {session : Nat}

/-- What has been sent stays sent. -/
theorem AuthSent.append {history : List ServerEvent} (sent : AuthSent config history session)
    (events : List ServerEvent) : AuthSent config (events ++ history) session := by
  obtain ⟨number, id, arrived⟩ := sent
  exact ⟨number, id, List.mem_append_right _ arrived⟩

/-- What has been sent stays sent. -/
theorem PingSent.append {history : List ServerEvent} (sent : PingSent history session)
    (events : List ServerEvent) : PingSent (events ++ history) session := by
  -- The ping was peeked on accepting, or it came as a message.
  rcases sent with peeked | ⟨number, arrived⟩
  · exact .inl (List.mem_append_right _ peeked)
  · exact .inr ⟨number, List.mem_append_right _ arrived⟩

/-- What is allowed stays allowed. -/
theorem Allowed.append {history : List ServerEvent} {owed : Nat × Answer}
    (allowed : Allowed config history owed) (events : List ServerEvent) :
    Allowed config (events ++ history) owed := by
  -- What was sent once stays sent.
  rcases allowed with sent | refuses | ⟨ping, sent⟩
  · exact .inl (sent.append events)
  · exact .inr (.inl refuses)
  · exact .inr (.inr ⟨ping, sent.append events⟩)

/-- What fits a record fits a longer one. -/
theorem Gated.append {history : List ServerEvent} {event : ServerEvent}
    (gated : Gated config history event) (events : List ServerEvent) :
    Gated config (events ++ history) event := by
  unfold Gated at gated ⊢
  -- Each of the three kinds of events asks for something that was sent before.
  split
  · exact gated.imp (·.append events) (.imp_right (·.append events))
  · exact gated.imp_left (·.append events)
  · exact gated.imp (·.append events) (·.append events)
  · trivial

/-- A step whose events fit what came before them keeps the gate. -/
theorem Guarded.of_events (guarded : Guarded config σ) (events : List ServerEvent)
    (history : next.history = events ++ σ.history)
    (fits : ∀ event ∈ events, Gated config σ.history event)
    (known : ∀ session, (next.sessions session).authenticated = true →
      (σ.sessions session).authenticated = true ∨ AuthSent config σ.history session)
    (poll : ∀ owed, next.pollAnswer = some owed →
      σ.pollAnswer = some owed ∨ Allowed config σ.history owed)
    (work : ∀ owed, next.worker.answer = some owed →
      σ.worker.answer = some owed ∨ Allowed config σ.history owed) : Guarded config next := by
  refine ⟨fun session authenticated => ?_, fun owed answer => ?_, fun owed answer => ?_, ?_⟩
  · rw [history]
    exact ((known session authenticated).elim (guarded.known session) id).append events
  · rw [history]
    exact ((poll owed answer).elim (guarded.pollAnswer owed) id).append events
  · rw [history]
    exact ((work owed answer).elim (guarded.workAnswer owed) id).append events
  · rw [history]
    -- An event that is allowed stays so when more has happened.
    apply guarded.events.append
    intro later event between whole
    exact (fits event (by simp [whole])).append between

/-- A step that leaves both threads where they are keeps the gate. -/
theorem Guarded.of_same (guarded : Guarded config σ) (events : List ServerEvent)
    (history : next.history = events ++ σ.history)
    (fits : ∀ event ∈ events, Gated config σ.history event)
    (known : ∀ session, (next.sessions session).authenticated = true →
      (σ.sessions session).authenticated = true ∨ AuthSent config σ.history session)
    (poll : next.poll = σ.poll) (worker : next.worker = σ.worker) : Guarded config next := by
  refine guarded.of_events events history fits known (fun owed answer => .inl ?_)
    fun owed answer => .inl (worker ▸ answer)
  -- Nobody owes another answer than before.
  rw [← answer, ProxyServer.pollAnswer, ProxyServer.pollAnswer, poll]

/-- An authentication request authenticates exactly with the correct token. -/
theorem handleAuth_allowed (requires : config.requiresAuth = true) {history : List ServerEvent}
    {number : Nat} {id token : String}
    (arrived : .arrived session number (.request ⟨id, .authRequest token⟩) ∈ history) :
    AllowedHandling config history session (Handling.handleAuth config token) := by
  unfold Handling.handleAuth
  rw [if_pos requires]
  split
  -- The token that came in is the right one.
  case isTrue correct => exact .inl ⟨number, id, correct ▸ arrived⟩
  case isFalse => exact .inr ⟨rfl, .inl ⟨rfl, rfl⟩⟩

/-- The active dispatch does nothing that is not allowed. -/
theorem dispatchMessage_allowed (requires : config.requiresAuth = true)
    {history : List ServerEvent} {number : Nat} {request : ClientRequest} {authenticated : Bool}
    (reachable : Bool) (known : authenticated = true → AuthSent config history session)
    (arrived : .arrived session number (.request request) ∈ history) :
    AllowedHandling config history session
      (Handling.dispatchMessage config authenticated reachable request) := by
  obtain ⟨id, kind⟩ := request
  cases authenticated with
  | true => exact .inl (known rfl)
  | false =>
    -- The gate comes before the switch, and lets through authentication requests only.
    cases kind with
    | authRequest token =>
      have handled : Handling.dispatchMessage config false reachable ⟨id, .authRequest token⟩ =
          Handling.handleAuth config token := by
        simp [Handling.dispatchMessage, RequestKind.isAuthRequest]
      rw [handled]
      exact handleAuth_allowed requires arrived
    | _ =>
      refine .inr ⟨?_, .inl ⟨?_, ?_⟩⟩ <;>
        simp [Handling.dispatchMessage, requires, RequestKind.isAuthRequest,
          Handling.sendErrorToClient, Answer.refuses]

/-- Polling does nothing that is not allowed. -/
theorem pollMessage_allowed (requires : config.requiresAuth = true)
    {history : List ServerEvent} {number : Nat} {request : ClientRequest} {authenticated : Bool}
    (reachable : Bool) (known : authenticated = true → AuthSent config history session)
    (arrived : .arrived session number (.request request) ∈ history) :
    AllowedHandling config history session
      (Handling.pollMessage config authenticated reachable request) := by
  obtain ⟨id, kind⟩ := request
  cases authenticated with
  | true => exact .inl (known rfl)
  | false =>
    -- Authentication requests are looked for first, and everything else is refused.
    cases kind with
    | authRequest token => exact handleAuth_allowed requires arrived
    | _ =>
      refine .inr ⟨?_, .inl ⟨?_, ?_⟩⟩ <;>
        simp [Handling.pollMessage, requires, Handling.sendErrorToClient, Answer.refuses]

namespace AllowedHandling

variable {history : List ServerEvent} {handling : Handling}

/-- The commands of an allowed handler fit. -/
theorem commands (allowed : AllowedHandling config history session handling) :
    ∀ event ∈ commandEvent session handling.command, Gated config history event := by
  intro event member
  obtain ⟨command, asked, rfl⟩ := List.mem_map.mp member
  -- A refusal commands nothing, and the ping only a ping.
  rcases allowed with sent | ⟨-, ⟨none, -⟩ | ⟨rfl, sent⟩⟩
  · exact .inl sent
  · simp [none] at asked
  · have ping : command = .ping := by
      simpa [Handling.handlePing] using asked
    exact .inr ⟨ping, sent⟩

/-- The answer of an allowed handler may be sent. -/
theorem answer (allowed : AllowedHandling config history session handling) :
    Allowed config history (session, handling.answer) := by
  -- The answer of a handler is allowed for the reason the handler is.
  rcases allowed with sent | ⟨-, ⟨-, refuses⟩ | ⟨rfl, sent⟩⟩
  · exact .inl sent
  · exact .inr (.inl refuses)
  · exact .inr (.inr ⟨rfl, sent⟩)

/-- An allowed handler authenticates only who has sent the token. -/
theorem authenticated (allowed : AllowedHandling config history session handling) {other : Nat}
    (now : ((σ.handle session handling).sessions other).authenticated = true) :
    (σ.sessions other).authenticated = true ∨ AuthSent config history other := by
  by_cases same : other = session
  · subst same
    have either : (σ.sessions other).authenticated = true ∨ handling.authenticates = true := by
      simpa [ProxyServer.handle, setSession, record] using now
    rcases either with before | new
    · exact .inl before
    · -- Of the three kinds of allowed handlers, only the first one authenticates.
      refine .inr (allowed.resolve_right fun unknown => ?_)
      simp [new] at unknown
  · refine .inl ?_
    simpa [ProxyServer.handle, setSession, record, Function.update_of_ne same] using now

end AllowedHandling

/-- What may be sent fits. -/
theorem Allowed.reply {history : List ServerEvent} {answer : Answer}
    (allowed : Allowed config history (session, answer)) (id : String) (outcome : BackendOutcome) :
    ∀ event ∈ replyEvent session (answer.reply id outcome), Gated config history event := by
  intro event member
  obtain ⟨reply, answered, rfl⟩ := List.mem_map.mp member
  rcases allowed with sent | refuses | ⟨ping, sent⟩
  · cases reply <;> exact .inl sent
  · -- A refusal is an error message, if anything is sent at all.
    cases answer with
    | fixed payload =>
      cases payload with
      | errorMessage description =>
        have error : reply = .message id (.errorMessage description) := by
          simpa [Answer.reply] using answered
        rw [error]
        exact .inr rfl
      | _ => simp [Answer.refuses] at refuses
    | nothing => simp [Answer.reply] at answered
    | _ => simp [Answer.refuses] at refuses
  · -- A ping that cannot be passed on is answered with an error.
    simp only at ping sent
    subst ping
    simp only [Answer.reply] at answered
    split at answered
    · rw [List.mem_singleton.mp answered]
      exact .inr rfl
    · rw [List.mem_singleton.mp answered]
      exact .inr sent

/-- Changing a session in another way than by authenticating it authenticates nobody. -/
theorem authenticated_setSession (σ : ProxyServer) (owner : Nat) (client : ClientSession)
    (unchanged : client.authenticated = (σ.sessions owner).authenticated) (session : Nat) :
    ((σ.setSession owner client).sessions session).authenticated =
      (σ.sessions session).authenticated := by
  -- The other sessions are not touched at all.
  by_cases same : session = owner
  · subst same
    simpa [setSession] using unchanged
  · simp [setSession, Function.update_of_ne same]

/-- Taking messages from a transport authenticates nobody. -/
@[simp] theorem authenticated_setInbox (σ : ProxyServer) (owner : Nat)
    (inbox : List (Nat × ClientPayload)) (session : Nat) :
    ((σ.setInbox owner inbox).sessions session).authenticated =
      (σ.sessions session).authenticated :=
  authenticated_setSession σ owner { σ.sessions owner with inbox := inbox } rfl session

/-- Taking or putting a pending message authenticates nobody. -/
@[simp] theorem authenticated_setPending (σ : ProxyServer) (owner : Nat)
    (pending : Option (Nat × ClientRequest)) (session : Nat) :
    ((σ.setPending owner pending).sessions session).authenticated =
      (σ.sessions session).authenticated :=
  authenticated_setSession σ owner { σ.sessions owner with pendingFirstMessage := pending } rfl
    session

/-- A round that goes on without owing an answer keeps the gate. -/
theorem Guarded.polling (guarded : Guarded config σ) {τ : ProxyServer} (events : List ServerEvent)
    {task : PollTask} {rest toDrop : List Nat} (history : τ.history = events ++ σ.history)
    (fits : ∀ event ∈ events, Gated config σ.history event)
    (same : ∀ session, (τ.sessions session).authenticated = (σ.sessions session).authenticated)
    (worker : τ.worker = σ.worker) (none : task.answer = none) :
    Guarded config (τ.polling task rest toDrop) := by
  refine guarded.of_events events history fits (fun session now => .inl (same session ▸ now))
    (fun owed answer => ?_) fun owed answer => .inl (worker ▸ answer)
  simp [ProxyServer.pollAnswer, ProxyServer.polling, none] at answer

/-- A session thread that goes on without owing an answer keeps the gate. -/
theorem Guarded.working (guarded : Guarded config σ) {τ : ProxyServer} (events : List ServerEvent)
    {worker : SessionThread} (history : τ.history = events ++ σ.history)
    (fits : ∀ event ∈ events, Gated config σ.history event)
    (same : ∀ session, (τ.sessions session).authenticated = (σ.sessions session).authenticated)
    (poll : τ.poll = σ.poll) (none : worker.answer = none) :
    Guarded config (τ.working worker) := by
  -- The thread owes no answer.
  refine guarded.of_events events history fits (fun session now => .inl (same session ▸ now))
    (fun owed answer => .inl ?_) fun owed answer => ?_
  · rw [← answer, ProxyServer.pollAnswer, ← poll]
    rfl
  · simp [ProxyServer.working, none] at answer

/-- Handling a message of a session of the snapshot as allowed keeps the gate. -/
theorem Guarded.pollHandle (guarded : Guarded config σ) {τ : ProxyServer} {number : Nat}
    {payload : ClientPayload} {handling : Handling} {rest toDrop : List Nat}
    (allowed : AllowedHandling config σ.history session handling)
    (history : τ.history = σ.history) (worker : τ.worker = σ.worker)
    (same : ∀ other, (τ.sessions other).authenticated = (σ.sessions other).authenticated) :
    Guarded config ((τ.handle session handling).polling
      (.replying session number payload handling.answer) rest toDrop) := by
  -- The answer is owed until it has been sent.
  refine guarded.of_events (commandEvent session handling.command) ?_ allowed.commands
    (fun other now => ?_) (fun owed answer => .inr ?_) fun owed answer => .inl (worker ▸ answer)
  · simp [ProxyServer.polling, ProxyServer.handle, record, setSession, history]
  · exact same other ▸ allowed.authenticated now
  · obtain rfl : (session, handling.answer) = owed := by
      simpa [ProxyServer.pollAnswer, ProxyServer.polling, PollTask.answer] using answer
    exact allowed.answer

/-- Taking on a message of the active session as allowed keeps the gate. -/
theorem Guarded.dispatch (guarded : Guarded config σ) {τ : ProxyServer} {number : Nat}
    {payload : ClientPayload} {handling : Handling}
    (allowed : AllowedHandling config σ.history session handling)
    (history : τ.history = σ.history) (poll : τ.poll = σ.poll)
    (same : ∀ other, (τ.sessions other).authenticated = (σ.sessions other).authenticated) :
    Guarded config (τ.dispatch handling session number payload) := by
  refine guarded.of_events (commandEvent session handling.command ++
    [.dispatched session number payload]) ?_ (fun event member => ?_) (fun other now => ?_)
    (fun owed answer => .inl ?_) fun owed answer => .inr ?_
  · simp [ProxyServer.dispatch, ProxyServer.working, ProxyServer.handle, record, setSession, history]
  -- The dispatch itself sends nothing.
  · rcases List.mem_append.mp member with command | last
    · exact allowed.commands event command
    · rw [List.mem_singleton.mp last]
      trivial
  · exact same other ▸ allowed.authenticated now
  · rw [← answer, ProxyServer.pollAnswer, ← poll]
    rfl
  · obtain rfl : (session, handling.answer) = owed := by
      simpa [ProxyServer.dispatch, ProxyServer.working, SessionThread.answer] using answer
    exact allowed.answer

/-- An envelope-level ping may be answered. -/
theorem handlePing_allowed (conserved : Conserved σ) {number : Nat}
    {inbox : List (Nat × ClientPayload)}
    (front : (σ.sessions session).inbox = (number, .ping) :: inbox) :
    AllowedHandling config σ.history session Handling.handlePing := by
  -- The ping has arrived, since it is still in the inbox.
  refine .inr ⟨rfl, .inr ⟨rfl, .inr ⟨number, conserved.arrived ?_⟩⟩⟩
  rw [← carried_take front session]
  simp [ofSession]

/-- Receiving from a session of the snapshot keeps the gate. -/
theorem Guarded.pollReceive (guarded : Guarded config σ) (conserved : Conserved σ)
    {received : RecvStatus} {rest toDrop : List Nat}
    (stepped : σ.pollReceive received session rest toDrop = some next) : Guarded config next := by
  unfold ProxyServer.pollReceive at stepped
  split at stepped
  case h_1 number payload inbox front =>
    cases stepped
    unfold pollReceived
    split
    · -- A ping is answered whoever sends it.
      exact guarded.pollHandle (handlePing_allowed conserved front) rfl rfl (by simp)
    · exact guarded.polling [] rfl (by simp) (by simp) rfl rfl
    · exact guarded.polling [.skipped session number] rfl (by simp [Gated]) (by simp [record]) rfl
        rfl
  case h_2 =>
    -- Nothing was there to be received.
    cases stepped
    exact guarded.polling [] rfl (by simp) (by simp) rfl rfl
  case h_3 =>
    split at stepped
    · simp at stepped
    · cases stepped
      exact guarded.polling [] rfl (by simp) (by simp) rfl rfl
  case h_4 => simp at stepped

/-- Every step of `poll_queued` keeps the gate. -/
theorem Guarded.pollQueued (guarded : Guarded config σ) (conserved : Conserved σ)
    (requires : config.requiresAuth = true) {received : RecvStatus} {reachable : Bool}
    {outcome : BackendOutcome}
    (stepped : pollQueued config received reachable outcome σ = some next) :
    Guarded config next := by
  unfold ProxyServer.pollQueued at stepped
  split at stepped
  case h_1 =>
    cases stepped
    unfold startPoll
    split
    · exact guarded
    · exact guarded.polling [] rfl (by simp) (by simp) rfl rfl
  case h_2 toDrop poll =>
    -- Nobody is served anything by being dropped.
    cases stepped
    obtain ⟨deque, events, dropped, only⟩ := dropAll_eq toDrop σ
    rw [endPoll, dropped]
    refine guarded.of_events events rfl (fun event member => ?_) (fun _ now => .inl now)
      (by simp [ProxyServer.pollAnswer]) fun _ answer => .inl answer
    obtain ⟨session, rfl⟩ := only event member
    trivial
  case h_3 =>
    -- A request is taken up, and nothing is answered yet.
    cases stepped
    unfold pollNext
    split
    · split
      · exact guarded.polling [] rfl (by simp) (by simp) rfl rfl
      · exact guarded.polling [] rfl (by simp) (by simp) rfl rfl
    · exact guarded.polling [] rfl (by simp) (by simp) rfl rfl
  case h_4 => exact guarded.pollReceive conserved stepped
  case h_5 =>
    cases stepped
    unfold pollCheck
    split <;> exact guarded.polling [] rfl (by simp) (by simp) rfl rfl
  case h_6 session number request rest toDrop poll =>
    -- A request that is put back is not served.
    cases stepped
    exact guarded.polling [.stashed session number] rfl (by simp [Gated]) (by simp [record]) rfl rfl
  case h_7 session number request rest toDrop poll =>
    cases stepped
    -- What is in hand has arrived on this very session.
    have arrived : .arrived session number (.request request) ∈ σ.history := by
      apply conserved.arrived
      simp [carried, pollHand, poll, PollTask.hand, ofSession]
    exact guarded.pollHandle (pollMessage_allowed requires reachable (guarded.known session) arrived)
      rfl rfl (by simp)
  case h_8 session number payload answer rest toDrop poll =>
    cases stepped
    -- What is owed was found to be allowed when the request was handled.
    have allowed : Allowed config σ.history (session, answer) :=
      guarded.pollAnswer _ (by simp [ProxyServer.pollAnswer, poll, PollTask.answer])
    refine guarded.polling (replyEvent session (answer.reply payload.id outcome) ++
      [.answered session number payload]) rfl (fun event member => ?_) (by simp [record]) rfl rfl
    rcases List.mem_append.mp member with sent | last
    · exact allowed.reply payload.id outcome event sent
    · rw [List.mem_singleton.mp last]
      trivial

/-- One turn of the active session's loop keeps the gate. -/
theorem Guarded.loopTurn (guarded : Guarded config σ) (conserved : Conserved σ) {turn : LoopTurn}
    (stepped : σ.loopTurn turn session = some next) : Guarded config next := by
  unfold ProxyServer.loopTurn at stepped
  split at stepped
  · cases stepped
    exact guarded.working [] rfl (by simp) (by simp) rfl rfl
  · cases stepped
    -- A session that has timed out is told so, which is an error.
    refine guarded.working [_] rfl (fun event member => ?_) (by simp [record]) rfl rfl
    rw [List.mem_singleton.mp member]
    exact .inr rfl
  · unfold loopReceive at stepped
    split at stepped
    case h_1 number payload inbox front =>
      cases stepped
      unfold loopReceived
      split
      · exact guarded.dispatch (handlePing_allowed conserved front) rfl rfl (by simp)
      · exact guarded.working [] rfl (by simp) (by simp) rfl rfl
      · exact guarded.working [.skipped session number] rfl (by simp [Gated]) (by simp [record]) rfl
          rfl
    case h_2 =>
      cases stepped
      exact guarded.working [] rfl (by simp) (by simp) rfl rfl
    case h_3 =>
      cases stepped
      exact guarded.working [] rfl (by simp) (by simp) rfl rfl
    case h_4 => simp at stepped

/-- Every step of the session thread keeps the gate. -/
theorem Guarded.sessionLoop (guarded : Guarded config σ) (conserved : Conserved σ)
    (requires : config.requiresAuth = true) {turn : LoopTurn} {reachable : Bool}
    {outcome : BackendOutcome}
    (stepped : sessionLoop config turn reachable outcome σ = some next) : Guarded config next := by
  unfold ProxyServer.sessionLoop at stepped
  split at stepped
  case h_1 =>
    -- Neither dropping nor promoting a session serves it.
    cases stepped
    obtain ⟨deque, events, dropped, only⟩ := dropAll_eq
      (σ.sessionDeque.takeWhile fun session => !(σ.sessions session).connected) σ
    have still : Guarded config σ.dropFronts := by
      rw [dropFronts, dropped]
      refine guarded.of_same events rfl (fun event member => ?_) (fun _ now => .inl now) rfl rfl
      obtain ⟨session, rfl⟩ := only event member
      trivial
    unfold promoteFront
    split
    · split
      · exact still.working [_] rfl (by simp [Gated]) (by simp [record]) rfl rfl
      · exact still
    · exact still
  case h_2 session _ =>
    -- A stashed request is taken up, and goes through the gate like any other.
    cases stepped
    refine guarded.working [.slotRead session] rfl (by simp [Gated]) (by simp [record]) rfl ?_
    split <;> rfl
  case h_3 session number request dispatching =>
    cases stepped
    -- What is in hand has arrived on this very session.
    have arrived : .arrived session number (.request request) ∈ σ.history := by
      apply conserved.arrived
      simp [carried, dispatching, SessionThread.hand, ofSession]
    exact guarded.dispatch
      (dispatchMessage_allowed requires reachable (guarded.known session) arrived) rfl rfl (by simp)
  case h_4 session id answer replying =>
    cases stepped
    -- As above, for the answer the active dispatch owes.
    have allowed : Allowed config σ.history (session, answer) :=
      guarded.workAnswer _ (by simp [replying, SessionThread.answer])
    exact guarded.working (replyEvent session (answer.reply id outcome)) rfl
      (allowed.reply id outcome) (by simp [record]) rfl rfl
  case h_5 => exact guarded.loopTurn conserved stepped
  case h_6 =>
    cases stepped
    exact guarded.working [_] rfl (by simp [Gated]) (by simp [record]) rfl rfl

/-- Accepting a connection keeps the gate. -/
theorem Guarded.accept (guarded : Guarded config σ) (first : Option ClientPayload) :
    Guarded config (accept config first σ) := by
  -- A new session starts without authentication.
  have known : ∀ client : ClientSession, client.authenticated = false → ∀ other,
      (Function.update σ.sessions σ.accepted client other).authenticated = true →
      (σ.sessions other).authenticated = true ∨ AuthSent config σ.history other := by
    intro client unknown other now
    by_cases same : other = σ.accepted
    · rw [same, Function.update_self, unknown] at now
      simp at now
    · rw [Function.update_of_ne same] at now
      exact .inl now
  unfold ProxyServer.accept
  split
  · -- The pong answers the ping that the peek has just read.
    have peeked : Guarded config (σ.refuse [.peeked σ.accepted .ping]) :=
      guarded.of_same [_] rfl (by simp [Gated]) (fun _ now => .inl now) rfl rfl
    refine peeked.of_same [.sent σ.accepted .pong] rfl (fun event member => ?_)
      (fun _ now => .inl now) rfl rfl
    rw [List.mem_singleton.mp member]
    exact .inr (.inl List.mem_cons_self)
  · split
    · unfold ProxyServer.admitSession
      split
      · exact guarded.of_same [_, _] rfl (by simp [Gated]) (known _ rfl) rfl rfl
      · exact guarded.of_same [_] rfl (by simp [Gated]) (known _ rfl) rfl rfl
    · -- Who finds no room is told so, which is an error.
      refine guarded.of_same [_] rfl (fun event member => ?_) (fun _ now => .inl now) rfl rfl
      rw [List.mem_singleton.mp member]
      exact .inr rfl

/-- Every step keeps the gate. -/
theorem Guarded.step (guarded : Guarded config σ) (conserved : Conserved σ)
    (requires : config.requiresAuth = true) {action : ServerAction}
    (stepped : step config σ action = some next) : Guarded config next := by
  cases action with
  | accept first =>
    simp only [ProxyServer.step, Option.ite_none_right_eq_some, Option.some.injEq] at stepped
    obtain ⟨_, rfl⟩ := stepped
    exact guarded.accept first
  | poll received reachable outcome => exact guarded.pollQueued conserved requires stepped
  | work turn reachable outcome => exact guarded.sessionLoop conserved requires stepped
  | throw =>
    -- An answer that is no longer owed cannot break the gate.
    simp only [ProxyServer.step] at stepped
    split at stepped
    · cases stepped
      exact guarded.working [] rfl (by simp) (by simp) rfl rfl
    · simp at stepped
  | arrive session payload =>
    simp only [ProxyServer.step, Option.ite_none_right_eq_some, Option.some.injEq] at stepped
    obtain ⟨_, rfl⟩ := stepped
    refine guarded.of_same [_] rfl (by simp [Gated]) (fun other now => .inl ?_) rfl rfl
    rw [← authenticated_setInbox]
    exact now
  | disconnect session =>
    -- Whoever leaves stays authenticated or not.
    simp only [ProxyServer.step, Option.ite_none_right_eq_some, Option.some.injEq] at stepped
    obtain ⟨_, rfl⟩ := stepped
    refine guarded.of_same [_] rfl (by simp [Gated]) (fun other now => .inl ?_) rfl rfl
    rw [← authenticated_setSession σ session { σ.sessions session with connected := false } rfl]
    exact now
  | setHealth backend health =>
    cases stepped
    exact guarded.of_same [] rfl (by simp) (fun _ now => .inl now) rfl rfl

/-- Nothing has passed the gate of a server without clients. -/
theorem Guarded.initial (config : ProxyConfig) (health : List BackendHealth) :
    Guarded config (initial health) := by
  constructor <;>
    simp [ProxyServer.initial, ProxyServer.pollAnswer, SessionThread.answer, Trace.Always]

/-- A record in which every event fits what came before it is one of a gate that holds. -/
theorem gate_of_always {history : List ServerEvent}
    (always : Trace.Always (Gated config) history) : AuthenticationGate config history := by
  refine ⟨fun later session command earlier whole unknown => ?_,
    fun later session reply earlier whole unknown => ?_⟩
  · rw [whole] at always
    exact always.at.resolve_left unknown
  · rw [whole] at always
    have fits := always.at
    -- A pong answers a ping, and every other reply has to be an error.
    cases reply with
    | pong => exact .inr ⟨rfl, fits.resolve_left unknown⟩
    | message id payload =>
      have error := fits.resolve_left unknown
      cases payload with
      | errorMessage description => exact .inl ⟨id, description, rfl⟩
      | _ => simp [ReplyPayload.isError] at error

/--
The authentication gate holds over every interleaving.

With authentication required, no session makes the proxy send a command to a backend, or gets an
answer other than an error, before it has itself sent an authentication request with the correct
token; envelope-level pings are the only exception, wherever the session and its messages are.
-/
theorem authentication_gate (config : ProxyConfig) (requires : config.requiresAuth = true)
    (health : List BackendHealth) (σ : ProxyServer)
    (reached : Transition.Reachable (step config) (initial health) σ) :
    AuthenticationGate config σ.history := by
  -- The gate needs the queue and the account of requests beside it.
  have keeps : ∀ σ action next, (Queued config σ ∧ Conserved σ ∧ Guarded config σ) →
      step config σ action = some next →
      Queued config next ∧ Conserved next ∧ Guarded config next := by
    intro σ action next held stepped
    obtain ⟨queued, conserved, guarded⟩ := held
    exact ⟨queued.step stepped, conserved.step queued stepped,
      guarded.step conserved requires stepped⟩
  have held := @Transition.reachable_preserves _ _ _
    (fun σ => Queued config σ ∧ Conserved σ ∧ Guarded config σ) _ _
    ⟨.initial config health, .initial health, .initial config health⟩ keeps reached
  exact gate_of_always held.2.2.events

/-- A proxy that asks for a token. -/
def guardedProxy : ProxyConfig where
  requiresAuth := true
  authToken := "token"
  tokenSet := fun _ => by decide
  maxSessions := 8
  roomForOne := by decide
  backends := 1
  pathToBackend := []

/-- An authentication request. -/
def authRequest (token : String) : ClientPayload := .request ⟨"auth", .authRequest token⟩

/-- An extract command for everything. -/
def extractRequest : ClientPayload := .request ⟨"extract", .extractCommand ""⟩

/-- The server thread takes some steps, with a message in the transport whenever it receives. -/
def pollSteps (count : Nat) : List ServerAction :=
  List.replicate count (.poll .success true allWell)

/-- A client guesses the token, then sends the right one, and then asks for the entities. -/
def twoAttempts : List ServerAction :=
  .accept (some (authRequest "guess")) :: pollSteps 6 ++
    .arrive 0 (authRequest "token") :: pollSteps 7 ++ .arrive 0 extractRequest :: pollSteps 7

/-- The gate opens for the client who has sent the right token. -/
theorem authentication_gate_opens : ∃ σ,
    Transition.run (step guardedProxy) (initial [.healthy]) twoAttempts = some σ ∧
      .sent 0 (.message "auth" (.errorMessage "Authentication failed")) ∈ σ.history ∧
      .sent 0 (.message "extract" .extractResponse) ∈ σ.history ∧
      AuthenticationGate guardedProxy σ.history := by
  refine ⟨_, rfl, ?_, ?_, authentication_gate guardedProxy rfl [.healthy] _ ⟨twoAttempts, rfl⟩⟩
  all_goals decide

end ProxyServer

end Pybrid
