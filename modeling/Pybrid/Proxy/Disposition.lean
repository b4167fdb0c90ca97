import Pybrid.Library.Trace
import Pybrid.Proxy.Requests

/-! Requests are disposed of in the right place, as long as polling keeps off promoted sessions. -/

namespace Pybrid

/-- The answer never is the proxy's own busy response. -/
def Answer.neverBusy : Answer → Bool
  | .fixed .busyResponse | .broadcast .busyResponse => false
  | _ => true

/-- The event says that a session's turn has come. -/
def ServerEvent.takesTurn : ServerEvent → Bool
  | .promoted _ _ | .slotRead _ => true
  | _ => false

/-- The event disposes of no request. -/
def ServerEvent.neutral : ServerEvent → Bool
  | .stashed _ _ | .answered _ _ _ | .dispatched _ _ _ | .sent _ (.message _ .busyResponse) => false
  | event => !event.takesTurn

namespace ProxyServer

/-- The session waits in the queue, or was dropped from it because its client is gone. -/
def Waits (history : List ServerEvent) (session : Nat) : Prop :=
  session ∈ admissions history ∧ session ∉ promotions history ∧
    (session ∈ drops history → .disconnected session ∈ history)

/-- Requests are answered and stashed for sessions that wait, and dispatched for promoted ones. -/
def Disposes (earlier : List ServerEvent) : ServerEvent → Prop
  | .answered session _ _ => Waits earlier session
  | .stashed session _ => Waits earlier session ∧ .slotRead session ∉ earlier
  | .dispatched session _ _ => session ∈ promotions earlier
  | .sent session (.message _ .busyResponse) => session ∉ promotions earlier
  | _ => True

/-- Every request of a client is disposed of, once and in the right place. -/
structure Disposed (σ : ProxyServer) : Prop where
  /-- Whatever was asked for is still to be disposed of, or has been answered or dispatched. -/
  accounted : ∀ session number payload, .arrived session number payload ∈ σ.history →
    payload.wellFormed = true → (number, payload) ∈ σ.carried session ∨
      .answered session number payload ∈ σ.history ∨ .dispatched session number payload ∈ σ.history
  /-- Nothing is processed twice, or kept once it is processed. -/
  once : ∀ session,
    ((σ.carried session + named ServerEvent.settlement session σ.history).map Prod.fst).Nodup
  /-- What is in a pending slot is going to be read. -/
  slots : ∀ session, (σ.sessions session).pendingFirstMessage ≠ none →
    .slotRead session ∉ σ.history
  /-- Requests are answered and stashed for sessions that wait, and dispatched for promoted ones. -/
  inPlace : ∀ later event earlier, σ.history = later ++ event :: earlier → Disposes earlier event

/-- The session whose request the next step of `poll_queued` takes. -/
def takes (σ : ProxyServer) (received : RecvStatus) : Option Nat :=
  match σ.poll with
  | some ⟨.next, session :: _, _⟩ =>
    -- A message in the slot is taken before the inbox is looked at.
    if (σ.sessions session).connected && (σ.sessions session).pendingFirstMessage.isSome then
      some session
    else none
  | some ⟨.receiving session, _, _⟩ =>
    match received, (σ.sessions session).inbox with
    -- :: Only a message that can be read is held for an answer.
    | .success, (_, payload) :: _ => if payload.wellFormed then some session else none
    | _, _ => none
  | _ => none

/-- The session that the session thread promotes in its next step. -/
def promotes (σ : ProxyServer) : Option Nat :=
  if σ.worker = .idle && σ.allBackendsHealthy then
    σ.sessionDeque.find? fun session => (σ.sessions session).connected
  else none

/--
Polling and promotion keep off each other's sessions.

`poll_queued` takes no request of a session that has been promoted since the snapshot, and no
session is promoted while `poll_queued` has a request of it in hand.
-/
def KeptApart (σ : ProxyServer) : ServerAction → Prop
  | .poll received _ _ => ∀ session ∈ σ.takes received, session ∉ promotions σ.history
  | .work _ _ _ => ∀ session ∈ σ.promotes, ∀ hand ∈ σ.pollHand, hand.1 ≠ session
  | _ => True

instance (σ : ProxyServer) (action : ServerAction) : Decidable (σ.KeptApart action) :=
  match action with
  | .poll received _ _ =>
    inferInstanceAs (Decidable (∀ session ∈ σ.takes received, session ∉ promotions σ.history))
  | .work _ _ _ =>
    inferInstanceAs (Decidable (∀ session ∈ σ.promotes, ∀ hand ∈ σ.pollHand, hand.1 ≠ session))
  | .accept _ | .throw | .arrive _ _ | .disconnect _ | .setHealth _ _ =>
    inferInstanceAs (Decidable True)

/-- What holds while polling and promotion keep off each other's sessions. -/
structure Apart (σ : ProxyServer) : Prop where
  hand : ∀ session message, σ.pollHand = some (session, message) →
    session ∉ promotions σ.history
  slots : ∀ session, (σ.sessions session).pendingFirstMessage ≠ none →
    .slotRead session ∉ σ.history
  reads : ∀ session, .slotRead session ∈ σ.history → session ∈ promotions σ.history
  /-- The active dispatch never answers that the proxy is busy. -/
  busy : ∀ session id answer, σ.worker = .replying session id answer → answer.neverBusy = true
  events : Trace.Always Disposes σ.history

variable {config : ProxyConfig} {σ next : ProxyServer}

/-- A neutral event is fine at any time. -/
theorem disposes_of_neutral {event : ServerEvent} (neutral : event.neutral = true)
    (earlier : List ServerEvent) : Disposes earlier event := by
  unfold Disposes
  split <;> simp_all [ServerEvent.neutral]

/-- A neutral event takes no turn. -/
theorem takesTurn_of_neutral {event : ServerEvent} (neutral : event.neutral = true) :
    event.takesTurn = false := by
  cases event <;> simp_all [ServerEvent.neutral, ServerEvent.takesTurn]

/-- Without a turn taken, nobody is promoted. -/
theorem promotions_append {events history : List ServerEvent}
    (turns : ∀ event ∈ events, event.takesTurn = false) :
    promotions (events ++ history) = promotions history := by
  -- Only an event that takes the turn is counted.
  apply picked_append
  intro event member
  have this := turns event member
  cases event <;> simp_all [ServerEvent.takesTurn]

/-- A step on which no turn is taken keeps the sessions apart. -/
theorem Apart.of_events (apart : Apart σ) (events : List ServerEvent)
    (history : next.history = events ++ σ.history)
    (turns : ∀ event ∈ events, event.takesTurn = false)
    (fits : Trace.Always Disposes (events ++ σ.history))
    (hand : ∀ session message, next.pollHand = some (session, message) →
      session ∉ promotions σ.history)
    (slots : ∀ session, (next.sessions session).pendingFirstMessage ≠ none →
      .slotRead session ∉ σ.history)
    (busy : ∀ session id answer, next.worker = .replying session id answer →
      answer.neverBusy = true) : Apart next := by
  have promoted := @promotions_append events σ.history turns
  -- No new event reads a slot.
  have reads : ∀ session, .slotRead session ∈ next.history → .slotRead session ∈ σ.history := by
    intro session member
    rw [history] at member
    rcases List.mem_append.mp member with new | old
    · exact absurd (turns _ new) (by simp [ServerEvent.takesTurn])
    · exact old
  refine ⟨?_, ?_, ?_, busy, history ▸ fits⟩
  · rw [history, promoted]
    exact hand
  · exact fun session pending read => slots session pending (reads session read)
  · rw [history, promoted, ← history]
    exact fun session member => apart.reads session (reads session member)

/-- A step with neutral events keeps the sessions apart. -/
theorem Apart.of_neutral (apart : Apart σ) (events : List ServerEvent)
    (history : next.history = events ++ σ.history)
    (neutral : ∀ event ∈ events, event.neutral = true)
    (hand : ∀ session message, next.pollHand = some (session, message) →
      session ∉ promotions σ.history)
    (slots : ∀ session, (next.sessions session).pendingFirstMessage ≠ none →
      .slotRead session ∉ σ.history)
    (busy : ∀ session id answer, next.worker = .replying session id answer →
      answer.neverBusy = true) : Apart next := by
  refine apart.of_events events history
    (fun event member => takesTurn_of_neutral (neutral event member)) ?_ hand slots busy
  -- A neutral event is fine in any place.
  apply apart.events.append
  intro later event between whole
  exact disposes_of_neutral (neutral event (by simp [whole])) _

/-- What `poll_queued` has in hand belongs to a session that waits. -/
theorem Apart.waits (apart : Apart σ) (queued : Queued config σ) {session : Nat}
    {message : Nat × ClientPayload} (hand : σ.pollHand = some (session, message)) :
    Waits σ.history session := by
  -- What the hand holds belongs to the session that is polled.
  have here : σ.polled = some session := by
    obtain ⟨round, underway, holding⟩ := Option.bind_eq_some_iff.mp hand
    have task : round.task.session = some session := by
      cases point : round.task <;> rw [point] at holding <;> simp [PollTask.hand] at holding <;>
        simp [PollTask.session, holding]
    simp [polled, underway, task]
  have admitted : session ∈ admissions σ.history := by
    apply queued.snapshot
    obtain ⟨round, underway, task⟩ := Option.bind_eq_some_iff.mp here
    simp [ProxyServer.ahead, underway, PollQueued.ahead, task]
  refine ⟨admitted, apart.hand session message hand, fun dropped => ?_⟩
  exact queued.offline session admitted (queued.gone session (.inl dropped))

/-- Emptying a pending slot fills no other one. -/
theorem pending_of_setPending {owner session : Nat}
    (pending : ((σ.setPending owner none).sessions session).pendingFirstMessage ≠ none) :
    (σ.sessions session).pendingFirstMessage ≠ none := by
  -- Clearing one slot fills none.
  by_cases same : session = owner
  · rw [same] at pending
    simp [setPending, setSession] at pending
  · simpa [setPending, setSession, Function.update_of_ne same] using pending

/-- A command sent to the backends is neutral. -/
theorem commandEvent_neutral (session : Nat) (command : Option BackendCommand) :
    ∀ event ∈ commandEvent session command, event.neutral = true := by
  intro event member
  -- A command to a backend is neither an answer nor a settlement.
  obtain ⟨sent, -, rfl⟩ := List.mem_map.mp member
  rfl

/-- Going on with a round and nothing in hand keeps the sessions apart. -/
theorem Apart.emptyHanded (apart : Apart σ) {task : PollTask} (free : task.hand = none)
    (rest toDrop : List Nat) : Apart (σ.polling task rest toDrop) := by
  -- With an empty hand nothing can be held twice.
  refine apart.of_neutral [] rfl (by simp) (fun owner message hand => ?_) apart.slots apart.busy
  have nothing : (σ.polling task rest toDrop).pollHand = none := free
  simp [nothing] at hand

/-- Going on with the session thread keeps the sessions apart, if it has nothing to answer. -/
theorem Apart.silent (apart : Apart σ) {worker : SessionThread}
    (unanswering : ∀ session id answer, worker ≠ .replying session id answer) :
    Apart (σ.working worker) :=
  -- A worker that does not reply holds no reply apart.
  apart.of_neutral [] rfl (by simp) apart.hand apart.slots fun session id answer replying =>
    absurd replying (unanswering session id answer)

/-- Coming to a session of the snapshot keeps off promoted sessions. -/
theorem Apart.pollNext (apart : Apart σ) {session : Nat} {rest toDrop : List Nat}
    {received : RecvStatus} (poll : σ.poll = some ⟨.next, session :: rest, toDrop⟩)
    (kept : ∀ session ∈ σ.takes received, session ∉ promotions σ.history) :
    Apart (σ.pollNext session rest toDrop) := by
  unfold ProxyServer.pollNext
  split
  case isFalse => exact apart.emptyHanded rfl _ _
  case isTrue connected =>
    split
    case h_1 number request pending =>
      -- A session whose pending message is taken up has not been promoted.
      refine apart.of_neutral [] rfl (by simp) (fun owner message hand => ?_)
        (fun other held => apart.slots other (pending_of_setPending held)) apart.busy
      obtain ⟨rfl, -⟩ : session = owner ∧ (number, ClientPayload.request request) = message := by
        simpa [pollHand, polling, PollTask.hand] using hand
      exact kept session (by simp [takes, poll, connected, pending])
    case h_2 => exact apart.emptyHanded rfl _ _

/-- Receiving from a session of the snapshot keeps off promoted sessions. -/
theorem Apart.pollReceive (apart : Apart σ) {session : Nat} {rest toDrop : List Nat}
    {received : RecvStatus} (poll : σ.poll = some ⟨.receiving session, rest, toDrop⟩)
    (kept : ∀ session ∈ σ.takes received, session ∉ promotions σ.history)
    (stepped : σ.pollReceive received session rest toDrop = some next) : Apart next := by
  unfold ProxyServer.pollReceive at stepped
  split at stepped
  case h_1 number payload inbox front =>
    cases stepped
    -- Whatever is taken up into the hand is of a session that has not been promoted.
    have taken : payload.wellFormed = true → session ∉ promotions σ.history :=
      fun formed => kept session (by simp [takes, poll, front, formed])
    have slots : ∀ other,
        ((σ.setInbox session inbox).sessions other).pendingFirstMessage ≠ none →
        .slotRead other ∉ σ.history :=
      fun other held => apart.slots other (by simpa using held)
    unfold pollReceived
    split
    · refine apart.of_neutral (commandEvent session _) rfl (commandEvent_neutral _ _)
        (fun owner message hand => ?_) (fun other held => slots other ?_) apart.busy
      · obtain ⟨rfl, -⟩ : session = owner ∧ (number, ClientPayload.ping) = message := by
          simpa [pollHand, polling, PollTask.hand] using hand
        exact taken rfl
      · simpa [polling] using held
    · rename_i request
      refine apart.of_neutral [] rfl (by simp) (fun owner message hand => ?_) slots apart.busy
      obtain ⟨rfl, -⟩ : session = owner ∧ (number, ClientPayload.request request) = message := by
        simpa [pollHand, polling, PollTask.hand] using hand
      exact taken rfl
    · exact apart.of_neutral [.skipped session number] rfl
        (by simp [ServerEvent.neutral, ServerEvent.takesTurn])
        (by simp [pollHand, polling, PollTask.hand]) slots apart.busy
  case h_2 =>
    cases stepped
    exact apart.emptyHanded rfl _ _
  case h_3 =>
    split at stepped
    · simp at stepped
    · cases stepped
      exact apart.emptyHanded rfl _ _
  case h_4 => simp at stepped

/-- Putting a request back is fine while its session waits. -/
theorem Apart.pollStash (apart : Apart σ) (queued : Queued config σ) {session number : Nat}
    {request : ClientRequest} {rest toDrop : List Nat}
    (hand : σ.pollHand = some (session, number, .request request)) :
    Apart (σ.pollStash session number request rest toDrop) := by
  have waits := apart.waits queued hand
  -- Slots are read by the active dispatch only, and this session is not active.
  have unread : .slotRead session ∉ σ.history := fun read => waits.2.1 (apart.reads session read)
  refine apart.of_events [.stashed session number] rfl (by simp [ServerEvent.takesTurn])
    ⟨⟨waits, unread⟩, apart.events⟩ ?_ (fun other held => ?_) apart.busy
  · simp [pollHand, ProxyServer.pollStash, polling, PollTask.hand]
  · by_cases same : other = session
    · exact same ▸ unread
    · apply apart.slots other
      simpa [ProxyServer.pollStash, polling, record, setPending, setSession,
        Function.update_of_ne same] using held

/-- Something sent to a session that is not promoted is fine, whatever it is. -/
theorem disposes_sent {session : Nat} {reply : ClientReply} {earlier : List ServerEvent}
    (fine : session ∉ promotions earlier ∨ ∀ id, reply ≠ .message id .busyResponse) :
    Disposes earlier (.sent session reply) := by
  unfold Disposes
  split <;> simp_all

/-- What is sent to a client takes no turn. -/
theorem replyEvent_takesTurn (session : Nat) (reply : Option ClientReply) :
    ∀ event ∈ replyEvent session reply, event.takesTurn = false := by
  intro event member
  -- A reply is sent in the turn, and takes none.
  obtain ⟨sent, -, rfl⟩ := List.mem_map.mp member
  rfl

/-- Answering a request is fine while its session waits. -/
theorem Apart.pollReply (apart : Apart σ) (queued : Queued config σ) {session number : Nat}
    {payload : ClientPayload} {answer : Answer} {outcome : BackendOutcome}
    {rest toDrop : List Nat} (hand : σ.pollHand = some (session, number, payload)) :
    Apart (pollReply outcome σ session number payload answer rest toDrop) := by
  have waits := apart.waits queued hand
  have still : session ∉ promotions (.answered session number payload :: σ.history) := by
    rw [← List.singleton_append, promotions_append (by simp [ServerEvent.takesTurn])]
    exact waits.2.1
  refine apart.of_events (replyEvent session (answer.reply payload.id outcome) ++
    [.answered session number payload]) rfl (fun event member => ?_) ?_ ?_ apart.slots apart.busy
  · rcases List.mem_append.mp member with sent | last
    · exact replyEvent_takesTurn _ _ event sent
    · rw [List.mem_singleton.mp last]
      rfl
  · -- Even a busy response is fine, since nobody has promoted the session.
    cases answer.reply payload.id outcome with
    | none => exact ⟨waits, apart.events⟩
    | some sent => exact ⟨disposes_sent (.inl still), waits, apart.events⟩
  · simp [pollHand, ProxyServer.pollReply, polling, PollTask.hand]

/-- Every step of `poll_queued` that keeps off promoted sessions disposes of requests in place. -/
theorem Apart.pollQueued (apart : Apart σ) (queued : Queued config σ) {received : RecvStatus}
    {reachable : Bool} {outcome : BackendOutcome}
    (kept : ∀ session ∈ σ.takes received, session ∉ promotions σ.history)
    (stepped : pollQueued config received reachable outcome σ = some next) : Apart next := by
  unfold ProxyServer.pollQueued at stepped
  split at stepped
  case h_1 =>
    cases stepped
    unfold startPoll
    split
    · exact apart
    · exact apart.emptyHanded rfl _ _
  case h_2 toDrop poll =>
    -- Dropping sessions disposes of no request.
    cases stepped
    obtain ⟨deque, events, dropped, only⟩ := dropAll_eq toDrop σ
    rw [endPoll, dropped]
    refine apart.of_neutral events rfl (fun event member => ?_) (by simp [pollHand]) apart.slots
      apart.busy
    obtain ⟨session, rfl⟩ := only event member
    rfl
  case h_3 poll =>
    cases stepped
    exact apart.pollNext poll kept
  case h_4 poll => exact apart.pollReceive poll kept stepped
  case h_5 poll =>
    -- The hand stays on the same request.
    cases stepped
    unfold pollCheck
    split
    all_goals
      refine apart.of_neutral [] rfl (by simp) (fun owner message hand => ?_) apart.slots apart.busy
      exact apart.hand owner message (by simpa [pollHand, poll, polling, PollTask.hand] using hand)
  case h_6 poll =>
    cases stepped
    exact apart.pollStash queued (by simp [pollHand, poll, PollTask.hand])
  case h_7 session number request rest toDrop poll =>
    -- The handler's commands go to the backends, and the hand stays on the request.
    cases stepped
    refine apart.of_neutral (commandEvent session _) rfl (commandEvent_neutral _ _)
      (fun owner message hand => ?_) (fun other held => apart.slots other ?_) apart.busy
    · refine apart.hand owner message ?_
      simpa [pollHand, poll, pollServe, polling, PollTask.hand] using hand
    · simpa [pollServe, polling] using held
  case h_8 poll =>
    cases stepped
    exact apart.pollReply queued (by simp [pollHand, poll, PollTask.hand])

/-- What follows from an answer that is never busy is not the busy response. -/
theorem reply_ne_busy {answer : Answer} (never : answer.neverBusy = true) {id : String}
    {outcome : BackendOutcome} {reply : ClientReply} (sent : answer.reply id outcome = some reply) :
    ∀ other, reply ≠ .message other .busyResponse := by
  rintro other rfl
  -- Only a fixed payload could be a busy response.
  cases answer with
  | nothing => simp [Answer.reply] at sent
  | fixed payload =>
    simp only [Answer.reply, Option.some.injEq, ClientReply.message.injEq] at sent
    simp [sent.2, Answer.neverBusy] at never
  | broadcast success =>
    simp only [Answer.reply, Option.some.injEq, ClientReply.message.injEq] at sent
    split at sent
    · simp at sent
    · simp [sent.2, Answer.neverBusy] at never
  | update command => simp [Answer.reply] at sent
  | overloadStatus =>
    simp only [Answer.reply, Option.some.injEq, ClientReply.message.injEq] at sent
    split at sent
    · simp at sent
    · split at sent <;> simp at sent
  | extract | ping =>
    simp only [Answer.reply] at sent
    split at sent <;> simp at sent

/-- The active dispatch never answers that the proxy is busy. -/
theorem dispatchMessage_neverBusy (config : ProxyConfig) (authenticated reachable : Bool)
    (request : ClientRequest) :
    (Handling.dispatchMessage config authenticated reachable request).answer.neverBusy = true := by
  -- Each handler answers with its own payloads.
  unfold Handling.dispatchMessage
  split
  · rfl
  · split
    case h_2 path =>
      unfold Handling.handleExtract
      split
      · rfl
      · split
        · split <;> rfl
        · rfl
    case h_3 paths =>
      unfold Handling.handleConfig
      split <;> rfl
    case h_5 token =>
      unfold Handling.handleAuth
      split
      · split <;> rfl
      · rfl
    all_goals rfl

/-- Taking a request on is fine for the active session. -/
theorem Apart.dispatch (apart : Apart σ) {τ : ProxyServer} {session number : Nat}
    {payload : ClientPayload} {handling : Handling}
    (promoted : session ∈ promotions σ.history) (never : handling.answer.neverBusy = true)
    (history : τ.history = σ.history) (poll : τ.poll = σ.poll)
    (slots : ∀ other, (τ.sessions other).pendingFirstMessage ≠ none →
      (σ.sessions other).pendingFirstMessage ≠ none) :
    Apart (τ.dispatch handling session number payload) := by
  refine apart.of_events (commandEvent session handling.command ++
    [.dispatched session number payload]) ?_ (fun event member => ?_) ?_
    (fun owner message hand => ?_) (fun other held => apart.slots other (slots other ?_)) ?_
  · simp [ProxyServer.dispatch, working, ProxyServer.handle, record, setSession, history]
  · rcases List.mem_append.mp member with sent | last
    · exact takesTurn_of_neutral (commandEvent_neutral _ _ event sent)
    · rw [List.mem_singleton.mp last]
      rfl
  · -- The command, if there is one, is recorded after the request is taken on.
    cases handling.command with
    | none => exact ⟨promoted, apart.events⟩
    | some command => exact ⟨trivial, promoted, apart.events⟩
  · refine apart.hand owner message ?_
    rw [← hand, pollHand, ← poll]
    rfl
  · simpa [ProxyServer.dispatch, working, record] using held
  · intro other id answer replying
    simp only [ProxyServer.dispatch, working, SessionThread.replying.injEq] at replying
    exact replying.2.2 ▸ never

/-- Dropping the disconnected fronts leaves the queue from the first connected session on. -/
theorem dropFronts_deque (σ : ProxyServer) : σ.dropFronts.sessionDeque =
    σ.sessionDeque.dropWhile fun session => !(σ.sessions session).connected := by
  -- Each session dropped is the front of what is left of the queue.
  have popped : ∀ (fronts rest : List Nat) (τ : ProxyServer), τ.sessionDeque = fronts ++ rest →
      (fronts.foldl dropSession τ).sessionDeque = rest := by
    intro fronts
    induction fronts with
    | nil => exact fun rest τ whole => whole
    | cons front fronts ih =>
      intro rest τ whole
      apply ih
      simp [dropSession, whole, record]
  exact popped _ _ σ (List.takeWhile_append_dropWhile).symm

/-- Promoting a session that polling has nothing of in hand keeps the sessions apart. -/
theorem Apart.promoteFront (apart : Apart σ)
    (free : ∀ session rest, σ.sessionDeque = session :: rest → σ.allBackendsHealthy = true →
      ∀ message, σ.pollHand ≠ some (session, message)) : Apart σ.promoteFront := by
  unfold ProxyServer.promoteFront
  split
  case h_2 => exact apart
  case h_1 session rest front =>
    split
    case isFalse => exact apart
    case isTrue healthy =>
      have unheld := free session rest front healthy
      refine ⟨fun owner message hand => ?_, fun other held read => ?_, fun other read => ?_, ?_,
        ⟨trivial, apart.events⟩⟩
      · -- The hand is on some other session's request.
        have held : σ.pollHand = some (owner, message) := hand
        have other : owner ≠ session := fun same => unheld message (same ▸ held)
        have before := apart.hand owner message held
        simp only [working, record, List.singleton_append, promotions_promoted]
        simp [before, other]
      · exact apart.slots other held (by simpa [working, record] using read)
      · have before := apart.reads other (by simpa [working, record] using read)
        simp only [working, record, List.singleton_append, promotions_promoted]
        exact List.mem_append_left _ before
      · simp [working]

/-- Reading the slot of the session just promoted empties it. -/
theorem Apart.takePending (apart : Apart σ) (queued : Queued config σ) {session : Nat}
    (promoted : σ.worker = .promoted session) : Apart (σ.takePending session) := by
  have listed : session ∈ promotions σ.history :=
    queued.promoted_of_active (by rw [promoted]; rfl)
  have same : promotions (.slotRead session :: σ.history) = promotions σ.history := by
    simp [promotions, picked]
  refine ⟨fun owner message hand => ?_, fun other held read => ?_, fun other read => ?_, ?_,
    ⟨trivial, apart.events⟩⟩
  · exact same ▸ apart.hand owner message hand
  · -- The slot just read is empty, and the other ones are as they were.
    have different : other ≠ session := by
      rintro rfl
      simp [ProxyServer.takePending, working, record, setPending, setSession] at held
    refine apart.slots other (pending_of_setPending held) ?_
    simpa [ProxyServer.takePending, working, record, setPending, setSession, different] using read
  · have either : other = session ∨ .slotRead other ∈ σ.history := by
      simpa [ProxyServer.takePending, working, record, setPending, setSession] using read
    refine same ▸ ?_
    rcases either with rfl | before
    · exact listed
    · exact apart.reads other before
  · intro other id answer replying
    simp only [ProxyServer.takePending, working] at replying
    split at replying <;> simp at replying

/-- One turn of the active session's loop disposes of requests in place. -/
theorem Apart.loopTurn (apart : Apart σ) (queued : Queued config σ) {turn : LoopTurn}
    {session : Nat} (looping : σ.worker = .looping session)
    (stepped : σ.loopTurn turn session = some next) : Apart next := by
  have promoted : session ∈ promotions σ.history :=
    queued.promoted_of_active (by rw [looping]; rfl)
  unfold ProxyServer.loopTurn at stepped
  split at stepped
  · cases stepped
    exact apart.silent (by simp)
  · cases stepped
    exact apart.of_neutral [_] rfl (by simp [ServerEvent.neutral, ServerEvent.takesTurn]) apart.hand
      apart.slots (by simp [working])
  · unfold loopReceive at stepped
    split at stepped
    case h_1 number payload inbox front =>
      cases stepped
      have slots : ∀ other,
          ((σ.setInbox session inbox).sessions other).pendingFirstMessage ≠ none →
          (σ.sessions other).pendingFirstMessage ≠ none := fun other held => by simpa using held
      have unread : ∀ other,
          ((σ.setInbox session inbox).sessions other).pendingFirstMessage ≠ none →
          .slotRead other ∉ σ.history := fun other held => apart.slots other (slots other held)
      -- A message is dispatched, left to the loop or skipped.
      unfold loopReceived
      split
      · exact apart.dispatch promoted rfl rfl rfl slots
      · exact apart.of_neutral [] rfl (by simp) apart.hand unread (by simp [working])
      · exact apart.of_neutral [.skipped session number] rfl
          (by simp [ServerEvent.neutral, ServerEvent.takesTurn]) apart.hand unread
          (by simp [working])
    case h_2 =>
      cases stepped
      exact apart.silent (by simp)
    case h_3 =>
      cases stepped
      exact apart.silent (by simp)
    case h_4 => simp at stepped

/-- Every step of the session thread that keeps off what is in hand disposes in place. -/
theorem Apart.sessionLoop (apart : Apart σ) (queued : Queued config σ) {turn : LoopTurn}
    {reachable : Bool} {outcome : BackendOutcome}
    (kept : ∀ session ∈ σ.promotes, ∀ hand ∈ σ.pollHand, hand.1 ≠ session)
    (stepped : sessionLoop config turn reachable outcome σ = some next) : Apart next := by
  unfold ProxyServer.sessionLoop at stepped
  split at stepped
  case h_1 idle =>
    -- A session is promoted only if the hand of `poll_queued` is not on a request of it.
    cases stepped
    obtain ⟨deque, events, dropped, only⟩ := dropAll_eq
      (σ.sessionDeque.takeWhile fun session => !(σ.sessions session).connected) σ
    have fronts : σ.dropFronts = { σ with sessionDeque := deque, history := events ++ σ.history } :=
      dropped
    have still : Apart σ.dropFronts := by
      rw [fronts]
      refine apart.of_neutral events rfl (fun event member => ?_) apart.hand apart.slots apart.busy
      obtain ⟨session, rfl⟩ := only event member
      rfl
    refine still.promoteFront fun session rest front healthy message hand => ?_
    -- The front of the queue is now the first session whose client is still there.
    have first : σ.sessionDeque.find? (fun other => (σ.sessions other).connected) =
        some session := by
      rw [List.find?_eq_head?_dropWhile_not, ← dropFronts_deque, front]
      rfl
    rw [fronts] at healthy hand
    refine kept session ?_ (session, message) hand rfl
    simp only [promotes, idle, decide_true, Bool.true_and]
    have well : σ.allBackendsHealthy = true := healthy
    rw [if_pos well]
    exact first
  case h_2 promoted =>
    cases stepped
    exact apart.takePending queued promoted
  case h_3 session number request dispatching =>
    -- Dispatching is in place, since the session is the active one.
    cases stepped
    exact apart.dispatch (queued.promoted_of_active (by rw [dispatching]; rfl))
      (dispatchMessage_neverBusy _ _ _ _) rfl rfl fun _ held => held
  case h_4 session id answer replying =>
    -- The active dispatch has its own answers, none of which says that the proxy is busy.
    cases stepped
    have never := apart.busy session id answer replying
    refine apart.of_events (replyEvent session (answer.reply id outcome)) rfl
      (replyEvent_takesTurn _ _) ?_ apart.hand apart.slots (by simp [working])
    cases reply : answer.reply id outcome with
    | none => exact apart.events
    | some sent => exact ⟨disposes_sent (.inr (reply_ne_busy never reply)), apart.events⟩
  case h_5 looping => exact apart.loopTurn queued looping stepped
  case h_6 =>
    cases stepped
    exact apart.of_neutral [_] rfl (by simp [ServerEvent.neutral, ServerEvent.takesTurn]) apart.hand
      apart.slots (by simp [endSession, working])

/-- Every step on which polling and promotion keep apart disposes of requests in place. -/
theorem Apart.step (apart : Apart σ) (queued : Queued config σ) {action : ServerAction}
    (kept : σ.KeptApart action) (stepped : step config σ action = some next) : Apart next := by
  cases action with
  | accept first =>
    simp only [ProxyServer.step, Option.ite_none_right_eq_some, Option.some.injEq] at stepped
    obtain ⟨accepting, rfl⟩ := stepped
    -- Nobody has read a slot of the session that is only now accepted.
    have unread : .slotRead σ.accepted ∉ σ.history := by
      intro read
      have admitted := queued.fair.admitted_of_served (apart.reads _ read)
      exact absurd (queued.known _ admitted) (lt_irrefl _)
    have slots : ∀ client other,
        (Function.update σ.sessions σ.accepted client other).pendingFirstMessage ≠ none →
        .slotRead other ∉ σ.history := by
      intro client other held
      by_cases same : other = σ.accepted
      · exact same ▸ unread
      · rw [Function.update_of_ne same] at held
        exact apart.slots other held
    unfold ProxyServer.accept
    split
    · exact apart.of_neutral _ rfl (by simp [ServerEvent.neutral, ServerEvent.takesTurn]) apart.hand
        apart.slots apart.busy
    · split
      · unfold ProxyServer.admitSession
        split
        · exact apart.of_neutral [_, _] rfl (by simp [ServerEvent.neutral, ServerEvent.takesTurn])
            apart.hand (slots _) apart.busy
        · exact apart.of_neutral [_] rfl (by simp [ServerEvent.neutral, ServerEvent.takesTurn])
            apart.hand (slots _) apart.busy
      · exact apart.of_neutral _ rfl (by simp [ServerEvent.neutral, ServerEvent.takesTurn])
          apart.hand apart.slots apart.busy
  | poll received reachable outcome => exact apart.pollQueued queued kept stepped
  | work turn reachable outcome => exact apart.sessionLoop queued kept stepped
  | throw =>
    -- Nothing is answered once a handler has raised.
    simp only [ProxyServer.step] at stepped
    split at stepped
    · cases stepped
      exact apart.silent (by simp)
    · simp at stepped
  | arrive session payload =>
    -- A message in a transport is still to be taken up.
    simp only [ProxyServer.step, Option.ite_none_right_eq_some, Option.some.injEq] at stepped
    obtain ⟨connected, rfl⟩ := stepped
    refine apart.of_neutral [_] rfl (by simp [ServerEvent.neutral, ServerEvent.takesTurn]) apart.hand
      (fun other held => apart.slots other ?_) apart.busy
    rw [← pending_setInbox]
    exact held
  | disconnect session =>
    simp only [ProxyServer.step, Option.ite_none_right_eq_some, Option.some.injEq] at stepped
    obtain ⟨connected, rfl⟩ := stepped
    refine apart.of_neutral [_] rfl (by simp [ServerEvent.neutral, ServerEvent.takesTurn]) apart.hand
      (fun other held => apart.slots other ?_) apart.busy
    rw [← pending_setSession σ session { σ.sessions session with connected := false } rfl other]
    exact held
  | setHealth backend health =>
    cases stepped
    exact apart.of_neutral [] rfl (by simp) apart.hand apart.slots apart.busy

/-- A server without clients has nothing to keep apart. -/
theorem Apart.initial (health : List BackendHealth) : Apart (initial health) := by
  constructor <;> simp [ProxyServer.initial, pollHand, Trace.Always]

/-- What has arrived and is not carried any more has been answered or dispatched. -/
theorem Conserved.disposed (conserved : Conserved σ) {session number : Nat} {payload : ClientPayload}
    (arrived : .arrived session number payload ∈ σ.history) (formed : payload.wellFormed = true) :
    (number, payload) ∈ σ.carried session ∨
      .answered session number payload ∈ σ.history ∨
      .dispatched session number payload ∈ σ.history := by
  have member : (number, payload) ∈ named ServerEvent.arrival session σ.history :=
    mem_named.mpr ⟨_, arrived, rfl⟩
  rw [← conserved.balance session] at member
  rcases Multiset.mem_add.mp member with held | settled
  · exact .inl held
  · obtain ⟨event, recorded, found⟩ := mem_named.mp settled
    cases event <;> simp only [ServerEvent.settlement, Option.some.injEq, Prod.mk.injEq,
      reduceCtorEq] at found
    · obtain ⟨rfl, rfl, rfl⟩ := found
      exact .inr (.inl recorded)
    · obtain ⟨rfl, rfl, rfl⟩ := found
      exact .inr (.inr recorded)
    · -- Only what cannot be read is skipped.
      rw [← found.2.2] at formed
      simp [ClientPayload.wellFormed] at formed

/--
Every request is disposed of while polling and promotion keep apart.

In every run in which `poll_queued` takes no request of a session promoted since its snapshot, and
no session is promoted while `poll_queued` has a request of it in hand, each request is dispatched by
the active dispatch or answered or stashed while its session waits, none is lost and none is
processed twice.
-/
theorem requests_disposed (config : ProxyConfig) (health : List BackendHealth)
    (actions : List ServerAction) (final : ProxyServer)
    (apart : Transition.Meets (step config) KeptApart (initial health) actions)
    (ran : Transition.run (step config) (initial health) actions = some final) :
    Disposed final := by
  -- The three invariants are kept by one step together.
  have keeps : ∀ σ action next, (Queued config σ ∧ Conserved σ ∧ Apart σ) → KeptApart σ action →
      step config σ action = some next → Queued config next ∧ Conserved next ∧ Apart next := by
    rintro σ action next ⟨queued, conserved, apart⟩ kept stepped
    exact ⟨queued.step stepped, conserved.step queued stepped, apart.step queued kept stepped⟩
  obtain ⟨_, conserved, apart⟩ := Transition.run_preserves keeps actions (initial health) final
    ⟨.initial config health, .initial health, .initial health⟩ apart ran
  refine ⟨?_, conserved.once, apart.slots, fun later event earlier whole => ?_⟩
  · exact fun session number payload arrived formed => conserved.disposed arrived formed
  · have events := apart.events
    rw [whole] at events
    exact events.at

/-- A reset command. -/
def resetRequest : ClientRequest := ⟨"reset", .resetCommand⟩

/-- The server thread's next step, without a message in the transport. -/
def pollOn : ServerAction := .poll .timeout true allWell

/-- The session thread's next step, without a message in the transport. -/
def workOn : ServerAction := .work (.receive .timeout) true allWell

/-- A reset command that comes while the backend is dead waits, and is dispatched once it is well. -/
def stashedReset : List ServerAction :=
  .accept (some (.request resetRequest)) :: List.replicate 5 pollOn ++
    .setHealth 0 .healthy :: List.replicate 4 workOn

/-- The stashed reset command is disposed of by the active dispatch. -/
theorem stashed_reset_disposed : ∃ final,
    Transition.run (step twoSessions) (initial [.dead]) stashedReset = some final ∧
      .stashed 0 0 ∈ final.history ∧ .dispatched 0 0 (.request resetRequest) ∈ final.history ∧
      Disposed final := by
  refine ⟨_, rfl, ?_, ?_, requests_disposed twoSessions [.dead] stashedReset _ ?_ rfl⟩
  all_goals decide

/-- The session is promoted while `poll_queued` has its request in hand, and then told to wait. -/
def busyReset : List ServerAction :=
  .accept (some (.request resetRequest)) :: List.replicate 2 pollOn ++
    workOn :: List.replicate 3 pollOn

/-- The active dispatch reads the slot before `poll_queued` puts the request back into it. -/
def lostReset : List ServerAction :=
  .accept (some (.request resetRequest)) :: List.replicate 2 pollOn ++ List.replicate 2 workOn ++
    .setHealth 0 .dead :: List.replicate 2 pollOn

/--
A request can be answered that the proxy is busy by the time its session is the active one, or be
put into a slot that nobody is going to read.
-/
theorem requests_misplaced :
    (∃ final, Transition.run (step twoSessions) (initial [.healthy]) busyReset = some final ∧
      final.active = some 0 ∧
      final.history = [.sent 0 (.message "reset" .busyResponse),
        .answered 0 0 (.request resetRequest), .promoted 0 [.healthy],
        .arrived 0 0 (.request resetRequest), .admitted 0] ∧ ¬Disposed final) ∧
    ∃ final, Transition.run (step twoSessions) (initial [.healthy]) lostReset = some final ∧
      final.active = some 0 ∧
      (final.sessions 0).pendingFirstMessage = some (0, resetRequest) ∧
      .slotRead 0 ∈ final.history ∧ ¬Disposed final := by
  refine ⟨⟨_, rfl, rfl, rfl, fun disposed => ?_⟩, _, rfl, rfl, rfl, by decide, fun disposed => ?_⟩
  · -- The busy response was sent after the promotion.
    have unpromoted := disposed.inPlace [] (.sent 0 (.message "reset" .busyResponse))
      [.answered 0 0 (.request resetRequest), .promoted 0 [.healthy],
        .arrived 0 0 (.request resetRequest), .admitted 0] rfl
    exact unpromoted (by decide)
  · exact disposed.slots 0 (by decide) (by decide)

end ProxyServer

end Pybrid
