import Pybrid.Proxy.SessionQueue

/-! The proxy's message account: what a session has sent is carried or settled, and never both. -/

namespace Pybrid

/-- A message in a thread's hand, with its session. -/
def PollTask.hand : PollTask → Option (Nat × Nat × ClientPayload)
  | .holding session number request | .stashing session number request
  | .serving session number request => some (session, number, .request request)
  | .replying session number payload _ => some (session, number, payload)
  | _ => none

/-- The message the session thread is about to dispatch, with its session. -/
def SessionThread.hand : SessionThread → Option (Nat × Nat × ClientPayload)
  | .dispatching session number request => some (session, number, .request request)
  | _ => none

/-- The messages in a session's transport and in its pending slot. -/
def ClientSession.held (client : ClientSession) : Multiset (Nat × ClientPayload) :=
  (client.inbox : Multiset (Nat × ClientPayload)) +
    client.pendingFirstMessage.elim 0 fun pending => {(pending.1, .request pending.2)}

/-- The message that has arrived, with its session. -/
def ServerEvent.arrival : ServerEvent → Option (Nat × Nat × ClientPayload)
  | .arrived session number payload => some (session, number, payload)
  | _ => none

/-- The message that has been answered, dispatched or skipped, with its session. -/
def ServerEvent.settlement : ServerEvent → Option (Nat × Nat × ClientPayload)
  | .answered session number payload | .dispatched session number payload =>
    some (session, number, payload)
  | .skipped session number => some (session, number, .unreadable)
  | _ => none

namespace ProxyServer

/-- A message in somebody's hand, if it is of this session. -/
def ofSession (session : Nat) : Option (Nat × Nat × ClientPayload) → Multiset (Nat × ClientPayload)
  | some (owner, message) => if owner = session then {message} else 0
  | none => 0

/-- The message `poll_queued` has in hand. -/
def pollHand (σ : ProxyServer) : Option (Nat × Nat × ClientPayload) :=
  σ.poll.bind fun poll => poll.task.hand

/-- The session `poll_queued` has come to. -/
def polled (σ : ProxyServer) : Option Nat :=
  σ.poll.bind fun poll => poll.task.session

/-- The messages of a session: in its transport, in its pending slot or in a thread's hand. -/
def carried (σ : ProxyServer) (session : Nat) : Multiset (Nat × ClientPayload) :=
  (σ.sessions session).held + ofSession session σ.pollHand + ofSession session σ.worker.hand

/-- The messages of a session that events of one kind name. -/
def named (pick : ServerEvent → Option (Nat × Nat × ClientPayload)) (session : Nat) :
    List ServerEvent → Multiset (Nat × ClientPayload)
  | [] => 0
  | event :: earlier => ofSession session (pick event) + named pick session earlier

/-- The numbers of the messages that have arrived. -/
def arrivalNumbers (history : List ServerEvent) : List Nat :=
  history.filterMap fun event => event.arrival.map fun message => message.2.1

/-- Sessions not yet accepted have sent nothing. -/
def Unborn (σ : ProxyServer) : Prop :=
  ∀ session, σ.accepted ≤ session → σ.sessions session = ⟨false, [], none, false⟩

/-- The pending slot of the session `poll_queued` has come to is empty. -/
def SlotFree (σ : ProxyServer) : Prop :=
  ∀ session, σ.polled = some session → (σ.sessions session).pendingFirstMessage = none

/-- The account of the messages. -/
structure Conserved (σ : ProxyServer) : Prop where
  /-- What has arrived is carried or settled. -/
  balance : ∀ session, σ.carried session + named ServerEvent.settlement session σ.history =
    named ServerEvent.arrival session σ.history
  distinct : (arrivalNumbers σ.history).Nodup
  fresh : ∀ number ∈ arrivalNumbers σ.history, number < σ.arrivals
  slot : σ.SlotFree
  unborn : σ.Unborn

/-- What a step does to the account. -/
structure Moved (σ next : ProxyServer) : Prop where
  balance : ∃ events, next.history = events ++ σ.history ∧
    (∀ session, next.carried session + named ServerEvent.settlement session events =
      σ.carried session + named ServerEvent.arrival session events) ∧
    (arrivalNumbers events = [] ∧ next.arrivals = σ.arrivals ∨
      arrivalNumbers events = [σ.arrivals] ∧ next.arrivals = σ.arrivals + 1)
  slot : next.SlotFree
  unborn : next.Unborn

variable {config : ProxyConfig} {σ next : ProxyServer}

/-- Messages named by a longer record are those named by its parts. -/
theorem named_append (pick : ServerEvent → Option (Nat × Nat × ClientPayload)) (session : Nat)
    (events history : List ServerEvent) :
    named pick session (events ++ history) =
      named pick session events + named pick session history := by
  induction events with
  | nil => simp [named]
  | cons event events ih => simp [named, ih, add_assoc]

/-- A step that moves messages without losing or doubling one keeps the account. -/
theorem Conserved.of_moved (conserved : Conserved σ) (moved : Moved σ next) : Conserved next := by
  obtain ⟨events, history, balance, numbers⟩ := moved.balance
  have split : arrivalNumbers next.history = arrivalNumbers events ++ arrivalNumbers σ.history := by
    simp [arrivalNumbers, history]
  refine ⟨fun session => ?_, ?_, ?_, moved.slot, moved.unborn⟩
  · -- The step balances its own events, and the account balanced those before.
    calc next.carried session + named ServerEvent.settlement session next.history
      _ = next.carried session + named ServerEvent.settlement session events +
          named ServerEvent.settlement session σ.history := by
        rw [history, named_append, add_assoc]
      _ = σ.carried session + named ServerEvent.arrival session events +
          named ServerEvent.settlement session σ.history := by
        rw [balance session]
      _ = named ServerEvent.arrival session events +
          (σ.carried session + named ServerEvent.settlement session σ.history) := by
        rw [add_comm (σ.carried session), add_assoc]
      _ = named ServerEvent.arrival session next.history := by
        rw [conserved.balance session, history, named_append]
  · rw [split]
    rcases numbers with ⟨none, -⟩ | ⟨one, -⟩
    · simpa [none] using conserved.distinct
    · -- A message that arrives gets a number above all those given out.
      rw [one, List.singleton_append, List.nodup_cons]
      exact ⟨fun old => absurd (conserved.fresh _ old) (lt_irrefl _), conserved.distinct⟩
  · rw [split]
    intro number member
    rcases numbers with ⟨none, same⟩ | ⟨one, more⟩
    · rw [none, List.nil_append] at member
      exact same ▸ conserved.fresh number member
    · rw [one, List.singleton_append, List.mem_cons] at member
      rcases member with rfl | old
      · omega
      · have bound := conserved.fresh number old
        omega

/-- Changing what a session holds changes what is carried for it, and for nobody else. -/
theorem carried_setSession {owner : Nat} {client : ClientSession}
    {taken put : Multiset (Nat × ClientPayload)}
    (change : client.held + taken = (σ.sessions owner).held + put) (session : Nat) :
    (σ.setSession owner client).carried session + (if owner = session then taken else 0) =
      σ.carried session + (if owner = session then put else 0) := by
  by_cases same : owner = session
  · -- Of the three places, only what the session holds differs.
    subst same
    have updated : ((σ.setSession owner client).sessions owner) = client := by simp [setSession]
    have hands : (σ.setSession owner client).pollHand = σ.pollHand := rfl
    have worker : (σ.setSession owner client).worker = σ.worker := rfl
    simp only [carried, updated, hands, worker, if_true]
    rw [add_right_comm, add_right_comm client.held, change, add_right_comm _ put,
      add_right_comm _ put]
  · have updated : (σ.setSession owner client).sessions session = σ.sessions session := by
      simp [setSession, Function.update_of_ne (Ne.symm same)]
    simp only [carried, updated, if_neg same, add_zero]
    rfl

/-- A message taken from a transport is no longer carried there. -/
theorem carried_take {owner : Nat} {message : Nat × ClientPayload}
    {inbox : List (Nat × ClientPayload)} (front : (σ.sessions owner).inbox = message :: inbox)
    (session : Nat) : (σ.setInbox owner inbox).carried session + ofSession session (some (owner, message)) =
      σ.carried session := by
  -- The message goes from the inbox to the hand.
  have change : { σ.sessions owner with inbox := inbox }.held + {message} =
      (σ.sessions owner).held + 0 := by
    simp [ClientSession.held, front, ← Multiset.cons_coe, add_comm _ ({message} : Multiset _)]
  simpa [setInbox, ofSession] using carried_setSession change session

/-- A message that arrives is carried in the transport. -/
theorem carried_put (σ : ProxyServer) (owner : Nat) (message : Nat × ClientPayload)
    (session : Nat) : (σ.setInbox owner ((σ.sessions owner).inbox ++ [message])).carried session =
      σ.carried session + ofSession session (some (owner, message)) := by
  -- The message comes in behind those of the inbox.
  have change : { σ.sessions owner with inbox := (σ.sessions owner).inbox ++ [message] }.held + 0 =
      (σ.sessions owner).held + {message} := by
    simp only [ClientSession.held, ← Multiset.coe_add, Multiset.coe_singleton, add_zero]
    exact add_right_comm _ _ _
  simpa [setInbox, ofSession] using carried_setSession change session

/-- A message taken from the pending slot is no longer carried there. -/
theorem carried_unstash {owner number : Nat} {request : ClientRequest}
    (pending : (σ.sessions owner).pendingFirstMessage = some (number, request)) (session : Nat) :
    (σ.setPending owner none).carried session +
      ofSession session (some (owner, number, .request request)) = σ.carried session := by
  -- The request goes from the slot to the hand.
  have change : { σ.sessions owner with pendingFirstMessage := none }.held +
      {(number, .request request)} = (σ.sessions owner).held + 0 := by
    simp [ClientSession.held, pending]
  simpa [setPending, ofSession] using carried_setSession change session

/-- A message put into an empty pending slot is carried there. -/
theorem carried_stash {owner : Nat} (empty : (σ.sessions owner).pendingFirstMessage = none)
    (number : Nat) (request : ClientRequest) (session : Nat) :
    (σ.setPending owner (some (number, request))).carried session =
      σ.carried session + ofSession session (some (owner, number, .request request)) := by
  -- The slot was empty, so nothing is overwritten.
  have change : { σ.sessions owner with pendingFirstMessage := some (number, request) }.held + 0 =
      (σ.sessions owner).held + {(number, .request request)} := by
    simp [ClientSession.held, empty]
  simpa [setPending, ofSession] using carried_setSession change session

/-- Emptying an empty pending slot changes nothing. -/
theorem carried_unstash_empty {owner : Nat}
    (empty : (σ.sessions owner).pendingFirstMessage = none) (session : Nat) :
    (σ.setPending owner none).carried session = σ.carried session := by
  -- There was nothing in the slot.
  have change : { σ.sessions owner with pendingFirstMessage := none }.held + 0 =
      (σ.sessions owner).held + 0 := by
    simp [ClientSession.held, empty]
  simpa [setPending] using carried_setSession change session

/-- What a handler does moves no message. -/
@[simp] theorem carried_handle (σ : ProxyServer) (owner : Nat) (handling : Handling)
    (session : Nat) : (σ.handle owner handling).carried session = σ.carried session := by
  -- A handler touches nothing of a session but whether it is authenticated.
  have change : { σ.sessions owner with
      authenticated := (σ.sessions owner).authenticated || handling.authenticates }.held + 0 =
      (σ.sessions owner).held + 0 := rfl
  have kept := carried_setSession change session
  simp only [ite_self, add_zero] at kept
  exact kept

/-- Recording events moves no message. -/
@[simp] theorem carried_record (σ : ProxyServer) (events : List ServerEvent) (session : Nat) :
    (σ.record events).carried session = σ.carried session := rfl

/-- Going on with a round exchanges what `poll_queued` has in hand. -/
theorem carried_polling (σ : ProxyServer) (task : PollTask) (rest toDrop : List Nat)
    (session : Nat) : (σ.polling task rest toDrop).carried session + ofSession session σ.pollHand =
      σ.carried session + ofSession session task.hand := by
  have hand : (σ.polling task rest toDrop).pollHand = task.hand := rfl
  simp only [carried, hand]
  -- Only what the poll task holds is exchanged.
  rw [add_right_comm, add_right_comm _ (ofSession session task.hand)]
  exact add_right_comm _ _ _

/-- Going on with the session thread exchanges what it has in hand. -/
theorem carried_working (σ : ProxyServer) (worker : SessionThread) (session : Nat) :
    (σ.working worker).carried session + ofSession session σ.worker.hand =
      σ.carried session + ofSession session worker.hand := by
  have hand : (σ.working worker).worker.hand = worker.hand := rfl
  simp only [carried, hand]
  exact add_right_comm _ _ _

/-- Events that name no message of a kind name none of any session. -/
theorem named_eq_zero {pick : ServerEvent → Option (Nat × Nat × ClientPayload)}
    {events : List ServerEvent} (others : ∀ event ∈ events, pick event = none) (session : Nat) :
    named pick session events = 0 := by
  -- No event of the list is counted.
  induction events with
  | nil => rfl
  | cons event events ih =>
    rw [named, others event (by simp), ih fun other member => others other (by simp [member])]
    rfl

/-- A step on which nothing arrives. -/
theorem Moved.of_events (events : List ServerEvent) (history : next.history = events ++ σ.history)
    (others : ∀ event ∈ events, event.arrival = none) (arrivals : next.arrivals = σ.arrivals)
    (balance : ∀ session, next.carried session +
      named ServerEvent.settlement session events = σ.carried session)
    (slot : next.SlotFree) (unborn : next.Unborn) : Moved σ next := by
  refine ⟨⟨events, history, fun session => ?_, .inl ⟨?_, arrivals⟩⟩, slot, unborn⟩
  -- No new message arrives, so that the numbers given out are the same.
  · rw [named_eq_zero others, add_zero]
    exact balance session
  · simp only [arrivalNumbers, List.filterMap_eq_nil_iff, Option.map_eq_none_iff]
    exact others

/-- A step that leaves the sessions and what the threads have in hand alone. -/
theorem Moved.of_same (conserved : Conserved σ) (events : List ServerEvent)
    (history : next.history = events ++ σ.history)
    (quiet : ∀ event ∈ events, event.arrival = none ∧ event.settlement = none)
    (sessions : next.sessions = σ.sessions) (hand : next.pollHand = σ.pollHand)
    (worker : next.worker.hand = σ.worker.hand)
    (polled : next.polled = none ∨ next.polled = σ.polled)
    (counters : σ.accepted ≤ next.accepted ∧ next.arrivals = σ.arrivals) : Moved σ next := by
  refine .of_events events history (fun event member => (quiet event member).1) counters.2
    (fun session => ?_) (fun session here => ?_) fun session later => ?_
  -- Neither an arrival nor a settlement, so that the account is as it was.
  · rw [named_eq_zero fun event member => (quiet event member).2, add_zero]
    simp only [carried, sessions, hand, worker]
  · rcases polled with none | same
    · simp [none] at here
    · rw [sessions]
      exact conserved.slot session (same ▸ here)
  · rw [sessions]
    exact conserved.unborn session (counters.1.trans later)

/-- Sessions not yet accepted stay as they are while another one changes. -/
theorem Unborn.setSession (unborn : σ.Unborn) {owner : Nat} (born : owner < σ.accepted)
    (client : ClientSession) : (σ.setSession owner client).Unborn := by
  intro session later
  -- The session that is set has been accepted, the others may not have been.
  have different : session ≠ owner := by
    have bound : σ.accepted ≤ session := later
    omega
  simp only [ProxyServer.setSession, Function.update_of_ne different]
  exact unborn session later

/-- A round that has come to a session finds the slot of this session empty. -/
theorem slotFree_polling {task : PollTask} {session : Nat} (here : task.session = some session)
    (empty : (σ.sessions session).pendingFirstMessage = none) (rest toDrop : List Nat) :
    (σ.polling task rest toDrop).SlotFree := by
  intro other at_
  -- The task polls this session and no other.
  obtain rfl : session = other := Option.some.inj (here.symm.trans at_)
  exact empty

/-- A round between two sessions has come to no slot. -/
theorem slotFree_next (σ : ProxyServer) (rest toDrop : List Nat) :
    (σ.polling .next rest toDrop).SlotFree := by
  intro session here
  simp [polled, polling, PollTask.session] at here

/-- Changing a session without touching its pending slot leaves all the slots alone. -/
theorem pending_setSession (σ : ProxyServer) (owner : Nat) (client : ClientSession)
    (slot : client.pendingFirstMessage = (σ.sessions owner).pendingFirstMessage) (session : Nat) :
    ((σ.setSession owner client).sessions session).pendingFirstMessage =
      (σ.sessions session).pendingFirstMessage := by
  -- The other sessions are not touched at all.
  by_cases same : session = owner
  · subst same
    simpa [setSession] using slot
  · simp [setSession, Function.update_of_ne same]

/-- Taking messages from a transport leaves the pending slots alone. -/
@[simp] theorem pending_setInbox (σ : ProxyServer) (owner : Nat) (inbox : List (Nat × ClientPayload))
    (session : Nat) : ((σ.setInbox owner inbox).sessions session).pendingFirstMessage =
      (σ.sessions session).pendingFirstMessage :=
  pending_setSession σ owner { σ.sessions owner with inbox := inbox } rfl session

/-- What a handler does leaves the pending slots alone. -/
@[simp] theorem pending_handle (σ : ProxyServer) (owner : Nat) (handling : Handling)
    (session : Nat) : ((σ.handle owner handling).sessions session).pendingFirstMessage =
      (σ.sessions session).pendingFirstMessage :=
  pending_setSession σ owner { σ.sessions owner with
    authenticated := (σ.sessions owner).authenticated || handling.authenticates } rfl session

/-- A command sent to the backends is about no message. -/
theorem commandEvent_quiet (session : Nat) (command : Option BackendCommand) :
    ∀ event ∈ commandEvent session command,
      event.arrival = none ∧ event.settlement = none := by
  intro event member
  -- A command to a backend says nothing about a client's request.
  obtain ⟨sent, -, rfl⟩ := List.mem_map.mp member
  exact ⟨rfl, rfl⟩

/-- An answer sent to a client is about no message. -/
theorem replyEvent_quiet (session : Nat) (reply : Option ClientReply) :
    ∀ event ∈ replyEvent session reply, event.arrival = none ∧ event.settlement = none := by
  intro event member
  -- A reply is recorded apart from the settlement of its request.
  obtain ⟨sent, -, rfl⟩ := List.mem_map.mp member
  exact ⟨rfl, rfl⟩

/-- A session of the snapshot has been accepted. -/
theorem Queued.born_of_ahead (queued : Queued config σ) {session : Nat}
    (ahead : session ∈ σ.ahead) : session < σ.accepted :=
  queued.known session (queued.snapshot session ahead)

/-- The session `poll_queued` has come to has been accepted. -/
theorem Queued.born_of_polled (queued : Queued config σ) {session : Nat}
    (polled : σ.polled = some session) : session < σ.accepted := by
  -- The session that is polled is the first of those ahead.
  apply queued.born_of_ahead
  obtain ⟨poll, round, here⟩ := Option.bind_eq_some_iff.mp polled
  simp [ProxyServer.ahead, round, PollQueued.ahead, here]

/-- The active session has been promoted. -/
theorem Queued.promoted_of_active (queued : Queued config σ) {session : Nat}
    (active : σ.worker.session = some session) : session ∈ promotions σ.history := by
  rw [queued.exclusive, queued.worker, active]
  simp

/-- The active session has been accepted. -/
theorem Queued.born_of_active (queued : Queued config σ) {session : Nat}
    (active : σ.worker.session = some session) : session < σ.accepted :=
  queued.known session (queued.fair.admitted_of_served (queued.promoted_of_active active))

/-- Dropping sessions and ending or going on with a round moves no message. -/
theorem Moved.dropAll (conserved : Conserved σ) (sessions : List Nat) :
    Moved σ (sessions.foldl ProxyServer.dropSession σ) := by
  -- Dropping only moves sessions, and records that they were dropped.
  obtain ⟨deque, events, dropped, only⟩ := dropAll_eq sessions σ
  rw [dropped]
  refine .of_same conserved events rfl (fun event member => ?_) rfl rfl rfl (.inr rfl) ⟨le_rfl, rfl⟩
  obtain ⟨session, rfl⟩ := only event member
  exact ⟨rfl, rfl⟩

/-- Promoting a session moves no message. -/
theorem Moved.promoteFront (conserved : Conserved σ) (idle : σ.worker = .idle) :
    Moved σ σ.promoteFront := by
  have same : Moved σ σ :=
    .of_same conserved [] rfl (by simp) rfl rfl rfl (.inr rfl) ⟨le_rfl, rfl⟩
  unfold ProxyServer.promoteFront
  -- Without a healthy set of backends nobody is promoted.
  split
  · split
    · refine .of_same conserved [_] rfl ?_ rfl rfl ?_ (.inr rfl) ⟨le_rfl, rfl⟩
      · simp [ServerEvent.arrival, ServerEvent.settlement]
      · rw [idle]
        rfl
    · exact same
  · exact same

/-- With nothing in hand, `poll_queued` carries what it takes up. -/
theorem carried_polling_free (free : σ.pollHand = none) (task : PollTask) (rest toDrop : List Nat)
    (session : Nat) : (σ.polling task rest toDrop).carried session =
      σ.carried session + ofSession session task.hand := by
  simpa [free, ofSession] using carried_polling σ task rest toDrop session

/-- With the same message in hand, `poll_queued` carries it on. -/
theorem carried_polling_same {task : PollTask} (same : task.hand = σ.pollHand)
    (rest toDrop : List Nat) (session : Nat) :
    (σ.polling task rest toDrop).carried session = σ.carried session := by
  have exchanged := carried_polling σ task rest toDrop session
  rw [same] at exchanged
  exact add_right_cancel exchanged

/-- When `poll_queued` goes on to the next session, it lets go of what it has in hand. -/
theorem carried_polling_next {hand : Option (Nat × Nat × ClientPayload)} (held : σ.pollHand = hand)
    (rest toDrop : List Nat) (session : Nat) :
    (σ.polling .next rest toDrop).carried session + ofSession session hand =
      σ.carried session := by
  have exchanged := carried_polling σ .next rest toDrop session
  rw [held] at exchanged
  exact exchanged.trans (add_zero _)

/-- Coming to a session of the snapshot moves its pending message into the hand. -/
theorem Moved.pollNext (conserved : Conserved σ) (queued : Queued config σ) {session : Nat}
    {rest toDrop : List Nat} (poll : σ.poll = some ⟨.next, session :: rest, toDrop⟩) :
    Moved σ (σ.pollNext session rest toDrop) := by
  have free : σ.pollHand = none := by simp [pollHand, poll, PollTask.hand]
  have born : session < σ.accepted := by
    apply queued.born_of_ahead
    simp [ProxyServer.ahead, poll, PollQueued.ahead]
  unfold ProxyServer.pollNext
  split
  case isFalse =>
    exact .of_same conserved [] rfl (by simp) rfl (by rw [free]; rfl) rfl (.inl rfl) ⟨le_rfl, rfl⟩
  case isTrue =>
    split
    case h_1 number request pending =>
      -- The stashed message goes from the slot into the hand, and leaves the slot empty.
      have emptied : ((σ.setPending session none).sessions session).pendingFirstMessage = none := by
        simp [setPending, setSession]
      refine .of_events [] rfl (by simp) rfl (fun other => ?_) (slotFree_polling rfl emptied _ _)
        (conserved.unborn.setSession born _)
      have taken : (σ.setPending session none).pollHand = none := free
      rw [carried_polling_free taken, named, add_zero]
      exact carried_unstash pending other
    case h_2 empty =>
      -- Without a stashed message there is nothing to take yet.
      refine .of_events [] rfl (by simp) rfl (fun other => ?_) (slotFree_polling rfl empty _ _)
        conserved.unborn
      rw [carried_polling_free free, named, add_zero]
      exact add_zero _

/-- What is received from a session of the snapshot is taken into the hand, or skipped. -/
theorem Moved.pollReceive (conserved : Conserved σ) (queued : Queued config σ)
    {received : RecvStatus} {session : Nat} {rest toDrop : List Nat}
    (poll : σ.poll = some ⟨.receiving session, rest, toDrop⟩)
    (stepped : σ.pollReceive received session rest toDrop = some next) : Moved σ next := by
  have free : σ.pollHand = none := by simp [pollHand, poll, PollTask.hand]
  have here : σ.polled = some session := by simp [polled, poll, PollTask.session]
  have born := queued.born_of_polled here
  have slot := conserved.slot session here
  unfold ProxyServer.pollReceive at stepped
  split at stepped
  · cases stepped
    rename_i number payload inbox front
    have taken := carried_take front
    have free' : (σ.setInbox session inbox).pollHand = none := free
    have unborn : (σ.setInbox session inbox).Unborn := conserved.unborn.setSession born _
    unfold pollReceived
    split
    · -- A ping is served at once, and its answer is still to be sent.
      refine .of_events (commandEvent session Handling.handlePing.command) rfl
        (fun event member => (commandEvent_quiet _ _ event member).1) rfl (fun other => ?_)
        (slotFree_polling rfl (by simpa using slot) _ _) (unborn.setSession born _)
      rw [named_eq_zero fun event member => (commandEvent_quiet _ _ event member).2, add_zero,
        carried_polling_free (by exact free'), carried_handle]
      exact taken other
    · -- A request goes from the transport into the hand.
      refine .of_events [] rfl (by simp) rfl (fun other => ?_)
        (slotFree_polling rfl (by simpa using slot) _ _) unborn
      rw [named, add_zero, carried_polling_free free']
      exact taken other
    · -- What cannot be read is skipped, which settles it.
      refine .of_events [.skipped session number] rfl (by simp [ServerEvent.arrival]) rfl
        (fun other => ?_) (slotFree_next _ _ _) unborn
      rw [carried_polling_free (by exact free')]
      simpa [named, ofSession, PollTask.hand, ServerEvent.settlement] using taken other
  · cases stepped
    exact .of_same conserved [] rfl (by simp) rfl (by rw [free]; rfl) rfl (.inl rfl) ⟨le_rfl, rfl⟩
  · split at stepped
    case isTrue => simp at stepped
    case isFalse offline =>
      cases stepped
      exact .of_same conserved [] rfl (by simp) rfl (by rw [free]; rfl) rfl (.inl rfl) ⟨le_rfl, rfl⟩
  · simp at stepped

/-- Every step of `poll_queued` keeps the account. -/
theorem Conserved.pollQueued (conserved : Conserved σ) (queued : Queued config σ)
    {received : RecvStatus} {reachable : Bool} {outcome : BackendOutcome}
    (stepped : pollQueued config received reachable outcome σ = some next) : Conserved next := by
  unfold ProxyServer.pollQueued at stepped
  split at stepped
  case h_1 accepting =>
    -- A round starts with nothing in hand.
    cases stepped
    unfold startPoll
    split
    · exact conserved
    · refine conserved.of_moved (.of_same conserved [] rfl (by simp) rfl ?_ rfl (.inl rfl)
        ⟨le_rfl, rfl⟩)
      simp [pollHand, accepting, polling, PollTask.hand]
  case h_2 toDrop poll =>
    -- The round ends: dropped sessions keep what is in their transports and slots.
    cases stepped
    have dropped := conserved.of_moved (.dropAll conserved toDrop)
    refine dropped.of_moved (.of_same dropped [] rfl (by simp) rfl ?_ rfl (.inl rfl) ⟨le_rfl, rfl⟩)
    obtain ⟨deque, events, same, -⟩ := dropAll_eq toDrop σ
    simp [pollHand, same, poll, endPoll, PollTask.hand]
  case h_3 poll =>
    cases stepped
    exact conserved.of_moved (.pollNext conserved queued poll)
  case h_4 poll => exact conserved.of_moved (.pollReceive conserved queued poll stepped)
  case h_5 poll =>
    -- The request stays in hand, whether it is going to be stashed or served.
    cases stepped
    unfold pollCheck
    split
    all_goals
      refine conserved.of_moved (.of_same conserved [] rfl (by simp) rfl ?_ rfl (.inr ?_)
        ⟨le_rfl, rfl⟩)
      · simp [pollHand, poll, polling, PollTask.hand]
      · simp [polled, poll, polling, PollTask.session]
  case h_6 session number request rest toDrop poll =>
    -- The request goes from the hand back into the slot.
    cases stepped
    have here : σ.polled = some session := by simp [polled, poll, PollTask.session]
    refine conserved.of_moved (.of_events [.stashed session number] rfl
      (by simp [ServerEvent.arrival]) rfl (fun other => ?_) (slotFree_next _ _ _)
      (conserved.unborn.setSession (queued.born_of_polled here) _))
    have hand : ((σ.setPending session (some (number, request))).record
        [.stashed session number]).pollHand = some (session, number, .request request) := by
      simp [pollHand, poll, setPending, setSession, record, PollTask.hand]
    -- The slot was empty, so stashing overwrites nothing.
    have stashed := carried_stash (conserved.slot session here) number request other
    rw [← carried_record _ [.stashed session number],
      ← carried_polling_next hand rest toDrop] at stashed
    rw [named_eq_zero (by simp [ServerEvent.settlement]), add_zero]
    exact add_right_cancel stashed
  case h_7 session number request rest toDrop poll =>
    -- The request is handled, and stays in hand until it is answered.
    cases stepped
    have here : σ.polled = some session := by simp [polled, poll, PollTask.session]
    refine conserved.of_moved (.of_events (commandEvent session _) rfl
      (fun event member => (commandEvent_quiet _ _ event member).1) rfl (fun other => ?_)
      (slotFree_polling rfl (by simpa using conserved.slot session here) _ _)
      (conserved.unborn.setSession (queued.born_of_polled here) _))
    -- The message stays in hand until its answer has been sent.
    rw [named_eq_zero fun event member => (commandEvent_quiet _ _ event member).2, add_zero,
      pollServe, carried_polling_same, carried_handle]
    simp [pollHand, poll, ProxyServer.handle, setSession, record, PollTask.hand]
  case h_8 session number payload answer rest toDrop poll =>
    -- The answer is sent, which settles the request.
    cases stepped
    have hand : σ.pollHand = some (session, number, payload) := by
      simp [pollHand, poll, PollTask.hand]
    refine conserved.of_moved (.of_events
      (replyEvent session (answer.reply payload.id outcome) ++ [.answered session number payload])
      rfl (fun event member => ?_) rfl (fun other => ?_) (slotFree_next _ _ _) conserved.unborn)
    · rcases List.mem_append.mp member with sent | last
      · exact (replyEvent_quiet _ _ event sent).1
      · rw [List.mem_singleton.mp last]
        rfl
    · rw [named_append, named_eq_zero fun event member => (replyEvent_quiet _ _ event member).2,
        zero_add, pollReply]
      simpa [named, ServerEvent.settlement] using
        carried_polling_next (σ := σ.record _) hand rest toDrop other

/-- With nothing in hand, the session thread carries what it takes up. -/
theorem carried_working_free (free : σ.worker.hand = none) (worker : SessionThread)
    (session : Nat) : (σ.working worker).carried session =
      σ.carried session + ofSession session worker.hand := by
  simpa [free, ofSession] using carried_working σ worker session

/-- A session thread that goes on with nothing in hand lets go of what it had. -/
theorem carried_working_done {hand : Option (Nat × Nat × ClientPayload)}
    (held : σ.worker.hand = hand) (worker : SessionThread) (done : worker.hand = none)
    (session : Nat) :
    (σ.working worker).carried session + ofSession session hand = σ.carried session := by
  have exchanged := carried_working σ worker session
  rw [held, done] at exchanged
  exact exchanged.trans (add_zero _)

/-- The pending slot stays empty while other slots are emptied. -/
theorem SlotFree.setPending (slot : σ.SlotFree) (owner : Nat) :
    (σ.setPending owner none).SlotFree := by
  intro session here
  -- The slot that is cleared is free, the others are as they were.
  by_cases same : session = owner
  · rw [same]
    simp [ProxyServer.setPending, setSession]
  · simpa [ProxyServer.setPending, setSession, Function.update_of_ne same] using slot session here

/-- The pending slot stays empty while messages are taken from a transport. -/
theorem SlotFree.setInbox (slot : σ.SlotFree) (owner : Nat) (inbox : List (Nat × ClientPayload)) :
    (σ.setInbox owner inbox).SlotFree := by
  intro session here
  rw [pending_setInbox]
  exact slot session here

/-- The pending slot stays empty while a handler is at work. -/
theorem SlotFree.handle (slot : σ.SlotFree) (owner : Nat) (handling : Handling) :
    (σ.handle owner handling).SlotFree := by
  intro session here
  rw [pending_handle]
  exact slot session here

/-- Taking the pending message of the session just promoted moves it into the hand. -/
theorem Moved.takePending (conserved : Conserved σ) (queued : Queued config σ) {session : Nat}
    (promoted : σ.worker = .promoted session) : Moved σ (σ.takePending session) := by
  have free : ((σ.setPending session none).record [.slotRead session]).worker.hand = none := by
    simp [setPending, setSession, record, promoted, SessionThread.hand]
  have born : session < σ.accepted := queued.born_of_active (by rw [promoted]; rfl)
  refine .of_events [.slotRead session] rfl (by simp [ServerEvent.arrival]) rfl (fun other => ?_)
    (conserved.slot.setPending session) (conserved.unborn.setSession born _)
  rw [named_eq_zero (by simp [ServerEvent.settlement]), add_zero, ProxyServer.takePending,
    carried_working_free free, carried_record]
  split
  -- The message of the slot goes into the hand of the thread.
  case h_1 number request pending => exact carried_unstash pending other
  case h_2 empty => simpa [SessionThread.hand, ofSession] using carried_unstash_empty empty other

/-- A message taken on by the active dispatch is settled. -/
theorem Moved.dispatch {τ : ProxyServer} {session number : Nat} {payload : ClientPayload}
    (handling : Handling) (history : τ.history = σ.history) (arrivals : τ.arrivals = σ.arrivals)
    (balance : ∀ other, (τ.working .idle).carried other +
      ofSession other (some (session, number, payload)) = σ.carried other)
    (slot : τ.SlotFree) (unborn : τ.Unborn) (born : session < τ.accepted) :
    Moved σ (τ.dispatch handling session number payload) := by
  -- The dispatch settles the one message it is about.
  have settled : ∀ other, named ServerEvent.settlement other
      (commandEvent session handling.command ++ [.dispatched session number payload]) =
      ofSession other (some (session, number, payload)) := by
    intro other
    rw [named_append, named_eq_zero fun event member => (commandEvent_quiet _ _ event member).2]
    simp [named, ServerEvent.settlement]
  refine .of_events (commandEvent session handling.command ++ [.dispatched session number payload])
    ?_ (fun event member => ?_) arrivals (fun other => ?_) ?_ ?_
  · simp [ProxyServer.dispatch, working, ProxyServer.handle, record, setSession, history]
  · rcases List.mem_append.mp member with sent | last
    · exact (commandEvent_quiet _ _ event sent).1
    · rw [List.mem_singleton.mp last]
      rfl
  · -- The answer to be sent is no message in hand, as little as idling is.
    have replying := carried_working_done (σ := (τ.record
      [.dispatched session number payload]).handle session handling) rfl
      (.replying session payload.id handling.answer) rfl other
    have idle := carried_working_done (σ := τ) rfl .idle rfl other
    rw [carried_handle, carried_record, ← idle] at replying
    rw [settled, ← balance other]
    exact congrArg (· + _) (add_right_cancel replying)
  · exact slot.handle session handling
  · exact unborn.setSession born _

/-- What is received from the active session is taken into the hand, dispatched or skipped. -/
theorem Moved.loopReceive (conserved : Conserved σ) (queued : Queued config σ)
    {status : RecvStatus} {session : Nat} (looping : σ.worker = .looping session)
    (stepped : σ.loopReceive status session = some next) : Moved σ next := by
  have free : σ.worker.hand = none := by rw [looping]; rfl
  have born : session < σ.accepted := queued.born_of_active (by rw [looping]; rfl)
  -- A receive that brings no message leaves the account alone.
  have idling : ∀ worker : SessionThread, worker.hand = none → Moved σ (σ.working worker) :=
    fun worker none => .of_same conserved [] rfl (by simp) rfl rfl (none.trans free.symm) (.inr rfl)
      ⟨le_rfl, rfl⟩
  unfold ProxyServer.loopReceive at stepped
  split at stepped
  · cases stepped
    rename_i number payload inbox front
    have taken := carried_take front
    have free' : (σ.setInbox session inbox).worker.hand = none := free
    have slot := conserved.slot.setInbox session inbox
    have unborn : (σ.setInbox session inbox).Unborn := conserved.unborn.setSession born _
    unfold loopReceived
    split
    · -- A ping is dispatched without ever being in hand.
      refine .dispatch Handling.handlePing rfl rfl (fun other => ?_) slot unborn born
      rw [carried_working_free free']
      simpa [SessionThread.hand, ofSession] using taken other
    · refine .of_events [] rfl (by simp) rfl (fun other => ?_) slot unborn
      rw [named, add_zero, carried_working_free free']
      exact taken other
    · refine .of_events [.skipped session number] rfl (by simp [ServerEvent.arrival]) rfl
        (fun other => ?_) slot unborn
      rw [carried_working_free (by exact free')]
      simpa [named, ofSession, SessionThread.hand, ServerEvent.settlement] using taken other
  · cases stepped
    exact idling _ rfl
  · cases stepped
    exact idling _ rfl
  · simp at stepped

/-- Every step of the session thread keeps the account. -/
theorem Conserved.sessionLoop (conserved : Conserved σ) (queued : Queued config σ)
    {turn : LoopTurn} {reachable : Bool} {outcome : BackendOutcome}
    (stepped : sessionLoop config turn reachable outcome σ = some next) : Conserved next := by
  unfold ProxyServer.sessionLoop at stepped
  split at stepped
  case h_1 idle =>
    -- Sessions are dropped with whatever is in their transports and slots.
    cases stepped
    have dropped : σ.dropFronts.Conserved := conserved.of_moved (.dropAll conserved _)
    exact dropped.of_moved (.promoteFront dropped ((dropFronts_worker σ).trans idle))
  case h_2 promoted =>
    cases stepped
    exact conserved.of_moved (.takePending conserved queued promoted)
  case h_3 session number request dispatching =>
    -- What was in hand is dispatched, which settles it.
    cases stepped
    refine conserved.of_moved (.dispatch _ rfl rfl (fun other => ?_) conserved.slot conserved.unborn
      (queued.born_of_active (by rw [dispatching]; rfl)))
    exact carried_working_done (by rw [dispatching]; rfl) .idle rfl other
  case h_4 replying =>
    -- An answer is no message of the account.
    cases stepped
    exact conserved.of_moved (.of_same conserved (replyEvent _ _) rfl (replyEvent_quiet _ _) rfl rfl
      (by rw [replying]; rfl) (.inr rfl) ⟨le_rfl, rfl⟩)
  case h_5 session looping =>
    have free : σ.worker.hand = none := by rw [looping]; rfl
    unfold loopTurn at stepped
    split at stepped
    · cases stepped
      exact conserved.of_moved (.of_same conserved [] rfl (by simp) rfl rfl free.symm (.inr rfl)
        ⟨le_rfl, rfl⟩)
    · cases stepped
      refine conserved.of_moved (.of_same conserved [_] rfl ?_ rfl rfl free.symm (.inr rfl)
        ⟨le_rfl, rfl⟩)
      simp [ServerEvent.arrival, ServerEvent.settlement]
    · exact conserved.of_moved (.loopReceive conserved queued looping stepped)
  case h_6 session ending =>
    -- What the client has sent in the meantime stays in its transport.
    cases stepped
    refine conserved.of_moved (.of_same conserved [.ended session] rfl ?_ rfl rfl ?_ (.inr rfl)
      ⟨le_rfl, rfl⟩)
    · simp [ServerEvent.arrival, ServerEvent.settlement]
    · rw [ending]
      rfl

/-- A message that arrives is carried from now on. -/
theorem Moved.arrive {τ : ProxyServer} {session : Nat} {payload : ClientPayload}
    (events : List ServerEvent)
    (history : τ.history = .arrived session σ.arrivals payload :: events ++ σ.history)
    (quiet : ∀ event ∈ events, event.arrival = none ∧ event.settlement = none)
    (arrivals : τ.arrivals = σ.arrivals + 1)
    (balance : ∀ other, τ.carried other =
      σ.carried other + ofSession other (some (session, σ.arrivals, payload)))
    (slot : τ.SlotFree) (unborn : τ.Unborn) : Moved σ τ := by
  refine ⟨⟨_, history, fun other => ?_, .inr ⟨?_, arrivals⟩⟩, slot, unborn⟩
  -- An arrival settles nothing.
  · have settled : named ServerEvent.settlement other
        (.arrived session σ.arrivals payload :: events) = 0 := by
      rw [named, named_eq_zero fun event member => (quiet event member).2]
      rfl
    have arrived : named ServerEvent.arrival other
        (.arrived session σ.arrivals payload :: events) =
        ofSession other (some (session, σ.arrivals, payload)) := by
      rw [named, named_eq_zero fun event member => (quiet event member).1]
      exact add_zero _
    rw [settled, arrived, add_zero]
    exact balance other
  · have none : events.filterMap (fun event =>
        event.arrival.map fun message => message.2.1) = [] := by
      simp only [List.filterMap_eq_nil_iff, Option.map_eq_none_iff]
      exact fun event member => (quiet event member).1
    exact congrArg (σ.arrivals :: ·) none

/-- Admitting a connection takes its first message on. -/
theorem Moved.admitSession (conserved : Conserved σ) (accepting : σ.poll = none)
    (first : Option ClientPayload) : Moved σ (σ.admitSession first) := by
  -- The new session's place is blank, so its first message is all that is carried for it.
  have blank := conserved.unborn σ.accepted le_rfl
  have unborn : ∀ client session, σ.accepted + 1 ≤ session →
      Function.update σ.sessions σ.accepted client session = ⟨false, [], none, false⟩ := by
    intro client session later
    have different : session ≠ σ.accepted := by omega
    rw [Function.update_of_ne different]
    exact conserved.unborn session (by omega)
  have slot : ∀ τ : ProxyServer, τ.poll = σ.poll → τ.SlotFree := by
    intro τ poll session here
    simp [polled, poll, accepting] at here
  unfold ProxyServer.admitSession
  split
  case h_1 request =>
    -- The message the peek has read is the first one carried for the session.
    refine .arrive [.admitted σ.accepted] rfl ?_ rfl (fun other => ?_) (slot _ rfl)
      (unborn _)
    · simp [ServerEvent.arrival, ServerEvent.settlement]
    · have change : (⟨true, [], some (σ.arrivals, request), false⟩ : ClientSession).held + 0 =
          (σ.sessions σ.accepted).held + {(σ.arrivals, .request request)} := by
        simp [blank, ClientSession.held]
      have put := carried_setSession change other
      rw [ite_self, add_zero] at put
      exact put
  case h_2 =>
    -- Without a first message nothing is carried yet.
    refine .of_events [.admitted σ.accepted] rfl (by simp [ServerEvent.arrival]) rfl
      (fun other => ?_) (slot _ rfl) (unborn _)
    have change : (⟨true, [], none, false⟩ : ClientSession).held + 0 =
        (σ.sessions σ.accepted).held + 0 := by
      simp [blank, ClientSession.held]
    have put := carried_setSession change other
    rw [ite_self, add_zero, add_zero] at put
    rw [named_eq_zero (by simp [ServerEvent.settlement]), add_zero]
    exact put

/-- Every step keeps the account. -/
theorem Conserved.step (conserved : Conserved σ) (queued : Queued config σ) {action : ServerAction}
    (stepped : step config σ action = some next) : Conserved next := by
  cases action with
  | accept first =>
    -- A connection that is refused leaves nothing behind.
    simp only [ProxyServer.step, Option.ite_none_right_eq_some, Option.some.injEq] at stepped
    obtain ⟨accepting, rfl⟩ := stepped
    have refuse : ∀ events : List ServerEvent, (∀ event ∈ events, event.arrival = none ∧
        event.settlement = none) → Conserved (σ.refuse events) := fun events quiet =>
      conserved.of_moved (.of_same conserved events rfl quiet rfl rfl rfl (.inr rfl)
        ⟨Nat.le_succ _, rfl⟩)
    unfold ProxyServer.accept
    split
    · exact refuse _ (by simp [ServerEvent.arrival, ServerEvent.settlement])
    · split
      · exact conserved.of_moved (.admitSession conserved (by simpa using accepting) first)
      · exact refuse _ (by simp [ServerEvent.arrival, ServerEvent.settlement])
  | poll received reachable outcome => exact conserved.pollQueued queued stepped
  | work turn reachable outcome => exact conserved.sessionLoop queued stepped
  | throw =>
    -- The request was settled when it was dispatched, whatever its handler raises.
    simp only [ProxyServer.step] at stepped
    split at stepped
    case h_1 replying =>
      cases stepped
      exact conserved.of_moved (.of_same conserved [] rfl (by simp) rfl rfl (by rw [replying]; rfl)
        (.inr rfl) ⟨le_rfl, rfl⟩)
    case h_2 => simp at stepped
  | arrive session payload =>
    -- Only sessions that have been accepted are connected.
    simp only [ProxyServer.step, Option.ite_none_right_eq_some, Option.some.injEq] at stepped
    obtain ⟨connected, rfl⟩ := stepped
    have born : session < σ.accepted := by
      by_contra later
      simp [conserved.unborn session (by omega)] at connected
    refine conserved.of_moved (.arrive [] rfl (by simp) rfl (fun other => ?_)
      (conserved.slot.setInbox session _) (conserved.unborn.setSession born _))
    exact carried_put σ session (σ.arrivals, payload) other
  | disconnect session =>
    simp only [ProxyServer.step, Option.ite_none_right_eq_some, Option.some.injEq] at stepped
    obtain ⟨connected, rfl⟩ := stepped
    have born : session < σ.accepted := by
      by_contra later
      simp [conserved.unborn session (by omega)] at connected
    refine conserved.of_moved (.of_events [.disconnected session] rfl
      (by simp [ServerEvent.arrival]) rfl (fun other => ?_) (fun other here => ?_)
      (conserved.unborn.setSession born _))
    · -- What a client has sent before it leaves stays in its transport.
      have change : { σ.sessions session with connected := false }.held + 0 =
          (σ.sessions session).held + 0 := rfl
      have kept := carried_setSession change other
      simp only [ite_self, add_zero] at kept
      rw [named_eq_zero (by simp [ServerEvent.settlement]), add_zero]
      exact kept
    · exact (pending_setSession σ session { σ.sessions session with connected := false } rfl
        other).trans (conserved.slot other here)
  | setHealth backend health =>
    cases stepped
    exact conserved.of_moved (.of_same conserved [] rfl (by simp) rfl rfl rfl (.inr rfl)
      ⟨le_rfl, rfl⟩)

/-- The account of a server without clients is empty. -/
theorem Conserved.initial (health : List BackendHealth) : Conserved (initial health) := by
  -- Nothing has arrived, and nobody holds anything.
  refine ⟨fun session => rfl, ?_, ?_, ?_, ?_⟩
  · simp [ProxyServer.initial, arrivalNumbers]
  · simp [ProxyServer.initial, arrivalNumbers]
  · intro session here
    rfl
  · intro session later
    rfl

/-- The messages named by the events are those of its events. -/
theorem mem_named {pick : ServerEvent → Option (Nat × Nat × ClientPayload)} {session : Nat}
    {message : Nat × ClientPayload} {history : List ServerEvent} :
    message ∈ named pick session history ↔
      ∃ event ∈ history, pick event = some (session, message) := by
  induction history with
  | nil => simp [named]
  | cons event earlier ih =>
    have head : message ∈ ofSession session (pick event) ↔ pick event = some (session, message) := by
      cases found : pick event with
      | none => simp [ofSession]
      | some owned =>
        obtain ⟨owner, other⟩ := owned
        -- An event counts for the session it is about.
        by_cases same : owner = session
        · simp [ofSession, same, eq_comm]
        · simp [ofSession, same]
    rw [named, Multiset.mem_add, head, ih]
    simp

/-- Whatever is carried for a session has arrived on it. -/
theorem Conserved.arrived (conserved : Conserved σ) {session number : Nat} {payload : ClientPayload}
    (held : (number, payload) ∈ σ.carried session) :
    .arrived session number payload ∈ σ.history := by
  have member : (number, payload) ∈ named ServerEvent.arrival session σ.history := by
    rw [← conserved.balance session]
    exact Multiset.mem_add.mpr (.inl held)
  -- What is carried balances an arrival.
  obtain ⟨event, recorded, found⟩ := mem_named.mp member
  cases event <;> simp only [ServerEvent.arrival, Option.some.injEq, Prod.mk.injEq,
    reduceCtorEq] at found
  obtain ⟨rfl, rfl, rfl⟩ := found
  exact recorded

/-- The numbers of a session's arrivals are among all of them. -/
theorem named_arrival_le (session : Nat) (history : List ServerEvent) :
    (named ServerEvent.arrival session history).map Prod.fst ≤
      (arrivalNumbers history : Multiset Nat) := by
  induction history with
  | nil => simp [named]
  | cons event earlier ih =>
    rw [named, Multiset.map_add]
    -- Each arrival of the session has its own number.
    cases arrival : event.arrival with
    | none =>
      have same : arrivalNumbers (event :: earlier) = arrivalNumbers earlier := by
        simp [arrivalNumbers, arrival]
      rw [same]
      simpa [ofSession] using ih
    | some message =>
      have more : arrivalNumbers (event :: earlier) = message.2.1 :: arrivalNumbers earlier := by
        simp [arrivalNumbers, arrival]
      rw [more, ← Multiset.cons_coe, ← Multiset.singleton_add]
      refine add_le_add ?_ ih
      simp only [ofSession]
      split <;> simp

/-- No message is settled twice, or carried once it is settled. -/
theorem Conserved.once (conserved : Conserved σ) (session : Nat) :
    ((σ.carried session + named ServerEvent.settlement session σ.history).map Prod.fst).Nodup := by
  -- Both together are what has arrived, and every arrival has a number of its own.
  rw [conserved.balance session]
  exact Multiset.nodup_of_le (named_arrival_le session σ.history) conserved.distinct

end ProxyServer

end Pybrid
