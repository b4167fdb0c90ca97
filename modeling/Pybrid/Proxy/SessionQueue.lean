import Pybrid.Library.Fifo
import Pybrid.Proxy.Server

/-! The proxy's session queue is first come, first served, with one active session at a time. -/

namespace Pybrid

/-- The session the session thread is busy with. -/
def SessionThread.session : SessionThread → Option Nat
  | .idle => none
  | .promoted session | .dispatching session _ _ | .replying session _ _ | .looping session
  | .ending session => some session

/-- The session `poll_queued` has come to. -/
def PollTask.session : PollTask → Option Nat
  | .next => none
  | .receiving session | .holding session _ _ | .stashing session _ _ | .serving session _ _
  | .replying session _ _ _ => some session

/-- The sessions of the snapshot that `poll_queued` is not done with. -/
def PollQueued.ahead (poll : PollQueued) : List Nat :=
  poll.task.session.toList ++ poll.rest

/-- The event changes the queue or the active session. -/
def ServerEvent.changesQueue : ServerEvent → Bool
  | .admitted _ | .dropped _ | .promoted _ _ | .ended _ => true
  | _ => false

namespace ProxyServer

/-- The sessions named by the events picked, oldest first. -/
def picked (pick : ServerEvent → Option Nat) (history : List ServerEvent) : List Nat :=
  (history.filterMap pick).reverse

/-- The sessions admitted to the queue, in order. -/
def admissions : List ServerEvent → List Nat :=
  picked fun event => match event with | .admitted session => some session | _ => none

/-- The sessions promoted, in order. -/
def promotions : List ServerEvent → List Nat :=
  picked fun event => match event with | .promoted session _ => some session | _ => none

/-- The sessions dropped from the queue, in order. -/
def drops : List ServerEvent → List Nat :=
  picked fun event => match event with | .dropped session => some session | _ => none

/-- The sessions that have ceased to be active, in order. -/
def endings : List ServerEvent → List Nat :=
  picked fun event => match event with | .ended session => some session | _ => none

/-- The queue with what has become of everybody who was admitted to it. -/
def ledger (σ : ProxyServer) : Fifo.Ledger Nat where
  admitted := admissions σ.history
  waiting := σ.sessionDeque
  served := promotions σ.history
  dropped := drops σ.history

/-- The sessions that `poll_queued` is going to drop. -/
def toDrop (σ : ProxyServer) : List Nat :=
  (σ.poll.map PollQueued.toDrop).getD []

/-- The sessions of the snapshot that `poll_queued` is not done with. -/
def ahead (σ : ProxyServer) : List Nat :=
  (σ.poll.map PollQueued.ahead).getD []

/-- What holds between the threads' steps of the queue, the active session and the record. -/
structure Queued (config : ProxyConfig) (σ : ProxyServer) : Prop where
  worker : σ.active = σ.worker.session
  /-- Connections are numbered as they are accepted. -/
  known : ∀ session ∈ admissions σ.history, session < σ.accepted
  fair : σ.ledger.Fair
  /-- Every promotion but the last one has been followed by the end of its session. -/
  exclusive : promotions σ.history = endings σ.history ++ σ.active.toList
  bounded : σ.sessionDeque.length + σ.active.toList.length ≤ config.maxSessions
  /-- Only sessions whose client is gone are dropped. -/
  gone : ∀ session, session ∈ drops σ.history ∨ session ∈ σ.toDrop →
    (σ.sessions session).connected = false
  snapshot : ∀ session ∈ σ.ahead, session ∈ admissions σ.history
  offline : ∀ session ∈ admissions σ.history, (σ.sessions session).connected = false →
    .disconnected session ∈ σ.history
  healthy : ∀ session health, .promoted session health ∈ σ.history →
    ∀ backend ∈ health, backend = .healthy

/-- What the session queue promises. -/
structure SessionQueue (config : ProxyConfig) (σ : ProxyServer) : Prop where
  /-- At most one session is active: all others that were promoted have ended before the next one. -/
  oneActive : promotions σ.history = endings σ.history ++ σ.active.toList
  activeLeft : ∀ session, σ.active = some session → session ∉ σ.sessionDeque
  distinct : σ.sessionDeque.Nodup
  bounded : σ.sessionDeque.length + σ.active.toList.length ≤ config.maxSessions
  /-- Every promotion happened while all backends were healthy. -/
  healthy : ∀ session health, .promoted session health ∈ σ.history →
    ∀ backend ∈ health, backend = .healthy
  /-- Nobody who stays connected is overtaken. -/
  inOrder : ∀ first second, [first, second].Sublist (admissions σ.history) →
    (σ.sessions first).connected = true → second ∈ promotions σ.history →
    [first, second].Sublist (promotions σ.history)

/-- A step that leaves the queue and the active session alone. -/
structure SameQueue (σ next : ProxyServer) : Prop where
  deque : next.sessionDeque = σ.sessionDeque
  active : next.active = σ.active
  worker : next.worker.session = σ.worker.session
  accepted : σ.accepted ≤ next.accepted
  connected : ∀ session, (next.sessions session).connected = (σ.sessions session).connected ∨
    (next.sessions session).connected = false ∧ .disconnected session ∈ next.history
  toDrop : ∀ session ∈ next.toDrop, session ∈ σ.toDrop ∨
    (σ.sessions session).connected = false
  ahead : ∀ session ∈ next.ahead, session ∈ σ.ahead ∨ session ∈ σ.sessionDeque
  history : ∃ events, next.history = events ++ σ.history ∧
    ∀ event ∈ events, event.changesQueue = false

/-- Events that nothing is picked from change no list. -/
theorem picked_append {pick : ServerEvent → Option Nat} {events history : List ServerEvent}
    (others : ∀ event ∈ events, pick event = none) :
    picked pick (events ++ history) = picked pick history := by
  -- None of the new events is picked.
  have nothing : events.filterMap pick = [] := List.filterMap_eq_nil_iff.mpr others
  rw [picked, List.filterMap_append, nothing, List.nil_append, picked]

/-- Events that are not about the queue change none of its lists. -/
theorem lists_append {events history : List ServerEvent}
    (others : ∀ event ∈ events, event.changesQueue = false) :
    admissions (events ++ history) = admissions history ∧
    promotions (events ++ history) = promotions history ∧
    drops (events ++ history) = drops history ∧
    endings (events ++ history) = endings history := by
  refine ⟨picked_append ?_, picked_append ?_, picked_append ?_, picked_append ?_⟩
  all_goals
    intro event member
    have other := others event member
    -- Only the four events of the queue are picked.
    cases event <;> simp_all [ServerEvent.changesQueue]

/-- A session admitted now comes behind all others. -/
@[simp] theorem admissions_admitted (session : Nat) (history : List ServerEvent) :
    admissions (.admitted session :: history) = admissions history ++ [session] := by
  simp [admissions, picked]

/-- A session promoted now comes behind all others. -/
@[simp] theorem promotions_promoted (session : Nat) (health : List BackendHealth)
    (history : List ServerEvent) :
    promotions (.promoted session health :: history) = promotions history ++ [session] := by
  simp [promotions, picked]

/-- A session dropped now comes behind all others. -/
@[simp] theorem drops_dropped (session : Nat) (history : List ServerEvent) :
    drops (.dropped session :: history) = drops history ++ [session] := by
  simp [drops, picked]

/-- A session ended now comes behind all others. -/
@[simp] theorem endings_ended (session : Nat) (history : List ServerEvent) :
    endings (.ended session :: history) = endings history ++ [session] := by
  simp [endings, picked]

variable {config : ProxyConfig} {σ next : ProxyServer}

/-- A step that leaves the queue alone keeps what holds of it. -/
theorem Queued.of_same (queued : Queued config σ) (same : SameQueue σ next) :
    Queued config next := by
  obtain ⟨events, history, others⟩ := same.history
  obtain ⟨admitted, promoted, dropped, ended⟩ := @lists_append events σ.history others
  rw [← history] at admitted promoted dropped ended
  -- The record says the same about who came, was served and was dropped.
  have ledger : next.ledger = σ.ledger := by
    simp [ProxyServer.ledger, admitted, promoted, dropped, same.deque]
  -- Clients never come back under the same session.
  have gone : ∀ session, (σ.sessions session).connected = false →
      (next.sessions session).connected = false := by
    intro session offline
    rcases same.connected session with kept | lost
    · exact kept.trans offline
    · exact lost.1
  refine ⟨?_, ?_, ledger ▸ queued.fair, ?_, ?_, ?_, ?_, ?_, ?_⟩
  · rw [same.active, same.worker]
    exact queued.worker
  · rw [admitted]
    exact fun session member => (queued.known session member).trans_le same.accepted
  · rw [promoted, ended, same.active]
    exact queued.exclusive
  · rw [same.deque, same.active]
    exact queued.bounded
  · rw [dropped]
    intro session member
    rcases member with old | new
    · exact gone session (queued.gone session (.inl old))
    · rcases same.toDrop session new with old | offline
      · exact gone session (queued.gone session (.inr old))
      · exact gone session offline
  · -- A snapshot is taken of the queue, and whoever is there has been admitted.
    rw [admitted]
    intro session member
    rcases same.ahead session member with old | waits
    · exact queued.snapshot session old
    · exact ((queued.fair.waiting_iff session).mp waits).1
  · rw [admitted]
    intro session member offline
    rcases same.connected session with kept | lost
    · rw [history]
      exact List.mem_append_right _ (queued.offline session member (kept ▸ offline))
    · exact lost.2
  · intro session health member
    rw [history] at member
    rcases List.mem_append.mp member with new | old
    · exact absurd (others _ new) (by simp [ServerEvent.changesQueue])
    · exact queued.healthy session health old

/-- Dropping a session whose client is gone keeps the order of the others. -/
theorem Queued.dropSession (queued : Queued config σ) {session : Nat}
    (offline : (σ.sessions session).connected = false) :
    Queued config (σ.dropSession session) := by
  unfold ProxyServer.dropSession
  split
  case isFalse => exact queued
  case isTrue waits =>
    have fair := queued.fair.drop (x := session) waits
    refine ⟨queued.worker, queued.known, ?_, queued.exclusive, ?_, ?_, queued.snapshot, ?_, ?_⟩
    · simpa [ProxyServer.ledger, record, admissions, promotions, picked] using fair
    · -- Dropping makes the queue shorter, if anything.
      have bounded := queued.bounded
      have shorter : (σ.sessionDeque.erase session).length ≤ σ.sessionDeque.length :=
        List.erase_sublist.length_le
      simp only [record]
      omega
    · intro other member
      rcases member with dropped | later
      · simp only [record, List.singleton_append, drops_dropped] at dropped
        rcases List.mem_append.mp dropped with old | last
        · exact queued.gone other (.inl old)
        · exact List.mem_singleton.mp last ▸ offline
      · exact queued.gone other (.inr later)
    · exact fun other member lost => List.mem_cons_of_mem _ (queued.offline other member lost)
    · intro other health member
      exact queued.healthy other health (by simpa [record] using member)

/-- Dropping sessions changes nothing but the queue and the record. -/
theorem dropAll_eq (sessions : List Nat) :
    ∀ σ : ProxyServer, ∃ deque events, sessions.foldl ProxyServer.dropSession σ =
        { σ with sessionDeque := deque, history := events ++ σ.history } ∧
      ∀ event ∈ events, ∃ session, event = .dropped session := by
  -- The induction is on the sessions still to be dropped.
  induction sessions with
  | nil => exact fun σ => ⟨σ.sessionDeque, [], rfl, by simp⟩
  | cons session sessions ih =>
    intro σ
    obtain ⟨deque, events, rest, dropped⟩ := ih (σ.dropSession session)
    rw [List.foldl_cons, rest]
    unfold ProxyServer.dropSession
    split
    · -- This drop is recorded before the later ones.
      refine ⟨deque, events ++ [.dropped session], by simp [record], fun event member => ?_⟩
      rcases List.mem_append.mp member with later | now
      · exact dropped event later
      · exact ⟨session, List.mem_singleton.mp now⟩
    · exact ⟨deque, events, rfl, dropped⟩

/-- Dropping sessions leaves the session thread where it is. -/
theorem dropFronts_worker (σ : ProxyServer) : σ.dropFronts.worker = σ.worker := by
  obtain ⟨deque, events, dropped, -⟩ := dropAll_eq
    (σ.sessionDeque.takeWhile fun session => !(σ.sessions session).connected) σ
  rw [ProxyServer.dropFronts, dropped]

/-- Dropping several sessions whose clients are gone keeps the order of the others. -/
theorem Queued.dropAll (sessions : List Nat) :
    ∀ {σ : ProxyServer}, Queued config σ →
      (∀ session ∈ sessions, (σ.sessions session).connected = false) →
      Queued config (sessions.foldl ProxyServer.dropSession σ) := by
  -- The induction is on the sessions still to be dropped; their clients stay gone.
  induction sessions with
  | nil => exact fun queued _ => queued
  | cons session sessions ih =>
    intro σ queued offline
    refine ih (queued.dropSession (offline session (by simp))) fun other member => ?_
    have same : (σ.dropSession session).sessions = σ.sessions := by
      unfold ProxyServer.dropSession
      split <;> rfl
    rw [same]
    exact offline other (by simp [member])

/-- Promoting the front session ends the promotions so far with it. -/
theorem Queued.promoteFront (queued : Queued config σ) (idle : σ.worker = .idle) :
    Queued config σ.promoteFront := by
  unfold ProxyServer.promoteFront
  split
  case h_2 => exact queued
  case h_1 session rest front =>
    split
    case isFalse => exact queued
    case isTrue healthy =>
      -- An idle session thread has no active session, so the new one is the only one.
      have nobody : σ.active = none := by simp [queued.worker, idle, SessionThread.session]
      have fair := queued.fair.serve (x := session) front
      refine ⟨rfl, queued.known, ?_, ?_, ?_, queued.gone, queued.snapshot, ?_, ?_⟩
      · simpa [ProxyServer.ledger, record, working, admissions, drops, picked] using fair
      · have exclusive := queued.exclusive
        simpa [record, working, nobody, endings, picked] using exclusive
      · have bounded := queued.bounded
        rw [front, nobody] at bounded
        simpa [record, working] using bounded
      · exact fun other member lost => List.mem_cons_of_mem _ (queued.offline other member lost)
      · intro other health member
        rcases List.mem_cons.mp member with now | old
        · -- The promotion just made has been guarded by the test of the backends.
          simp only [ServerEvent.promoted.injEq] at now
          obtain ⟨-, rfl⟩ := now
          intro backend listed
          simpa using List.all_eq_true.mp healthy backend listed
        · exact queued.healthy other health old

/-- Dropping the disconnected fronts keeps the order of the others. -/
theorem Queued.dropFronts (queued : Queued config σ) : Queued config σ.dropFronts := by
  apply queued.dropAll
  -- Only the sessions before the first connected one are dropped.
  intro session member
  simpa using List.mem_takeWhile_imp member

/-- A connection that is answered and closed at once leaves the queue alone. -/
theorem SameQueue.refuse (σ : ProxyServer) {events : List ServerEvent}
    (others : ∀ event ∈ events, event.changesQueue = false) :
    SameQueue σ (σ.refuse events) where
  deque := rfl
  active := rfl
  worker := rfl
  -- A refused connection counts as accepted, and gets no place.
  accepted := Nat.le_succ _
  connected := fun _ => .inl rfl
  toDrop := fun _ member => .inl member
  ahead := fun _ member => .inl member
  history := ⟨events, rfl, others⟩

/-- Admitting a connection puts it behind everybody while there is room. -/
theorem Queued.admitSession (queued : Queued config σ)
    (accepting : σ.poll = none)
    (room : σ.sessionDeque.length + σ.active.toList.length < config.maxSessions)
    {client : ClientSession} {arrivals : Nat} (events : List ServerEvent)
    (connected : client.connected = true)
    (others : ∀ event ∈ events, event.changesQueue = false) :
    Queued config { σ with
      accepted := σ.accepted + 1
      arrivals := arrivals
      sessionDeque := σ.sessionDeque ++ [σ.accepted]
      sessions := Function.update σ.sessions σ.accepted client
      history := events ++ .admitted σ.accepted :: σ.history } := by
  obtain ⟨admitted, promoted, dropped, ended⟩ :=
    @lists_append events (.admitted σ.accepted :: σ.history) others
  -- Sessions are numbered as they are accepted, so this number is new.
  have new : σ.accepted ∉ admissions σ.history :=
    fun member => absurd (queued.known _ member) (lt_irrefl _)
  have fair := queued.fair.enter (x := σ.accepted) new
  -- The other sessions are the same as before, and nothing has been said about the new one.
  have other : ∀ session ∈ admissions σ.history,
      Function.update σ.sessions σ.accepted client session = σ.sessions session := by
    intro session member
    have different : session ≠ σ.accepted := fun same => new (same ▸ member)
    exact Function.update_of_ne different _ _
  refine ⟨queued.worker, ?_, ?_, ?_, ?_, ?_, ?_, ?_, ?_⟩
  · simp only [admitted, admissions_admitted]
    intro session member
    rcases List.mem_append.mp member with old | last
    · exact (queued.known session old).trans (Nat.lt_succ_self _)
    · exact List.mem_singleton.mp last ▸ Nat.lt_succ_self _
  · simp only [ProxyServer.ledger, admitted, promoted, dropped, admissions_admitted]
    simpa [ProxyServer.ledger, promotions, drops, picked] using fair
  · simp only [promoted, ended]
    simpa [promotions, endings, picked] using queued.exclusive
  · simp only [List.length_append, List.length_singleton]
    omega
  · -- No round of `poll_queued` is under way while a connection is accepted.
    simp only [dropped]
    intro session member
    have listed : session ∈ drops σ.history := by
      simpa [drops, picked, ProxyServer.toDrop, accepting] using member
    rw [other session (queued.fair.apart session listed).1]
    exact queued.gone session (.inl listed)
  · simp only [admitted, admissions_admitted]
    exact fun session member => List.mem_append_left _ (queued.snapshot session member)
  · simp only [admitted, admissions_admitted]
    intro session member offline
    rcases List.mem_append.mp member with old | last
    · rw [other session old] at offline
      exact List.mem_append_right _ (List.mem_cons_of_mem _ (queued.offline session old offline))
    · rw [List.mem_singleton.mp last, Function.update_self] at offline
      simp [connected] at offline
  · intro session health member
    rcases List.mem_append.mp member with now | behind
    · exact absurd (others _ now) (by simp [ServerEvent.changesQueue])
    · exact queued.healthy session health (by simpa using behind)

/-- Accepting a connection keeps what holds of the queue. -/
theorem Queued.accept (queued : Queued config σ) (accepting : σ.poll = none)
    (first : Option ClientPayload) : Queued config (accept config first σ) := by
  unfold ProxyServer.accept
  -- A peeked ping is only answered, and a full queue takes nobody.
  split
  · exact queued.of_same (.refuse σ (by simp [ServerEvent.changesQueue]))
  · split
    case isFalse => exact queued.of_same (.refuse σ (by simp [ServerEvent.changesQueue]))
    case isTrue room =>
      unfold ProxyServer.admitSession
      split
      · exact queued.admitSession accepting room [_] rfl (by simp [ServerEvent.changesQueue])
      · exact queued.admitSession accepting room [] rfl (by simp)

/-- The end of the active session is the end of the last promotion. -/
theorem Queued.endSession (queued : Queued config σ) {session : Nat}
    (ending : σ.worker = .ending session) : Queued config (σ.endSession session) := by
  have active : σ.active = some session := by simp [queued.worker, ending, SessionThread.session]
  have exclusive := queued.exclusive
  have bounded := queued.bounded
  rw [active] at exclusive bounded
  refine ⟨rfl, queued.known, ?_, ?_, ?_, queued.gone, queued.snapshot, ?_, ?_⟩
  · simpa [ProxyServer.ledger, ProxyServer.endSession, record, working, admissions, promotions,
      drops, picked] using queued.fair
  -- The end of the session follows its promotion in the history.
  · simpa [ProxyServer.endSession, record, working, promotions, picked] using exclusive
  · simp only [ProxyServer.endSession, record, working, Option.toList_none, Option.toList_some,
      List.length_singleton, List.length_nil] at bounded ⊢
    omega
  · exact fun other member lost => List.mem_cons_of_mem _ (queued.offline other member lost)
  · intro other health member
    refine queued.healthy other health ?_
    simpa [ProxyServer.endSession, record, working] using member

namespace SameQueue

variable {τ : ProxyServer}

/-- Doing nothing leaves the queue alone. -/
theorem refl (σ : ProxyServer) : SameQueue σ σ where
  deque := rfl
  active := rfl
  worker := rfl
  accepted := le_rfl
  connected := fun _ => .inl rfl
  toDrop := fun _ member => .inl member
  ahead := fun _ member => .inl member
  history := ⟨[], rfl, by simp⟩

/-- Events that are not about the queue leave it alone. -/
theorem record (same : SameQueue σ τ) {events : List ServerEvent}
    (others : ∀ event ∈ events, event.changesQueue = false) : SameQueue σ (τ.record events) := by
  obtain ⟨earlier, history, before⟩ := same.history
  refine { same with connected := fun session => ?_, history := ⟨events ++ earlier, ?_, ?_⟩ }
  · exact (same.connected session).imp_right fun lost => ⟨lost.1, List.mem_append_right _ lost.2⟩
  · simp [ProxyServer.record, history]
  · intro event member
    exact (List.mem_append.mp member).elim (others event) (before event)

/-- Changing a session's messages or its authentication leaves the queue alone. -/
theorem setSession (same : SameQueue σ τ) {session : Nat} {client : ClientSession}
    (kept : client.connected = (τ.sessions session).connected) :
    SameQueue σ (τ.setSession session client) := by
  refine { same with connected := fun other => ?_ }
  have unchanged : ((τ.setSession session client).sessions other).connected =
      (τ.sessions other).connected := by
    -- The flag of the connection is not changed by this update.
    by_cases this : other = session
    · rw [this]
      simpa [ProxyServer.setSession] using kept
    · simp [ProxyServer.setSession, Function.update_of_ne this]
  rw [unchanged]
  exact same.connected other

/-- Taking messages from a transport leaves the queue alone. -/
theorem setInbox (same : SameQueue σ τ) (session : Nat) (inbox : List (Nat × ClientPayload)) :
    SameQueue σ (τ.setInbox session inbox) :=
  same.setSession rfl

/-- Taking or putting a pending message leaves the queue alone. -/
theorem setPending (same : SameQueue σ τ) (session : Nat) (pending : Option (Nat × ClientRequest)) :
    SameQueue σ (τ.setPending session pending) :=
  same.setSession rfl

/-- What a handler does leaves the queue alone. -/
theorem handle (same : SameQueue σ τ) (session : Nat) (handling : Handling) :
    SameQueue σ (τ.handle session handling) := by
  refine SameQueue.record (same.setSession ?_) fun event member => ?_
  · rfl
  · obtain ⟨command, -, rfl⟩ := List.mem_map.mp member
    rfl

/-- Going on with a round of `poll_queued` leaves the queue alone. -/
theorem polling (same : SameQueue σ τ) {task : PollTask} {rest toDrop : List Nat}
    (drops : ∀ session ∈ toDrop, session ∈ σ.toDrop ∨ (σ.sessions session).connected = false)
    (ahead : ∀ session ∈ task.session.toList ++ rest, session ∈ σ.ahead ∨
      session ∈ σ.sessionDeque) : SameQueue σ (τ.polling task rest toDrop) :=
  { same with toDrop := drops, ahead := ahead }

/-- Another point of the session thread with the same session leaves the queue alone. -/
theorem working (same : SameQueue σ τ) {worker : SessionThread}
    (session : worker.session = σ.worker.session) : SameQueue σ (τ.working worker) :=
  { same with worker := session }

/-- The same round with what `poll_queued` does next for the same session or for the next one. -/
theorem goOn (same : SameQueue σ τ) {task other : PollTask} {rest toDrop : List Nat}
    (poll : σ.poll = some ⟨task, rest, toDrop⟩)
    (session : other.session = none ∨ other.session = task.session) :
    SameQueue σ (τ.polling other rest toDrop) := by
  refine same.polling (fun _ member => .inl ?_) fun _ member => .inl ?_
  · simpa [ProxyServer.toDrop, poll] using member
  · simp only [ProxyServer.ahead, poll, Option.map_some, Option.getD_some, PollQueued.ahead]
    -- The next task is about the same session, or about none.
    rcases session with none | same
    · rw [none] at member
      exact List.mem_append_right _ (by simpa using member)
    · exact same ▸ member

/-- The same round with a session to be dropped whose client is gone. -/
theorem goOnDropping (σ : ProxyServer) {task : PollTask} {session : Nat}
    {rest toDrop snapshot : List Nat} (poll : σ.poll = some ⟨task, snapshot, toDrop⟩)
    (within : ∀ other ∈ rest, other ∈ snapshot)
    (offline : (σ.sessions session).connected = false) :
    SameQueue σ (σ.polling .next rest (toDrop ++ [session])) := by
  refine (SameQueue.refl σ).polling (fun other member => ?_) fun other member => .inl ?_
  -- The session that is noted for dropping has lost its client.
  · rcases List.mem_append.mp member with old | last
    · exact .inl (by simpa [ProxyServer.toDrop, poll] using old)
    · exact .inr (List.mem_singleton.mp last ▸ offline)
  · simp only [ProxyServer.ahead, poll, Option.map_some, Option.getD_some, PollQueued.ahead]
    exact List.mem_append_right _ (within other (by simpa [PollTask.session] using member))

/-- Coming to a session of the snapshot leaves the queue alone. -/
theorem pollNext {session : Nat} {rest toDrop : List Nat}
    (poll : σ.poll = some ⟨.next, session :: rest, toDrop⟩) :
    SameQueue σ (σ.pollNext session rest toDrop) := by
  have ahead : ∀ task : PollTask, task.session = some session →
      ∀ other ∈ task.session.toList ++ rest, other ∈ σ.ahead ∨ other ∈ σ.sessionDeque := by
    intro task here other member
    rw [here] at member
    exact .inl (by simpa [ProxyServer.ahead, poll, PollQueued.ahead, PollTask.session] using member)
  have drops : ∀ other ∈ toDrop, other ∈ σ.toDrop ∨ (σ.sessions other).connected = false :=
    fun other member => .inl (by simpa [ProxyServer.toDrop, poll] using member)
  unfold ProxyServer.pollNext
  split
  -- A session whose client is gone is noted and passed over.
  case isFalse offline =>
    exact goOnDropping σ poll (fun other member => List.mem_cons_of_mem _ member)
      (by simpa using offline)
  case isTrue =>
    split
    · exact ((SameQueue.refl σ).setPending session none).polling drops (ahead _ rfl)
    · exact (SameQueue.refl σ).polling drops (ahead _ rfl)

/-- Receiving from a session of the snapshot leaves the queue alone. -/
theorem pollReceive {received : RecvStatus} {session : Nat} {rest toDrop : List Nat}
    (poll : σ.poll = some ⟨.receiving session, rest, toDrop⟩)
    (stepped : σ.pollReceive received session rest toDrop = some next) : SameQueue σ next := by
  unfold ProxyServer.pollReceive at stepped
  split at stepped
  · cases stepped
    rename_i number payload inbox _
    have taken := (SameQueue.refl σ).setInbox session inbox
    -- A ping is answered, a request is held, anything else is skipped.
    unfold pollReceived
    split
    · exact (taken.handle session Handling.handlePing).goOn poll (.inr rfl)
    · exact taken.goOn poll (.inr rfl)
    · exact (taken.record (by simp [ServerEvent.changesQueue])).goOn poll (.inl rfl)
  · cases stepped
    exact (SameQueue.refl σ).goOn poll (.inl rfl)
  · split at stepped
    case isTrue => simp at stepped
    case isFalse offline =>
      cases stepped
      exact goOnDropping σ poll (fun _ member => member) (by simpa using offline)
  · simp at stepped

/-- Taking on a message of the active session leaves the queue alone. -/
theorem dispatch (same : SameQueue σ τ) {session : Nat} (active : some session = σ.worker.session)
    (handling : Handling) (number : Nat) (payload : ClientPayload) :
    SameQueue σ (τ.dispatch handling session number payload) := by
  refine SameQueue.working (SameQueue.handle (same.record ?_) _ _) active
  simp [ServerEvent.changesQueue]

/-- One turn of the active session's loop leaves the queue alone. -/
theorem loopTurn {turn : LoopTurn} {session : Nat} (active : some session = σ.worker.session)
    (stepped : σ.loopTurn turn session = some next) : SameQueue σ next := by
  unfold ProxyServer.loopTurn at stepped
  split at stepped
  · cases stepped
    exact (SameQueue.refl σ).working active
  · cases stepped
    exact ((SameQueue.refl σ).record (by simp [ServerEvent.changesQueue])).working active
  · unfold ProxyServer.loopReceive at stepped
    split at stepped
    · cases stepped
      rename_i number payload inbox _
      have taken := (SameQueue.refl σ).setInbox session inbox
      -- Whatever comes in, the queue is not touched.
      unfold loopReceived
      split
      · exact taken.dispatch active _ _ _
      · exact taken.working active
      · exact (taken.record (by simp [ServerEvent.changesQueue])).working active
    · cases stepped
      exact (SameQueue.refl σ).working active
    · cases stepped
      exact (SameQueue.refl σ).working active
    · simp at stepped

/-- The answer sent to a client is not about the queue. -/
theorem replyEvent_others (session : Nat) (reply : Option ClientReply) :
    ∀ event ∈ replyEvent session reply, event.changesQueue = false := by
  intro event member
  -- A reply does not change the queue.
  obtain ⟨sent, -, rfl⟩ := List.mem_map.mp member
  rfl

end SameQueue

/-- Every step of `poll_queued` keeps what holds of the queue. -/
theorem Queued.pollQueued (queued : Queued config σ) {received : RecvStatus} {reachable : Bool}
    {outcome : BackendOutcome}
    (stepped : pollQueued config received reachable outcome σ = some next) : Queued config next := by
  unfold ProxyServer.pollQueued at stepped
  split at stepped
  case h_1 =>
    cases stepped
    unfold startPoll
    split
    · exact queued
    · -- The snapshot is the queue of this moment.
      refine queued.of_same ((SameQueue.refl σ).polling (by simp) fun session member => .inr ?_)
      simpa [PollTask.session] using member
  case h_2 toDrop poll =>
    -- The round ends: the sessions found disconnected are still disconnected, and dropped.
    cases stepped
    have dropped := queued.dropAll toDrop fun session member =>
      queued.gone session (.inr (by simpa [ProxyServer.toDrop, poll] using member))
    refine dropped.of_same { SameQueue.refl _ with toDrop := ?_, ahead := ?_ }
    · simp [ProxyServer.endPoll, ProxyServer.toDrop]
    · simp [ProxyServer.endPoll, ProxyServer.ahead]
  case h_3 poll =>
    cases stepped
    exact queued.of_same (.pollNext poll)
  case h_4 poll => exact queued.of_same (.pollReceive poll stepped)
  case h_5 poll =>
    -- The test of the backends decides what is done with the request.
    cases stepped
    unfold pollCheck
    split <;> exact queued.of_same ((SameQueue.refl σ).goOn poll (.inr rfl))
  case h_6 poll =>
    -- The request is put back into the slot, and the round goes on.
    cases stepped
    refine queued.of_same
      (SameQueue.goOn (((SameQueue.refl σ).setPending _ _).record ?_) poll (.inl rfl))
    simp [ServerEvent.changesQueue]
  case h_7 poll =>
    -- A handler touches the session and the backends only.
    cases stepped
    exact queued.of_same (((SameQueue.refl σ).handle _ _).goOn poll (.inr rfl))
  case h_8 session number payload answer rest toDrop poll =>
    -- The answer is sent, and the round goes on.
    cases stepped
    refine queued.of_same (((SameQueue.refl σ).record fun event member => ?_).goOn poll (.inl rfl))
    rcases List.mem_append.mp member with sent | last
    · exact SameQueue.replyEvent_others _ _ event sent
    · rw [List.mem_singleton.mp last]
      rfl

/-- Every step of the session thread keeps what holds of the queue. -/
theorem Queued.sessionLoop (queued : Queued config σ) {turn : LoopTurn} {reachable : Bool}
    {outcome : BackendOutcome}
    (stepped : sessionLoop config turn reachable outcome σ = some next) : Queued config next := by
  unfold ProxyServer.sessionLoop at stepped
  split at stepped
  case h_1 idle =>
    -- The only step that takes a session out of the queue to serve it.
    cases stepped
    exact queued.dropFronts.promoteFront ((dropFronts_worker σ).trans idle)
  case h_2 session promoted =>
    -- The slot is read, and the session stays the active one.
    cases stepped
    refine queued.of_same (SameQueue.working
      (((SameQueue.refl σ).setPending session none).record ?_) ?_)
    · simp [ServerEvent.changesQueue]
    · rw [promoted]
      split <;> rfl
  case h_3 dispatching =>
    cases stepped
    exact queued.of_same ((SameQueue.refl σ).dispatch (by rw [dispatching]; rfl) _ _ _)
  case h_4 session id answer replying =>
    -- The answer is sent, and the loop goes on.
    cases stepped
    refine queued.of_same (SameQueue.working
      ((SameQueue.refl σ).record (SameQueue.replyEvent_others _ _)) ?_)
    rw [replying]
    rfl
  case h_5 looping => exact queued.of_same (.loopTurn (by rw [looping]; rfl) stepped)
  case h_6 ending =>
    cases stepped
    exact queued.endSession ending

/-- Every step keeps what holds of the queue. -/
theorem Queued.step (queued : Queued config σ) {action : ServerAction}
    (stepped : step config σ action = some next) : Queued config next := by
  cases action with
  | accept first =>
    simp only [ProxyServer.step, Option.ite_none_right_eq_some, Option.some.injEq] at stepped
    obtain ⟨accepting, rfl⟩ := stepped
    exact queued.accept (by simpa using accepting) first
  | poll received reachable outcome => exact queued.pollQueued stepped
  | work turn reachable outcome => exact queued.sessionLoop stepped
  | throw =>
    -- The session is still the active one while it ends.
    simp only [ProxyServer.step] at stepped
    split at stepped
    case h_1 session _ _ replying =>
      cases stepped
      have active : σ.worker.session = some session := by rw [replying]; rfl
      exact queued.of_same ((SameQueue.refl σ).working active.symm)
    case h_2 => simp at stepped
  | arrive session payload =>
    -- A message in a transport is no matter of the queue.
    simp only [ProxyServer.step, Option.ite_none_right_eq_some, Option.some.injEq] at stepped
    obtain ⟨connected, rfl⟩ := stepped
    have taken := (SameQueue.refl σ).setInbox session
      ((σ.sessions session).inbox ++ [(σ.arrivals, payload)])
    refine queued.of_same { taken with
      history := ⟨[.arrived session σ.arrivals payload], rfl, by simp [ServerEvent.changesQueue]⟩
      connected := fun other => ?_ }
    exact (taken.connected other).imp_right fun lost => ⟨lost.1, List.mem_cons_of_mem _ lost.2⟩
  | disconnect session =>
    -- The client is gone from now on, and this is on record.
    simp only [ProxyServer.step, Option.ite_none_right_eq_some, Option.some.injEq] at stepped
    obtain ⟨connected, rfl⟩ := stepped
    refine queued.of_same { SameQueue.refl σ with
      connected := fun other => ?_
      history := ⟨[.disconnected session], rfl, by simp [ServerEvent.changesQueue]⟩ }
    by_cases same : other = session
    · rw [same]
      exact .inr (by simp [setSession, record])
    · exact .inl (by simp [setSession, record, Function.update_of_ne same])
  | setHealth backend health =>
    cases stepped
    exact queued.of_same { SameQueue.refl σ with }

/-- An empty queue is in order. -/
theorem Queued.initial (config : ProxyConfig) (health : List BackendHealth) :
    Queued config (initial health) := by
  have empty : (ProxyServer.initial health).ledger = ⟨[], [], [], []⟩ := rfl
  -- Nothing has happened yet.
  refine ⟨rfl, ?_, ?_, rfl, ?_, ?_, ?_, ?_, ?_⟩
  · simp [ProxyServer.initial, admissions, picked]
  · rw [empty]
    constructor <;> simp
  · simp [ProxyServer.initial]
  · simp [ProxyServer.initial, drops, picked, ProxyServer.toDrop]
  · simp [ProxyServer.initial, ProxyServer.ahead]
  · simp [ProxyServer.initial, admissions, picked]
  · simp [ProxyServer.initial]

/-- What holds between the threads' steps holds in every state that can be reached. -/
theorem Queued.reachable {health : List BackendHealth}
    (reached : Transition.Reachable (ProxyServer.step config) (ProxyServer.initial health) σ) :
    Queued config σ :=
  Transition.reachable_preserves (Queued.initial config health)
    (fun _ _ _ queued stepped => queued.step stepped) reached

/--
The session queue keeps its promises over every interleaving.

In every state reachable by accepts, polls, disconnects, health changes, promotions and session ends,
at most one session is active and it is not queued, no session is queued twice, there are never more
sessions than `max_sessions`, and sessions are promoted while all backends are healthy and, as long
as they stay connected, in the order of their admission.
-/
theorem session_queue_invariant (config : ProxyConfig) (health : List BackendHealth)
    (σ : ProxyServer)
    (reached : Transition.Reachable (step config) (initial health) σ) : SessionQueue config σ := by
  have queued := Queued.reachable reached
  refine ⟨queued.exclusive, ?_, ?_, queued.bounded, queued.healthy, ?_⟩
  · -- The active session is among those promoted, and nobody promoted still waits.
    intro session active waits
    have promoted : session ∈ promotions σ.history := by simp [queued.exclusive, active]
    exact ((queued.fair.waiting_iff session).mp waits).2.1 promoted
  · exact (List.nodup_append.mp queued.fair.nodup).2.1
  · -- Overtaking takes a drop, and whoever is dropped has disconnected.
    intro first second before connected promoted
    apply queued.fair.no_overtaking before promoted
    intro dropped
    have offline := queued.gone first (.inl dropped)
    simp [connected] at offline

/-- A proxy without authentication that takes two sessions. -/
def twoSessions : ProxyConfig where
  requiresAuth := false
  authToken := ""
  tokenSet := by simp
  maxSessions := 2
  roomForOne := by decide
  backends := 1
  pathToBackend := []

/-- The backends answer without an error. -/
def allWell : BackendOutcome := ⟨⟨false, "", []⟩, true⟩

/-- Three clients come, and the session thread serves and ends one session after another. -/
def threeClients : List ServerAction :=
  List.replicate 3 (.accept none) ++ List.replicate 5 (.work .leave true allWell)

/-- The third client is turned away, and the other two are served one after the other. -/
theorem session_queue_of_two : ∃ σ,
    Transition.run (step twoSessions) (initial [.healthy]) threeClients = some σ ∧
      promotions σ.history = [0, 1] ∧ σ.active = some 1 ∧ SessionQueue twoSessions σ :=
  ⟨_, rfl, rfl, rfl, session_queue_invariant twoSessions [.healthy] _ ⟨threeClients, rfl⟩⟩

end ProxyServer

end Pybrid
