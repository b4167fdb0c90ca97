import Pybrid.Library.Locks
import Pybrid.Library.Transition

/-! The locks of a session change in the proxy against the receive threads of its backends. -/

namespace Pybrid

/-- The mutexes of the backend handler and of its control channels. -/
inductive ProxyMutex where
  /-- `active_session_mutex_` of the backend handler. -/
  | activeSession
  /-- `callback_mutex_` of a backend's control channel. -/
  | callback (backend : Nat)
  deriving DecidableEq, Repr

/-- The threads that take these mutexes. -/
inductive ProxyThread where
  /-- The thread that promotes and ends sessions. -/
  | session
  /-- The thread that receives a backend's control messages. -/
  | receive (backend : Nat)
  deriving DecidableEq, Repr

/-- The unsolicited messages a control channel dispatches, by the callback they have. -/
inductive UnsolicitedKind where
  /-- Has the callback registered by `ProxyBackendHandler::start`. -/
  | errorMessage
  /-- Has the forward callback while a session is active. -/
  | runStateChange
  /-- Has no callback. -/
  | other
  deriving DecidableEq, Repr

/-- Where the session thread is in `set_active_session`. -/
inductive SessionPoint where
  /-- Not inside. -/
  | outside
  /-- Waits for the active session mutex. -/
  | entering (installing : Bool)
  /-- Holds it, and waits for the callback mutex of the first backend still to be visited. -/
  | visiting (installing : Bool) (backends : List Nat)
  /-- Holds it and the callback mutex of a backend. -/
  | registering (installing : Bool) (backend : Nat) (backends : List Nat)
  deriving DecidableEq, Repr

/-- Where a receive thread is in `dispatch_callback`. -/
inductive DispatchPoint where
  /-- Not inside. -/
  | outside
  /-- Waits for the callback mutex. -/
  | entering (kind : UnsolicitedKind)
  /-- Holds it, and looks the callback up. -/
  | lookup (kind : UnsolicitedKind)
  /-- Holds it inside the error callback, and waits for the active session mutex. -/
  | errorCallback
  /-- Holds both, and reads the active session. -/
  | reading
  /-- Holds the callback mutex, and sends to the client. -/
  | sending
  deriving DecidableEq, Repr

/-- The session thread and the receive threads around their mutexes. -/
structure SessionLocks where
  /-- The number of backends. -/
  backends : Nat
  /-- `running_` of the backend handler. -/
  running : Bool
  session : SessionPoint
  receive : Nat → DispatchPoint
  /-- The forward callback is registered at this backend. -/
  forwards : Nat → Bool

/-- Atomic steps of the threads. -/
inductive SessionLocksAction where
  /-- The handler is started or stopped. -/
  | setRunning (running : Bool)
  /-- The session thread calls `set_active_session` with a live session, or with none. -/
  | changeSession (installing : Bool)
  /-- The session thread takes the active session mutex. -/
  | lockActive
  /-- The session thread takes the callback mutex of the next backend. -/
  | lockCallback
  /-- The session thread registers or unregisters the forward callback, and lets go of its mutex. -/
  | register
  /-- The session thread returns from `set_active_session`. -/
  | unlockActive
  /-- A receive thread gets an unsolicited message. -/
  | message (backend : Nat) (kind : UnsolicitedKind)
  /-- A receive thread takes its callback mutex. -/
  | lockDispatch (backend : Nat)
  /-- A receive thread enters the callback it has found, or returns. -/
  | call (backend : Nat)
  /-- A receive thread inside the error callback takes the active session mutex. -/
  | lockReading (backend : Nat)
  /-- A receive thread lets go of the active session mutex. -/
  | unlockReading (backend : Nat)
  /-- A receive thread has sent, and returns from the callback. -/
  | finish (backend : Nat)
  deriving DecidableEq, Repr

/-- The session thread holds this mutex. -/
def SessionPoint.holds : SessionPoint → ProxyMutex → Bool
  | .visiting _ _, .activeSession | .registering _ _ _, .activeSession => true
  | .registering _ backend _, .callback other => backend = other
  | _, _ => false

/-- The session thread waits for this mutex. -/
def SessionPoint.waits : SessionPoint → ProxyMutex → Bool
  | .entering _, .activeSession => true
  | .visiting _ (backend :: _), .callback other => backend = other
  | _, _ => false

/-- The backends a session change has not come to yet. -/
def SessionPoint.unvisited : SessionPoint → List Nat
  | .visiting _ backends | .registering _ _ backends => backends
  | _ => []

/-- The receive thread of a backend holds this mutex. -/
def DispatchPoint.holds (backend : Nat) : DispatchPoint → ProxyMutex → Bool
  | .reading, .activeSession => true
  | .lookup _, .callback other | .errorCallback, .callback other | .reading, .callback other
  | .sending, .callback other => backend = other
  | _, _ => false

/-- The receive thread of a backend waits for this mutex. -/
def DispatchPoint.waits (backend : Nat) : DispatchPoint → ProxyMutex → Bool
  | .errorCallback, .activeSession => true
  | .entering _, .callback other => backend = other
  | _, _ => false

/-- The receive thread holds its callback mutex on the way to the active session mutex. -/
def DispatchPoint.headsForActive : DispatchPoint → Bool
  | .lookup .errorMessage | .errorCallback => true
  | _ => false

namespace SessionLocks

/-- No thread is inside any of the functions. -/
def initial (backends : Nat) (running : Bool) : SessionLocks where
  backends := backends
  running := running
  session := .outside
  receive := fun _ => .outside
  forwards := fun _ => false

/-- Which thread holds and waits for which mutex. -/
def view (s : SessionLocks) : Locks.View ProxyThread ProxyMutex where
  holds
    | .session, mutex => s.session.holds mutex = true
    | .receive backend, mutex => (s.receive backend).holds backend mutex = true
  waits
    | .session, mutex => s.session.waits mutex = true
    | .receive backend, mutex => (s.receive backend).waits backend mutex = true

/-- No thread holds this mutex. -/
def Free (s : SessionLocks) (mutex : ProxyMutex) : Prop :=
  s.session.holds mutex = false ∧
    ∀ backend < s.backends, (s.receive backend).holds backend mutex = false

instance (s : SessionLocks) (mutex : ProxyMutex) : Decidable (s.Free mutex) :=
  inferInstanceAs (Decidable (_ ∧ _))

/-- Move a receive thread. -/
def setReceive (s : SessionLocks) (backend : Nat) (point : DispatchPoint) : SessionLocks :=
  { s with receive := Function.update s.receive backend point }

/-- One atomic step. -/
def step (s : SessionLocks) : SessionLocksAction → Option SessionLocks
  | .setRunning running => some { s with running }
  | .changeSession installing =>
    if s.session = .outside then some { s with session := .entering installing } else none
  | .lockActive =>
    match s.session with
    | .entering installing =>
      if s.Free .activeSession then
        some { s with session := .visiting installing (List.range s.backends) }
      else none
    | _ => none
  | .lockCallback =>
    match s.session with
    | .visiting installing (backend :: backends) =>
      if s.Free (.callback backend) then
        some { s with session := .registering installing backend backends }
      else none
    | _ => none
  | .register =>
    match s.session with
    | .registering installing backend backends =>
      some { s with
        session := .visiting installing backends
        forwards := Function.update s.forwards backend installing }
    | _ => none
  | .unlockActive =>
    match s.session with
    | .visiting _ [] => some { s with session := .outside }
    | _ => none
  | .message backend kind =>
    if backend < s.backends ∧ s.receive backend = .outside then
      some (s.setReceive backend (.entering kind))
    else none
  | .lockDispatch backend =>
    match s.receive backend with
    | .entering kind =>
      if s.Free (.callback backend) then some (s.setReceive backend (.lookup kind)) else none
    | _ => none
  | .call backend =>
    match s.receive backend with
    | .lookup .errorMessage =>
      -- The error callback returns at once while the handler is not running.
      some (s.setReceive backend (if s.running then .errorCallback else .outside))
    | .lookup .runStateChange =>
      some (s.setReceive backend (if s.forwards backend then .sending else .outside))
    | .lookup .other => some (s.setReceive backend .outside)
    | _ => none
  | .lockReading backend =>
    if s.receive backend = .errorCallback ∧ s.Free .activeSession then
      some (s.setReceive backend .reading)
    else none
  | .unlockReading backend =>
    if s.receive backend = .reading then some (s.setReceive backend .sending) else none
  | .finish backend =>
    if s.receive backend = .sending then some (s.setReceive backend .outside) else none

/--
The two sides do not meet.

A session change begins only when no receive thread is on its way from its callback mutex to the
active session mutex, and a receive thread takes its callback mutex for a device error only when no
session change has its backend still to visit.
-/
def Separated (s : SessionLocks) : SessionLocksAction → Prop
  | .lockActive => ∀ backend < s.backends, (s.receive backend).headsForActive = false
  | .lockDispatch backend =>
    s.receive backend = .entering .errorMessage → backend ∉ s.session.unvisited
  | _ => True

instance (s : SessionLocks) (action : SessionLocksAction) : Decidable (s.Separated action) :=
  match action with
  | .lockActive =>
    inferInstanceAs (Decidable (∀ backend < s.backends,
      (s.receive backend).headsForActive = false))
  | .lockDispatch backend =>
    inferInstanceAs (Decidable (s.receive backend = .entering .errorMessage →
      backend ∉ s.session.unvisited))
  | .setRunning _ | .changeSession _ | .lockCallback | .register | .unlockActive | .message _ _
  | .call _ | .lockReading _ | .unlockReading _ | .finish _ => inferInstanceAs (Decidable True)

/-- No receive thread that heads for the active session mutex is still to be visited. -/
def Apart (s : SessionLocks) : Prop :=
  ∀ backend ∈ s.session.unvisited, (s.receive backend).headsForActive = false

/-- Moving a receive thread keeps the sides apart unless it now heads for the other mutex. -/
theorem Apart.setReceive {s : SessionLocks} (apart : s.Apart) (backend : Nat)
    (point : DispatchPoint)
    (heads : point.headsForActive = true → backend ∉ s.session.unvisited) :
    (s.setReceive backend point).Apart := by
  intro other unvisited
  by_cases same : other = backend
  · subst same
    have stays : point.headsForActive ≠ true := fun heading => heads heading unvisited
    simpa [SessionLocks.setReceive] using stays
  · simpa [SessionLocks.setReceive, Function.update_of_ne same] using apart other unvisited

/-- Every step in which the two sides do not meet keeps them apart. -/
theorem Apart.step {s next : SessionLocks} {action : SessionLocksAction} (apart : s.Apart)
    (separated : s.Separated action) (stepped : s.step action = some next) : next.Apart := by
  cases action with
  | setRunning running =>
    cases stepped
    exact apart
  | changeSession installing =>
    simp only [SessionLocks.step, Option.ite_none_right_eq_some, Option.some.injEq] at stepped
    obtain ⟨_, rfl⟩ := stepped
    -- Nothing is to be visited before the first mutex is held.
    intro backend unvisited
    simp [SessionPoint.unvisited] at unvisited
  | lockActive =>
    simp only [SessionLocks.step] at stepped
    split at stepped
    · simp only [Option.ite_none_right_eq_some, Option.some.injEq] at stepped
      obtain ⟨_, rfl⟩ := stepped
      -- Every backend is still to be visited now, and none of their threads is on its way.
      intro backend unvisited
      exact separated backend (by simpa [SessionPoint.unvisited] using unvisited)
    · simp at stepped
  | lockCallback =>
    simp only [SessionLocks.step] at stepped
    split at stepped
    · rename_i installing backend backends point
      simp only [Option.ite_none_right_eq_some, Option.some.injEq] at stepped
      obtain ⟨_, rfl⟩ := stepped
      -- The backends still to be visited are those of before, less the one just locked.
      intro other unvisited
      exact apart other (by
        simp only [point, SessionPoint.unvisited, List.mem_cons]
        exact .inr unvisited)
    · simp at stepped
  | register =>
    -- The backend just visited is behind the session thread.
    simp only [SessionLocks.step] at stepped
    split at stepped
    · rename_i installing backend backends point
      cases stepped
      intro other unvisited
      exact apart other (by simpa [point, SessionPoint.unvisited] using unvisited)
    · simp at stepped
  | unlockActive =>
    -- Nothing is to be visited any more.
    simp only [SessionLocks.step] at stepped
    split at stepped
    · cases stepped
      intro backend unvisited
      simp [SessionPoint.unvisited] at unvisited
    · simp at stepped
  | message backend kind =>
    simp only [SessionLocks.step, Option.ite_none_right_eq_some, Option.some.injEq] at stepped
    obtain ⟨_, rfl⟩ := stepped
    exact apart.setReceive backend _ (by simp [DispatchPoint.headsForActive])
  | lockDispatch backend =>
    simp only [SessionLocks.step] at stepped
    split at stepped
    · rename_i kind point
      simp only [Option.ite_none_right_eq_some, Option.some.injEq] at stepped
      obtain ⟨_, rfl⟩ := stepped
      -- Only a device error heads for the active session mutex.
      refine apart.setReceive backend _ fun heading => separated ?_
      cases kind <;> simp_all [DispatchPoint.headsForActive]
    · simp at stepped
  | call backend =>
    simp only [SessionLocks.step] at stepped
    split at stepped
    · rename_i point
      cases stepped
      -- The thread was on its way already, and goes on or gives up.
      refine apart.setReceive backend _ fun _ unvisited => ?_
      have idle := apart backend unvisited
      simp [point, DispatchPoint.headsForActive] at idle
    · -- A forwarded state change takes no mutex of the proxy.
      cases stepped
      refine apart.setReceive backend _ fun heading => ?_
      split at heading <;> simp [DispatchPoint.headsForActive] at heading
    · cases stepped
      exact apart.setReceive backend _ (by simp [DispatchPoint.headsForActive])
    · simp at stepped
  | lockReading backend =>
    simp only [SessionLocks.step, Option.ite_none_right_eq_some, Option.some.injEq] at stepped
    obtain ⟨_, rfl⟩ := stepped
    exact apart.setReceive backend _ (by simp [DispatchPoint.headsForActive])
  | unlockReading backend =>
    simp only [SessionLocks.step, Option.ite_none_right_eq_some, Option.some.injEq] at stepped
    obtain ⟨_, rfl⟩ := stepped
    exact apart.setReceive backend _ (by simp [DispatchPoint.headsForActive])
  | finish backend =>
    simp only [SessionLocks.step, Option.ite_none_right_eq_some, Option.some.injEq] at stepped
    obtain ⟨_, rfl⟩ := stepped
    exact apart.setReceive backend _ (by simp [DispatchPoint.headsForActive])

/-- The session thread nests a callback mutex under the active session mutex, nothing else. -/
theorem session_nested {s : SessionLocks} {held wanted : ProxyMutex}
    (nested : s.view.Nested .session held wanted) :
    held = .activeSession ∧ ∃ backend, wanted = .callback backend ∧
      backend ∈ s.session.unvisited := by
  obtain ⟨holds, waits⟩ := nested
  simp only [view] at holds waits
  -- Of the points that wait, only the visit holds something.
  cases point : s.session with
  | outside => simp [point, SessionPoint.holds] at holds
  | entering installing => simp [point, SessionPoint.holds] at holds
  | registering installing backend backends => simp [point, SessionPoint.waits] at waits
  | visiting installing backends =>
    cases backends with
    | nil => simp [point, SessionPoint.waits] at waits
    | cons backend backends =>
      cases held <;> cases wanted <;>
        simp_all [SessionPoint.holds, SessionPoint.waits, SessionPoint.unvisited]

/-- A receive thread nests the active session mutex under its callback mutex, nothing else. -/
theorem receive_nested {s : SessionLocks} {backend : Nat} {held wanted : ProxyMutex}
    (nested : s.view.Nested (.receive backend) held wanted) :
    held = .callback backend ∧ wanted = .activeSession ∧ s.receive backend = .errorCallback := by
  obtain ⟨holds, waits⟩ := nested
  simp only [view] at holds waits
  -- A receiving thread takes the second mutex only in the error callback.
  cases point : s.receive backend <;> cases held <;> cases wanted <;>
    simp_all [DispatchPoint.holds, DispatchPoint.waits]

/-- Sides that are apart are not crossed. -/
theorem Apart.not_crossed {s : SessionLocks} (apart : s.Apart) : ¬s.view.Crossed := by
  -- Every nesting involves the active session mutex, from above or from below.
  apply Locks.View.not_crossed_of_guard .activeSession
  · intro thread held wanted nested
    cases thread with
    | session => exact .inl (session_nested nested).1
    | receive backend => exact .inr (receive_nested nested).2.1
  · -- The session thread waits for the mutex of a backend that is on its way: they are not apart.
    intro thread other mutex _ outer inner
    cases thread with
    | receive backend => exact nomatch (receive_nested outer).1
    | session =>
      obtain ⟨_, backend, rfl, unvisited⟩ := session_nested outer
      cases other with
      | session => exact nomatch (session_nested inner).1
      | receive other =>
        obtain ⟨same, _, point⟩ := receive_nested inner
        obtain rfl : backend = other := by simpa using same
        have idle := apart backend unvisited
        simp [point, DispatchPoint.headsForActive] at idle
  · -- Nobody waits for the active session mutex while holding it.
    intro thread mutex nested
    cases thread with
    | session =>
      obtain ⟨rfl, _, wanted, _⟩ := session_nested nested
      exact nomatch wanted
    | receive backend =>
      obtain ⟨rfl, wanted, _⟩ := receive_nested nested
      exact nomatch wanted

/--
No lock cycle while session changes and device errors do not meet.

In every run in which a session change begins with no receive thread on its way to the active
session mutex, and no device error is dispatched at a backend that a session change has still to
visit, no two threads ever hold a mutex the other one waits for.
-/
theorem session_change_not_crossed (backends : Nat) (running : Bool)
    (actions : List SessionLocksAction) (final : SessionLocks)
    (separated : Transition.Meets step Separated (initial backends running) actions)
    (ran : Transition.run step (initial backends running) actions = some final) :
    ¬final.view.Crossed := by
  have apart : final.Apart := Transition.run_preserves
    (fun _ _ _ held condition stepped => Apart.step held condition stepped) actions
    (initial backends running) final (by simp [Apart, initial, SessionPoint.unvisited])
    separated ran
  exact apart.not_crossed

/-- A device error after a session change has visited the backend is forwarded. -/
theorem session_change_then_error :
    ∃ final, Transition.run step (initial 1 true)
        [.changeSession true, .lockActive, .lockCallback, .register, .unlockActive,
          .message 0 .errorMessage, .lockDispatch 0, .call 0, .changeSession false,
          .lockReading 0, .unlockReading 0, .lockActive] = some final ∧
      ¬final.view.Crossed := by
  refine ⟨_, rfl, session_change_not_crossed 1 true
    [.changeSession true, .lockActive, .lockCallback, .register, .unlockActive,
      .message 0 .errorMessage, .lockDispatch 0, .call 0, .changeSession false,
      .lockReading 0, .unlockReading 0, .lockActive] _ ?_ rfl⟩
  decide

/--
A device error during a session change blocks both threads for good.

The session thread holds the active session mutex and waits for the callback mutex of the backend,
whose receive thread holds that one and waits for the former.
-/
theorem session_change_meets_error :
    ∃ final, Transition.run step (initial 1 true)
        [.changeSession true, .message 0 .errorMessage, .lockActive, .lockDispatch 0, .call 0] =
        some final ∧ final.view.Crossed := by
  refine ⟨_, rfl, .session, .receive 0, .activeSession, .callback 0, by simp, ?_, ?_⟩
  · exact ⟨rfl, rfl⟩
  · exact ⟨rfl, rfl⟩

end SessionLocks

end Pybrid
