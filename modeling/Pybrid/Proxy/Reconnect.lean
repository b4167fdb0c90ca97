import Pybrid.Library.Transition
import Pybrid.Proxy.Server

/-! The background reconnect loop of the proxy against the reboot of all backends after an update. -/

namespace Pybrid

/-- Where `reconnect_loop` is, with the session it saw at the start of its pass. -/
inductive ReconnectPoint where
  | sleeping
  /-- About to read the health of a backend. -/
  | visiting (sessionActive : Bool) (backend : Nat)
  /-- Has read HEALTHY, and is about to test the connection. -/
  | testing (sessionActive : Bool) (backend : Nat)
  /-- Waits for the answer to a ping, which is only sent without a session. -/
  | probing (backend : Nat)
  /-- About to store DEAD. -/
  | failed (sessionActive : Bool) (backend : Nat)
  /-- Inside `reconnect_backend`. -/
  | reconnecting (sessionActive : Bool) (backend : Nat)
  /-- Has reconnected, and is about to store HEALTHY. -/
  | reconnected (sessionActive : Bool) (backend : Nat)
  deriving DecidableEq, Repr

/-- Where the session thread is, in `run_active_dispatch` and in the commit of an update. -/
inductive UpdatePoint where
  /-- No session is active. -/
  | waiting
  /-- About to receive and dispatch a message. -/
  | receiving
  /-- The watchdog is about to read the health of a backend. -/
  | scanning (backend : Nat) (backendLost : Bool)
  /-- The watchdog has read HEALTHY, and is about to test the connection. -/
  | watching (backend : Nat) (backendLost : Bool)
  /-- The watchdog is about to store DEAD. -/
  | losing (backend : Nat)
  /-- Inside the broadcast of the commit. -/
  | broadcasting
  /-- About to mark a backend REBOOTING. -/
  | marking (backend : Nat)
  /-- About to start the thread that reconnects a backend. -/
  | launching (backend : Nat)
  /-- Waits for the outcome of a backend's reconnect. -/
  | collecting (backend : Nat)
  /-- About to store the outcome. -/
  | storing (backend : Nat) (ok : Bool)
  deriving DecidableEq, Repr

/-- The thread that an update starts to reconnect a backend. -/
inductive FuturePoint where
  | none
  /-- Inside `reconnect_backend`. -/
  | running
  | done (ok : Bool)
  deriving DecidableEq, Repr

/-- The backends of the proxy and the threads that look after them. -/
structure ReconnectState where
  /-- The number of backends. -/
  backends : Nat
  health : Nat → BackendHealth
  /-- `is_connected` of the control channel. -/
  connected : Nat → Bool
  loop : ReconnectPoint
  session : UpdatePoint
  futures : Nat → FuturePoint

/-- Steps of the background loop. -/
inductive LoopAction where
  /-- Starts a pass. -/
  | wake
  /-- Reads the health of the next backend, or ends the pass. -/
  | readHealth
  /-- Tests the connection of a backend that was read as HEALTHY. -/
  | testConnected
  /-- The ping is answered or fails. -/
  | pinged (answered : Bool)
  /-- Stores DEAD. -/
  | storeDead
  /-- Returns from `reconnect_backend`. -/
  | reconnectEnds (ok : Bool)
  /-- Stores HEALTHY. -/
  | storeHealthy
  deriving DecidableEq, Repr

/-- Steps of the session thread between messages. -/
inductive DispatchAction where
  /-- A session becomes active. -/
  | promote
  /-- The active session ends. -/
  | leave
  /-- A pass of the watchdog starts. -/
  | turn
  /-- The watchdog reads the health of the next backend, or ends its pass. -/
  | scan
  /-- The watchdog tests the connection of a backend that was read as HEALTHY. -/
  | watch
  /-- The watchdog stores DEAD. -/
  | lose
  deriving DecidableEq, Repr

/-- Steps of the session thread in the commit of an update. -/
inductive CommitAction where
  /-- The commit is dispatched. -/
  | begin
  /-- The broadcast returns, and the client is answered. -/
  | broadcastEnds
  /-- Marks the next backend REBOOTING, or has marked all and slept. -/
  | mark
  /-- Starts the thread for the next backend, or has started all. -/
  | launch
  /-- Gets the outcome for the next backend, or has got all. -/
  | collect
  /-- Stores the outcome. -/
  | store
  deriving DecidableEq, Repr

/-- Atomic steps. -/
inductive ReconnectAction where
  /-- A device drops its connection. -/
  | drop (backend : Nat)
  /-- The connection to a device comes up inside `reconnect_backend`. -/
  | attach (backend : Nat)
  | loop (action : LoopAction)
  | dispatch (action : DispatchAction)
  | commit (action : CommitAction)
  /-- A thread started by the update returns from `reconnect_backend`. -/
  | futureEnds (backend : Nat) (ok : Bool)
  deriving DecidableEq, Repr

/-- The loop is inside `reconnect_backend` for this backend. -/
def ReconnectPoint.reconnects : ReconnectPoint → Nat → Bool
  | .reconnecting _ backend, other => backend = other
  | _, _ => false

/-- The loop has given this backend up and not yet finished with it. -/
def ReconnectPoint.atWork : ReconnectPoint → Nat → Bool
  | .failed _ backend, other | .reconnecting _ backend, other | .reconnected _ backend, other =>
    backend = other
  | _, _ => false

/-- The update has marked this backend and not yet stored the outcome of its reconnect. -/
def UpdatePoint.rebooting : UpdatePoint → Nat → Bool
  | .marking next, backend => backend < next
  | .launching _, _ => true
  | .collecting next, backend | .storing next _, backend => next ≤ backend
  | _, _ => false

/-- The update has started the thread for this backend and not yet stored its outcome. -/
def UpdatePoint.launched : UpdatePoint → Nat → Bool
  | .launching next, backend => backend < next
  | .collecting next, backend | .storing next _, backend => next ≤ backend
  | _, _ => false

/-- The step is one of the session thread. -/
def ReconnectAction.ofSession : ReconnectAction → Bool
  | .dispatch _ | .commit _ => true
  | _ => false

namespace ReconnectState

/-- All threads are idle. -/
def initial (backends : Nat) (health : Nat → BackendHealth) (connected : Nat → Bool) :
    ReconnectState where
  backends := backends
  health := health
  connected := connected
  loop := .sleeping
  session := .waiting
  futures := fun _ => .none

/-- Store the health of a backend. -/
def setBackendHealth (s : ReconnectState) (backend : Nat) (health : BackendHealth) :
    ReconnectState :=
  { s with health := Function.update s.health backend health }

/-- Move the thread that an update has started for a backend. -/
def setFuture (s : ReconnectState) (backend : Nat) (point : FuturePoint) : ReconnectState :=
  { s with futures := Function.update s.futures backend point }

/-- Some thread is inside `reconnect_backend` for this backend. -/
def attaching (s : ReconnectState) (backend : Nat) : Bool :=
  s.loop.reconnects backend || s.futures backend = .running

/-- One pass of the background loop, statement by statement. -/
def stepLoop (s : ReconnectState) : LoopAction → Option ReconnectState
  | .wake =>
    -- Whether a session is active is read once for the whole pass.
    if s.loop = .sleeping then some { s with loop := .visiting (s.session ≠ .waiting) 0 } else none
  | .readHealth =>
    match s.loop with
    | .visiting active backend =>
      if s.backends ≤ backend then some { s with loop := .sleeping }
      else
        match s.health backend with
        | .rebooting => some { s with loop := .visiting active (backend + 1) }
        | .healthy => some { s with loop := .testing active backend }
        | .dead => some { s with loop := .reconnecting active backend }
    | _ => none
  | .testConnected =>
    match s.loop with
    | .testing active backend =>
      if !s.connected backend then some { s with loop := .failed active backend }
      else if !active then some { s with loop := .probing backend }
      else some { s with loop := .visiting active (backend + 1) }
    | _ => none
  | .pinged answered =>
    match s.loop with
    | .probing backend =>
      if answered then some { s with loop := .visiting false (backend + 1) }
      else some { s with loop := .failed false backend }
    | _ => none
  | .storeDead =>
    match s.loop with
    | .failed active backend =>
      some { s.setBackendHealth backend .dead with loop := .reconnecting active backend }
    | _ => none
  | .reconnectEnds ok =>
    match s.loop with
    | .reconnecting active backend =>
      if ok then some { s with loop := .reconnected active backend }
      else some { s with loop := .visiting active (backend + 1) }
    | _ => none
  | .storeHealthy =>
    match s.loop with
    | .reconnected active backend =>
      some { s.setBackendHealth backend .healthy with loop := .visiting active (backend + 1) }
    | _ => none

/-- Every backend is healthy. -/
def AllBackendsHealthy (s : ReconnectState) : Prop :=
  ∀ backend < s.backends, s.health backend = .healthy

instance (s : ReconnectState) : Decidable s.AllBackendsHealthy :=
  inferInstanceAs (Decidable (∀ backend < s.backends, _))

/-- The session thread between messages: promotion, the watchdog, and the end of a session. -/
def stepDispatch (s : ReconnectState) : DispatchAction → Option ReconnectState
  | .promote =>
    if s.session = .waiting ∧ s.AllBackendsHealthy then some { s with session := .receiving }
    else none
  | .leave => if s.session = .receiving then some { s with session := .waiting } else none
  | .turn => if s.session = .receiving then some { s with session := .scanning 0 false } else none
  | .scan =>
    match s.session with
    | .scanning backend lost =>
      if s.backends ≤ backend then
        -- A lost backend ends the session after the whole pass.
        some { s with session := if lost then .waiting else .receiving }
      else
        match s.health backend with
        | .rebooting => some { s with session := .scanning (backend + 1) lost }
        | .dead => some { s with session := .scanning (backend + 1) true }
        | .healthy => some { s with session := .watching backend lost }
    | _ => none
  | .watch =>
    match s.session with
    | .watching backend lost =>
      if s.connected backend then some { s with session := .scanning (backend + 1) lost }
      else some { s with session := .losing backend }
    | _ => none
  | .lose =>
    match s.session with
    | .losing backend =>
      some { s.setBackendHealth backend .dead with session := .scanning (backend + 1) true }
    | _ => none

/-- The commit of an update, statement by statement. -/
def stepCommit (s : ReconnectState) : CommitAction → Option ReconnectState
  | .begin => if s.session = .receiving then some { s with session := .broadcasting } else none
  | .broadcastEnds =>
    if s.session = .broadcasting then some { s with session := .marking 0 } else none
  -- The marks are set one after the other, and other threads run in between.
  | .mark =>
    match s.session with
    | .marking backend =>
      if s.backends ≤ backend then some { s with session := .launching 0 }
      else some { s.setBackendHealth backend .rebooting with session := .marking (backend + 1) }
    | _ => none
  | .launch =>
    match s.session with
    | .launching backend =>
      if s.backends ≤ backend then some { s with session := .collecting 0 }
      else some { s.setFuture backend .running with session := .launching (backend + 1) }
    | _ => none
  | .collect =>
    match s.session with
    | .collecting backend =>
      if s.backends ≤ backend then some { s with session := .receiving }
      else
        match s.futures backend with
        | .done ok => some { s with session := .storing backend ok }
        | _ => none
    | _ => none
  -- The outcome overwrites the mark.
  | .store =>
    match s.session with
    | .storing backend ok =>
      let stored := s.setBackendHealth backend (if ok then .healthy else .dead)
      some { stored.setFuture backend .none with session := .collecting (backend + 1) }
    | _ => none

/-- One atomic step of any thread, or of a device. -/
def step (s : ReconnectState) : ReconnectAction → Option ReconnectState
  | .drop backend => some { s with connected := Function.update s.connected backend false }
  -- A connection comes up only while somebody reconnects.
  | .attach backend =>
    if s.attaching backend then
      some { s with connected := Function.update s.connected backend true }
    else none
  | .loop action => s.stepLoop action
  | .dispatch action => s.stepDispatch action
  | .commit action => s.stepCommit action
  | .futureEnds backend ok =>
    if s.futures backend = .running then some (s.setFuture backend (.done ok)) else none

/-- No backend is reconnected twice at once, and an update has its rebooting backends to itself. -/
structure Exclusive (s : ReconnectState) : Prop where
  /-- The loop and a thread of the update are not both reconnecting a backend. -/
  single : ∀ backend < s.backends, s.loop.reconnects backend → s.futures backend ≠ .running
  /-- An update starts a thread only for a backend that has none. -/
  fresh : ∀ backend < s.backends, s.session = .launching backend → s.futures backend = .none
  /-- No step of another thread changes the health of a backend in its reboot phase. -/
  untouched : ∀ action next, ¬ action.ofSession → s.step action = some next →
    ∀ backend < s.backends, s.session.rebooting backend →
      next.health backend = s.health backend

/-- The loop leaves the rebooting backends alone: none is marked while the loop is at work on it,
and a test made with a health read before the mark finds the backend alive. -/
def leavesAlone (s : ReconnectState) : ReconnectAction → Bool
  -- The loop may have read the health before the mark was set.
  | .commit .mark =>
    match s.session with
    | .marking backend => !s.loop.atWork backend
    | _ => true
  | .loop .testConnected =>
    match s.loop with
    | .testing _ backend => !s.session.rebooting backend || s.connected backend
    | _ => true
  | .loop (.pinged answered) =>
    match s.loop with
    | .probing backend => !s.session.rebooting backend || answered
    | _ => true
  | _ => true

/-- What the runs keep in which the loop leaves rebooting backends alone. -/
structure Kept (s : ReconnectState) : Prop where
  apart : ∀ backend < s.backends, s.session.rebooting backend → ¬ s.loop.atWork backend
  marked : ∀ backend < s.backends, s.session.rebooting backend → s.health backend = .rebooting
  launched : ∀ backend < s.backends, s.futures backend ≠ .none → s.session.launched backend

/-- Storing a backend's health leaves the others alone. -/
theorem setBackendHealth_other {s : ReconnectState} {backend other : Nat} {health : BackendHealth}
    (different : other ≠ backend) : (s.setBackendHealth backend health).health other = s.health other :=
  Function.update_of_ne different _ _

/-- Moving the thread for a backend leaves the others alone. -/
theorem setFuture_other {s : ReconnectState} {backend other : Nat} {point : FuturePoint}
    (different : other ≠ backend) : (s.setFuture backend point).futures other = s.futures other :=
  Function.update_of_ne different _ _

/-- A backend whose thread has been started is in its reboot phase. -/
theorem rebooting_of_launched {point : UpdatePoint} {backend : Nat}
    (launched : point.launched backend) : point.rebooting backend := by
  cases point <;> first | exact launched | rfl | cases launched

/-- The loop changes nothing but its own place and the health of the backend it is at work on. -/
theorem stepLoop_frame {s next : ReconnectState} {action : LoopAction}
    (stepped : s.stepLoop action = some next) :
    next.backends = s.backends ∧ next.session = s.session ∧ next.futures = s.futures ∧
      ∀ backend, ¬ s.loop.atWork backend → next.health backend = s.health backend := by
  cases action <;> simp only [stepLoop] at stepped
  case wake => split at stepped <;> cases stepped; exact ⟨rfl, rfl, rfl, fun _ _ => rfl⟩
  case storeDead =>
    split at stepped <;> cases stepped
    rename_i active backend place
    refine ⟨rfl, rfl, rfl, fun other idle => setBackendHealth_other ?_⟩
    rintro rfl
    simp [place, ReconnectPoint.atWork] at idle
  case storeHealthy =>
    split at stepped <;> cases stepped
    rename_i active backend place
    refine ⟨rfl, rfl, rfl, fun other idle => setBackendHealth_other ?_⟩
    rintro rfl
    simp [place, ReconnectPoint.atWork] at idle
  -- The other steps only move the loop on.
  all_goals
    repeat' split at stepped
    all_goals cases stepped
    all_goals exact ⟨rfl, rfl, rfl, fun _ _ => rfl⟩

/-- The loop does not start to work on a backend that is marked and that it leaves alone. -/
theorem stepLoop_atWork {s next : ReconnectState} {action : LoopAction}
    (alone : s.leavesAlone (.loop action)) (stepped : s.stepLoop action = some next)
    {backend : Nat} (phase : s.session.rebooting backend) (marked : s.health backend = .rebooting)
    (idle : ¬ s.loop.atWork backend) : ¬ next.loop.atWork backend := by
  cases action <;> simp only [stepLoop] at stepped
  case wake => split at stepped <;> cases stepped; exact Bool.false_ne_true
  case readHealth =>
    repeat' split at stepped
    all_goals cases stepped
    · exact Bool.false_ne_true
    · exact Bool.false_ne_true
    · exact Bool.false_ne_true
    · -- A backend that is read as DEAD is not the marked one.
      rename_i active other _ _ dead
      simp only [ReconnectPoint.atWork, decide_eq_true_eq]
      rintro rfl
      rw [marked] at dead
      cases dead
  case testConnected =>
    repeat' split at stepped
    all_goals cases stepped
    · rename_i active other place down
      simp only [ReconnectPoint.atWork, decide_eq_true_eq]
      rintro rfl
      simp only [leavesAlone, place, phase, Bool.not_true, Bool.false_or] at alone
      simp [alone] at down
    · exact Bool.false_ne_true
    · exact Bool.false_ne_true
  case pinged answered =>
    repeat' split at stepped
    all_goals cases stepped
    · exact Bool.false_ne_true
    · rename_i other place silent
      simp only [ReconnectPoint.atWork, decide_eq_true_eq]
      rintro rfl
      simp only [leavesAlone, place, phase, Bool.not_true, Bool.false_or] at alone
      exact silent alone
  case storeDead =>
    split at stepped <;> cases stepped
    rename_i place
    simpa [place, ReconnectPoint.atWork] using idle
  case reconnectEnds ok =>
    repeat' split at stepped
    all_goals cases stepped
    · rename_i place _
      simpa [place, ReconnectPoint.atWork] using idle
    · exact Bool.false_ne_true
  case storeHealthy => split at stepped <;> cases stepped; exact Bool.false_ne_true

/-- Between messages no backend is in its reboot phase. -/
theorem stepDispatch_frame {s next : ReconnectState} {action : DispatchAction}
    (stepped : s.stepDispatch action = some next) :
    next.backends = s.backends ∧ next.futures = s.futures ∧
      ∀ backend, ¬ next.session.rebooting backend := by
  cases action <;> simp only [stepDispatch] at stepped
  all_goals
    repeat' split at stepped
    all_goals cases stepped
    all_goals refine ⟨rfl, rfl, fun backend => ?_⟩
    all_goals exact Bool.false_ne_true

/-- The session thread is not between messages while a thread of an update is left. -/
theorem stepDispatch_launched {s next : ReconnectState} {action : DispatchAction}
    (stepped : s.stepDispatch action = some next) (backend : Nat) :
    ¬ s.session.launched backend := by
  intro launched
  -- Where a thread of an update is left, the dispatch has no step.
  cases place : s.session <;> rw [place] at launched <;>
    first | cases launched | (cases action <;> simp [stepDispatch, place] at stepped)

/-- A commit goes from marking to storing, and keeps the loop away from what it has marked. -/
theorem Kept.stepCommit {s next : ReconnectState} {action : CommitAction} (kept : s.Kept)
    (alone : s.leavesAlone (.commit action)) (stepped : s.stepCommit action = some next) :
    next.Kept := by
  -- A thread is left only where the update has started one.
  have idle : ∀ backend < s.backends, ¬ s.session.launched backend → s.futures backend = .none :=
    fun backend bound early => by_contra fun started => early (kept.launched backend bound started)
  cases action <;> simp only [ReconnectState.stepCommit] at stepped
  case begin =>
    split at stepped <;> cases stepped
    rename_i place
    refine ⟨fun _ _ phase => (nomatch phase), fun _ _ phase => (nomatch phase), ?_⟩
    exact fun backend bound started =>
      absurd (idle backend bound (by simp [place, UpdatePoint.launched])) started
  case broadcastEnds =>
    split at stepped <;> cases stepped
    rename_i place
    refine ⟨fun _ _ phase => ?_, fun _ _ phase => ?_, ?_⟩
    · simp [UpdatePoint.rebooting] at phase
    · simp [UpdatePoint.rebooting] at phase
    · exact fun backend bound started =>
        absurd (idle backend bound (by simp [place, UpdatePoint.launched])) started
  case mark =>
    split at stepped
    case h_2 => cases stepped
    rename_i backend place
    have none : ∀ other < s.backends, s.futures other = .none := fun other bound =>
      idle other bound (by simp [place, UpdatePoint.launched])
    split at stepped <;> cases stepped
    · -- All backends have been marked.
      rename_i last
      have all : ∀ other < s.backends, s.session.rebooting other := fun other bound => by
        simp only [place, UpdatePoint.rebooting, decide_eq_true_eq]
        omega
      exact ⟨fun other bound _ => kept.apart other bound (all other bound),
        fun other bound _ => kept.marked other bound (all other bound),
        fun other bound started => absurd (none other bound) started⟩
    · refine ⟨fun other bound phase => ?_, fun other bound phase => ?_,
        fun other bound started => absurd (none other bound) started⟩
      · by_cases same : other = backend
        · simp only [leavesAlone, place, Bool.not_eq_true'] at alone
          rw [same]
          exact Bool.eq_false_iff.mp alone
        · refine kept.apart other bound ?_
          simp only [place, UpdatePoint.rebooting, decide_eq_true_eq] at phase ⊢
          omega
      · by_cases same : other = backend
        · exact same ▸ Function.update_self ..
        · refine (setBackendHealth_other same).trans (kept.marked other bound ?_)
          simp only [place, UpdatePoint.rebooting, decide_eq_true_eq] at phase ⊢
          omega
  case launch =>
    split at stepped
    case h_2 => cases stepped
    rename_i backend place
    have all : ∀ other, s.session.rebooting other := fun other => by rw [place]; rfl
    split at stepped <;> cases stepped
    · refine ⟨fun other bound _ => kept.apart other bound (all other),
        fun other bound _ => kept.marked other bound (all other), fun other bound started => ?_⟩
      simp [UpdatePoint.launched]
    · refine ⟨fun other bound _ => kept.apart other bound (all other),
        fun other bound _ => kept.marked other bound (all other), fun other bound started => ?_⟩
      simp only [UpdatePoint.launched, decide_eq_true_eq]
      by_cases same : other = backend
      · omega
      · have before := kept.launched other bound fun unused =>
          started ((setFuture_other same).trans unused)
        simp only [place, UpdatePoint.launched, decide_eq_true_eq] at before
        omega
  case collect =>
    split at stepped
    case h_2 => cases stepped
    rename_i backend place
    split at stepped
    · cases stepped
      rename_i last
      refine ⟨fun _ _ phase => (nomatch phase), fun _ _ phase => (nomatch phase), ?_⟩
      intro other bound started
      have before := kept.launched other bound started
      simp only [place, UpdatePoint.launched, decide_eq_true_eq] at before
      change other < s.backends at bound
      omega
    · split at stepped <;> cases stepped
      -- Getting the outcome does not end the phase of the backend.
      have apart := kept.apart
      have marked := kept.marked
      have launched := kept.launched
      rw [place] at apart marked launched
      exact ⟨apart, marked, launched⟩
  case store =>
    split at stepped <;> cases stepped
    rename_i backend ok place
    -- What is left of the phase concerns the backends behind this one.
    have behind : ∀ other, UpdatePoint.rebooting (.collecting (backend + 1)) other →
        other ≠ backend ∧ s.session.rebooting other := by
      intro other phase
      simp only [place, UpdatePoint.rebooting, decide_eq_true_eq] at phase ⊢
      omega
    refine ⟨fun other bound phase => kept.apart other bound (behind other phase).2,
      fun other bound phase => ?_, fun other bound started => ?_⟩
    · exact (setBackendHealth_other (behind other phase).1).trans
        (kept.marked other bound (behind other phase).2)
    · have different : other ≠ backend := by
        rintro rfl
        exact started (Function.update_self ..)
      have before := kept.launched other bound fun unused =>
        started ((setFuture_other different).trans unused)
      simp only [place, UpdatePoint.launched, decide_eq_true_eq] at before ⊢
      omega

/-- No backend is worked on by both sides as long as the loop leaves rebooting backends alone. -/
theorem Kept.step {s next : ReconnectState} {action : ReconnectAction} (kept : s.Kept)
    (alone : s.leavesAlone action) (stepped : s.step action = some next) : next.Kept := by
  cases action with
  | drop backend =>
    cases stepped
    exact ⟨kept.apart, kept.marked, kept.launched⟩
  | attach backend =>
    simp only [ReconnectState.step] at stepped
    split at stepped <;> cases stepped
    exact ⟨kept.apart, kept.marked, kept.launched⟩
  | futureEnds backend ok =>
    simp only [ReconnectState.step] at stepped
    split at stepped <;> cases stepped
    rename_i running
    refine ⟨kept.apart, kept.marked, fun other bound started => ?_⟩
    apply kept.launched other bound
    -- A thread that ends was running, and the others are what they were.
    by_cases same : other = backend
    · rw [same, running]
      exact FuturePoint.noConfusion
    · rwa [setFuture_other same] at started
  | loop action =>
    obtain ⟨count, session, futures, health⟩ := stepLoop_frame stepped
    refine ⟨?_, ?_, ?_⟩ <;> rw [count, session] <;> intro backend bound
    · intro phase
      exact stepLoop_atWork alone stepped phase (kept.marked backend bound phase)
        (kept.apart backend bound phase)
    · intro phase
      rw [health backend (kept.apart backend bound phase)]
      exact kept.marked backend bound phase
    · rw [futures]
      exact kept.launched backend bound
  | dispatch action =>
    obtain ⟨count, futures, finished⟩ := stepDispatch_frame stepped
    refine ⟨fun backend _ phase => absurd phase (finished backend),
      fun backend _ phase => absurd phase (finished backend), ?_⟩
    rw [count, futures]
    intro backend bound started
    exact absurd (kept.launched backend bound started) (stepDispatch_launched stepped backend)
  | commit action => exact kept.stepCommit alone stepped

/-- As long as this is kept, every backend is worked on by one side only. -/
theorem Kept.exclusive {s : ReconnectState} (kept : s.Kept) : s.Exclusive where
  single := by
    intro backend bound reconnects running
    have started : s.futures backend ≠ .none := by
      rw [running]
      exact FuturePoint.noConfusion
    have phase := rebooting_of_launched (kept.launched backend bound started)
    refine kept.apart backend bound phase ?_
    cases place : s.loop <;> rw [place] at reconnects <;> first | exact reconnects | cases reconnects
  fresh := by
    intro backend bound place
    by_contra started
    have launched := kept.launched backend bound started
    simp [place, UpdatePoint.launched] at launched
  untouched := by
    intro action next other stepped backend bound phase
    cases action with
    | drop => cases stepped; rfl
    | attach =>
      simp only [ReconnectState.step] at stepped
      split at stepped <;> cases stepped
      rfl
    | futureEnds =>
      simp only [ReconnectState.step] at stepped
      split at stepped <;> cases stepped
      rfl
    | loop => exact (stepLoop_frame stepped).2.2.2 backend (kept.apart backend bound phase)
    | dispatch => exact absurd rfl other
    | commit => exact absurd rfl other

/-- In every run in which the loop leaves rebooting backends alone, no backend is reconnected by
two threads at once, and an update has the backends it reboots to itself. -/
theorem reconnects_exclusive (backends : Nat) (health : Nat → BackendHealth)
    (connected : Nat → Bool) (actions : List ReconnectAction) (state : ReconnectState)
    (alone : Transition.Meets step (fun s action => s.leavesAlone action)
      (initial backends health connected) actions)
    (ran : Transition.run step (initial backends health connected) actions = some state) :
    state.Exclusive := by
  refine Kept.exclusive (Transition.run_preserves
    (fun _ _ _ held met stepped => Kept.step held met stepped) actions _ state ?_ alone ran)
  exact ⟨fun _ _ phase => (nomatch phase), fun _ _ phase => (nomatch phase),
    fun _ _ started => absurd rfl started⟩

/-- An update of one backend that is up, with a pass of the loop in between. -/
def updateOfOne : List ReconnectAction :=
  [.dispatch .promote, .loop .wake, .loop .readHealth, .commit .begin, .commit .broadcastEnds,
    .loop .testConnected, .commit .mark, .drop 0, .commit .mark, .loop .readHealth, .commit .launch]

/-- The loop is through with the backend before it drops. -/
theorem reconnects_exclusive_update : ∃ state,
    Transition.run step (initial 1 (fun _ => .healthy) (fun _ => true)) updateOfOne = some state ∧
      state.futures 0 = .running ∧ state.Exclusive := by
  refine ⟨_, rfl, rfl, ?_⟩
  exact reconnects_exclusive 1 (fun _ => .healthy) (fun _ => true) updateOfOne _ (by decide) rfl

/-- The device drops while the broadcast of the commit is under way. -/
def droppedDuringCommit : List ReconnectAction :=
  [.dispatch .promote, .commit .begin, .drop 0, .loop .wake, .loop .readHealth,
    .loop .testConnected, .commit .broadcastEnds, .commit .mark, .commit .mark, .loop .storeDead,
    .commit .launch]

/-- Both threads are on the same channel, and the loop has taken back the REBOOTING mark. -/
theorem reconnects_collide : ∃ state,
    Transition.run step (initial 1 (fun _ => .healthy) (fun _ => true)) droppedDuringCommit =
        some state ∧
      state.session.rebooting 0 ∧ state.health 0 = .dead ∧ state.loop.reconnects 0 ∧
      state.futures 0 = .running ∧ ¬ state.Exclusive := by
  refine ⟨_, rfl, rfl, rfl, rfl, rfl, fun exclusive => ?_⟩
  exact exclusive.single 0 (by decide) rfl rfl

end ReconnectState

end Pybrid
