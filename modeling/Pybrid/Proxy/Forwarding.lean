import Pybrid.Library.Transition
import Pybrid.Native.Message

/-! The proxy's forward callbacks: installed per session, while runs go on at the backends. -/

namespace Pybrid

/-- The channel on which a backend's message arrives. -/
inductive ForwardChannel where
  | data
  | control
  deriving DecidableEq, Repr

/-- Where a forward callback is registered. -/
structure Route where
  backend : Nat
  channel : ForwardChannel
  deriving DecidableEq, Repr

/-- What a backend says about a run. -/
inductive RunPayload where
  | runData
  | runDataEnd
  | runStateChange (state : RunState)
  deriving DecidableEq, Repr

/-- A message of a backend, with the run it belongs to. -/
structure RunMessage where
  backend : Nat
  run : Nat
  payload : RunPayload
  deriving DecidableEq, Repr

/-- What the forward callback sends to the client. -/
inductive Forwarded where
  /-- The message itself. -/
  | relayed (message : RunMessage)
  /-- The description of the error that the message reports. -/
  | deviceError (message : RunMessage)
  deriving DecidableEq, Repr

/-- What the session thread does about the forward callbacks. -/
inductive SwitchPoint where
  /-- No session is active. -/
  | idle
  /-- The callbacks are being installed for a session. -/
  | installing (session : Nat) (rest : List Route)
  /-- The session is being served. -/
  | active (session : Nat)
  /-- The callbacks are being cleared again. -/
  | clearing (session : Nat) (rest : List Route)
  deriving DecidableEq, Repr

/-- The forward callbacks, the runs at the backends and what has been sent to the clients. -/
structure Forwarding where
  point : SwitchPoint
  /-- The session captured by the callback of each route. -/
  forward : Route → Option Nat
  /-- The runs started, with the session that started each, newest first. -/
  started : List (Nat × Nat)
  /-- The backends that are at work on a run, with the run. -/
  underway : List (Nat × Nat)
  /-- The messages of the backends that have not been handled yet. -/
  inFlight : List (Route × RunMessage)
  /-- Everything sent by a callback, with the session it was sent to, newest first. -/
  sent : List (Nat × Forwarded)

/-- Atomic steps of the session thread, of the backends and of the channels' threads. -/
inductive ForwardAction where
  /-- A session becomes active. -/
  | promote (session : Nat)
  /-- The next callback is installed or cleared. -/
  | advance
  /-- The active session starts a run on the backends that can be reached. -/
  | startRun (run : Nat) (reached : List Nat)
  /-- A backend sends something about a run it is at work on. -/
  | emit (channel : ForwardChannel) (message : RunMessage)
  /-- A backend is done with a run. -/
  | finish (backend run : Nat)
  /-- A channel's thread handles one of the messages in flight. -/
  | deliver (index : Nat)
  /-- One of the messages in flight is lost. -/
  | lose (index : Nat)
  /-- The active session ends, its client having left or timed out. -/
  | leave
  deriving DecidableEq, Repr

/-- The run that something sent to a client belongs to. -/
def Forwarded.run : Forwarded → Nat
  | .relayed message | .deviceError message => message.run

/-- What the callback sends for a message, the last of it first. -/
def RunMessage.forwarded (message : RunMessage) : List Forwarded :=
  match message.payload with
  | .runStateChange .error => [.deviceError message, .relayed message]
  | _ => [.relayed message]

/-- The control channel's callback is registered for state changes only. -/
def ForwardChannel.carries : ForwardChannel → RunPayload → Bool
  | .data, _ => true
  | .control, .runStateChange _ => true
  | .control, _ => false

/-- The session the callbacks are for. -/
def SwitchPoint.session : SwitchPoint → Option Nat
  | .idle => none
  | .installing session _ | .active session | .clearing session _ => some session

namespace Forwarding

/-- No session and no run. -/
def initial : Forwarding where
  point := .idle
  forward := fun _ => none
  started := []
  underway := []
  inFlight := []
  sent := []

/-- The places at which callbacks are installed and cleared, in order. -/
def routes (targets : List Nat) : List Route :=
  targets.flatMap fun backend => [⟨backend, .data⟩, ⟨backend, .control⟩]

/-- Install or clear the next callback. -/
def advance (σ : Forwarding) : Option Forwarding :=
  match σ.point with
  | .installing session (route :: rest) =>
    some { σ with
      point := .installing session rest
      forward := Function.update σ.forward route (some session) }
  | .installing session [] => some { σ with point := .active session }
  | .clearing session (route :: rest) =>
    some { σ with
      point := .clearing session rest
      forward := Function.update σ.forward route none }
  | .clearing _ [] => some { σ with point := .idle }
  | _ => none

/-- The callback of a route sends a message to the session it was installed for. -/
def forwardTo (σ : Forwarding) (route : Route) (message : RunMessage) : List (Nat × Forwarded) :=
  match σ.forward route with
  | some session => message.forwarded.map fun forwarded => (session, forwarded)
  | none => []

/-- One atomic step. -/
def step (targets : List Nat) (σ : Forwarding) : ForwardAction → Option Forwarding
  | .promote session =>
    if σ.point = .idle then some { σ with point := .installing session (routes targets) } else none
  | .advance => σ.advance
  | .startRun run reached =>
    match σ.point with
    | .active session =>
      -- A number names one run, whatever identifier the client has put into its command.
      if run ∈ σ.started.map Prod.fst then none
      else
        some { σ with
          started := (run, session) :: σ.started
          underway := reached.map (fun backend => (backend, run)) ++ σ.underway }
    | _ => none
  | .emit channel message =>
    if (message.backend, message.run) ∈ σ.underway ∧ channel.carries message.payload = true then
      some { σ with inFlight := σ.inFlight ++ [(⟨message.backend, channel⟩, message)] }
    else none
  | .finish backend run => some { σ with underway := σ.underway.filter (· ≠ (backend, run)) }
  | .deliver index =>
    match σ.inFlight[index]? with
    | some (route, message) =>
      some { σ with
        inFlight := σ.inFlight.eraseIdx index
        sent := σ.forwardTo route message ++ σ.sent }
    | none => none
  | .lose index => some { σ with inFlight := σ.inFlight.eraseIdx index }
  | .leave =>
    match σ.point with
    | .active session => some { σ with point := .clearing session (routes targets) }
    | _ => none

/-- The session that has started a run. -/
def starter (σ : Forwarding) (run : Nat) : Option Nat :=
  σ.started.lookup run

/-- Everything sent to a session belongs to a run that this session has started. -/
def StaysPrivate (σ : Forwarding) : Prop :=
  ∀ session forwarded, (session, forwarded) ∈ σ.sent → σ.starter forwarded.run = some session

/-- A session becomes active only when no backend is at work and nothing is in flight. -/
def Quiet (σ : Forwarding) : ForwardAction → Prop
  | .promote _ => σ.underway = [] ∧ σ.inFlight = []
  | _ => True

instance (σ : Forwarding) (action : ForwardAction) : Decidable (σ.Quiet action) :=
  match action with
  | .promote _ => inferInstanceAs (Decidable (σ.underway = [] ∧ σ.inFlight = []))
  | .advance | .startRun _ _ | .emit _ _ | .finish _ _ | .deliver _ | .lose _ | .leave =>
    inferInstanceAs (Decidable True)

end Forwarding

/-- The routes at which a callback may be installed. -/
def SwitchPoint.occupied (targets : List Nat) : SwitchPoint → List Route
  | .idle => []
  | .installing _ _ | .active _ => Forwarding.routes targets
  | .clearing _ rest => rest

namespace Forwarding

/-- What holds while sessions become active only when everything is quiet. -/
structure Owned (targets : List Nat) (σ : Forwarding) : Prop where
  /-- Callbacks are for the session at hand. -/
  installed : ∀ route session, σ.forward route = some session →
    σ.point.session = some session ∧ route ∈ σ.point.occupied targets
  installing : ∀ session rest, σ.point = .installing session rest →
    ∀ route ∈ rest, route ∈ routes targets
  /-- Whatever the backends are at work on was started by the session at hand. -/
  underway : ∀ session, σ.point.session = some session →
    ∀ backend run, (backend, run) ∈ σ.underway → σ.starter run = some session
  inFlight : ∀ session, σ.point.session = some session →
    ∀ route message, (route, message) ∈ σ.inFlight → σ.starter message.run = some session
  sent : σ.StaysPrivate

variable {targets : List Nat} {σ next : Forwarding}

/-- Everything that is sent for a message belongs to its run. -/
theorem run_of_forwarded {message : RunMessage} {forwarded : Forwarded}
    (member : forwarded ∈ message.forwarded) : forwarded.run = message.run := by
  unfold RunMessage.forwarded at member
  split at member
  · rcases List.mem_cons.mp member with rfl | last
    · rfl
    · rw [List.mem_singleton.mp last]
      rfl
  · rw [List.mem_singleton.mp member]
    rfl

/-- A run whose starter is known keeps it when another one is started. -/
theorem starter_cons {run new session other : Nat} {started : List (Nat × Nat)}
    (fresh : new ∉ started.map Prod.fst) (known : started.lookup run = some session) :
    List.lookup run ((new, other) :: started) = some session := by
  have different : run ≠ new := by
    rintro rfl
    obtain ⟨before, after, rfl, -⟩ := List.lookup_eq_some_iff.mp known
    simp at fresh
  rw [List.lookup_cons, beq_eq_false_iff_ne.mpr different]
  exact known

/-- Another point of the same session keeps what holds, if the callbacks fit it. -/
theorem Owned.of_point (owned : Owned targets σ) {point : SwitchPoint}
    {forward : Route → Option Nat} (same : σ.point.session = point.session)
    (installed : ∀ route session, forward route = some session →
      point.session = some session ∧ route ∈ point.occupied targets)
    (installing : ∀ session rest, point = .installing session rest →
      ∀ route ∈ rest, route ∈ routes targets) :
    Owned targets { σ with point, forward } := by
  refine ⟨installed, installing, fun session here => ?_, fun session here => ?_, owned.sent⟩
  · exact owned.underway session (same.trans here)
  · exact owned.inFlight session (same.trans here)

/-- Installing and clearing callbacks keeps what holds of them. -/
theorem Owned.advance (owned : Owned targets σ) (stepped : σ.advance = some next) :
    Owned targets next := by
  unfold Forwarding.advance at stepped
  split at stepped
  case h_1 here route rest point =>
    cases stepped
    refine owned.of_point (by rw [point]; rfl) (fun other captured installed => ?_)
      fun _ _ same other member => ?_
    · by_cases same : other = route
      · -- The callback just installed is for the session at hand.
        subst same
        simp only [Function.update_self, Option.some.injEq] at installed
        refine ⟨congrArg some installed, owned.installing _ _ point other (by simp)⟩
      · simp only [Function.update_of_ne same] at installed
        have before := owned.installed other captured installed
        rw [point] at before
        exact before
    · simp only [SwitchPoint.installing.injEq] at same
      exact owned.installing _ _ point other (by simp [same.2, member])
  case h_2 here point =>
    -- All callbacks are installed, and the session is served.
    cases stepped
    refine owned.of_point (by rw [point]; rfl) (fun other captured installed => ?_) (by simp)
    have before := owned.installed other captured installed
    rw [point] at before
    exact before
  case h_3 here route rest point =>
    -- Callbacks are left only where there is still something to clear.
    cases stepped
    refine owned.of_point (by rw [point]; rfl) (fun other captured installed => ?_) (by simp)
    by_cases same : other = route
    · subst same
      simp at installed
    · simp only [Function.update_of_ne same] at installed
      obtain ⟨mine, member⟩ := owned.installed other captured installed
      rw [point] at mine member
      exact ⟨mine, (List.mem_cons.mp member).resolve_left same⟩
  case h_4 here point =>
    -- Every callback has been cleared by now.
    cases stepped
    refine ⟨fun other captured installed => ?_, by simp, by simp [SwitchPoint.session],
      by simp [SwitchPoint.session], owned.sent⟩
    have before := (owned.installed other captured installed).2
    rw [point] at before
    simp [SwitchPoint.occupied] at before
  case h_5 => simp at stepped

/-- Every step keeps what holds of the callbacks, if sessions change in quiet moments only. -/
theorem Owned.step (owned : Owned targets σ) {action : ForwardAction} (quiet : σ.Quiet action)
    (stepped : step targets σ action = some next) : Owned targets next := by
  cases action with
  | promote session =>
    simp only [Forwarding.step, Option.ite_none_right_eq_some, Option.some.injEq] at stepped
    obtain ⟨idle, rfl⟩ := stepped
    obtain ⟨resting, nothing⟩ := quiet
    -- No callback has been left behind, and nothing that goes on could be somebody else's.
    refine ⟨fun route captured installed => ?_, fun _ _ same other member => ?_, ?_, ?_, owned.sent⟩
    · have before := (owned.installed route captured installed).1
      simp [idle, SwitchPoint.session] at before
    · simp only [SwitchPoint.installing.injEq] at same
      exact same.2 ▸ member
    · simp [resting]
    · simp [nothing]
  | advance => exact owned.advance stepped
  | startRun run reached =>
    simp only [Forwarding.step] at stepped
    split at stepped
    case h_2 => simp at stepped
    case h_1 session point =>
      simp only [Option.ite_none_left_eq_some, Option.some.injEq] at stepped
      obtain ⟨fresh, rfl⟩ := stepped
      have here : σ.point.session = some session := by rw [point]; rfl
      refine ⟨owned.installed, owned.installing, fun other at_ backend started member => ?_,
        fun other at_ route message member => ?_, fun other forwarded member => ?_⟩
      · -- The new run belongs to the session that starts it.
        obtain rfl : session = other := Option.some.inj (here.symm.trans at_)
        rcases List.mem_append.mp member with new | old
        · obtain ⟨_, _, same⟩ := List.mem_map.mp new
          obtain ⟨-, rfl⟩ := Prod.mk.inj same
          exact List.lookup_cons_self
        · exact starter_cons fresh (owned.underway session here backend started old)
      · exact starter_cons fresh (owned.inFlight other at_ route message member)
      · exact starter_cons fresh (owned.sent other forwarded member)
  | emit channel message =>
    simp only [Forwarding.step, Option.ite_none_right_eq_some, Option.some.injEq] at stepped
    obtain ⟨⟨working, -⟩, rfl⟩ := stepped
    refine ⟨owned.installed, owned.installing, owned.underway,
      fun session at_ route other member => ?_, owned.sent⟩
    rcases List.mem_append.mp member with old | new
    · exact owned.inFlight session at_ route other old
    · obtain ⟨-, rfl⟩ := Prod.mk.inj (List.mem_singleton.mp new)
      exact owned.underway session at_ _ _ working
  | finish backend run =>
    -- A backend that has finished says nothing more about the run.
    cases stepped
    refine ⟨owned.installed, owned.installing, fun session at_ other started member => ?_,
      owned.inFlight, owned.sent⟩
    exact owned.underway session at_ other started (List.mem_of_mem_filter member)
  | deliver index =>
    -- What is sent goes where the callback of this moment points.
    simp only [Forwarding.step] at stepped
    split at stepped
    case h_2 => simp at stepped
    case h_1 route message found =>
      cases stepped
      have flying : (route, message) ∈ σ.inFlight := List.mem_of_getElem? found
      refine ⟨owned.installed, owned.installing, owned.underway,
        fun session at_ other carried member => ?_, fun session forwarded member => ?_⟩
      · exact owned.inFlight session at_ other carried (List.mem_of_mem_eraseIdx member)
      · rcases List.mem_append.mp member with now | before
        · -- The callback's session is the one at hand, and so is the run's.
          unfold forwardTo at now
          split at now
          case h_2 => simp at now
          case h_1 captured installed =>
            obtain ⟨_, sent, same⟩ := List.mem_map.mp now
            obtain ⟨rfl, rfl⟩ := Prod.mk.inj same
            show σ.starter _ = _
            rw [run_of_forwarded sent]
            exact owned.inFlight _ (owned.installed route _ installed).1 route message flying
        · exact owned.sent session forwarded before
  | lose index =>
    -- What is lost is sent to nobody.
    cases stepped
    refine ⟨owned.installed, owned.installing, owned.underway,
      fun session at_ other carried member => ?_, owned.sent⟩
    exact owned.inFlight session at_ other carried (List.mem_of_mem_eraseIdx member)
  | leave =>
    simp only [Forwarding.step] at stepped
    split at stepped
    case h_2 => simp at stepped
    case h_1 session point =>
      cases stepped
      refine owned.of_point (by rw [point]; rfl) (fun route captured installed => ?_) (by simp)
      have before := owned.installed route captured installed
      rw [point] at before
      exact before

/-- The same state with runs and with messages that were sent before. -/
def following (alone : Forwarding) (runs : List (Nat × Nat)) (sent : List (Nat × Forwarded)) :
    Forwarding :=
  { alone with started := alone.started ++ runs, sent := alone.sent ++ sent }

/-- Whatever is done after earlier runs can be done without them, with the same effect. -/
theorem step_following {runs : List (Nat × Nat)} {sent : List (Nat × Forwarded)}
    {alone : Forwarding} {action : ForwardAction}
    (stepped : step targets (alone.following runs sent) action = some next) :
    ∃ followed, step targets alone action = some followed ∧
      next = followed.following runs sent := by
  -- No step reads what was sent, and only the start of a run reads which runs there were.
  cases action with
  | promote session =>
    simp only [Forwarding.step, Option.ite_none_right_eq_some, Option.some.injEq] at stepped ⊢
    obtain ⟨idle, rfl⟩ := stepped
    exact ⟨_, ⟨idle, rfl⟩, rfl⟩
  | advance =>
    simp only [Forwarding.step, Forwarding.advance, following] at stepped ⊢
    split at stepped
    · cases stepped
      exact ⟨_, rfl, rfl⟩
    · cases stepped
      exact ⟨_, rfl, rfl⟩
    · cases stepped
      exact ⟨_, rfl, rfl⟩
    · cases stepped
      exact ⟨_, rfl, rfl⟩
    · simp at stepped
  | startRun run reached =>
    simp only [Forwarding.step] at stepped
    split at stepped
    case h_2 => simp at stepped
    case h_1 session point =>
      split at stepped
      case isTrue => simp at stepped
      case isFalse fresh =>
        cases stepped
        have active : alone.point = .active session := point
        -- An identifier fresh among all runs is fresh among the later ones.
        have new : run ∉ alone.started.map Prod.fst := by
          intro old
          apply fresh
          rw [following, List.map_append]
          exact List.mem_append_left _ old
        refine ⟨{ alone with
          started := (run, session) :: alone.started
          underway := reached.map (fun backend => (backend, run)) ++ alone.underway }, ?_, rfl⟩
        simp only [Forwarding.step, active, if_neg new]
  | emit channel message =>
    simp only [Forwarding.step, Option.ite_none_right_eq_some, Option.some.injEq] at stepped ⊢
    obtain ⟨working, rfl⟩ := stepped
    exact ⟨_, ⟨working, rfl⟩, rfl⟩
  | finish backend run =>
    cases stepped
    exact ⟨_, rfl, rfl⟩
  | deliver index =>
    -- Earlier messages stay behind whatever is sent now.
    simp only [Forwarding.step, following] at stepped ⊢
    split at stepped
    case h_2 => simp at stepped
    case h_1 route message _ =>
      cases stepped
      refine ⟨_, rfl, ?_⟩
      simp [forwardTo]
  | lose index =>
    cases stepped
    exact ⟨_, rfl, rfl⟩
  | leave =>
    simp only [Forwarding.step, following] at stepped ⊢
    split at stepped
    case h_2 => simp at stepped
    case h_1 =>
      cases stepped
      exact ⟨_, rfl, rfl⟩

/-- A state in which nothing goes on is the initial one, but for what happened before. -/
theorem Owned.eq_following (owned : Owned targets σ) (idle : σ.point = .idle)
    (resting : σ.underway = []) (nothing : σ.inFlight = []) :
    σ = initial.following σ.started σ.sent := by
  have cleared : σ.forward = fun _ => none := by
    funext route
    cases captured : σ.forward route with
    | none => rfl
    | some session =>
      have here := (owned.installed route session captured).1
      simp [idle, SwitchPoint.session] at here
  obtain ⟨point, forward, started, underway, inFlight, sent⟩ := σ
  simp only at idle resting nothing cleared
  subst idle resting nothing cleared
  rfl

/--
What is sent to a session does not depend on the runs of the sessions before it.

From the promotion of any session on, exactly what would be sent had it been the first one is sent.
-/
def StreamsAlone (targets : List Nat) (actions : List ForwardAction) (final : Forwarding) : Prop :=
  ∀ before session after σ, actions = before ++ .promote session :: after →
    Transition.run (step targets) initial before = some σ →
    ∃ alone, Transition.run (step targets) initial (.promote session :: after) = some alone ∧
      final.sent = alone.sent ++ σ.sent

/-- Nothing is anybody's before the first session. -/
theorem Owned.initial (targets : List Nat) : Owned targets initial := by
  constructor <;> simp [Forwarding.initial, SwitchPoint.session, StaysPrivate]

/--
Run data stays with its client while sessions change in quiet moments only.

In every run in which a session becomes active only when no backend is at work on a run and no
message of one is in flight, whatever is sent to a session belongs to a run this session has started,
and what is sent to it does not depend on the runs of the sessions before it.
-/
theorem run_data_stays_private (targets : List Nat) (actions : List ForwardAction)
    (final : Forwarding) (quiet : Transition.Meets (step targets) Quiet initial actions)
    (ran : Transition.run (step targets) initial actions = some final) :
    final.StaysPrivate ∧ StreamsAlone targets actions final := by
  have keeps : ∀ σ action next, Owned targets σ → Quiet σ action →
      step targets σ action = some next → Owned targets next :=
    fun _ _ _ owned quiet stepped => owned.step quiet stepped
  have held := Transition.run_preserves keeps actions initial final (.initial targets) quiet ran
  refine ⟨held.sent, ?_⟩
  intro before session after σ whole reached
  subst whole
  have owned :=
    Transition.run_preserves keeps before initial σ (.initial targets) quiet.left reached
  obtain ⟨resting, nothing⟩ := (quiet.right reached).1
  -- The rest of the run starts in this state, which is idle because the session is promoted.
  rw [Transition.run_append, reached, Option.bind_some] at ran
  have idle : σ.point = .idle := by
    obtain ⟨next, stepped, -⟩ := Option.bind_eq_some_iff.mp ran
    simp only [Forwarding.step, Option.ite_none_right_eq_some] at stepped
    exact stepped.1
  have simulates : ∀ state shadow action next, state = following shadow σ.started σ.sent →
      step targets state action = some next → ∃ followed,
      step targets shadow action = some followed ∧ next = following followed σ.started σ.sent := by
    rintro state shadow action next rfl stepped
    exact step_following stepped
  obtain ⟨alone, ran', same⟩ := Transition.run_simulates simulates (.promote session :: after) σ
    final initial (owned.eq_following idle resting nothing) ran
  exact ⟨alone, ran', same ▸ rfl⟩

/-- The session thread installs or clears the callbacks of one backend, and notes the end of it. -/
def switch : List ForwardAction := List.replicate 3 .advance

/-- A backend sends data of a run, which is handled at once. -/
def stream (run : Nat) : List ForwardAction := [.emit .data ⟨0, run, .runData⟩, .deliver 0]

/-- The first client's run is over before the second client is served. -/
def oneAfterTheOther : List ForwardAction :=
  .promote 0 :: switch ++ .startRun 7 [0] :: stream 7 ++ .finish 0 7 :: .leave :: switch ++
    .promote 1 :: switch ++ .startRun 8 [0] :: stream 8

/-- Each of two clients gets the data of its own run. -/
theorem run_data_of_two_clients : ∃ final,
    Transition.run (step [0]) initial oneAfterTheOther = some final ∧
      final.sent = [(1, .relayed ⟨0, 8, .runData⟩), (0, .relayed ⟨0, 7, .runData⟩)] ∧
      final.StaysPrivate ∧ StreamsAlone [0] oneAfterTheOther final := by
  refine ⟨_, rfl, rfl, run_data_stays_private [0] oneAfterTheOther _ ?_ rfl⟩
  decide

/-- The first client leaves while its run goes on. -/
def leftBehind : List ForwardAction :=
  .promote 0 :: switch ++ .startRun 7 [0] :: .leave :: switch ++ .promote 1 :: switch ++ stream 7

/-- The data of a run whose client has left is sent to the next client. -/
theorem run_data_of_another_client : ∃ final,
    Transition.run (step [0]) initial leftBehind = some final ∧ final.starter 7 = some 0 ∧
      final.sent = [(1, .relayed ⟨0, 7, .runData⟩)] ∧ ¬final.StaysPrivate := by
  refine ⟨_, rfl, rfl, rfl, fun private_ => ?_⟩
  have mine := private_ 1 (.relayed ⟨0, 7, .runData⟩) List.mem_cons_self
  exact absurd mine (by decide)

end Forwarding

end Pybrid
