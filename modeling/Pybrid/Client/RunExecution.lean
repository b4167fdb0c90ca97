import Pybrid.Client.Control

/-! The execution of one run: its callbacks, its drain task, and what is left of them. -/

namespace Pybrid.Client

/-- A buffered run. -/
structure RunCommand where
  /-- The carriers to involve, all of them if absent. -/
  entities : Option (List Path)
  /-- What the message classes make of the configuration of the run. -/
  startMessage : Except Raised Unit

/-- A run that was executed. -/
structure Run where
  id : Nat
  /-- The overloaded elements, if there was an overload. -/
  overloaded : Option (List (Path × Nat))

/-- Paths are compared by their names. -/
theorem lawfulBEq_path : LawfulBEq Path := inferInstance

section

attribute [local instance] lawfulBEq_path

/-- The connections of the carriers a run involves. -/
def Controller.involved (controller : Controller) (command : RunCommand) :
    List (Path × Connection) :=
  match command.entities with
  | none => controller.connections
  | some entities => controller.connections.filter fun entry => entry.1 ∈ entities

end

/-- The involved connections without duplicates, in the order they are first met. -/
def Controller.involvedConnections (controller : Controller) (command : RunCommand) :
    List Connection :=
  ((controller.involved command).map Prod.snd).reverse.dedup.reverse

/-- Whether a carrier is located before another one. -/
def locatedBefore : Option CarrierLoc → Option CarrierLoc → Bool
  | some left, some right =>
    left.stackId < right.stackId ∨ left.stackId = right.stackId ∧ left.carrierId < right.carrierId
  | _, _ => false

/-- The carrier with the first location; a missing location cannot be compared. -/
def Controller.firstPath (controller : Controller) : Except Raised Path :=
  match controller.carriers with
  | [] => .error ⟨.indexError, "list index out of range"⟩
  | first :: others =>
    -- The minimum compares only if there is a second carrier.
    if others ≠ [] ∧ (first :: others).any fun carrier => carrier.2.isNone then
      .error ⟨.typeError, "'<' not supported between instances of 'Loc' and 'NoneType'"⟩
    else
      .ok (others.foldl (fun best next => if locatedBefore next.2 best.2 then next else best) first).1

/-- Raise what a computation without effects has raised. -/
def ofExcept {α : Type} : Except Raised α → Code α
  | .ok a => pure a
  | .error raised => throw raised

namespace Session

variable (world : World)

/-- Create a run; its identifier is new. -/
def newRun : Code Nat := fun state => .ok state.begun { state with begun := state.begun + 1 }

/-- Register the run-state callback on a connection, in place of an earlier one. -/
def registerCallback (connection : Connection) : Code Unit := fun state =>
  if connection.control then
    .ok () { state with callbacks := state.callbacks.insert connection }
  else
    .error (nativeMissing "Executing a run" "extension") state

/-- Take the run-state callback off a connection. -/
def unregisterCallback (connection : Connection) : Code Unit := fun state =>
  .ok () { state with callbacks := state.callbacks.filter fun other => other ≠ connection }

/-- Send all start requests; none of them waits for the others. -/
def sendStarts (run : Nat) (master : Path) : List Connection → Code (List (Except Raised Result))
  | [] => pure []
  | connection :: later => do
    let result ←
      Raising.attempt (AsyncControlChannel.startRunRequest world connection run master)
    let results ← sendStarts run master later
    return result :: results

/-- Raise if a start request has raised. -/
def raiseStart : Except Raised Result → Code Unit
  | .ok _ => pure ()
  | .error raised => throw raised

/-- Raise if a start request was answered with a failure. -/
def checkStart : Except Raised Result → Code Unit
  | .ok result => result.raiseOnError
  | .error _ => pure ()

/-- Wait for all start requests, and check their results. -/
def joinStarts (results : List (Except Raised Result)) : Code Unit := do
  let _ ← observe world .gathered
  -- Of several exceptions, the first one stands for the one that came first.
  results.forM raiseStart
  results.forM checkStart

/-- Send all start requests, wait for all of them, and check their results. -/
def gatherStarts (run : Nat) (master : Path) (connections : List Connection) : Code Unit := do
  let results ← sendStarts world run master connections
  joinStarts world results

/-- Wait for all carriers; a cancelled wait counts as one that took too long. -/
def waitAll (point : Point) (state : String) : Code Unit :=
  Raising.recover
    (do
      let _ ← observe world point
      return ())
    fun raised =>
      -- The timeout cancels the wait, every other error goes on.
      if raised.kind = .cancelledError then
        throw ⟨.timeoutError, "Entities " ++ raised.text ++ " did not reach " ++ state ++ "."⟩
      else throw raised

/-- Start the task that drains the output queues. -/
def createDrain (run : Nat) : Code Unit := fun state =>
  .ok () { state with draining := run :: state.draining }

/-- Stop the drain task and wait for it; the wait ends only once the task has ended. -/
def awaitDrain (run : Nat) : Code Unit := do
  modify fun state => { state with draining := state.draining.erase run }
  Raising.recover
    (do
      let _ ← observe world .drained
      return ())
    fun raised => if raised.kind = .cancelledError then pure () else throw raised

/-- Tell a listener that the run is complete, whatever it makes of it. -/
def notifyListener (index : Nat) : Code Unit :=
  Raising.recover
    (do
      let _ ← observe world (.listener index)
      return ())
    fun raised => if raised.isException then pure () else throw raised

/-- What is done behind the wait for the end of the run, however that wait ends. -/
def finishRun (controller : Controller) (run : Nat) : Code Unit := do
  awaitDrain world run
  let _ ← observe world .assembled
  (List.range controller.sampleListeners).forM (notifyListener world)

/-- Wait for the end of the run, and ask the last connection for overloads. -/
def awaitDone (connections : List Connection) : Code (Option (List (Path × Nat))) := do
  waitAll world .done "RunState.DONE"
  match connections.getLast? with
  | some connection => AsyncControlChannel.overloadStatusRequest world connection
  | none => return none

/-- The part of a run behind its accepted start. -/
def followRun (controller : Controller) (connections : List Connection) (run : Nat) : Code Run := do
  createDrain run
  waitAll world .takeOff "RunState.TAKE_OFF"
  let overloaded ← Raising.ensure (awaitDone world connections) (finishRun world controller run)
  return ⟨run, overloaded⟩

/-- The part of a run behind the registration of its callbacks. -/
def superviseRun (controller : Controller) (command : RunCommand) (run : Nat) (master : Path) :
    Code Run := do
  let connections := controller.involvedConnections command
  ofExcept command.startMessage
  gatherStarts world run master connections
  followRun world controller connections run

/-- Execute a single run. -/
def executeRun (controller : Controller) (command : RunCommand) : Code Run := do
  let run ← newRun
  if controller.involved command = [] then
    throw ⟨.valueError, "No connections are involved in the run. " ++
      "cmd.entities may not match any registered paths."⟩
  let master ← ofExcept controller.firstPath
  let connections := controller.involvedConnections command
  -- The registration is not protected, only what comes after it.
  connections.forM registerCallback
  Raising.ensure (superviseRun world controller command run master)
    (connections.forM unregisterCallback)

end Session

/-- Neither drain tasks nor callbacks have changed. -/
def Keeps (start final : State) : Prop :=
  final.draining = start.draining ∧ final.callbacks = start.callbacks

/-- Computations that change neither can follow each other. -/
theorem keeps_sequential :
    Raising.Sequential Keeps (fun start (_ : Raised) final => Keeps start final) where
  refl := fun _ => ⟨rfl, rfl⟩
  trans := fun first second => ⟨second.1.trans first.1, second.2.trans first.2⟩
  follow := fun first second => ⟨second.1.trans first.1, second.2.trans first.2⟩

/-- Neither drain tasks nor callbacks change, however the code ends. -/
abbrev Keeping {α : Type} (code : Code α) : Prop :=
  Raising.Ends Keeps (fun start _ final => Keeps start final) code

/-- The state code ends in, whether it returned or raised, has kept both. -/
theorem Keeping.final {α : Type} {code : Code α} (keeping : Keeping code) (start : State) :
    Keeps start (Raising.final (code start)) := by
  cases ended : code start with
  | ok a final => exact keeping.ok ended
  | error raised final => exact keeping.error ended

section Keeping

variable (world : World)

theorem observe_keeping (point : Point) : Keeping (observe world point) := by
  intro start
  unfold observe
  cases world start.log.length with
  | ok answer => exact ⟨rfl, rfl⟩
  | error raised => exact ⟨rfl, rfl⟩

theorem send_keeping (connection : Connection) (request : Request) :
    Keeping (send world connection request) := by
  intro start
  unfold send
  cases reply world connection start with
  | ok answer => exact ⟨rfl, rfl⟩
  | error raised => exact ⟨rfl, rfl⟩

/-- A handled wait keeps both if its handler only raises or returns. -/
theorem handled_keeping (point : Point) {handler : Raised → Code Unit}
    (handles : ∀ raised, Keeping (handler raised)) :
    Keeping (Raising.recover
      (do
        let _ ← observe world point
        return ()) handler) :=
  -- Neither the wait nor its handler touches what is kept.
  keeps_sequential.recover
    (keeps_sequential.bind (observe_keeping world point) fun _ => keeps_sequential.pure ()) handles

/-- Choosing between returning and raising keeps both. -/
theorem choice_keeping {condition : Prop} [Decidable condition] {α : Type} {first second : Code α}
    (firstKeeps : Keeping first) (secondKeeps : Keeping second) :
    Keeping (if condition then first else second) := by
  by_cases chosen : condition
  · rwa [if_pos chosen]
  · rwa [if_neg chosen]

/-- Raising keeps both. -/
theorem throw_keeping {α : Type} (raised : Raised) : Keeping (throw raised : Code α) :=
  .throw keeps_sequential.refl

theorem waitAll_keeping (point : Point) (state : String) :
    Keeping (Session.waitAll world point state) :=
  handled_keeping world point fun raised =>
    choice_keeping (throw_keeping _) (throw_keeping raised)

theorem notifyListener_keeping (index : Nat) : Keeping (Session.notifyListener world index) :=
  handled_keeping world _ fun raised => choice_keeping (keeps_sequential.pure ()) (throw_keeping raised)

theorem awaitDone_keeping (connections : List Connection) :
    Keeping (Session.awaitDone world connections) := by
  refine keeps_sequential.bind (waitAll_keeping world _ _) fun _ => ?_
  cases connections.getLast? with
  | none => exact keeps_sequential.pure _
  | some connection =>
    exact keeps_sequential.bind (send_keeping world connection _) fun _ => keeps_sequential.pure _

end Keeping

/-- Finishing a run ends its drain task and keeps everything else, however it ends. -/
theorem finishRun_final (world : World) (controller : Controller) (run : Nat) (state : State) :
    (Raising.final (Session.finishRun world controller run state)).draining =
        state.draining.erase run ∧
      (Raising.final (Session.finishRun world controller run state)).callbacks =
        state.callbacks := by
  -- The task has ended before the wait for it can end in any way.
  have rest : Keeping (do
      Raising.recover
        (do
          let _ ← observe world .drained
          return ())
        (fun raised => if raised.kind = .cancelledError then pure () else throw raised)
      let _ ← observe world .assembled
      (List.range controller.sampleListeners).forM (Session.notifyListener world) : Code Unit) := by
    refine keeps_sequential.bind (handled_keeping world _ fun raised =>
      choice_keeping (keeps_sequential.pure ()) (throw_keeping raised)) fun _ => ?_
    refine keeps_sequential.bind (observe_keeping world _) fun _ => ?_
    exact keeps_sequential.forM fun index _ => notifyListener_keeping world index
  exact rest.final { state with draining := state.draining.erase run }

/-- The next points, as many as given, are all answered and none of them raises. -/
def Answered (world : World) (position count : Nat) : Prop :=
  ∀ i < count, ∃ answer, world (position + i) = .ok answer

/-- One more point is answered if the ones before it and the last one are. -/
theorem answered_last (world : World) (position count : Nat) :
    Answered world position (count + 1) ↔
      Answered world position count ∧ ∃ answer, world (position + count) = .ok answer := by
  constructor
  · exact fun answered => ⟨fun i bound => answered i (by omega), answered count (by omega)⟩
  · rintro ⟨others, last⟩ i bound
    -- The last answer is split off at the end.
    rcases Nat.lt_succ_iff_lt_or_eq.mp bound with earlier | rfl
    · exact others i earlier
    · exact last

/-- One more point is answered if the first one and the ones behind it are. -/
theorem answered_succ (world : World) (position count : Nat) :
    Answered world position (count + 1) ↔
      (∃ answer, world position = .ok answer) ∧ Answered world (position + 1) count := by
  constructor
  · intro answered
    refine ⟨by simpa using answered 0 (by omega), fun i bound => ?_⟩
    rw [Nat.add_right_comm, Nat.add_assoc]
    exact answered (i + 1) (by omega)
  · rintro ⟨first, others⟩ i bound
    -- The first answer is split off at the front.
    cases i with
    | zero => simpa using first
    | succ i =>
      rw [← Nat.add_assoc, Nat.add_right_comm]
      exact others i (by omega)

section Starting

variable (world : World) (run : Nat) (master : Path)

/-- Whether a start request was answered with success. -/
def startOk : Except Raised Result → Bool
  | .ok result => result.ok
  | .error _ => false

/-- A start request is recorded, and reports success just if it is answered. -/
theorem attemptStart (connection : Connection) (state : State) :
    ∃ result,
      Raising.attempt (AsyncControlChannel.startRunRequest world connection run master) state =
        .ok result (state.record (.request connection (.startRun run master))
          (reply world connection state)) ∧
      (startOk result = true ↔ ∃ answer, reply world connection state = .ok answer) := by
  have sent := simpleRequest_eq world connection (.startRun run master) state
  unfold Raising.attempt AsyncControlChannel.startRunRequest
  -- An answer is a success; a runtime error is told as a failure and not raised.
  cases replied : reply world connection state with
  | ok answer =>
    rw [replied] at sent
    exact ⟨.ok .success, by rw [sent], by simp [startOk, Result.success]⟩
  | error raised =>
    simp only [replied] at sent
    by_cases runtime : raised.isRuntimeError = true
    · rw [if_pos runtime] at sent
      exact ⟨.ok (.failure raised.text), by rw [sent], by simp [startOk, Result.failure]⟩
    · rw [if_neg runtime] at sent
      exact ⟨.error raised, by rw [sent], by simp [startOk]⟩

/-- All start requests are sent, and all report success just if all are answered. -/
theorem sendStarts_spec {connections : List Connection}
    (present : ∀ connection ∈ connections, connection.control = true) (state : State) :
    ∃ results final, Session.sendStarts world run master connections state = .ok results final ∧
      final.log.length = state.log.length + connections.length ∧ Keeps state final ∧
      ((∀ result ∈ results, startOk result = true) ↔
        Answered world state.log.length connections.length) := by
  -- The induction is on the requests still to be sent.
  induction connections generalizing state with
  | nil => exact ⟨[], state, rfl, rfl, ⟨rfl, rfl⟩, by simp [Answered]⟩
  | cons connection later ih =>
    obtain ⟨result, sent, succeeds⟩ := attemptStart world run master connection state
    rw [show reply world connection state = world state.log.length by
      rw [reply, if_pos (present connection (List.mem_cons_self ..))]] at sent succeeds
    obtain ⟨results, final, rest, length, kept, succeed⟩ :=
      ih (fun other member => present other (List.mem_cons_of_mem _ member))
        (state.record (.request connection (.startRun run master)) (world state.log.length))
    refine ⟨result :: results, final, ?_, ?_, ⟨kept.1, kept.2⟩, ?_⟩
    · unfold Session.sendStarts
      rw [Raising.bind_of_ok sent, Raising.bind_of_ok rest]
      rfl
    · simp only [length, State.record, List.length_cons]
      omega
    · rw [List.length_cons, answered_succ, ← succeeds]
      simp only [List.mem_cons, forall_eq_or_imp]
      exact and_congr_right fun _ => succeed

/-- The results are passed just if all of them are successes, and looking at them changes nothing. -/
theorem checkStarts_spec (results : List (Except Raised Result)) (state : State) :
    ((∀ result ∈ results, startOk result = true) ∧
      (do results.forM Session.raiseStart; results.forM Session.checkStart : Code Unit) state =
        .ok () state) ∨
    ((¬∀ result ∈ results, startOk result = true) ∧ ∃ raised,
      (do results.forM Session.raiseStart; results.forM Session.checkStart : Code Unit) state =
        .error raised state) := by
  -- Exceptions are looked for first, and failures only among what did not raise.
  have raising : ∀ result ∈ results,
      (result.isOk = true ∧ Session.raiseStart result state = .ok () state) ∨
        (¬result.isOk = true ∧ ∃ raised, Session.raiseStart result state = .error raised state) := by
    intro result _
    cases result with
    | ok a => exact .inl ⟨rfl, rfl⟩
    | error raised => exact .inr ⟨by simp [Except.isOk, Except.toBool], raised, rfl⟩
  rcases Raising.forM_checks raising with ⟨returned, passed⟩ | ⟨failed, raised, stopped⟩
  · rw [Raising.bind_of_ok passed]
    refine Raising.forM_checks fun result member => ?_
    match result, returned result member with
    | .ok ⟨true, text⟩, _ => exact .inl ⟨rfl, rfl⟩
    | .ok ⟨false, text⟩, _ => exact .inr ⟨by simp [startOk], _, rfl⟩
  · rw [Raising.bind_of_error stopped]
    refine .inr ⟨fun succeeded => failed fun result member => ?_, raised, rfl⟩
    have fine := succeeded result member
    cases result with
    | ok a => rfl
    | error raised => cases fine

/-- The starts return just if every request and the joint wait are answered. -/
theorem gatherStarts_spec {connections : List Connection}
    (present : ∀ connection ∈ connections, connection.control = true) (state : State) :
    (Answered world state.log.length (connections.length + 1) ∧ ∃ final,
      Session.gatherStarts world run master connections state = .ok () final ∧
      final.log.length = state.log.length + connections.length + 1 ∧ Keeps state final) ∨
    (¬Answered world state.log.length (connections.length + 1) ∧ ∃ raised final,
      Session.gatherStarts world run master connections state = .error raised final ∧
      Keeps state final) := by
  obtain ⟨results, sent, starts, length, kept, succeed⟩ :=
    sendStarts_spec world run master present state
  unfold Session.gatherStarts
  rw [Raising.bind_of_ok starts, answered_last, ← succeed, ← length, Session.joinStarts]
  cases joined : world sent.log.length with
  | error raised =>
    -- The joint wait itself was cut short.
    have waited : observe world .gathered sent =
        .error raised (sent.record .gathered (.error raised)) := by rw [observe, joined]
    rw [Raising.bind_of_error waited]
    exact .inr ⟨by simp, raised, _, rfl, kept⟩
  | ok answer =>
    have waited : observe world .gathered sent = .ok answer (sent.record .gathered (.ok answer)) := by
      rw [observe, joined]
    rw [Raising.bind_of_ok waited]
    rcases checkStarts_spec results (sent.record .gathered (.ok answer)) with
      ⟨succeeded, returned⟩ | ⟨failed, raised, stopped⟩
    · exact .inl ⟨⟨succeeded, answer, rfl⟩, _, returned, by simp [State.record], kept⟩
    · exact .inr ⟨fun both => failed both.1, raised, _, stopped, kept⟩

end Starting

/-- Waiting for all carriers returns just if the wait is answered. -/
theorem waitAll_spec (world : World) (point : Point) (name : String) (state : State) :
    ((∃ answer, world state.log.length = .ok answer) ∧ ∃ final,
      Session.waitAll world point name state = .ok () final ∧ Keeps state final) ∨
    ((¬∃ answer, world state.log.length = .ok answer) ∧ ∃ raised final,
      Session.waitAll world point name state = .error raised final ∧ Keeps state final) := by
  cases outcome : world state.log.length with
  | ok answer =>
    have waited : observe world point state = .ok answer (state.record point (.ok answer)) := by
      rw [observe, outcome]
    exact .inl ⟨⟨answer, rfl⟩, _, Raising.recover_of_ok (Raising.bind_of_ok waited), rfl, rfl⟩
  | error raised =>
    have waited : observe world point state = .error raised (state.record point (.error raised)) := by
      rw [observe, outcome]
    have handled : Session.waitAll world point name state =
        (if raised.kind = .cancelledError then
          throw ⟨.timeoutError, "Entities " ++ raised.text ++ " did not reach " ++ name ++ "."⟩
        else throw raised : Code Unit) (state.record point (.error raised)) :=
      Raising.recover_of_error (Raising.bind_of_error waited)
    refine .inr ⟨by simp, ?_⟩
    -- A cancellation is renamed, everything else is raised as it is.
    by_cases cancelled : raised.kind = .cancelledError
    · rw [if_pos cancelled] at handled
      exact ⟨_, _, handled, rfl, rfl⟩
    · rw [if_neg cancelled] at handled
      exact ⟨_, _, handled, rfl, rfl⟩

/-- The run is left while it waits for its carriers to take off. -/
def LeavesBeforeTakeOff (world : World) (controller : Controller) (command : RunCommand)
    (position : Nat) : Prop :=
  command.startMessage = .ok () ∧
    Answered world position ((controller.involvedConnections command).length + 1) ∧
    ¬∃ answer, world (position + (controller.involvedConnections command).length + 1) = .ok answer

/-- The drain task of a run survives its supervision just if the run is left before take-off. -/
theorem superviseRun_final (world : World) (controller : Controller) (command : RunCommand)
    (run : Nat) (master : Path)
    (present : ∀ connection ∈ controller.involvedConnections command, connection.control = true)
    (state : State) :
    ((Raising.final (Session.superviseRun world controller command run master state)).draining =
        state.draining ↔ ¬LeavesBeforeTakeOff world controller command state.log.length) ∧
      (Raising.final (Session.superviseRun world controller command run master state)).callbacks =
        state.callbacks := by
  unfold Session.superviseRun LeavesBeforeTakeOff
  cases built : command.startMessage with
  | error raised => exact ⟨⟨fun _ left => (by cases left.1), fun _ => rfl⟩, rfl⟩
  | ok _ =>
    have ready : ofExcept (.ok () : Except Raised Unit) state = .ok () state := rfl
    simp only [Raising.bind_of_ok ready]
    rcases gatherStarts_spec world run master present state with
      ⟨answered, started, returned, length, kept⟩ | ⟨refused, raised, started, stopped, kept⟩
    · -- All carriers have accepted, and the drain task is started.
      rw [Raising.bind_of_ok returned, Session.followRun]
      have draining : Session.createDrain run started =
          .ok () { started with draining := run :: started.draining } := rfl
      rw [Raising.bind_of_ok draining]
      rcases waitAll_spec world .takeOff "RunState.TAKE_OFF"
          { started with draining := run :: started.draining } with
        ⟨tookOff, flying, waited, kept'⟩ | ⟨stuck, raised, grounded, waited, kept'⟩
      · rw [Raising.bind_of_ok waited]
        -- From here on the task is stopped however the wait for the end goes.
        rw [Raising.final_bind_pure, Raising.final_ensure]
        have waiting := (awaitDone_keeping world (controller.involvedConnections command)).final flying
        have finished := finishRun_final world controller run
          (Raising.final (Session.awaitDone world (controller.involvedConnections command) flying))
        rw [finished.1, finished.2, waiting.1, waiting.2, kept'.1, kept'.2]
        refine ⟨⟨fun _ left => left.2.2 ?_, fun _ => ?_⟩, kept.2⟩
        · rw [← length]
          exact tookOff
        · rw [List.erase_cons_head, kept.1]
      · -- The run is left here, and nobody stops the task.
        rw [Raising.bind_of_error waited]
        refine ⟨⟨fun same => ?_, fun stays => ?_⟩, kept'.2.trans kept.2⟩
        · rw [Raising.final, kept'.1, kept.1] at same
          exact absurd same (List.cons_ne_self run state.draining)
        · refine absurd ⟨trivial, answered, ?_⟩ stays
          rw [← length]
          exact stuck
    · rw [Raising.bind_of_error stopped]
      exact ⟨⟨fun _ left => refused left.2.1, fun _ => kept.1⟩, kept.2⟩

/-- Registering on all connections that have a channel. -/
theorem register_all {connections : List Connection}
    (present : ∀ connection ∈ connections, connection.control = true) (state : State) :
    ∃ callbacks, connections.forM Session.registerCallback state =
      .ok () { state with callbacks := callbacks } := by
  -- One connection is added after the other.
  induction connections generalizing state with
  | nil => exact ⟨state.callbacks, rfl⟩
  | cons connection later ih =>
    have registered : Session.registerCallback connection state =
        .ok () { state with callbacks := state.callbacks.insert connection } := by
      rw [Session.registerCallback, if_pos (present connection (List.mem_cons_self ..))]
    obtain ⟨callbacks, rest⟩ := ih (fun other member => present other (List.mem_cons_of_mem _ member))
      { state with callbacks := state.callbacks.insert connection }
    exact ⟨callbacks, (Raising.bind_of_ok registered).trans rest⟩

/-- Registering stops at the first connection without a channel, behind the ones it has reached. -/
theorem register_some {connections : List Connection}
    (missing : ∃ connection ∈ connections, connection.control = false) (state : State) :
    ∃ raised callbacks, connections.forM Session.registerCallback state =
        .error raised { state with callbacks := callbacks } ∧
      ∀ connection, connection ∈ callbacks ↔ connection ∈ state.callbacks ∨
        connection ∈ connections.takeWhile Connection.control := by
  -- The induction is on the connections still to be reached.
  induction connections generalizing state with
  | nil => simp at missing
  | cons connection later ih =>
    by_cases present : connection.control = true
    · have registered : Session.registerCallback connection state =
          .ok () { state with callbacks := state.callbacks.insert connection } := by
        rw [Session.registerCallback, if_pos present]
      have missing' : ∃ other ∈ later, other.control = false := by
        obtain ⟨other, member, absent⟩ := missing
        rcases List.mem_cons.mp member with rfl | member
        · rw [present] at absent
          cases absent
        · exact ⟨other, member, absent⟩
      obtain ⟨raised, callbacks, rest, members⟩ :=
        ih missing' { state with callbacks := state.callbacks.insert connection }
      refine ⟨raised, callbacks, (Raising.bind_of_ok registered).trans rest, fun other => ?_⟩
      rw [members, List.takeWhile_cons_of_pos present]
      simp only [List.mem_insert_iff, List.mem_cons]
      tauto
    · have refused : ∃ raised, Session.registerCallback connection state = .error raised state := by
        rw [Session.registerCallback, if_neg present]
        exact ⟨_, rfl⟩
      obtain ⟨raised, refused⟩ := refused
      refine ⟨raised, state.callbacks, Raising.bind_of_error refused, fun other => ?_⟩
      rw [List.takeWhile_cons_of_neg (by simpa using present)]
      simp

/-- Taking the callbacks off leaves none on these connections, and changes nothing else. -/
theorem unregister_all (connections : List Connection) (state : State) :
    ∃ callbacks, connections.forM Session.unregisterCallback state =
        .ok () { state with callbacks := callbacks } ∧
      ∀ connection, connection ∈ callbacks ↔ connection ∈ state.callbacks ∧
        connection ∉ connections := by
  -- Removing a callback that is not there is no error.
  induction connections generalizing state with
  | nil => exact ⟨state.callbacks, rfl, by simp⟩
  | cons connection later ih =>
    obtain ⟨callbacks, rest, members⟩ :=
      ih { state with callbacks := state.callbacks.filter fun other => other ≠ connection }
    refine ⟨callbacks, rest, fun other => ?_⟩
    rw [members]
    simp only [List.mem_filter, decide_eq_true_eq, List.mem_cons]
    tauto

/-- The run is refused before any callback is registered. -/
def RunCommand.Refused (controller : Controller) (command : RunCommand) : Prop :=
  controller.involved command = [] ∨ ∃ raised, controller.firstPath = .error raised

/-- The run is left where nobody cleans up behind it. -/
def LeavesBehind (world : World) (controller : Controller) (command : RunCommand)
    (position : Nat) : Prop :=
  ¬command.Refused controller ∧
    -- Some connections have their callback when one without a channel ends the registration.
    (((∃ connection ∈ controller.involvedConnections command, connection.control = false) ∧
        (controller.involvedConnections command).takeWhile Connection.control ≠ []) ∨
      -- The drain task runs when the wait for take-off ends with an exception.
      ((∀ connection ∈ controller.involvedConnections command, connection.control = true) ∧
        LeavesBeforeTakeOff world controller command position))

/-- No drain task and no callback of the run is left. -/
def CleanedUp (controller : Controller) (command : RunCommand) (start final : State) : Prop :=
  final.draining = start.draining ∧
    ∀ connection ∈ controller.involvedConnections command, connection ∉ final.callbacks

instance (controller : Controller) (command : RunCommand) (start final : State) :
    Decidable (CleanedUp controller command start final) :=
  inferInstanceAs (Decidable (_ ∧ ∀ connection ∈ _, _))

/-- A refused run has only used up an identifier. -/
theorem executeRun_refused (world : World) {controller : Controller} {command : RunCommand}
    (refused : command.Refused controller) (start : State) :
    ∃ raised, Session.executeRun world controller command start =
      .error raised { start with begun := start.begun + 1 } := by
  -- Either no connection is involved or no first carrier is found.
  by_cases uninvolved : controller.involved command = []
  · show ∃ raised, (if controller.involved command = [] then _ else _ : Code Run) _ = .error raised _
    rw [if_pos uninvolved]
    exact ⟨_, rfl⟩
  · obtain ⟨raised, unlocated⟩ := refused.resolve_left uninvolved
    refine ⟨raised, ?_⟩
    show (if controller.involved command = [] then _ else _ : Code Run) _ = _
    rw [if_neg uninvolved, unlocated]
    rfl

/-- A run that is not refused registers its callbacks and supervises the run behind them. -/
theorem executeRun_accepted (world : World) {controller : Controller} {command : RunCommand}
    (accepted : ¬command.Refused controller) (start : State) :
    ∃ master, Session.executeRun world controller command start =
      (do
        (controller.involvedConnections command).forM Session.registerCallback
        Raising.ensure (Session.superviseRun world controller command start.begun master)
          ((controller.involvedConnections command).forM Session.unregisterCallback) : Code Run)
        { start with begun := start.begun + 1 } := by
  -- Both checks pass, and the callbacks come next.
  cases located : controller.firstPath with
  | error raised => exact absurd (.inr ⟨raised, located⟩) accepted
  | ok master =>
    refine ⟨master, ?_⟩
    show (if controller.involved command = [] then _ else _ : Code Run) _ = _
    rw [if_neg fun uninvolved => accepted (.inl uninvolved), located]
    rfl

/--
A run leaves no drain task and no callback behind, just if it is not left while waiting for take-off
and not refused halfway through the registration of its callbacks.
-/
theorem execute_run_cleans_up_iff (world : World) (controller : Controller) (command : RunCommand)
    (start : State)
    (clear : ∀ connection ∈ controller.involvedConnections command, connection ∉ start.callbacks) :
    CleanedUp controller command start
        (Raising.final (Session.executeRun world controller command start)) ↔
      ¬LeavesBehind world controller command start.log.length := by
  -- A run that is refused has started nothing.
  by_cases refused : command.Refused controller
  · obtain ⟨raised, ended⟩ := executeRun_refused world refused start
    rw [ended]
    exact ⟨fun _ leaves => leaves.1 refused, fun _ => ⟨rfl, clear⟩⟩
  · obtain ⟨master, ended⟩ := executeRun_accepted world refused start
    rw [ended]
    by_cases present : ∀ connection ∈ controller.involvedConnections command,
        connection.control = true
    · -- All callbacks are registered, and taken off again however the run goes.
      obtain ⟨callbacks, registered⟩ :=
        register_all present { start with begun := start.begun + 1 }
      have supervised := superviseRun_final world controller command start.begun master present
        { start with begun := start.begun + 1, callbacks := callbacks }
      obtain ⟨left, unregistered, off⟩ :=
        unregister_all (controller.involvedConnections command) (Raising.final
          (Session.superviseRun world controller command start.begun master
            { start with begun := start.begun + 1, callbacks := callbacks }))
      rw [Raising.bind_of_ok registered, Raising.final_ensure, unregistered]
      constructor
      · rintro ⟨drained, _⟩ ⟨_, ⟨⟨connection, member, absent⟩, _⟩ | ⟨_, leaves⟩⟩
        · rw [present connection member] at absent
          cases absent
        · exact supervised.1.mp drained leaves
      · intro stays
        refine ⟨supervised.1.mpr fun leaves => stays ⟨refused, .inr ⟨present, leaves⟩⟩, ?_⟩
        exact fun connection member found => ((off connection).mp found).2 member
    · -- The registration is broken off, and what was registered stays.
      simp only [not_forall, Bool.not_eq_true] at present
      obtain ⟨connection, member, absent⟩ := present
      obtain ⟨raised, callbacks, stopped, members⟩ :=
        register_some ⟨connection, member, absent⟩ { start with begun := start.begun + 1 }
      rw [Raising.bind_of_error stopped]
      constructor
      · rintro ⟨_, off⟩ ⟨_, ⟨_, reached⟩ | ⟨present, _⟩⟩
        · obtain ⟨first, found⟩ := List.exists_mem_of_ne_nil _ reached
          exact off first (List.takeWhile_subset _ found) ((members first).mpr (.inr found))
        · rw [present connection member] at absent
          cases absent
      · intro stays
        have unreached : (controller.involvedConnections command).takeWhile Connection.control = [] := by
          by_contra reached
          exact stays ⟨refused, .inl ⟨⟨connection, member, absent⟩, reached⟩⟩
        refine ⟨rfl, fun other involved found => ?_⟩
        rcases (members other).mp found with before | reached
        · exact clear other involved before
        · rw [unreached] at reached
          cases reached

/-- A controller with one carrier behind one connection. -/
def Controller.single : Controller where
  connections := [(["04-E9-E5-14-74-BF"], ⟨0, true, true, "192.168.150.1:5732"⟩)]
  carriers := [(["04-E9-E5-14-74-BF"], some ⟨0, 0⟩)]
  sampleListeners := 0

/-- A run on all carriers whose configuration fits its messages. -/
def RunCommand.plain : RunCommand where
  entities := none
  startMessage := .ok ()

/-- A run that takes off and then gets an error while it waits for its end is cleaned up. -/
theorem execute_run_cleans_up_iff_error :
    (∀ connection ∈ Controller.single.involvedConnections .plain,
        connection ∉ State.fresh.callbacks) ∧
      (CleanedUp .single .plain .fresh (Raising.final (Session.executeRun
          (fun n => if n = 3 then .error ⟨.runError, "overload"⟩ else .ok .confirmed)
          .single .plain .fresh)) ↔
        ¬LeavesBehind (fun n => if n = 3 then .error ⟨.runError, "overload"⟩ else .ok .confirmed)
          .single .plain 0) :=
  ⟨by decide, execute_run_cleans_up_iff _ _ _ .fresh (by decide)⟩

/-- A run that is accepted and then does not take off in time leaves its drain task running. -/
theorem execute_run_orphans_drain :
    ¬CleanedUp .single .plain .fresh (Raising.final (Session.executeRun
      (fun n => if n = 2 then .error ⟨.timeoutError, ""⟩ else .ok .confirmed)
      .single .plain .fresh)) := by
  decide

end Pybrid.Client
