import Pybrid.Client.RunExecution
import Pybrid.Client.Upload

/-! The pipeline of a session, and whether it hides the failure of a request. -/

namespace Pybrid.Client

/-- The commands a pipeline buffers. -/
inductive SessionCommand where
  | reset (command : ResetCommand)
  /-- A configuration, as the bytes of its module. -/
  | setConfig (module : List UInt8)
  | calibrate (command : CalibrateCommand)
  | firmware (command : FirmwareUpdateCommand)
  | run (command : RunCommand)
  /-- A command of a class the session does not know, which it skips. -/
  | unknown

namespace Session

variable (world : World) (controller : Controller)

/-- Do something on every unique connection, which needs its control channel. -/
def onEach (missing : Raised) (body : Connection → Code Unit) : Code Unit :=
  controller.getUniqueConnections.forM fun connection =>
    if connection.control then body connection else throw missing

/-- Reset all devices; the result of the request is not looked at. -/
def executeReset (command : ResetCommand) : Code Unit :=
  onEach controller (nativeMissing "Running reset" "extensions") fun connection => do
    let _ ← AsyncControlChannel.reset world connection command
    return ()

/-- The leader of a calibration, by default the first registered carrier. -/
def calibrationLeader (command : CalibrateCommand) : String :=
  if command.leader ≠ "" then command.leader
  else
    -- Without a leader the first carrier is taken.
    match controller.connections with
    | [] => command.leader
    | (path, _) :: _ => "/".intercalate path

/-- Calibrate all devices. -/
def executeCalibrate (command : CalibrateCommand) : Code Unit :=
  onEach controller (nativeMissing "Running calibration" "extensions") fun connection =>
    AsyncControlChannel.calibrate world connection (calibrationLeader controller command)
      command.math command.gain command.offset >>= Result.raiseOnError

/-- Upload a configuration to all devices. -/
def executeSetConfig (module : List UInt8) : Code Unit :=
  onEach controller (nativeMissing "Sending configuration" "extension") fun connection =>
    AsyncControlChannel.setModule world connection module >>= Result.raiseOnError

/-- Execute one command. -/
def executeCommand : SessionCommand → Code Unit
  | .setConfig module => executeSetConfig world controller module
  | .calibrate command => executeCalibrate world controller command
  -- Only a run that returns is remembered.
  | .run command => do
    let run ← executeRun world controller command
    modify fun state => { state with runs := run.id :: state.runs }
  | .firmware command => executeUpload world command controller
  | .reset command => executeReset world controller command
  -- The source passes a command over for which it has no handler.
  | .unknown => pure ()

/-- Go on to the next command. -/
def nextCommand : Code Unit := fun state => .ok () { state with command := state.command + 1 }

/-- Execute the buffered commands one after the other. -/
def runPipeline : List SessionCommand → Code Unit
  | [] => pure ()
  | command :: later => do
    -- A command that raises ends the pipeline.
    executeCommand world controller command
    nextCommand
    runPipeline later

/-- Execute all buffered commands; a session can be executed once. -/
def execute (executed : Bool) (pipeline : List SessionCommand) : Code (List Nat) := do
  -- The flag is looked at before anything is sent.
  if executed then
    throw ⟨.runtimeError, "Session.execute() has already been called.  " ++
      "Sessions are single-use; create a new Session for each execution."⟩
  runPipeline world controller pipeline
  return (← get).runs

end Session

/-- Only events of the command under way were added. -/
def Tagged (start final : State) : Prop :=
  final.command = start.command ∧ Adds (fun event => event.command = start.command) start final

/-- Only events of the command under way were added, and no request among them failed. -/
def Fine (start final : State) : Prop :=
  final.command = start.command ∧
    Adds (fun event => event.command = start.command ∧
      (event.isRequest = true → event.succeeded = true)) start final

/-- What is fine is tagged. -/
theorem Fine.tagged {start final : State} (fine : Fine start final) : Tagged start final :=
  ⟨fine.1, fine.2.mono fun _ added => added.1⟩

/-- Nothing was added. -/
theorem Fine.refl (state : State) : Fine state state := ⟨rfl, Adds.refl state⟩

/-- Tagged parts can follow each other. -/
theorem Tagged.trans {start middle final : State} (first : Tagged start middle)
    (second : Tagged middle final) : Tagged start final :=
  ⟨second.1.trans first.1, first.2.trans (second.2.mono fun _ same => same.trans first.1)⟩

/-- Fine parts can follow each other. -/
theorem Fine.trans {start middle final : State} (first : Fine start middle)
    (second : Fine middle final) : Fine start final :=
  ⟨second.1.trans first.1,
    first.2.trans (second.2.mono fun _ added => ⟨added.1.trans first.1, added.2⟩)⟩

/-- The code returns only if none of its requests failed. -/
abbrev Checked {α : Type} (code : Code α) : Prop :=
  Raising.Ends Fine (fun start _ final => Tagged start final) code

/-- The code adds events of the command under way, however it ends. -/
abbrev Tagging {α : Type} (code : Code α) : Prop :=
  Raising.Ends Tagged (fun start _ final => Tagged start final) code

/-- Checked code can follow checked code. -/
theorem checked_sequential :
    Raising.Sequential Fine (fun start (_ : Raised) final => Tagged start final) where
  refl := Fine.refl
  trans := Fine.trans
  follow := fun first second => first.tagged.trans second

/-- Tagging code can follow tagging code. -/
theorem tagging_sequential :
    Raising.Sequential Tagged (fun start (_ : Raised) final => Tagged start final) where
  refl := fun state => (Fine.refl state).tagged
  trans := Tagged.trans
  follow := Tagged.trans

/-- Checked code is tagging code. -/
theorem Checked.tagging {α : Type} {code : Code α} (checked : Checked code) : Tagging code :=
  checked.weaken (fun _ _ fine => fine.tagged) fun _ _ _ tagged => tagged

/-- Recording an event of the command under way. -/
theorem Tagged.record (state : State) (point : Point) (outcome : Except Raised Answer) :
    Tagged state (state.record point outcome) := ⟨rfl, .record rfl⟩

/-- Recording a success. -/
theorem Fine.record {state : State} {point : Point} {outcome : Except Raised Answer}
    (fine : Event.isRequest ⟨state.command, point, outcome⟩ = true →
      Event.succeeded ⟨state.command, point, outcome⟩ = true) :
    Fine state (state.record point outcome) := ⟨rfl, .record ⟨rfl, fine⟩⟩

section Requests

variable (world : World) (connection : Connection)

/-- The truth value in an answer says nothing about the success of this request. -/
def Request.OnlyConfirms : Request → Prop
  | .setModule _ | .reconnect _ => False
  | _ => True

/-- A request that only confirms succeeds with any answer. -/
theorem Request.OnlyConfirms.succeeded {request : Request} (confirms : request.OnlyConfirms)
    (command : Nat) (answer : Answer) :
    Event.succeeded ⟨command, .request connection request, .ok answer⟩ = true := by
  cases request <;> first | rfl | exact confirms.elim

/-- Sending a request that only confirms. -/
theorem send_checked (request : Request) (confirms : request.OnlyConfirms) :
    Checked (send world connection request) := by
  intro start
  unfold send
  -- An answer confirms, and an error raises.
  cases reply world connection start with
  | ok answer => exact Fine.record fun _ => confirms.succeeded connection _ answer
  | error raised => exact Tagged.record _ _ _

/-- A request that only confirms and whose result is looked at. -/
theorem simpleRequest_checked (request : Request) (confirms : request.OnlyConfirms) :
    Checked (AsyncControlChannel.simpleRequest world connection request >>=
      Result.raiseOnError) := by
  intro start
  -- The request is recorded with its outcome, and a failed answer is raised.
  rw [checked_eq]
  cases reply world connection start with
  | ok answer => exact Fine.record fun _ => confirms.succeeded connection _ answer
  | error raised => exact Tagged.record _ _ _

/-- A simple request adds its event, whatever its result. -/
theorem simpleRequest_tagging (request : Request) :
    Tagging (AsyncControlChannel.simpleRequest world connection request) := by
  intro start
  rw [simpleRequest_eq]
  cases reply world connection start with
  | ok answer => exact Tagged.record _ _ _
  | error raised =>
    -- A RuntimeError becomes a result, everything else is raised; both are recorded.
    by_cases runtime : raised.isRuntimeError = true
    · simp only [if_pos runtime]
      exact Tagged.record _ _ _
    · simp only [if_neg runtime]
      exact Tagged.record _ _ _

/-- A point that is no request. -/
theorem observe_fine {point : Point} (apart : ∀ command outcome,
    Event.isRequest ⟨command, point, outcome⟩ = false) :
    Raising.Ends Fine (fun start _ final => Fine start final) (observe world point) := by
  intro start
  -- What is observed is recorded as well, but it is no request that could have failed.
  unfold observe
  cases world start.log.length with
  | ok answer => exact Fine.record fun request => absurd request (by simp [apart])
  | error raised => exact Fine.record fun request => absurd request (by simp [apart])

/-- Reaching a point that is no request is checked. -/
theorem observe_checked {point : Point} (apart : ∀ command outcome,
    Event.isRequest ⟨command, point, outcome⟩ = false) : Checked (observe world point) :=
  (observe_fine world apart).weaken (fun _ _ fine => fine) fun _ _ _ fine => fine.tagged

/-- Raising is checked. -/
theorem throw_checked {α : Type} (raised : Raised) : Checked (throw raised : Code α) :=
  .throw fun state => (Fine.refl state).tagged

/-- Choosing between checked codes is checked. -/
theorem choice_checked {condition : Prop} [Decidable condition] {α : Type} {first second : Code α}
    (firstChecked : Checked first) (secondChecked : Checked second) :
    Checked (if condition then first else second) := by
  -- Whichever is chosen is checked.
  by_cases chosen : condition
  · rwa [if_pos chosen]
  · rwa [if_neg chosen]

/-- Handling what is raised by code that sends no request. -/
theorem recover_checked {α : Type} {body : Code α} {handler : Raised → Code α}
    (quiet : Raising.Ends Fine (fun start _ final => Fine start final) body)
    (handles : ∀ raised, Checked (handler raised)) : Checked (Raising.recover body handler) := by
  intro start
  cases began : body start with
  | ok a final =>
    rw [Raising.recover_of_ok began]
    exact quiet.ok began
  -- The body made no failed request, so that the handler may go on.
  | error raised middle =>
    rw [Raising.recover_of_error began]
    have first := quiet.error began
    cases ended : handler raised middle with
    | ok a final => exact first.trans ((handles raised).ok ended)
    | error later final => exact first.tagged.trans ((handles raised).error ended)

/-- Handling by raising something in the end. -/
theorem recover_raising {α : Type} {body : Code α} {handler : Raised → Code α}
    (checked : Checked body)
    (raises : ∀ raised, Raising.Ends (fun _ _ => False) (fun start _ final => Tagged start final)
      (handler raised)) : Checked (Raising.recover body handler) := by
  intro start
  cases began : body start with
  | ok a final =>
    rw [Raising.recover_of_ok began]
    exact checked.ok began
  -- The body may have made one, so that the handler has to raise.
  | error raised middle =>
    rw [Raising.recover_of_error began]
    have first := checked.error began
    cases ended : handler raised middle with
    | ok a final => exact ((raises raised).ok ended).elim
    | error later final => exact first.trans ((raises raised).error ended)

/-- A checked body with a checked cleanup is checked. -/
theorem ensure_checked {α : Type} {body : Code α} {cleanup : Code Unit} (checked : Checked body)
    (cleans : Checked cleanup) : Checked (Raising.ensure body cleanup) := by
  intro start
  -- The cleanup runs however the body ended, and an error of either is raised.
  cases began : body start with
  | ok a middle =>
    have first := checked.ok began
    cases ended : cleanup middle with
    | ok _ final =>
      simp only [Raising.ensure, began, ended]
      exact first.trans (cleans.ok ended)
    | error raised final =>
      simp only [Raising.ensure, began, ended]
      exact first.tagged.trans (cleans.error ended)
  | error raised middle =>
    have first := checked.error began
    cases ended : cleanup middle with
    | ok _ final =>
      simp only [Raising.ensure, began, ended]
      exact first.trans (cleans.ok ended).tagged
    | error later final =>
      simp only [Raising.ensure, began, ended]
      exact first.trans (cleans.error ended)

/-- Sending a configuration whose result is looked at. -/
theorem setModule_checked (module : List UInt8) :
    Checked (AsyncControlChannel.setModule world connection module >>= Result.raiseOnError) := by
  intro start
  cases replied : reply world connection start with
  | ok answer =>
    have sent : send world connection (.setModule module) start =
        .ok answer (start.record (.request connection (.setModule module)) (.ok answer)) := by
      rw [send, replied]
    have returned : AsyncControlChannel.setModule world connection module start =
        .ok (if answer.accepted then .success else .failure "set_module rejected")
          (start.record (.request connection (.setModule module)) (.ok answer)) :=
      Raising.recover_of_ok (Raising.bind_of_ok sent)
    rw [Raising.bind_of_ok returned]
    -- A rejected configuration is a failure like any other.
    cases accepted : answer.accepted with
    | true => exact Fine.record fun _ => accepted
    | false => exact Tagged.record _ _ _
  | error raised =>
    have sent : send world connection (.setModule module) start =
        .error raised (start.record (.request connection (.setModule module)) (.error raised)) := by
      rw [send, replied]
    have returned : AsyncControlChannel.setModule world connection module start =
        (if raised.isRuntimeError then pure (.failure raised.text) else throw raised : Code Result)
          (start.record (.request connection (.setModule module)) (.error raised)) :=
      Raising.recover_of_error (Raising.bind_of_error sent)
    by_cases runtime : raised.isRuntimeError = true
    · rw [if_pos runtime] at returned
      rw [Raising.bind_of_ok returned]
      exact Tagged.record _ _ _
    · rw [if_neg runtime] at returned
      rw [Raising.bind_of_error returned]
      exact Tagged.record _ _ _

/-- Code whose result tells whether one of its requests failed. -/
def Reporting {α : Type} (fine : α → Prop) (code : Code α) : Prop :=
  ∀ start, match code start with
    | .ok a final => Tagged start final ∧ (fine a → Fine start final)
    | .error _ final => Tagged start final

/-- What goes on behind such code must raise where a request failed. -/
theorem Reporting.bind {α β : Type} {fine : α → Prop} {first : Code α} {second : α → Code β}
    (reports : Reporting fine first) (checked : ∀ a, fine a → Checked (second a))
    (raises : ∀ a, ¬fine a → Raising.Ends (fun _ _ => False)
      (fun start _ final => Tagged start final) (second a)) : Checked (first >>= second) := by
  intro start
  have reported := reports start
  cases began : first start with
  | error raised middle =>
    rw [began] at reported
    rw [Raising.bind_of_error began]
    exact reported
  | ok a middle =>
    rw [began] at reported
    rw [Raising.bind_of_ok began]
    -- What is reported decides whether the rest may return or has to raise.
    by_cases good : fine a
    · cases ended : second a middle with
      | ok b final => exact (reported.2 good).trans ((checked a good).ok ended)
      | error raised final => exact reported.1.trans ((checked a good).error ended)
    · cases ended : second a middle with
      | ok b final => exact ((raises a good).ok ended).elim
      | error raised final => exact reported.1.trans ((raises a good).error ended)

/-- A reconnection tells whether it succeeded. -/
theorem reconnect_reporting (timeout : Nat) :
    Reporting (fun reconnected => reconnected = true)
      (AsyncControlChannel.reconnect world connection timeout) := by
  intro start
  -- The answer of the device is the answer of the call.
  cases replied : reply world connection start with
  | ok answer =>
    have sent : send world connection (.reconnect timeout) start =
        .ok answer (start.record (.request connection (.reconnect timeout)) (.ok answer)) := by
      rw [send, replied]
    have returned : AsyncControlChannel.reconnect world connection timeout start =
        .ok answer.accepted
          (start.record (.request connection (.reconnect timeout)) (.ok answer)) :=
      Raising.recover_of_ok (Raising.bind_of_ok sent)
    rw [returned]
    exact ⟨Tagged.record _ _ _, fun accepted => Fine.record fun _ => accepted⟩
  | error raised =>
    have sent : send world connection (.reconnect timeout) start =
        .error raised (start.record (.request connection (.reconnect timeout)) (.error raised)) := by
      rw [send, replied]
    have returned : AsyncControlChannel.reconnect world connection timeout start =
        (if raised.kind = .cancelledError then pure false else throw raised : Code Bool)
          (start.record (.request connection (.reconnect timeout)) (.error raised)) :=
      Raising.recover_of_error (Raising.bind_of_error sent)
    -- A cancelled request counts as refused, any other error is raised.
    by_cases cancelled : raised.kind = .cancelledError
    · rw [if_pos cancelled] at returned
      rw [returned]
      exact ⟨Tagged.record _ _ _, fun accepted => by cases accepted⟩
    · rw [if_neg cancelled] at returned
      rw [returned]
      exact Tagged.record _ _ _

/-- Bringing a device back is checked. -/
theorem reconnectDevice_checked (command : FirmwareUpdateCommand) :
    Checked (Session.reconnectDevice world command connection) := by
  refine checked_sequential.bind (observe_checked world fun _ _ => rfl) fun answer => ?_
  refine choice_checked (checked_sequential.pure ()) ?_
  -- A refused reconnect raises, and only an accepted one opens the data channel again.
  refine (reconnect_reporting world connection _).bind (fun reconnected accepted => ?_)
    fun reconnected rejected => ?_
  · subst accepted
    show Checked (if connection.data = true then _ else _)
    refine choice_checked ?_ (checked_sequential.pure ())
    exact checked_sequential.bind (send_checked world connection .dataReconnect trivial)
      fun _ => checked_sequential.pure ()
  · obtain rfl : reconnected = false := by simpa using rejected
    exact .throw fun state => (Fine.refl state).tagged

end Requests

section Commands

variable (world : World) (controller : Controller)

/-- Going through the connections is checked if what is done on each of them is. -/
theorem onEach_checked (missing : Raised) {body : Connection → Code Unit}
    (checked : ∀ connection, Checked (body connection)) :
    Checked (Session.onEach controller missing body) :=
  checked_sequential.forM fun connection _ => choice_checked (checked connection) (throw_checked missing)

theorem executeCalibrate_checked (command : CalibrateCommand) :
    Checked (Session.executeCalibrate world controller command) :=
  onEach_checked controller _ fun connection => simpleRequest_checked world connection _ trivial

theorem executeSetConfig_checked (module : List UInt8) :
    Checked (Session.executeSetConfig world controller module) :=
  onEach_checked controller _ fun connection => setModule_checked world connection module

/-- Telling the devices to abort adds events of the command under way. -/
theorem abortDevice_tagging (connection : Connection) :
    Tagging (Session.abortDevice world connection) := by
  intro start
  rw [abortDevice_eq]
  cases reply world connection start with
  | ok answer => exact Tagged.record _ _ _
  | error raised =>
    -- Errors of an abort are only logged, apart from those that are no exceptions.
    by_cases exception : raised.isException = true
    · simp only [if_pos exception]
      exact Tagged.record _ _ _
    · simp only [if_neg exception]
      exact Tagged.record _ _ _

/-- Behind the aborts the failure is raised again. -/
theorem abortPhases_raises (connections : List Connection) (raised : Raised) :
    Raising.Ends (fun _ _ => False) (fun start _ final => Tagged start final)
      (Session.abortPhases world connections raised) := by
  intro start
  have aborting := tagging_sequential.forM fun connection (_ : connection ∈ connections) =>
    abortDevice_tagging world connection
  -- However the devices answered, the error that led here is raised again.
  cases told : connections.forM (Session.abortDevice world) start with
  | ok _ final =>
    rw [Session.abortPhases, Raising.bind_of_ok told]
    exact aborting.ok told
  | error later final =>
    rw [Session.abortPhases, Raising.bind_of_error told]
    exact aborting.error told

theorem uploadDevice_checked (command : FirmwareUpdateCommand) (connection : Connection) :
    Checked (Session.uploadDevice world command connection) := by
  -- The begin is followed by the write of the image.
  refine checked_sequential.bind ?_ fun _ => simpleRequest_checked world connection _ trivial
  exact checked_sequential.bind (send_checked world connection _ trivial) fun _ =>
    checked_sequential.pure _

theorem verifyDevice_checked (connection : Connection) :
    Checked (Session.verifyDevice world connection) :=
  simpleRequest_checked world connection _ trivial

theorem commitDevice_checked (connection : Connection) :
    Checked (Session.commitDevice world connection) :=
  simpleRequest_checked world connection _ trivial

theorem restartDevices_checked (command : FirmwareUpdateCommand) (connections : List Connection) :
    Checked (Session.restartDevices world command connections) := by
  refine checked_sequential.bind (observe_checked world fun _ _ => rfl) fun _ => ?_
  exact checked_sequential.forM fun connection _ => reconnectDevice_checked world connection command

theorem executeUpload_checked (command : FirmwareUpdateCommand) :
    Checked (Session.executeUpload world command controller) := by
  refine checked_sequential.bind (recover_raising ?_ (abortPhases_raises world _)) fun _ =>
    restartDevices_checked world command _
  -- All three phases look at their results.
  refine checked_sequential.bind (checked_sequential.bind ?_ fun _ => ?_) fun _ => ?_
  · exact checked_sequential.forM fun connection _ => uploadDevice_checked world command connection
  · exact checked_sequential.forM fun connection _ => verifyDevice_checked world connection
  · exact checked_sequential.forM fun connection _ => commitDevice_checked world connection

/-- The start requests tell whether one of them failed. -/
theorem sendStarts_reporting (run : Nat) (master : Path) (connections : List Connection) :
    Reporting (fun results => ∀ result ∈ results, startOk result = true)
      (Session.sendStarts world run master connections) := by
  -- The induction is on the requests still to be sent.
  induction connections with
  | nil => exact fun start => ⟨(Fine.refl start).tagged, fun _ => Fine.refl start⟩
  | cons connection later ih =>
    intro start
    obtain ⟨result, sent, succeeds⟩ := attemptStart world run master connection start
    have rest := ih (start.record (.request connection (.startRun run master))
      (reply world connection start))
    have tagged : Tagged start (start.record (.request connection (.startRun run master))
      (reply world connection start)) := Tagged.record _ _ _
    rw [Session.sendStarts, Raising.bind_of_ok sent]
    cases ended : Session.sendStarts world run master later
      (start.record (.request connection (.startRun run master)) (reply world connection start)) with
    | error raised final =>
      rw [ended] at rest
      rw [Raising.bind_of_error ended]
      exact tagged.trans rest
    | ok results final =>
      rw [ended] at rest
      rw [Raising.bind_of_ok ended]
      refine ⟨tagged.trans rest.1, fun succeeded => ?_⟩
      simp only [List.mem_cons, forall_eq_or_imp] at succeeded
      refine Fine.trans (Fine.record fun _ => ?_) (rest.2 succeeded.2)
      obtain ⟨answer, replied⟩ := succeeds.mp succeeded.1
      rw [replied]
      rfl

/-- Waiting for the start requests and checking their results sends nothing. -/
theorem joinStarts_tagging (results : List (Except Raised Result)) :
    Tagging (Session.joinStarts world results) := by
  refine tagging_sequential.bind (observe_checked world fun _ _ => rfl).tagging fun _ start => ?_
  -- The results are only looked at, which records nothing.
  rcases checkStarts_spec results start with ⟨_, returned⟩ | ⟨_, raised, stopped⟩
  · rw [returned]
    exact (Fine.refl start).tagged
  · rw [stopped]
    exact (Fine.refl start).tagged

/-- The start of a run is checked. -/
theorem gatherStarts_checked (run : Nat) (master : Path) (connections : List Connection) :
    Checked (Session.gatherStarts world run master connections) := by
  -- Where every request succeeded there is nothing left to raise.
  refine (sendStarts_reporting world run master connections).bind (fun results succeeded => ?_)
    fun results failed => ?_
  · refine checked_sequential.bind (observe_checked world fun _ _ => rfl) fun _ => ?_
    intro start
    rcases checkStarts_spec results start with ⟨_, returned⟩ | ⟨failed, _⟩
    · rw [returned]
      exact Fine.refl start
    · exact absurd succeeded failed
  · -- Where a request failed, the wait raises or the results do.
    intro start
    have tagging := joinStarts_tagging world results
    cases joined : Session.joinStarts world results start with
    | error raised final => exact tagging.error joined
    | ok _ final =>
      obtain ⟨_, middle, _, checks⟩ := Raising.bind_eq_ok.mp joined
      rcases checkStarts_spec results middle with ⟨succeeded, _⟩ | ⟨_, raised, stopped⟩
      · exact absurd succeeded failed
      · rw [stopped] at checks
        cases checks

/-- A handled wait is checked. -/
theorem handled_checked {point : Point} (apart : ∀ command outcome,
    Event.isRequest ⟨command, point, outcome⟩ = false) {handler : Raised → Code Unit}
    (handles : ∀ raised, Checked (handler raised)) :
    Checked (Raising.recover
      (do
        let _ ← observe world point
        return ()) handler) := by
  -- The step itself makes no request, so that handling its error is safe.
  refine recover_checked ?_ handles
  have sequential : Raising.Sequential Fine (fun start (_ : Raised) final => Fine start final) :=
    ⟨Fine.refl, Fine.trans, Fine.trans⟩
  exact sequential.bind (observe_fine world apart) fun _ => sequential.pure ()

/-- Changing neither the log nor the command is checked. -/
theorem quiet_checked {α : Type} {code : Code α}
    (quiet : ∀ start, (Raising.final (code start)).log = start.log ∧
      (Raising.final (code start)).command = start.command) : Checked code := by
  intro start
  have same := quiet start
  -- Without an entry in the log nothing has failed.
  cases ended : code start with
  | ok a final =>
    rw [ended] at same
    exact ⟨same.2, [], same.1, by simp⟩
  | error raised final =>
    rw [ended] at same
    exact ⟨same.2, [], same.1, by simp⟩

/-- Waiting for all carriers is checked. -/
theorem waitAll_checked (point : Point) (name : String) (apart : ∀ command outcome,
    Event.isRequest ⟨command, point, outcome⟩ = false) :
    Checked (Session.waitAll world point name) :=
  handled_checked world apart fun raised => choice_checked (throw_checked _) (throw_checked raised)

/-- Finishing a run is checked. -/
theorem finishRun_checked (run : Nat) : Checked (Session.finishRun world controller run) := by
  -- First the run is taken off, then each sink is waited for; the waits are no requests.
  refine checked_sequential.bind (checked_sequential.bind (quiet_checked fun start => ⟨rfl, rfl⟩)
    fun _ => ?_) fun _ => ?_
  · exact handled_checked world (fun _ _ => rfl) fun raised =>
      choice_checked (checked_sequential.pure ()) (throw_checked raised)
  · refine checked_sequential.bind (observe_checked world fun _ _ => rfl) fun _ => ?_
    exact checked_sequential.forM fun index _ => handled_checked world (fun _ _ => rfl)
      fun raised => choice_checked (checked_sequential.pure ()) (throw_checked raised)

/-- Following a run is checked. -/
theorem followRun_checked (connections : List Connection) (run : Nat) :
    Checked (Session.followRun world controller connections run) := by
  refine checked_sequential.bind (quiet_checked fun start => ⟨rfl, rfl⟩) fun _ => ?_
  refine checked_sequential.bind (waitAll_checked world _ _ fun _ _ => rfl) fun _ => ?_
  refine checked_sequential.bind (ensure_checked ?_ (finishRun_checked world controller run))
    fun _ => checked_sequential.pure _
  refine checked_sequential.bind (waitAll_checked world _ _ fun _ _ => rfl) fun _ => ?_
  -- The overload is asked of the last connection only.
  cases connections.getLast? with
  | none => exact checked_sequential.pure _
  | some connection =>
    exact checked_sequential.bind (send_checked world connection _ trivial) fun _ =>
      checked_sequential.pure _

theorem superviseRun_checked (command : RunCommand) (run : Nat) (master : Path) :
    Checked (Session.superviseRun world controller command run master) := by
  -- The task that drains is started before anything is sent.
  refine checked_sequential.bind (quiet_checked fun start => ?_) fun _ => ?_
  · cases command.startMessage <;> exact ⟨rfl, rfl⟩
  · exact checked_sequential.bind (gatherStarts_checked world run master _) fun _ =>
      followRun_checked world controller _ run

/-- Registering the callbacks is checked. -/
theorem registerAll_checked (connections : List Connection) :
    Checked (connections.forM Session.registerCallback) := by
  refine checked_sequential.forM fun connection _ => quiet_checked fun start => ?_
  unfold Session.registerCallback
  -- Only a connection with a control channel has callbacks.
  by_cases present : connection.control = true
  · rw [if_pos present]
    exact ⟨rfl, rfl⟩
  · rw [if_neg present]
    exact ⟨rfl, rfl⟩

/-- Taking the callbacks off is checked. -/
theorem unregisterAll_checked (connections : List Connection) :
    Checked (connections.forM Session.unregisterCallback) :=
  checked_sequential.forM fun _ _ => quiet_checked fun _ => ⟨rfl, rfl⟩

theorem executeRun_checked (command : RunCommand) :
    Checked (Session.executeRun world controller command) := by
  refine checked_sequential.bind (quiet_checked fun start => ⟨rfl, rfl⟩) fun run => ?_
  -- A run for unknown entities is refused before anything is sent.
  refine choice_checked (throw_checked _) ?_
  refine checked_sequential.bind (quiet_checked fun start => ?_) fun master => ?_
  · cases controller.firstPath <;> exact ⟨rfl, rfl⟩
  refine checked_sequential.bind (registerAll_checked _) fun _ => ?_
  -- The callbacks are taken off however the run has ended.
  exact ensure_checked (superviseRun_checked world controller command run master)
    (unregisterAll_checked _)

/-- Every command but the reset returns only if none of its requests failed. -/
theorem executeCommand_checked {command : SessionCommand}
    (other : ∀ reset, command ≠ .reset reset) :
    Checked (Session.executeCommand world controller command) := by
  -- There is one lemma for each command but the reset.
  cases command with
  | reset reset => exact absurd rfl (other reset)
  | setConfig module => exact executeSetConfig_checked world controller module
  | calibrate calibrate => exact executeCalibrate_checked world controller calibrate
  | firmware firmware => exact executeUpload_checked world controller firmware
  | run run =>
    exact checked_sequential.bind (executeRun_checked world controller run) fun _ =>
      quiet_checked fun start => ⟨rfl, rfl⟩
  | unknown => exact checked_sequential.pure ()

/-- The next requests, as many as given, are answered or refused with a runtime error. -/
def Passable (position count : Nat) : Prop :=
  ∀ i < count, ∀ raised, world (position + i) = .error raised → raised.isRuntimeError = true

/-- One more request is passable if the first one and the ones behind it are. -/
theorem passable_succ (position count : Nat) :
    Passable world position (count + 1) ↔
      (∀ raised, world position = .error raised → raised.isRuntimeError = true) ∧
        Passable world (position + 1) count := by
  -- The first answer is at this position, the others follow it.
  constructor
  · intro passable
    refine ⟨fun raised => passable 0 (by omega) raised, fun i bound => ?_⟩
    rw [Nat.add_right_comm, Nat.add_assoc]
    exact passable (i + 1) (by omega)
  · rintro ⟨first, others⟩ i bound
    cases i with
    | zero => exact first
    | succ i =>
      rw [← Nat.add_assoc, Nat.add_right_comm]
      exact others i (by omega)

/-- The reset of one connection. -/
def resetDevice (command : ResetCommand) (connection : Connection) : Code Unit :=
  if connection.control then
    (do
      -- The result is not looked at, so that a failure passes over.
      let _ ← AsyncControlChannel.reset world connection command
      return ())
  else throw (nativeMissing "Running reset" "extensions")

/-- One reset returns unless it raises something other than a runtime error. -/
theorem resetDevice_eq {connection : Connection} (present : connection.control = true)
    (command : ResetCommand) (start : State) :
    resetDevice world command connection start =
      match world start.log.length with
      | .ok answer => .ok () (start.record (.request connection (.reset command)) (.ok answer))
      | .error raised =>
        if raised.isRuntimeError then
          .ok () (start.record (.request connection (.reset command)) (.error raised))
        else .error raised (start.record (.request connection (.reset command)) (.error raised)) := by
  -- A reset does not look at the result, so that a failed answer is passed over.
  have sent := simpleRequest_eq world connection (.reset command) start
  rw [reply, if_pos present] at sent
  rw [resetDevice, if_pos present]
  cases outcome : world start.log.length with
  | ok answer =>
    rw [outcome] at sent
    exact Raising.bind_of_ok sent
  | error raised =>
    simp only [outcome] at sent
    -- A RuntimeError was made a result, and other errors go through.
    by_cases runtime : raised.isRuntimeError = true
    · rw [if_pos runtime] at sent
      simp only [if_pos runtime]
      exact Raising.bind_of_ok sent
    · rw [if_neg runtime] at sent
      simp only [if_neg runtime]
      exact Raising.bind_of_error sent

/-- Resetting adds events of the command under way. -/
theorem resetDevice_tagging (command : ResetCommand) (connection : Connection) :
    Tagging (resetDevice world command connection) := by
  unfold resetDevice
  -- Without a control channel it raises before anything is sent.
  by_cases present : connection.control = true
  · rw [if_pos present]
    exact tagging_sequential.bind (simpleRequest_tagging world connection _) fun _ =>
      tagging_sequential.pure ()
  · rw [if_neg present]
    exact .throw fun state => (Fine.refl state).tagged

/-- A failed request of the command that was under way at the start is in the log. -/
def Failed (start final : State) : Prop :=
  ∃ event ∈ final.log, event.isRequest = true ∧ event.succeeded = false ∧
    event.command = start.command

/-- A failure stays in the log. -/
theorem Failed.tagged {start middle final : State} (failed : Failed start middle)
    (tagged : Tagged middle final) : Failed start final := by
  obtain ⟨event, member, failure⟩ := failed
  obtain ⟨_, added, grown, _⟩ := tagged
  -- The log only grows, so that the failure stays in it.
  exact ⟨event, by rw [grown]; exact List.mem_append_right added member, failure⟩

/-- Resets that return were all sent, and hide a refusal just if one of them was not answered. -/
theorem resets_returned (command : ResetCommand) {connections : List Connection} {start final : State}
    (returned : connections.forM (resetDevice world command) start = .ok () final) :
    (∀ connection ∈ connections, connection.control = true) ∧
      Passable world start.log.length connections.length ∧ Tagged start final ∧
      (Answered world start.log.length connections.length → Fine start final) ∧
      (¬Answered world start.log.length connections.length → Failed start final) := by
  -- The induction is on the connections still to be reset.
  induction connections generalizing start with
  | nil =>
    obtain ⟨_, rfl⟩ := Raising.pure_eq_ok.mp returned
    exact ⟨by simp, fun i bound => absurd bound (by simp), (Fine.refl start).tagged,
      fun _ => Fine.refl start, fun refused => absurd (fun i bound => absurd bound (by simp)) refused⟩
  | cons connection later ih =>
    obtain ⟨_, middle, one, rest⟩ := Raising.bind_eq_ok.mp returned
    have present : connection.control = true := by
      by_contra absent
      rw [resetDevice, if_neg absent] at one
      exact Raising.throw_ne_ok one
    obtain ⟨others, passable, tagged, fine, failed⟩ := ih rest
    rw [resetDevice_eq world present] at one
    rw [List.length_cons, passable_succ, answered_succ]
    cases outcome : world start.log.length with
    | ok answer =>
      rw [outcome] at one
      cases one
      have first : Fine start (start.record (.request connection (.reset command)) (.ok answer)) :=
        Fine.record fun _ => rfl
      refine ⟨by simpa [present] using others, ⟨by simp, passable⟩, first.tagged.trans tagged, ?_, ?_⟩
      · exact fun answered => first.trans (fine answered.2)
      · intro refused
        obtain ⟨event, found⟩ := failed fun answered => refused ⟨⟨answer, rfl⟩, answered⟩
        exact ⟨event, found⟩
    | error raised =>
      simp only [outcome] at one
      by_cases runtime : raised.isRuntimeError = true
      · -- The refusal of this device goes by unseen.
        rw [if_pos runtime] at one
        cases one
        have first : Tagged start
            (start.record (.request connection (.reset command)) (.error raised)) :=
          Tagged.record _ _ _
        refine ⟨by simpa [present] using others, ⟨?_, passable⟩, first.trans tagged, ?_, ?_⟩
        · rintro other ⟨rfl⟩
          exact runtime
        · rintro ⟨⟨answer, answered⟩, _⟩
          cases answered
        · intro _
          refine Failed.tagged ⟨_, List.mem_cons_self .., rfl, rfl, rfl⟩ tagged
      · rw [if_neg runtime] at one
        cases one

/-- Passable resets of connections with a channel return. -/
theorem resets_return (command : ResetCommand) {connections : List Connection}
    (present : ∀ connection ∈ connections, connection.control = true) (start : State)
    (passable : Passable world start.log.length connections.length) :
    ∃ final, connections.forM (resetDevice world command) start = .ok () final := by
  -- The induction is on the connections; each takes one more answer of the world.
  induction connections generalizing start with
  | nil => exact ⟨start, rfl⟩
  | cons connection later ih =>
    rw [List.length_cons, passable_succ] at passable
    have one := resetDevice_eq world (present connection (List.mem_cons_self ..)) command start
    have others := fun other member => present other (List.mem_cons_of_mem connection member)
    cases outcome : world start.log.length with
    | ok answer =>
      rw [outcome] at one
      obtain ⟨final, rest⟩ := ih others
        (start.record (.request connection (.reset command)) (.ok answer)) passable.2
      exact ⟨final, (Raising.bind_of_ok one).trans rest⟩
    | error raised =>
      simp only [outcome, if_pos (passable.1 raised outcome)] at one
      obtain ⟨final, rest⟩ := ih others
        (start.record (.request connection (.reset command)) (.error raised)) passable.2
      exact ⟨final, (Raising.bind_of_ok one).trans rest⟩

end Commands

/-- A request of this command is in the log. -/
def Sent (command : Nat) (state : State) : Prop :=
  ∃ event ∈ state.log, event.isRequest = true ∧ event.command = command

/-- The log has grown. -/
def Grows (start final : State) : Prop := ∃ added, final.log = added ++ start.log

/-- The log only grows, however the code ends. -/
def Growing {α : Type} (code : Code α) : Prop := ∀ start, Grows start (Raising.final (code start))

/-- Tagging code lets the log grow. -/
theorem Tagging.growing {α : Type} {code : Code α} (tagging : Tagging code) : Growing code := by
  intro start
  -- Tagged events were added, and none was taken away.
  cases ended : code start with
  | ok a final => exact (tagging.ok ended).2.imp fun _ added => added.1
  | error raised final => exact (tagging.error ended).2.imp fun _ added => added.1

/-- What was sent stays in a growing log. -/
theorem Sent.grows {command : Nat} {start final : State} (sent : Sent command start)
    (grows : Grows start final) : Sent command final := by
  obtain ⟨event, member, request⟩ := sent
  obtain ⟨added, grown⟩ := grows
  -- The log only grows.
  exact ⟨event, by rw [grown]; exact List.mem_append_right added member, request⟩

/-- What the first part of a sequence sends is sent. -/
theorem sent_bind {α β : Type} {command : Nat} {first : Code α} {second : α → Code β} {start : State}
    (sent : Sent command (Raising.final (first start))) (growing : ∀ a, Growing (second a)) :
    Sent command (Raising.final ((first >>= second) start)) := by
  -- Requests in the log stay there, whatever comes next.
  cases began : first start with
  | ok a middle =>
    rw [began] at sent
    rw [Raising.bind_of_ok began]
    exact sent.grows (growing a middle)
  | error raised middle =>
    rw [began] at sent
    rw [Raising.bind_of_error began]
    exact sent

/-- What a handled body sends is sent. -/
theorem sent_recover {α : Type} {command : Nat} {body : Code α} {handler : Raised → Code α}
    {start : State} (sent : Sent command (Raising.final (body start)))
    (growing : ∀ raised, Growing (handler raised)) :
    Sent command (Raising.final (Raising.recover body handler start)) := by
  -- A handler only adds to the log.
  cases began : body start with
  | ok a middle =>
    rw [began] at sent
    rw [Raising.recover_of_ok began]
    exact sent
  | error raised middle =>
    rw [began] at sent
    rw [Raising.recover_of_error began]
    exact sent.grows (growing raised middle)

section Sending

variable (world : World) (connection : Connection)

theorem send_sent (request : Request) (start : State) :
    Sent start.command (Raising.final (send world connection request start)) := by
  unfold send
  -- The request is written to the log whatever comes back.
  cases reply world connection start with
  | ok answer => exact ⟨_, List.mem_cons_self .., rfl, rfl⟩
  | error raised => exact ⟨_, List.mem_cons_self .., rfl, rfl⟩

/-- Turning errors into results adds nothing. -/
theorem asResult_growing (raised : Raised) : Growing
    (if raised.isRuntimeError then pure (.failure raised.text) else throw raised : Code Result) := by
  intro start
  -- Neither branch reaches the world.
  by_cases runtime : raised.isRuntimeError = true
  · rw [if_pos runtime]
    exact ⟨[], rfl⟩
  · rw [if_neg runtime]
    exact ⟨[], rfl⟩

/-- A request whose result is looked at, or not, is sent. -/
theorem request_sent (request : Request) {β : Type} {result : Answer → Code Result}
    {goesOn : Result → Code β} (silent : ∀ answer, Growing (result answer))
    (growing : ∀ a, Growing (goesOn a)) (start : State) :
    Sent start.command (Raising.final
      ((asResult (send world connection request >>= result) >>= goesOn) start)) := by
  -- The request itself is the first thing that is recorded.
  refine sent_bind (sent_recover (sent_bind (send_sent world connection request start) silent) ?_)
    growing
  exact asResult_growing

end Sending

/-- Returning adds nothing. -/
theorem pure_growing {α : Type} (a : α) : Growing (pure a : Code α) := fun _ => ⟨[], rfl⟩

/-- Looking at a result adds nothing. -/
theorem raiseOnError_growing (result : Result) : Growing result.raiseOnError := by
  intro start
  unfold Result.raiseOnError
  -- Looking at a result adds no event.
  by_cases ok : result.ok = true
  · rw [if_pos ok]
    exact ⟨[], rfl⟩
  · rw [if_neg ok]
    exact ⟨[], rfl⟩

section Sends

variable (world : World) (controller : Controller)

/-- What is done on the first connection is done before everything else. -/
theorem onEach_sent {missing : Raised} {body : Connection → Code Unit} {start : State}
    (present : ∀ connection ∈ controller.getUniqueConnections, connection.control = true)
    (some_ : controller.getUniqueConnections ≠ [])
    (sends : ∀ connection, Sent start.command (Raising.final (body connection start)))
    (tagging : ∀ connection, Tagging (body connection)) :
    Sent start.command (Raising.final (Session.onEach controller missing body start)) := by
  unfold Session.onEach
  -- There is a first connection, and the request goes to it.
  cases listed : controller.getUniqueConnections with
  | nil => exact absurd listed some_
  | cons first later =>
    refine sent_bind ?_ fun _ => Tagging.growing (tagging_sequential.forM fun connection _ => ?_)
    · show Sent _ (Raising.final ((if first.control = true then _ else _ : Code Unit) start))
      rw [if_pos (present first (by simp [listed]))]
      exact sends first
    -- Those behind it only add to the log.
    · by_cases channel : connection.control = true
      · rw [if_pos channel]
        exact tagging connection
      · rw [if_neg channel]
        exact .throw fun state => (Fine.refl state).tagged

/-- The involved connections are connections. -/
theorem involved_present {command : RunCommand}
    (present : ∀ connection ∈ controller.getUniqueConnections, connection.control = true) :
    ∀ connection ∈ controller.involvedConnections command, connection.control = true := by
  intro connection member
  refine present connection ?_
  simp only [Controller.involvedConnections, Controller.getUniqueConnections, List.mem_reverse,
    List.mem_dedup, List.mem_map] at member ⊢
  obtain ⟨entry, involved, same⟩ := member
  refine ⟨entry, ?_, same⟩
  -- The connections of a run are chosen among those of the controller.
  unfold Controller.involved at involved
  cases chosen : command.entities with
  | none => simpa [chosen] using involved
  | some entities =>
    simp only [chosen] at involved
    exact List.mem_of_mem_filter involved

/-- A run that is not stopped before sends its start requests. -/
theorem executeRun_sent {command : RunCommand}
    (present : ∀ connection ∈ controller.getUniqueConnections, connection.control = true)
    (accepted : ¬command.Refused controller) (built : command.startMessage = .ok ())
    (start : State) :
    Sent start.command (Raising.final (Session.executeRun world controller command start)) := by
  obtain ⟨master, ended⟩ := executeRun_accepted world accepted start
  obtain ⟨callbacks, registered⟩ := register_all (involved_present controller present)
    { start with begun := start.begun + 1 }
  rw [ended, Raising.bind_of_ok registered, Raising.final_ensure]
  refine Sent.grows ?_ ((unregisterAll_checked _).tagging.growing _)
  unfold Session.superviseRun
  have ready : ∀ state, ofExcept (.ok () : Except Raised Unit) state = .ok () state := fun _ => rfl
  simp only [built, Raising.bind_of_ok (ready _)]
  cases listed : controller.involvedConnections command with
  | nil =>
    refine absurd (.inl ?_) accepted
    simpa [Controller.involvedConnections] using listed
  | cons first later =>
    -- The first request is sent before anything else can happen.
    refine sent_bind (sent_bind (sent_bind ?_ fun result => Tagging.growing ?_) fun results =>
      (joinStarts_tagging world results).growing) fun _ =>
        (followRun_checked world controller _ _).tagging.growing
    · obtain ⟨result, sent, _⟩ := attemptStart world start.begun master first
        { start with begun := start.begun + 1, callbacks := callbacks }
      rw [sent]
      exact ⟨_, List.mem_cons_self .., rfl, rfl⟩
    · refine tagging_sequential.bind (fun state => ?_) fun _ => tagging_sequential.pure _
      have reported := sendStarts_reporting world start.begun master later state
      cases rest : Session.sendStarts world start.begun master later state with
      | ok results final =>
        rw [rest] at reported
        exact reported.1
      | error raised final =>
        rw [rest] at reported
        exact reported

/-- The first command that is not skipped is a run that raises before it sends anything. -/
def Halts : List SessionCommand → Prop
  | [] => False
  | .unknown :: later => Halts later
  | .run command :: _ => command.Refused controller ∨ ∃ raised, command.startMessage = .error raised
  | _ :: _ => False

/-- The reset is reached with a refusal among its answers, and nothing that would raise. -/
def PassedOver (state : State) : Prop :=
  (∀ connection ∈ controller.getUniqueConnections, connection.control = true) ∧
    Passable world state.log.length controller.getUniqueConnections.length ∧
    ¬Answered world state.log.length controller.getUniqueConnections.length

/-- Walking the pipeline, a reset is reached that passes over a refusal, and the session goes on. -/
def Hides : List SessionCommand → State → Prop
  | [], _ => False
  | command :: later, state =>
    -- The failure of a reset is passed over, and something is sent after it.
    ((∃ reset, command = .reset reset) ∧ PassedOver world controller state ∧
        ¬Halts controller later) ∨
      ∃ next, Session.executeCommand world controller command state = .ok () next ∧
        Hides later { next with command := next.command + 1 }

/-- Every command adds events of its own only. -/
theorem executeCommand_tagging (command : SessionCommand) :
    Tagging (Session.executeCommand world controller command) := by
  -- The reset is the one command that does not check its results.
  by_cases reset : ∃ reset, command = .reset reset
  · obtain ⟨reset, rfl⟩ := reset
    exact tagging_sequential.forM fun connection _ => resetDevice_tagging world reset connection
  · exact (executeCommand_checked world controller fun other same => reset ⟨other, same⟩).tagging

/-- A known command that is not stopped before sends a request. -/
theorem executeCommand_sent {command : SessionCommand} {later : List SessionCommand}
    (present : ∀ connection ∈ controller.getUniqueConnections, connection.control = true)
    (some_ : controller.getUniqueConnections ≠ []) (known : command ≠ .unknown)
    (proceeds : ¬Halts controller (command :: later)) (start : State) :
    Sent start.command
      (Raising.final (Session.executeCommand world controller command start)) := by
  -- There is one case for each command; an unknown one sends nothing, and is excluded.
  cases command with
  | unknown => exact absurd rfl known
  | reset reset =>
    refine onEach_sent controller present some_ (fun connection => ?_) fun connection => ?_
    · exact request_sent world connection (.reset reset) (fun _ => pure_growing _)
        (fun _ => pure_growing ()) start
    · exact tagging_sequential.bind (simpleRequest_tagging world connection _) fun _ =>
        tagging_sequential.pure ()
  | setConfig module =>
    refine onEach_sent controller present some_ (fun connection => ?_) fun connection =>
      (setModule_checked world connection module).tagging
    exact request_sent world connection (.setModule module) (fun _ => pure_growing _)
      raiseOnError_growing start
  | calibrate calibrate =>
    refine onEach_sent controller present some_ (fun connection => ?_) fun connection => ?_
    · exact request_sent world connection _ (fun _ => pure_growing _) raiseOnError_growing start
    · exact Checked.tagging (simpleRequest_checked world connection _ trivial)
  | run run =>
    -- The run is not refused and its message is built, so that it gets to its requests.
    have accepted : ¬run.Refused controller := fun refused => proceeds (.inl refused)
    have built : run.startMessage = .ok () := by
      cases built : run.startMessage with
      | ok _ => rfl
      | error raised => exact absurd (.inr ⟨raised, built⟩) proceeds
    exact sent_bind (executeRun_sent world controller present accepted built start) fun _ _ => ⟨[], rfl⟩
  | firmware firmware =>
    refine sent_bind (sent_recover ?_ fun raised => ?_) fun _ =>
      (restartDevices_checked world firmware _).tagging.growing
    · refine sent_bind (sent_bind ?_ fun _ => ?_) fun _ => ?_
      · -- The update begins on the first device.
        cases listed : controller.getUniqueConnections with
        | nil => exact absurd listed some_
        | cons first others =>
          refine sent_bind (sent_bind (sent_bind (send_sent world first _ start) fun _ =>
            pure_growing _) fun chunkSize => ?_) fun _ => ?_
          · exact (Checked.tagging (simpleRequest_checked world first
              (.updateWriteFull _ chunkSize _) trivial)).growing
          · exact Tagging.growing (tagging_sequential.forM fun connection _ =>
              (uploadDevice_checked world firmware connection).tagging)
      · exact Tagging.growing (tagging_sequential.forM fun connection _ =>
          (verifyDevice_checked world connection).tagging)
      · exact Tagging.growing (tagging_sequential.forM fun connection _ =>
          (commitDevice_checked world connection).tagging)
    · refine Tagging.growing ((abortPhases_raises world _ raised).weaken (fun _ _ never => ?_)
        fun _ _ _ tagged => tagged)
      exact never.elim

/-- Behind a command that returns, the pipeline goes on with the next one. -/
theorem runPipeline_of_ok {command : SessionCommand} {later : List SessionCommand}
    {start middle : State}
    (returned : Session.executeCommand world controller command start = .ok () middle) :
    Session.runPipeline world controller (command :: later) start =
      Session.runPipeline world controller later { middle with command := middle.command + 1 } :=
  Raising.bind_of_ok returned

/-- A command that raises ends the pipeline. -/
theorem runPipeline_of_error {command : SessionCommand} {later : List SessionCommand}
    {start middle : State} {raised : Raised}
    (stopped : Session.executeCommand world controller command start = .error raised middle) :
    Session.runPipeline world controller (command :: later) start = .error raised middle :=
  Raising.bind_of_error stopped

/-- A pipeline lets the log grow. -/
theorem runPipeline_growing (pipeline : List SessionCommand) :
    Growing (Session.runPipeline world controller pipeline) := by
  -- The induction is on the commands still to be executed.
  induction pipeline with
  | nil => exact pure_growing ()
  | cons command later ih =>
    intro start
    have first := (executeCommand_tagging world controller command).growing start
    cases ended : Session.executeCommand world controller command start with
    | error raised middle =>
      rw [ended] at first
      rw [runPipeline_of_error world controller ended]
      exact first
    | ok _ middle =>
      rw [ended] at first
      obtain ⟨added, grown⟩ := first
      obtain ⟨more, grown'⟩ := ih { middle with command := middle.command + 1 }
      rw [runPipeline_of_ok world controller ended]
      exact ⟨more ++ added, by rw [grown', List.append_assoc, ← grown]; rfl⟩

/-- A pipeline that does not halt sends a request of a later command, or returns. -/
theorem runPipeline_proceeds
    (present : ∀ connection ∈ controller.getUniqueConnections, connection.control = true)
    (some_ : controller.getUniqueConnections ≠ []) {pipeline : List SessionCommand}
    (proceeds : ¬Halts controller pipeline) (start : State) :
    (∃ final, Session.runPipeline world controller pipeline start = .ok () final) ∨
      ∃ command, start.command ≤ command ∧
        Sent command (Raising.final (Session.runPipeline world controller pipeline start)) := by
  -- Commands that are skipped come first, and the one behind them sends.
  induction pipeline generalizing start with
  | nil => exact .inl ⟨start, rfl⟩
  | cons command later ih =>
    by_cases skipped : command = .unknown
    · subst skipped
      rcases ih proceeds { start with command := start.command + 1 } with returned | sent
      · exact .inl returned
      · obtain ⟨command, after, sent⟩ := sent
        exact .inr ⟨command, Nat.le_of_succ_le after, sent⟩
    · have sent := executeCommand_sent world controller present some_ skipped proceeds start
      refine .inr ⟨start.command, le_refl _, sent_bind sent fun _ middle => ?_⟩
      exact runPipeline_growing world controller later { middle with command := middle.command + 1 }

end Sends

/-- A session hides no failure: it returns only if no request failed, and goes no further. -/
def Faithful {α : Type} (result : EStateM.Result Raised State α) : Prop :=
  -- A pipeline that returns has seen no request fail.
  (∀ a final, result = .ok a final →
    ∀ event ∈ final.log, event.isRequest = true → event.succeeded = true) ∧
  -- Behind a request that failed, no later command has sent one.
  ∀ event ∈ (Raising.final result).log, event.isRequest = true → event.succeeded = false →
    ∀ other ∈ (Raising.final result).log, other.isRequest = true → other.command ≤ event.command

/-- So far no request failed, and all of them belong to earlier commands. -/
structure Clear (state : State) : Prop where
  succeeded : ∀ event ∈ state.log, event.isRequest = true → event.succeeded = true
  earlier : ∀ event ∈ state.log, event.command < state.command

/-- Behind a fine command everything is clear again. -/
theorem Clear.fine {start final : State} (clear : Clear start) (fine : Fine start final) :
    Clear { final with command := final.command + 1 } := by
  obtain ⟨same, added, grown, each⟩ := fine
  constructor
  · intro event member request
    -- An entry is a new one of this command, or an old one of an earlier command.
    rcases List.mem_append.mp (grown ▸ member) with new | old
    · exact (each event new).2 request
    · exact clear.succeeded event old request
  · intro event member
    rcases List.mem_append.mp (grown ▸ member) with new | old
    · rw [(each event new).1, same]
      exact Nat.lt_succ_self _
    · rw [same]
      exact Nat.lt_succ_of_lt (clear.earlier event old)

/-- A command that raises behind clear ones ends the session where it failed. -/
theorem Clear.raised {α : Type} {start final : State} {raised : Raised} (clear : Clear start)
    (own : Adds (fun event => event.command = start.command) start final) :
    Faithful (.error raised final : EStateM.Result Raised State α) := by
  obtain ⟨added, grown, each⟩ := own
  refine ⟨fun _ _ returned => (by cases returned), fun event member request failed other member' _ => ?_⟩
  -- The failed request is one of this command, as those before have all succeeded.
  have recent : event.command = start.command := by
    rcases List.mem_append.mp (grown ▸ member) with new | old
    · exact each event new
    · rw [clear.succeeded event old request] at failed
      cases failed
  rw [recent]
  rcases List.mem_append.mp (grown ▸ member') with new | old
  · exact (each other new).le
  · exact (clear.earlier other old).le

/-- A run that is stopped before it sends anything raises and leaves the log as it is. -/
theorem executeRun_halts (world : World) (controller : Controller) {run : RunCommand}
    (present : ∀ connection ∈ controller.getUniqueConnections, connection.control = true)
    (halts : run.Refused controller ∨ ∃ raised, run.startMessage = .error raised) (state : State) :
    ∃ raised final, Session.executeCommand world controller (.run run) state =
      .error raised final ∧ final.log = state.log := by
  -- A refused run raises at once.
  by_cases refused : run.Refused controller
  · obtain ⟨raised, stopped⟩ := executeRun_refused world refused state
    exact ⟨raised, _, Raising.bind_of_error stopped, rfl⟩
  · -- The callbacks are registered, and taken off again when the message cannot be built.
    obtain ⟨raised, unbuilt⟩ := halts.resolve_left refused
    obtain ⟨master, ended⟩ := executeRun_accepted world refused state
    obtain ⟨callbacks, registered⟩ := register_all (involved_present controller present)
      { state with begun := state.begun + 1 }
    obtain ⟨left, unregistered, _⟩ := unregister_all (controller.involvedConnections run)
      { state with begun := state.begun + 1, callbacks := callbacks }
    have stopped : Session.superviseRun world controller run state.begun master
        { state with begun := state.begun + 1, callbacks := callbacks } =
          .error raised { state with begun := state.begun + 1, callbacks := callbacks } := by
      unfold Session.superviseRun
      rw [unbuilt]
      rfl
    refine ⟨raised, { state with begun := state.begun + 1, callbacks := left },
      Raising.bind_of_error ?_, rfl⟩
    rw [ended, Raising.bind_of_ok registered]
    simp only [Raising.ensure, stopped, unregistered]

/-- A pipeline that halts before anything is sent hides nothing more. -/
theorem Halts.not_hides (world : World) {controller : Controller} {pipeline : List SessionCommand}
    (halts : Halts controller pipeline) (state : State)
    (present : ∀ connection ∈ controller.getUniqueConnections, connection.control = true) :
    (∃ raised final, Session.runPipeline world controller pipeline state = .error raised final ∧
      final.log = state.log) ∧ ¬Hides world controller pipeline state := by
  -- Commands that are skipped come first, and the run behind them raises.
  induction pipeline generalizing state with
  | nil => exact halts.elim
  | cons command later ih =>
    cases command with
    | unknown =>
      obtain ⟨raises, shows⟩ := ih halts { state with command := state.command + 1 }
      refine ⟨raises, ?_⟩
      rintro (⟨⟨reset, same⟩, _⟩ | ⟨next, returned, hides⟩)
      · cases same
      · obtain ⟨_, rfl⟩ := Raising.pure_eq_ok.mp returned
        exact shows hides
    | run run =>
      have stopped : ∃ raised final, Session.executeCommand world controller (.run run) state =
          .error raised final ∧ final.log = state.log :=
        executeRun_halts world controller present halts state
      obtain ⟨raised, final, stopped, same⟩ := stopped
      refine ⟨⟨raised, final, runPipeline_of_error world controller stopped, same⟩, ?_⟩
      rintro (⟨⟨reset, same⟩, _⟩ | ⟨next, returned, _⟩)
      · cases same
      · rw [stopped] at returned
        cases returned
    | reset reset => exact halts.elim
    | setConfig module => exact halts.elim
    | calibrate calibrate => exact halts.elim
    | firmware firmware => exact halts.elim

/-- Behind a refused reset, only a pipeline that halts at once hides nothing. -/
theorem passedOver_faithful_iff {world : World} {controller : Controller} {command : SessionCommand}
    {later : List SessionCommand} {state middle : State} (clear : Clear state)
    (reset : ∃ reset, command = .reset reset) (passed : PassedOver world controller state)
    (executed : Session.executeCommand world controller command state = .ok () middle) :
    Faithful (Session.runPipeline world controller later
        { middle with command := middle.command + 1 }) ↔
      ¬Hides world controller (command :: later) state := by
  obtain ⟨reset, rfl⟩ := reset
  obtain ⟨present, _, ⟨same, added, grown, each⟩, _, failed⟩ := resets_returned world reset executed
  obtain ⟨event, member, request, failure, recent⟩ := failed passed.2.2
  by_cases halts : Halts controller later
  · obtain ⟨⟨raised, final, stopped, silent⟩, shows⟩ := halts.not_hides world
      { middle with command := middle.command + 1 } present
    constructor
    · rintro _ (⟨_, _, proceeds⟩ | ⟨next, returned, hides⟩)
      · exact proceeds halts
      · rw [executed] at returned
        cases returned
        exact shows hides
    · intro _
      rw [stopped]
      -- The log is the one the reset has left.
      exact clear.raised ⟨added, by rw [← grown]; exact silent, each⟩
  · refine ⟨fun faithful => absurd faithful ?_, fun shows => absurd (.inl ⟨⟨reset, rfl⟩, passed, halts⟩) shows⟩
    have some_ : controller.getUniqueConnections ≠ [] := by
      intro none_
      exact passed.2.2 (by rw [none_]; exact fun i bound => absurd bound (by simp))
    intro faithful
    rcases runPipeline_proceeds world controller present some_ halts
      { middle with command := middle.command + 1 } with ⟨final, returned⟩ | ⟨number, after, sent⟩
    · -- The pipeline returns, and the failed request is in its log.
      obtain ⟨more, kept⟩ := runPipeline_growing world controller later
        { middle with command := middle.command + 1 }
      rw [returned] at kept
      have success := faithful.1 () final returned event
        (by rw [show final.log = _ from kept]; exact List.mem_append_right more member) request
      rw [failure] at success
      cases success
    · obtain ⟨more, kept⟩ := runPipeline_growing world controller later
        { middle with command := middle.command + 1 }
      obtain ⟨other, member', request', command'⟩ := sent
      have bound := faithful.2 event (by rw [kept]; exact List.mem_append_right more member) request
        failure other member' request'
      rw [command', recent] at bound
      rw [same] at after
      exact absurd (Nat.lt_of_succ_le after) (Nat.not_lt.mpr bound)

/-- From a clear state, a pipeline hides nothing just if it passes over no refused reset. -/
theorem runPipeline_faithful_iff (world : World) (controller : Controller)
    (pipeline : List SessionCommand) (state : State) (clear : Clear state) :
    Faithful (Session.runPipeline world controller pipeline state) ↔
      ¬Hides world controller pipeline state := by
  -- The induction is on the commands still to be executed, each from a clear state.
  induction pipeline generalizing state with
  | nil =>
    refine ⟨fun _ hides => hides, fun _ => ⟨?_, ?_⟩⟩
    · rintro _ final ⟨rfl, rfl⟩
      exact clear.succeeded
    · intro event member request failed
      rw [clear.succeeded event member request] at failed
      cases failed
  | cons command later ih =>
    have tagging := executeCommand_tagging world controller command
    cases executed : Session.executeCommand world controller command state with
    | error raised middle =>
      -- A command that raises is no reset that passes over a refusal.
      rw [runPipeline_of_error world controller executed]
      refine ⟨fun _ => ?_, fun _ => clear.raised (tagging.error executed).2⟩
      rintro (⟨⟨reset, rfl⟩, ⟨present, passable, _⟩, _⟩ | ⟨next, returned, _⟩)
      · obtain ⟨final, returned⟩ := resets_return world reset present state passable
        rw [show Session.executeCommand world controller (.reset reset) state = _ from returned]
          at executed
        cases executed
      · rw [executed] at returned
        cases returned
    | ok _ middle =>
      rw [runPipeline_of_ok world controller executed]
      by_cases passed : (∃ reset, command = .reset reset) ∧ PassedOver world controller state
      · exact passedOver_faithful_iff clear passed.1 passed.2 executed
      · -- All requests of the command succeeded.
        have fine : Fine state middle := by
          by_cases reset : ∃ reset, command = .reset reset
          · obtain ⟨reset, rfl⟩ := reset
            obtain ⟨present, passable, _, fine, _⟩ := resets_returned world reset executed
            exact fine (by
              by_contra refused
              exact passed ⟨⟨reset, rfl⟩, present, passable, refused⟩)
          · exact (executeCommand_checked world controller fun other same =>
              reset ⟨other, same⟩).ok executed
        rw [ih _ (clear.fine fine)]
        refine not_congr ⟨fun hides => .inr ⟨middle, executed, hides⟩, ?_⟩
        rintro (⟨reset, passedOver, _⟩ | ⟨next, returned, hides⟩)
        · exact absurd ⟨reset, passedOver⟩ passed
        · rw [executed] at returned
          cases returned
          exact hides

/--
A session hides no failure, just if it was executed before or its pipeline passes over no refused
reset.
-/
theorem execute_faithful_iff (world : World) (controller : Controller) (executed : Bool)
    (pipeline : List SessionCommand) :
    Faithful (Session.execute world controller executed pipeline .fresh) ↔
      executed = true ∨ ¬Hides world controller pipeline .fresh := by
  have clear : Clear .fresh := ⟨by simp [State.fresh], by simp [State.fresh]⟩
  cases executed with
  | true =>
    refine ⟨fun _ => .inl rfl, fun _ => ?_⟩
    exact clear.raised (Adds.refl State.fresh)
  | false =>
    rw [← runPipeline_faithful_iff world controller pipeline .fresh clear]
    simp only [Bool.false_eq_true, false_or]
    -- Handing on the runs changes neither the log nor how the session ends.
    show Faithful ((Session.runPipeline world controller pipeline >>= fun _ =>
      (get >>= fun state => pure state.runs : Code (List Nat))) .fresh) ↔ _
    cases ended : Session.runPipeline world controller pipeline .fresh with
    | ok _ final =>
      rw [Raising.bind_of_ok ended]
      constructor
      · exact fun faithful => ⟨fun _ _ returned => by cases returned; exact faithful.1 _ _ rfl,
          faithful.2⟩
      · exact fun faithful => ⟨fun _ _ returned => by cases returned; exact faithful.1 _ _ rfl,
          faithful.2⟩
    | error raised final =>
      rw [Raising.bind_of_error ended]
      constructor
      · exact fun faithful => ⟨fun _ _ returned => (by cases returned), faithful.2⟩
      · exact fun faithful => ⟨fun _ _ returned => (by cases returned), faithful.2⟩

/-- A device refuses its reset, and is configured all the same by a session that returns. -/
theorem execute_hides_refused_reset :
    ¬Faithful (Session.execute
      (fun n => if n = 0 then .error ⟨.runtimeError, "reset failed"⟩ else .ok .confirmed)
      .single false [.reset ⟨true, true, false, false⟩, .setConfig []] .fresh) := by
  intro faithful
  -- The session returns although the reset is in the log as failed.
  have success := faithful.1 [] _ rfl
    ⟨0, .request ⟨0, true, true, "192.168.150.1:5732"⟩ (.reset ⟨true, true, false, false⟩),
      .error ⟨.runtimeError, "reset failed"⟩⟩ (.tail _ (.head _)) rfl
  cases success

end Pybrid.Client
