import Pybrid.Client.Control
import Pybrid.Library.Trace

/-! The firmware upload in stages, which commits only what every device has verified. -/

namespace Pybrid.Client

namespace Session

variable (world : World) (command : FirmwareUpdateCommand)

/-- Upload the image to one device. -/
def uploadDevice (connection : Connection) : Code Unit := do
  let maxChunkSize ←
    AsyncControlChannel.updateBegin world connection command.binary.length command.sha256
  AsyncControlChannel.updateWriteFull world connection command.binary.length maxChunkSize
    command.binary >>= Result.raiseOnError

/-- Verify the image on one device. -/
def verifyDevice (connection : Connection) : Code Unit :=
  AsyncControlChannel.updateVerify world connection >>= Result.raiseOnError

/-- Commit the image on one device. -/
def commitDevice (connection : Connection) : Code Unit :=
  AsyncControlChannel.updateCommit world connection >>= Result.raiseOnError

/-- Upload to every device, then verify on every device. -/
def preparePhases (connections : List Connection) : Code Unit := do
  connections.forM (uploadDevice world command)
  connections.forM (verifyDevice world)

/-- The three phases, each of them on every device before the next one. -/
def uploadPhases (connections : List Connection) : Code Unit := do
  preparePhases world command connections
  connections.forM (commitDevice world)

/-- Abort the update on one device, whatever the abort itself reports. -/
def abortDevice (connection : Connection) : Code Unit :=
  Raising.recover
    (do
      let _ ← AsyncControlChannel.updateAbort world connection
      return ())
    fun raised => if raised.isException then pure () else throw raised

/-- Bring one device back after its reboot, if its channel was lost. -/
def reconnectDevice (connection : Connection) : Code Unit := do
  let answer ← observe world (.isConnected connection)
  -- A device that is still connected is left alone.
  if answer.accepted then return ()
  let reconnected ← AsyncControlChannel.reconnect world connection command.reconnectTimeout
  if !reconnected then
    throw ⟨.runtimeError, "Failed to reconnect to backend " ++ connection.endpoint ++
      " after firmware update (timeout=" ++ toString command.reconnectTimeout ++ "ms)"⟩
  if connection.data then
    let _ ← send world connection .dataReconnect

/-- Tell every device to abort, and raise the failure again. -/
def abortPhases (connections : List Connection) (raised : Raised) : Code Unit := do
  connections.forM (abortDevice world)
  throw raised

/-- Wait once for the devices to reboot, then bring back those that were lost. -/
def restartDevices (connections : List Connection) : Code Unit := do
  let _ ← observe world .rebootGrace
  connections.forM (reconnectDevice world command)

/-- Execute the firmware upload in stages. -/
def executeUpload (controller : Controller) : Code Unit := do
  let uniqueConns := controller.getUniqueConnections
  Raising.recover (uploadPhases world command uniqueConns) (abortPhases world uniqueConns)
  restartDevices world command uniqueConns

end Session

/-- The stages of an update. -/
inductive Stage where
  | beginning | write | verify | commit | abort
  deriving DecidableEq, Repr

/-- The stage a request belongs to. -/
def Request.stage : Request → Option Stage
  | .updateBegin .. => some .beginning
  | .updateWriteFull .. => some .write
  | .updateVerify => some .verify
  | .updateCommit => some .commit
  | .updateAbort => some .abort
  | _ => none

/-- The device and the stage an event belongs to. -/
def Event.stage (event : Event) : Option (Connection × Stage) :=
  match event.point with
  | .request connection request => request.stage.map fun stage => (connection, stage)
  | _ => none

/-- The stages that come before a commit. -/
def Stage.preparing : List Stage := [.beginning, .write, .verify]

/-- The exception a failed stage raises in the session. -/
def Event.failure (event : Event) : Option Raised :=
  match event.outcome, event.stage with
  | .ok _, _ => none
  -- Beginning an update hands its exception on as it is, the later stages check a result.
  | .error raised, some (_, .beginning) => some raised
  | .error raised, _ => some raised.surfaced

/-- A commit is sent only behind the successful preparation of all devices. -/
def CommitReady (connections : List Connection) (earlier : List Event) (event : Event) : Prop :=
  ∀ connection, event.stage = some (connection, .commit) →
    ∀ other ∈ connections, ∀ stage ∈ Stage.preparing,
      ∃ prepared ∈ earlier, prepared.stage = some (other, stage) ∧ prepared.succeeded = true

/-- The event is a success at one of these stages. -/
def Event.SucceededAt (stages : List Stage) (event : Event) : Prop :=
  event.succeeded = true ∧ ∃ connection, ∃ stage ∈ stages, event.stage = some (connection, stage)

/-- Only successful events of these stages were added. -/
def Passes (stages : List Stage) : State → State → Prop := Adds (Event.SucceededAt stages)

/-- Successful events of these stages were added, and then the one that was raised. -/
def Stops (stages : List Stage) (start : State) (raised : Raised) (final : State) : Prop :=
  ∃ middle event, Passes stages start middle ∧ final.log = event :: middle.log ∧
    event.succeeded = false ∧ event.failure = some raised ∧
    ∃ connection, ∃ stage ∈ stages, event.stage = some (connection, stage)

/-- This stage succeeded on this device. -/
def Did (connection : Connection) (stage : Stage) (start final : State) : Prop :=
  ∃ added, final.log = added ++ start.log ∧
    ∃ event ∈ added, event.stage = some (connection, stage) ∧ event.succeeded = true

/-- What a device did stays done. -/
theorem Did.after {connection : Connection} {stage : Stage} {stages : List Stage}
    {start middle final : State} (did : Did connection stage start middle)
    (passes : Passes stages middle final) : Did connection stage start final := by
  obtain ⟨added, grown, event, member, done⟩ := did
  obtain ⟨later, grown', _⟩ := passes
  exact ⟨later ++ added, by rw [grown', grown, List.append_assoc], event,
    List.mem_append_right later member, done⟩

/-- What a device did later was done. -/
theorem Did.before {connection : Connection} {stage : Stage} {start middle final : State}
    (grew : ∃ added, middle.log = added ++ start.log) (did : Did connection stage middle final) :
    Did connection stage start final := by
  obtain ⟨added, grown⟩ := grew
  obtain ⟨later, grown', event, member, done⟩ := did
  exact ⟨later ++ added, by rw [grown', grown, List.append_assoc], event,
    List.mem_append_left added member, done⟩

/-- Two passing parts in a row pass, and what stops behind a passing part stops. -/
theorem passes_sequential (stages : List Stage) :
    Raising.Sequential (Passes stages) (Stops stages) where
  refl := Adds.refl
  trans := Adds.trans
  follow := by
    intro start middle raised final first stopped
    obtain ⟨between, event, second, rest⟩ := stopped
    exact ⟨between, event, Adds.trans first second, rest⟩

/-- Stopping at some stages is stopping at more of them. -/
theorem Stops.mono {fewer more : List Stage} (subset : fewer ⊆ more) {start final : State}
    {raised : Raised} (stops : Stops fewer start raised final) : Stops more start raised final := by
  obtain ⟨middle, event, passes, grown, failed, failure, connection, stage, listed, staged⟩ := stops
  refine ⟨middle, event, passes.mono ?_, grown, failed, failure, connection, stage,
    subset listed, staged⟩
  exact fun _ succeeded => ⟨succeeded.1, succeeded.2.imp fun _ at_ => at_.imp fun _ found =>
    ⟨subset found.1, found.2⟩⟩

/-- One successful stage more. -/
theorem passes_record {state : State} {connection : Connection} {request : Request}
    {stage : Stage} {stages : List Stage} {answer : Answer} (staged : request.stage = some stage)
    (listed : stage ∈ stages) :
    Passes stages state (state.record (.request connection request) (.ok answer)) := by
  -- No request of an update answers with a truth value.
  refine .record ⟨?_, connection, stage, listed, by simp [Event.stage, staged]⟩
  cases request <;> simp_all [Request.stage, Event.succeeded]

/-- One failed stage stops. -/
theorem stops_record {state : State} {connection : Connection} {request : Request}
    {stage : Stage} {stages : List Stage} {raised surfaced : Raised}
    (staged : request.stage = some stage) (listed : stage ∈ stages)
    (surfaces : surfaced = if stage = .beginning then raised else raised.surfaced) :
    Stops stages state surfaced (state.record (.request connection request) (.error raised)) := by
  -- Nothing was added before the failing request.
  refine ⟨state, ⟨state.command, .request connection request, .error raised⟩,
    (passes_sequential stages).refl state, rfl, ?_, ?_, connection, stage, listed, ?_⟩
  · cases request <;> simp_all [Request.stage, Event.succeeded]
  · subst surfaces
    cases request <;> simp_all [Request.stage, Event.failure, Event.stage]
    all_goals subst staged; simp
  · simp [Event.stage, staged]

section Devices

variable (world : World) (command : FirmwareUpdateCommand) (connection : Connection)

/-- A checked stage passes or stops. -/
theorem checkedStage_ends {request : Request} {stage : Stage} {stages : List Stage}
    (staged : request.stage = some stage) (listed : stage ∈ stages) (later : stage ≠ .beginning) :
    Raising.Ends (Passes stages) (Stops stages)
      (AsyncControlChannel.simpleRequest world connection request >>= Result.raiseOnError) := by
  intro start
  rw [checked_eq]
  -- An answer passes the stage, an error stops it.
  cases reply world connection start with
  | ok answer => exact passes_record staged listed
  | error raised => exact stops_record staged listed (by rw [if_neg later])

/-- A checked stage that returns did succeed on its device. -/
theorem checkedStage_did {request : Request} {stage : Stage} {start final : State}
    (staged : request.stage = some stage)
    (returned : (AsyncControlChannel.simpleRequest world connection request >>=
      Result.raiseOnError) start = .ok () final) : Did connection stage start final := by
  rw [checked_eq] at returned
  cases replied : reply world connection start with
  | error raised => rw [replied] at returned; cases returned
  | ok answer =>
    rw [replied] at returned
    cases returned
    refine ⟨[⟨start.command, .request connection request, .ok answer⟩], rfl, _,
      List.mem_singleton_self _, by simp [Event.stage, staged], ?_⟩
    -- Which answers count as a success depends on the request.
    cases request <;> simp_all [Request.stage, Event.succeeded]

/-- Beginning an update passes or stops. -/
theorem updateBegin_ends (newSize : Nat) (newSha256 : String) :
    Raising.Ends (Passes Stage.preparing) (Stops Stage.preparing)
      (AsyncControlChannel.updateBegin world connection newSize newSha256) := by
  refine (passes_sequential _).bind ?_ fun answer => (passes_sequential _).pure _
  have staged : (Request.updateBegin newSize newSha256).stage = some .beginning := rfl
  intro start
  unfold send
  -- The first stage is not checked by a result, its answer is the size.
  cases reply world connection start with
  | ok answer => exact passes_record staged (by decide)
  | error raised => exact stops_record staged (by decide) rfl

/-- Uploading to a device passes or stops. -/
theorem uploadDevice_ends : Raising.Ends (Passes Stage.preparing) (Stops Stage.preparing)
    (Session.uploadDevice world command connection) := by
  -- The image is written once the device has told the size of its chunks.
  refine (passes_sequential _).bind (updateBegin_ends world connection _ _) fun chunkSize => ?_
  exact checkedStage_ends world connection rfl (by decide) (by decide)

/-- An upload that returns did begin and write on its device. -/
theorem uploadDevice_did {start final : State}
    (returned : Session.uploadDevice world command connection start = .ok () final) :
    Did connection .beginning start final ∧ Did connection .write start final := by
  -- The two requests follow each other, and both of them succeeded.
  obtain ⟨chunkSize, middle, began, wrote⟩ := Raising.bind_eq_ok.mp returned
  obtain ⟨answer, sent, asked, same⟩ := Raising.bind_eq_ok.mp began
  obtain ⟨_, rfl⟩ := Raising.pure_eq_ok.mp same
  have grew := (checkedStage_ends world connection rfl (List.mem_singleton_self Stage.write)
    (by decide)).ok wrote
  have written := checkedStage_did world connection rfl wrote
  unfold send at asked
  cases replied : reply world connection start with
  | error raised => rw [replied] at asked; cases asked
  | ok answer =>
    rw [replied] at asked
    cases asked
    refine ⟨Did.after ?_ grew, Did.before ?_ written⟩
    · exact ⟨[⟨start.command, _, .ok answer⟩], rfl, _, List.mem_singleton_self _, rfl, rfl⟩
    · exact ⟨[⟨start.command, _, .ok answer⟩], rfl⟩

end Devices

section Phases

variable (world : World) (command : FirmwareUpdateCommand) (connections : List Connection)

/-- Every device has begun, written and verified. -/
def Prepared (start final : State) : Prop :=
  Passes Stage.preparing start final ∧
    ∀ connection ∈ connections, ∀ stage ∈ Stage.preparing, Did connection stage start final

/-- The loop over all devices does at each of them what it does at one. -/
theorem phase_did (stages : List Stage) {body : Connection → Code Unit}
    (ends : ∀ connection, Raising.Ends (Passes Stage.preparing) (Stops Stage.preparing)
      (body connection))
    (did : ∀ connection start final, body connection start = .ok () final →
      ∀ stage ∈ stages, Did connection stage start final) {start final : State}
    (returned : connections.forM body start = .ok () final) :
    Passes Stage.preparing start final ∧
      ∀ connection ∈ connections, ∀ stage ∈ stages, Did connection stage start final := by
  refine Raising.forM_each (Passes Stage.preparing)
    (fun connection start final => ∀ stage ∈ stages, Did connection stage start final)
    (fun connection _ start final stepped => ?_) ?_ ?_ Adds.refl (fun _ _ _ => Adds.trans)
    start final returned
  · exact ⟨(ends connection).ok stepped, did connection start final stepped⟩
  -- What was done before stays done, and what is done later was done.
  · exact fun _ _ _ _ done passes stage listed => (done stage listed).after passes
  · exact fun _ _ _ _ passes done stage listed =>
      (done stage listed).before (passes.imp fun _ added => added.1)

/-- The first two phases prepare every device, or stop before any commit. -/
theorem preparing_ends (start : State) :
    match Session.preparePhases world command connections start with
    | .ok _ final => Prepared connections start final
    | .error raised final => Stops Stage.preparing start raised final := by
  unfold Session.preparePhases
  have uploadEnds := (passes_sequential Stage.preparing).forM fun connection (_ : connection ∈ connections) =>
    uploadDevice_ends world command connection
  have verifyOne : ∀ connection, Raising.Ends (Passes Stage.preparing) (Stops Stage.preparing)
      (Session.verifyDevice world connection) :=
    fun connection => checkedStage_ends world connection rfl (by decide) (by decide)
  have verifyEnds := (passes_sequential Stage.preparing).forM fun connection (_ : connection ∈ connections) =>
    verifyOne connection
  cases uploaded : connections.forM (Session.uploadDevice world command) start with
  | error raised final =>
    rw [Raising.bind_of_error uploaded]
    exact uploadEnds.error uploaded
  | ok _ middle =>
    rw [Raising.bind_of_ok uploaded]
    have first := phase_did connections [.beginning, .write]
      (uploadDevice_ends world command)
      (fun connection start final returned stage listed => by
        obtain ⟨began, wrote⟩ := uploadDevice_did world command connection returned
        simp only [List.mem_cons, List.not_mem_nil, or_false] at listed
        rcases listed with rfl | rfl
        exacts [began, wrote])
      uploaded
    cases verified : connections.forM (Session.verifyDevice world) middle with
    | error raised final =>
      exact (passes_sequential _).follow first.1 (verifyEnds.error verified)
    | ok _ final =>
      have second := phase_did connections [.verify] verifyOne
        (fun connection start final returned stage listed => by
          obtain rfl := List.mem_singleton.mp listed
          exact checkedStage_did world connection rfl returned)
        verified
      refine ⟨Adds.trans first.1 second.1, fun connection member stage listed => ?_⟩
      -- The upload did the first two stages and the verification the third.
      simp only [Stage.preparing, List.mem_cons, List.not_mem_nil, or_false] at listed
      rcases listed with rfl | rfl | rfl
      · exact (first.2 connection member _ (by simp)).after second.1
      · exact (first.2 connection member _ (by simp)).after second.1
      · exact (second.2 connection member _ (by simp)).before (first.1.imp fun _ added => added.1)

end Phases

section Aborts

variable (world : World) (connections : List Connection)

/-- An abort is recorded, and only what is no `Exception` gets out of it. -/
theorem abortDevice_eq (connection : Connection) (state : State) :
    Session.abortDevice world connection state =
      match reply world connection state with
      | .ok answer => .ok () (state.record (.request connection .updateAbort) (.ok answer))
      | .error raised =>
        if raised.isException then
          .ok () (state.record (.request connection .updateAbort) (.error raised))
        else .error raised (state.record (.request connection .updateAbort) (.error raised)) := by
  have sent := simpleRequest_eq world connection .updateAbort state
  unfold Session.abortDevice AsyncControlChannel.updateAbort
  cases replied : reply world connection state with
  | ok answer =>
    rw [replied] at sent
    exact Raising.recover_of_ok (Raising.bind_of_ok sent)
  | error raised =>
    simp only [replied] at sent
    by_cases runtime : raised.isRuntimeError = true
    · -- A runtime error has become a failure result, which nobody looks at.
      have exception : raised.isException = true := by
        simp only [Raised.isRuntimeError, Raised.isException, decide_eq_true_eq] at runtime ⊢
        rcases runtime with kind | kind <;> simp [kind]
      rw [if_pos runtime] at sent
      simp only [if_pos exception]
      exact Raising.recover_of_ok (Raising.bind_of_ok sent)
    · rw [if_neg runtime] at sent
      refine (Raising.recover_of_error (Raising.bind_of_error sent)).trans ?_
      by_cases exception : raised.isException = true
      · simp only [if_pos exception]
        rfl
      · simp only [if_neg exception]
        rfl

/-- The event is an abort. -/
def Event.IsAbort (event : Event) : Prop := ∃ connection, event.stage = some (connection, .abort)

/-- Every device was told to abort, or an abort was cut short by more than an `Exception`. -/
def AbortsEnd (connections : List Connection) (start : State) :
    EStateM.Result Raised State Unit → Prop
  | .ok _ final => Adds Event.IsAbort start final ∧ ∀ connection ∈ connections,
      ∃ added, final.log = added ++ start.log ∧
        ∃ event ∈ added, event.stage = some (connection, .abort)
  | .error raised final => ∃ middle event, Adds Event.IsAbort start middle ∧
      final.log = event :: middle.log ∧ event.IsAbort ∧ event.outcome = .error raised ∧
      raised.isException = false

/-- One abort before the others. -/
theorem AbortsEnd.cons {connection : Connection} {later : List Connection} {start : State}
    {outcome : Except Raised Answer} {result : EStateM.Result Raised State Unit}
    (rest : AbortsEnd later (start.record (.request connection .updateAbort) outcome) result) :
    AbortsEnd (connection :: later) start result := by
  have one : Adds Event.IsAbort start (start.record (.request connection .updateAbort) outcome) :=
    .record ⟨connection, rfl⟩
  cases result with
  | error raised final =>
    obtain ⟨middle, event, adds, others⟩ := rest
    exact ⟨middle, event, one.trans adds, others⟩
  | ok _ final =>
    refine ⟨one.trans rest.1, fun other member => ?_⟩
    rcases List.mem_cons.mp member with rfl | member
    -- The first device was told before the others.
    · obtain ⟨added, grown, _⟩ := rest.1
      exact ⟨added ++ [⟨start.command, .request other .updateAbort, outcome⟩],
        by rw [grown]; simp [State.record], _,
        List.mem_append_right _ (List.mem_singleton_self _), rfl⟩
    · obtain ⟨added, grown, event, found, staged⟩ := rest.2 other member
      exact ⟨added ++ [⟨start.command, .request connection .updateAbort, outcome⟩],
        by rw [grown]; simp [State.record], event, List.mem_append_left _ found, staged⟩

/-- The aborts reach every device, unless one of them is cut short by more than an `Exception`. -/
theorem aborts_end (start : State) :
    AbortsEnd connections start (connections.forM (Session.abortDevice world) start) := by
  -- The induction is on the devices still to be told.
  induction connections generalizing start with
  | nil => exact ⟨Adds.refl start, by simp⟩
  | cons connection later ih =>
    have told := abortDevice_eq world connection start
    have unfolded : (connection :: later).forM (Session.abortDevice world) start =
      (Session.abortDevice world connection >>= fun _ =>
        later.forM (Session.abortDevice world)) start := rfl
    cases replied : reply world connection start with
    | ok answer =>
      rw [replied] at told
      rw [unfolded, Raising.bind_of_ok told]
      exact .cons (ih _)
    | error raised =>
      simp only [replied] at told
      by_cases exception : raised.isException = true
      · rw [if_pos exception] at told
        rw [unfolded, Raising.bind_of_ok told]
        exact .cons (ih _)
      · rw [if_neg exception] at told
        rw [unfolded, Raising.bind_of_error told]
        exact ⟨start, _, Adds.refl start, rfl, ⟨connection, rfl⟩, rfl, by simpa using exception⟩

end Aborts

/-- Bringing the devices back takes no part in the update. -/
theorem reconnectDevice_adds (world : World) (command : FirmwareUpdateCommand)
    (connection : Connection) :
    Raising.Ends (Adds fun event => event.stage = none)
      (fun start _ final => Adds (fun event => event.stage = none) start final)
      (Session.reconnectDevice world command connection) := by
  have sequential : Raising.Sequential (Adds fun event => event.stage = none) _ := Adds.sequential
  refine sequential.bind (observe_adds fun _ _ => rfl) fun answer => ?_
  -- None of the requests made here belongs to a stage.
  by_cases connected : answer.accepted = true
  · rw [if_pos connected]
    exact sequential.pure ()
  · rw [if_neg connected]
    refine sequential.bind (sequential.recover ?_ fun raised => ?_) fun reconnected => ?_
    · exact sequential.bind (send_adds fun _ _ => rfl) fun _ => sequential.pure _
    -- A cancelled wait counts as not reconnected, other errors go on.
    · by_cases cancelled : raised.kind = .cancelledError
      · rw [if_pos cancelled]
        exact sequential.pure _
      · rw [if_neg cancelled]
        exact .throw Adds.refl
    · cases reconnected with
      | false => exact .throw Adds.refl
      | true =>
        by_cases streaming : connection.data = true
        · simp only [if_pos streaming]
          exact sequential.bind (send_adds fun _ _ => rfl) fun _ => sequential.pure _
        · simp only [if_neg streaming]
          exact sequential.pure _

/-- The event is a failure before any commit. -/
def Event.FailedPreparing (event : Event) : Prop :=
  event.succeeded = false ∧
    ∃ connection, ∃ stage ∈ Stage.preparing, event.stage = some (connection, stage)

/-- What is asked of an upload that ends so and adds these events, newest first. -/
structure TwoPhase (connections : List Connection) (result : EStateM.Result Raised State Unit)
    (added : List Event) : Prop where
  /-- A commit is sent only behind the successful preparation of all devices. -/
  commits : Trace.Always (CommitReady connections) added
  /-- Behind a failed preparation, no device is ever sent a commit. -/
  withheld : ∀ event ∈ added, event.FailedPreparing →
    ∀ other ∈ added, ∀ connection, other.stage ≠ some (connection, .commit)
  /-- If no abort is cut short by more than an `Exception`, all are told, and it is raised again. -/
  aborted : ∀ event ∈ added, event.FailedPreparing →
    (∀ abort ∈ added, abort.IsAbort → ∀ raised, abort.outcome = .error raised →
      raised.isException = true) →
    (∀ connection ∈ connections, ∃ abort ∈ added, abort.stage = some (connection, .abort)) ∧
      ∃ raised final, event.failure = some raised ∧ result = .error raised final

/-- The stage of the event is not one before a commit. -/
def Event.Behind (event : Event) : Prop :=
  ∀ connection, ∀ stage ∈ Stage.preparing, event.stage ≠ some (connection, stage)

/-- Once all devices are prepared, what follows keeps the two phases apart. -/
theorem Prepared.twoPhase {connections : List Connection} {start middle : State}
    (prepared : Prepared connections start middle) {result : EStateM.Result Raised State Unit}
    (behind : Adds Event.Behind middle (Raising.final result)) :
    ∃ added, (Raising.final result).log = added ++ start.log ∧
      TwoPhase connections result added := by
  obtain ⟨⟨preparing, grown, succeeded⟩, did⟩ := prepared
  obtain ⟨later, grown', follows⟩ := behind
  have none_failed : ∀ event ∈ later ++ preparing, ¬event.FailedPreparing := by
    rintro event member ⟨failed, connection, stage, listed, staged⟩
    rcases List.mem_append.mp member with member | member
    · exact follows event member connection stage listed staged
    · rw [(succeeded event member).1] at failed
      cases failed
  refine ⟨later ++ preparing, by rw [grown', grown, List.append_assoc], ?_, ?_, ?_⟩
  · have early : Trace.Always (CommitReady connections) preparing := by
      -- No commit is among the preparations.
      have empty : Trace.Always (CommitReady connections) [] := trivial
      have alone : Trace.Always (CommitReady connections) (preparing ++ []) :=
        empty.append fun front event between whole connection committed => by
          obtain ⟨_, _, stage, listed, staged⟩ := succeeded event (by simp [whole])
          rw [committed] at staged
          cases staged
          simp [Stage.preparing] at listed
      rwa [List.append_nil] at alone
    refine early.append fun front event between _ connection _ other member stage listed => ?_
    obtain ⟨added, same, done, found, staged, succeeded⟩ := did other member stage listed
    rw [grown] at same
    rw [← List.append_cancel_right same] at found
    exact ⟨done, List.mem_append_right between found, staged, succeeded⟩
  · exact fun event member failed => absurd failed (none_failed event member)
  · exact fun event member failed => absurd failed (none_failed event member)

/-- An abort is no preparation. -/
theorem Event.IsAbort.behind {event : Event} (abort : event.IsAbort) : event.Behind := by
  intro connection stage listed staged
  obtain ⟨other, aborting⟩ := abort
  rw [aborting] at staged
  cases staged
  simp [Stage.preparing] at listed

/-- A commit is no preparation. -/
theorem Event.SucceededAt.behind {event : Event} (committed : event.SucceededAt [.commit]) :
    event.Behind := by
  intro connection stage listed staged
  obtain ⟨_, other, stage', committing, staged'⟩ := committed
  rw [List.mem_singleton.mp committing, staged] at staged'
  cases staged'
  simp [Stage.preparing] at listed

/-- The aborts add aborts only, however they end. -/
theorem AbortsEnd.adds {connections : List Connection} {start : State}
    {result : EStateM.Result Raised State Unit} (ended : AbortsEnd connections start result) :
    Adds Event.IsAbort start (Raising.final result) := by
  cases result with
  | ok _ final => exact ended.1
  | error raised final =>
    obtain ⟨middle, event, adds, grown, abort, _⟩ := ended
    exact adds.trans ⟨[event], by rw [Raising.final, grown]; rfl, by simpa using abort⟩

/-- How an upload ends whose failure is raised again behind the aborts. -/
def raisedAgain (raised : Raised) :
    EStateM.Result Raised State Unit → EStateM.Result Raised State Unit
  | .ok _ final => .error raised final
  | .error later final => .error later final

/-- A failed preparation withholds every commit, tells every device and is raised again. -/
theorem Stops.twoPhase {connections : List Connection} {start middle : State} {raised : Raised}
    (stopped : Stops Stage.preparing start raised middle)
    {result aborts : EStateM.Result Raised State Unit}
    (raises : result = raisedAgain raised aborts) (ended : AbortsEnd connections middle aborts) :
    ∃ added, (Raising.final result).log = added ++ start.log ∧
      TwoPhase connections result added := by
  obtain ⟨before, event, ⟨passed, grown, succeeded⟩, failing, failed, failure, at_⟩ := stopped
  obtain ⟨later, grown', aborting⟩ := ended.adds
  have same : Raising.final result = Raising.final aborts := by
    rw [raises]
    cases aborts <;> rfl
  have whole : (Raising.final result).log = (later ++ event :: passed) ++ start.log := by
    rw [same, grown', failing, grown, List.append_assoc]
    rfl
  have no_commit : ∀ other ∈ later ++ event :: passed, ∀ connection,
      other.stage ≠ some (connection, .commit) := by
    -- Only aborts come behind the preparations.
    intro other member connection committed
    have staged : other.IsAbort ∨ ∃ device, ∃ stage ∈ Stage.preparing,
        other.stage = some (device, stage) := by
      rcases List.mem_append.mp member with member | member
      · exact .inl (aborting other member)
      · rcases List.mem_cons.mp member with rfl | member
        · exact .inr at_
        · exact .inr (succeeded other member).2
    rcases staged with ⟨device, staged⟩ | ⟨device, stage, listed, staged⟩
    · rw [staged] at committed
      cases committed
    · rw [staged] at committed
      cases committed
      simp [Stage.preparing] at listed
  refine ⟨later ++ event :: passed, whole, ?_, fun _ _ _ => no_commit, ?_⟩
  · have empty : Trace.Always (CommitReady connections) [] := trivial
    have alone : Trace.Always (CommitReady connections) ((later ++ event :: passed) ++ []) :=
      empty.append fun front other between split connection committed =>
        absurd committed (no_commit other (by simp [split]) connection)
    rwa [List.append_nil] at alone
  · -- The failing event is the only failed preparation.
    intro other member unprepared gentle
    have only : other = event := by
      rcases List.mem_append.mp member with member | member
      · obtain ⟨_, connection, stage, listed, staged⟩ := unprepared
        exact absurd staged ((aborting other member).behind connection stage listed)
      · rcases List.mem_cons.mp member with rfl | member
        · rfl
        · have contrary := unprepared.1
          rw [(succeeded other member).1] at contrary
          cases contrary
    subst only
    cases aborts with
    | ok _ final =>
      refine ⟨fun connection member => ?_, raised, final, failure, raises⟩
      obtain ⟨added, grown'', abort, found, staged⟩ := ended.2 connection member
      rw [show final.log = later ++ middle.log from grown'] at grown''
      rw [← List.append_cancel_right grown''] at found
      exact ⟨abort, List.mem_append_left _ found, staged⟩
    | error harsh final =>
      -- An abort that got out was no `Exception`.
      obtain ⟨between, abort, ⟨told, grown'', _⟩, last, isAbort, outcome, rough⟩ := ended
      have found : later = abort :: told := by
        have lines : later ++ middle.log = (abort :: told) ++ middle.log := by
          rw [← grown', Raising.final, last, grown'']
          rfl
        exact List.append_cancel_right lines
      have kind := gentle abort (by simp [found]) isAbort harsh outcome
      rw [rough] at kind
      cases kind

/-- Raising again keeps the state behind the aborts. -/
theorem final_raisedAgain (raised : Raised) (aborts : EStateM.Result Raised State Unit) :
    Raising.final (raisedAgain raised aborts) = Raising.final aborts := by
  cases aborts <;> rfl

/-- An upload whose phases raise tells the devices and raises again. -/
theorem executeUpload_of_error {world : World} {command : FirmwareUpdateCommand}
    {controller : Controller} {start middle : State} {raised : Raised}
    (failed : Session.uploadPhases world command controller.getUniqueConnections start =
      .error raised middle) :
    Session.executeUpload world command controller start = raisedAgain raised
      (controller.getUniqueConnections.forM (Session.abortDevice world) middle) := by
  have recovered : Raising.recover _ (Session.abortPhases world controller.getUniqueConnections)
      start = Session.abortPhases world controller.getUniqueConnections raised middle :=
    Raising.recover_of_error failed
  unfold Session.executeUpload
  -- All devices are told to abort before the error is raised again.
  cases told : controller.getUniqueConnections.forM (Session.abortDevice world) middle with
  | ok _ final =>
    exact Raising.bind_of_error (recovered.trans (Raising.bind_of_ok told))
  | error later final =>
    exact Raising.bind_of_error (recovered.trans (Raising.bind_of_error told))

/-- An upload whose phases return goes on with bringing the devices back. -/
theorem executeUpload_of_ok {world : World} {command : FirmwareUpdateCommand}
    {controller : Controller} {start middle : State}
    (returned : Session.uploadPhases world command controller.getUniqueConnections start =
      .ok () middle) :
    Session.executeUpload world command controller start =
      Session.restartDevices world command controller.getUniqueConnections middle := by
  -- Nothing has to be undone.
  have recovered : Raising.recover _ (Session.abortPhases world controller.getUniqueConnections)
      start = .ok () middle := Raising.recover_of_ok returned
  exact Raising.bind_of_ok recovered

/-- The commits pass or stop. -/
theorem commits_end (world : World) (connections : List Connection) :
    Raising.Ends (Passes [.commit]) (Stops [.commit])
      (connections.forM (Session.commitDevice world)) :=
  (passes_sequential [Stage.commit]).forM fun connection _ =>
    checkedStage_ends world connection rfl (List.mem_singleton_self _) (by decide)

/-- What a failed commit leaves behind is no preparation. -/
theorem Stops.behind {start final : State} {raised : Raised}
    (stopped : Stops [.commit] start raised final) : Adds Event.Behind start final := by
  obtain ⟨middle, event, passes, grown, _, _, connection, stage, committing, staged⟩ := stopped
  -- What passed lies behind the commit, and so does what stopped it.
  refine (passes.mono fun _ succeeded => succeeded.behind).trans ⟨[event], grown, ?_⟩
  simp only [List.mem_singleton, forall_eq]
  intro other stage' listed staged'
  rw [staged, List.mem_singleton.mp committing] at staged'
  cases staged'
  simp [Stage.preparing] at listed

/-- What belongs to no stage is no preparation. -/
theorem unstaged_behind {event : Event} (unstaged : event.stage = none) : event.Behind := by
  intro connection stage _ staged
  rw [unstaged] at staged
  cases staged

/-- Waiting for the devices and bringing them back takes no part in the update. -/
theorem restart_adds (world : World) (command : FirmwareUpdateCommand)
    (connections : List Connection) :
    Raising.Ends (Adds fun event => event.stage = none)
      (fun start _ final => Adds (fun event => event.stage = none) start final)
      (Session.restartDevices world command connections) := by
  have sequential : Raising.Sequential (Adds fun event => event.stage = none) _ := Adds.sequential
  refine sequential.bind (observe_adds fun _ _ => rfl) fun _ => ?_
  exact sequential.forM fun connection _ => reconnectDevice_adds world command connection

/--
A firmware upload keeps its two phases apart, whatever becomes of each of its requests.

A commit is sent only once all devices have begun, written and verified; behind a failure before
that, no commit is sent, every device is told to abort, and the failure is raised again.
-/
theorem execute_upload_two_phase (world : World) (command : FirmwareUpdateCommand)
    (controller : Controller) (start : State) :
    ∃ added,
      (Raising.final (Session.executeUpload world command controller start)).log =
        added ++ start.log ∧
      TwoPhase controller.getUniqueConnections
        (Session.executeUpload world command controller start) added := by
  -- Either a preparation fails, or a commit fails, or all commits succeed.
  have prepares := preparing_ends world command controller.getUniqueConnections start
  cases prepared : Session.preparePhases world command controller.getUniqueConnections start with
  | error raised middle =>
    rw [prepared] at prepares
    exact prepares.twoPhase (executeUpload_of_error (Raising.bind_of_error prepared))
      (aborts_end world _ middle)
  | ok _ middle =>
    rw [prepared] at prepares
    have commits := commits_end world controller.getUniqueConnections
    refine prepares.twoPhase ?_
    cases committed : controller.getUniqueConnections.forM (Session.commitDevice world) middle with
    | error raised last =>
      rw [executeUpload_of_error ((Raising.bind_of_ok prepared).trans committed), final_raisedAgain]
      exact (commits.error committed).behind.trans
        ((aborts_end world _ last).adds.mono fun _ abort => abort.behind)
    | ok _ last =>
      rw [executeUpload_of_ok ((Raising.bind_of_ok prepared).trans committed)]
      have committing : Adds Event.Behind middle last :=
        (commits.ok committed).mono fun _ succeeded => succeeded.behind
      have rest := restart_adds world command controller.getUniqueConnections
      cases restarted : Session.restartDevices world command controller.getUniqueConnections last with
      | ok _ final =>
        exact committing.trans ((rest.ok restarted).mono fun _ => unstaged_behind)
      | error raised final =>
        exact committing.trans ((rest.error restarted).mono fun _ => unstaged_behind)

-- The second of two devices does not verify: both are told to abort, and neither is sent a commit.
example :
    let first : Connection := ⟨0, true, true, "a"⟩
    let second : Connection := ⟨1, true, true, "b"⟩
    let world : World := fun n =>
      if n = 5 then .error ⟨.runtimeError, "hash mismatch"⟩ else .ok .confirmed
    let result := Session.executeUpload world ⟨[0], "", 2000, 20000, false⟩
      ⟨[(["A"], first), (["B"], second)], [], 0⟩ .fresh
    (Raising.final result).log.reverse.map Event.stage =
      [some (first, .beginning), some (first, .write), some (second, .beginning),
        some (second, .write), some (first, .verify), some (second, .verify),
        some (first, .abort), some (second, .abort)] := by
  decide

end Pybrid.Client
