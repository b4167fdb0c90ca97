import Pybrid.Mock.Device

/-! The responses of the mock device, as what its clients have sent makes of them. -/

namespace Pybrid.Mock

open ConfigRouting (Item)

/-- The responses among what is written to a client. -/
def Connection.replies {γ : Type} (connection : Connection γ) : List (String × ReplyBody γ) :=
  connection.control.filterMap fun outgoing =>
    -- Runs and pings are no replies.
    match outgoing with
    | .reply id body => some (id, body)
    | _ => none

/-- The identifier of the request that waits for an endpoint, if it is to be responded to. -/
def Connection.pending {γ : Type} (connection : Connection γ) : List String :=
  (connection.opening.filter (· ≠ "")).toList

/-- The body a handler responds with, unless it waits. -/
def Handled.body {γ : Type} : Handled γ → Option (ReplyBody γ)
  | .returned body => some body
  | .raised text => some (.errorMessage text)
  | .waiting => none

namespace DummyDac

variable {γ : Type} (setup : DeviceSetup γ)

/-- What is stored after these events, the newest of them first. -/
def storedAfter : List (Event γ) → Option (Module γ)
  | [] => none
  | .received _ (.message ⟨_, some (.config module)⟩) :: earlier =>
    -- A configuration that is refused is not stored.
    if setup.errorStage = .atConfigure then storedAfter earlier else some module
  | .received _ (.message ⟨_, some (.reset _)⟩) :: _ => none
  | _ :: earlier => storedAfter earlier

/-- Whether the device is calibrated after these events. -/
def calibratedAfter : List (Event γ) → Bool
  | [] => false
  | .received _ (.message ⟨_, some (.calibration math gain offset)⟩) :: _ =>
    -- The last calibration decides, unless a reset has come after it.
    math = .enabled ∨ gain = .enabled ∨ offset = .enabled
  | .received _ (.message ⟨_, some (.reset keepCalibration)⟩) :: earlier =>
    if keepCalibration then calibratedAfter earlier else false
  | _ :: earlier => calibratedAfter earlier

/-- The answer to a command, unless it has to wait for an endpoint. -/
def commandAnswer (earlier : List (Event γ)) : Command γ → Option (ReplyBody γ)
  | .reset _ => some .resetResponse
  | .config _ =>
    some (if setup.errorStage = .atConfigure then
      .errorMessage (errorText setup "Configuration error") else .configResponse)
  | .extract entity specification configuration =>
    some (if setup.errorStage = .atExtract then .errorMessage (errorText setup "Extract error")
      else .extractResponse
        (extractItems setup (storedAfter setup earlier) entity specification configuration))
  -- An accepted request is answered later, when the endpoint has been opened.
  | .udpDataStreaming _ => if setup.acceptUdpStreaming then none else some .udpDataStreamingRefused
  | .startRun _ =>
    some (if setup.errorStage = .atStartRun then .errorMessage (errorText setup "Start run error")
      else .startRunResponse)
  | .getOverloadStatus => some (.overloadStatus false)
  -- The names of the kinds are looked up before anything is calibrated.
  | .calibration math gain offset =>
    some (match calibrationNames [math, gain, offset] with
      | .ok () => .calibrationResponse
      | .error text => .errorMessage text)

/-- The response to an event, with the connection it belongs to; notifications get none. -/
def answer (earlier : List (Event γ)) : Event γ → Option (Nat × String × ReplyBody γ)
  | .received connection (.message ⟨id, some command⟩) =>
    -- A request without an id is carried out and not answered.
    if id = "" then none
    else (commandAnswer setup earlier command).map fun body => (connection, id, body)
  | .opened connection id outcome =>
    if id = "" then none else some (connection, id, endpointAnswer outcome)
  | _ => none

/-- The responses to what has happened, the newest event first, for one connection. -/
def answers (connection : Nat) : List (Event γ) → List (String × ReplyBody γ)
  | [] => []
  | event :: earlier => answers connection earlier ++
      (((answer setup earlier event).filter fun response => response.1 = connection).map
        Prod.snd).toList

/-- The identifiers of the requests of a connection, in their order. -/
def requested (connection : Nat) : List (Event γ) → List String
  | [] => []
  | .received from_ (.message ⟨id, some _⟩) :: earlier =>
    -- Every request with an id is to be answered.
    requested connection earlier ++ if from_ = connection ∧ id ≠ "" then [id] else []
  | _ :: earlier => requested connection earlier

/-- What has been responded is what has been asked for, up to the request that waits. -/
structure Answered (s : DummyDac γ) : Prop where
  stored : s.storedConfig = storedAfter setup s.log
  calibrated : s.calibrated = calibratedAfter s.log
  /-- Nothing is left to be sent as long as the connection is not lost. -/
  replies : ∀ connection, ∃ unsent,
    answers setup connection s.log = (s.connections connection).replies ++ unsent ∧
      ((s.connections connection).lost = false → unsent = [])
  ids : ∀ connection, (answers setup connection s.log).map Prod.fst ++
    (s.connections connection).pending = requested connection s.log

section Frames

variable {setup}

@[simp] theorem onConnection_connections (s : DummyDac γ) (connection : Nat)
    (change : Connection γ → Connection γ) (other : Nat) :
    (s.onConnection connection change).connections other =
      if other = connection then change (s.connections connection) else s.connections other := by
  -- The change is made on one connection.
  simp only [onConnection, Function.update_apply]

@[simp] theorem onConnection_storedConfig (s : DummyDac γ) (connection : Nat)
    (change : Connection γ → Connection γ) :
    (s.onConnection connection change).storedConfig = s.storedConfig := rfl

@[simp] theorem onConnection_calibrated (s : DummyDac γ) (connection : Nat)
    (change : Connection γ → Connection γ) :
    (s.onConnection connection change).calibrated = s.calibrated := rfl

@[simp] theorem onConnection_tasks (s : DummyDac γ) (connection : Nat)
    (change : Connection γ → Connection γ) :
    (s.onConnection connection change).tasks = s.tasks := rfl

@[simp] theorem onConnection_log (s : DummyDac γ) (connection : Nat)
    (change : Connection γ → Connection γ) : (s.onConnection connection change).log = s.log := rfl

@[simp] theorem note_connections (s : DummyDac γ) (event : Event γ) :
    (s.note event).connections = s.connections := rfl

@[simp] theorem note_storedConfig (s : DummyDac γ) (event : Event γ) :
    (s.note event).storedConfig = s.storedConfig := rfl

@[simp] theorem note_calibrated (s : DummyDac γ) (event : Event γ) :
    (s.note event).calibrated = s.calibrated := rfl

@[simp] theorem note_tasks (s : DummyDac γ) (event : Event γ) :
    (s.note event).tasks = s.tasks := rfl

@[simp] theorem note_log (s : DummyDac γ) (event : Event γ) :
    (s.note event).log = event :: s.log := rfl

/-- What is the same for the responses in two connections. -/
structure SameReplies (before after : Connection γ) : Prop where
  lost : before.lost = true → after.lost = true
  replies : after.replies = before.replies
  pending : after.pending = before.pending

/-- Writing anything but a response leaves the responses alone. -/
theorem sameReplies_write (connection : Connection γ) {outgoing : Outgoing γ}
    (other : ∀ id body, outgoing ≠ .reply id body) :
    SameReplies connection (connection.write outgoing) := by
  unfold Connection.write
  -- On a lost connection nothing is written at all.
  cases lost : connection.lost with
  | true => exact ⟨fun _ => lost, rfl, rfl⟩
  | false =>
    refine ⟨fun gone => absurd gone (by simp [lost]), ?_, rfl⟩
    cases outgoing with
    | reply id body => exact absurd rfl (other id body)
    | pingResponse => simp [Connection.replies]
    | run task message => simp [Connection.replies]

/-- So does sending a run message. -/
theorem sameReplies_sendRunMessage (connection : Connection γ) (task : Nat) (message : RunMessage) :
    SameReplies connection (connection.sendRunMessage task message) := by
  unfold Connection.sendRunMessage
  -- A message of a run is no reply, whichever way it is sent.
  split
  · exact ⟨id, rfl, rfl⟩
  · exact sameReplies_write connection fun _ _ => by simp

/-- A response is written behind the others, unless it is for a notification. -/
theorem replies_reply {connection : Connection γ} (there : connection.lost = false) (id : String)
    (body : ReplyBody γ) :
    (connection.reply id body).replies =
      connection.replies ++ if id = "" then [] else [(id, body)] := by
  unfold Connection.reply Connection.write
  -- A message without an id is a notification, and gets no reply.
  by_cases notification : id = ""
  · simp [notification]
  · simp [notification, there, Connection.replies]

/-- Responding changes nothing but what is written. -/
theorem reply_frame (connection : Connection γ) (id : String) (body : ReplyBody γ) :
    (connection.reply id body).lost = connection.lost ∧
      (connection.reply id body).opening = connection.opening := by
  unfold Connection.reply Connection.write
  -- A reply is written or lost, and neither opens anything.
  split
  · exact ⟨rfl, rfl⟩
  · split <;> exact ⟨rfl, rfl⟩

/-- Responding leaves a request waiting that waits. -/
theorem pending_reply (connection : Connection γ) (id : String) (body : ReplyBody γ) :
    (connection.reply id body).pending = connection.pending := by
  rw [Connection.pending, (reply_frame connection id body).2, Connection.pending]

/-- Responding on a lost connection changes nothing. -/
theorem reply_lost {connection : Connection γ} (lost : connection.lost = true) (id : String)
    (body : ReplyBody γ) : connection.reply id body = connection := by
  unfold Connection.reply Connection.write
  simp [lost]

end Frames

section Handlers

variable {setup} {s : DummyDac γ}

/-- A handler leaves the connections alone. -/
theorem handle_frame (setup : DeviceSetup γ) (s : DummyDac γ) (connection : Nat) (id : String) (command : Command γ) :
    (handle setup s connection id command).1.connections = s.connections ∧
      (handle setup s connection id command).1.log = s.log := by
  -- The branches of a handler differ in what they store and answer, not in what they leave alone.
  cases command with
  | config _ | extract _ _ _ | udpDataStreaming _ | startRun _ =>
    dsimp only [handle]
    split <;> exact ⟨rfl, rfl⟩
  | reset _ | getOverloadStatus | calibration _ _ _ => exact ⟨rfl, rfl⟩

/-- What a handler stores. -/
theorem handle_stored (stored : s.storedConfig = storedAfter setup s.log) (connection : Nat)
    (id : String) (command : Command γ) :
    (handle setup s connection id command).1.storedConfig =
      storedAfter setup (.received connection (.message ⟨id, some command⟩) :: s.log) := by
  -- A configuration is stored unless the device has an error at that stage, and a reset drops it.
  cases command with
  | config _ =>
    dsimp only [handle, storedAfter]
    split
    · exact stored
    · rfl
  | extract _ _ _ | udpDataStreaming _ | startRun _ =>
    dsimp only [handle, storedAfter]
    split <;> exact stored
  | getOverloadStatus | calibration _ _ _ => exact stored
  | reset _ => rfl

/-- What a handler does to the calibration. -/
theorem handle_calibrated (setup : DeviceSetup γ) (calibrated : s.calibrated = calibratedAfter s.log) (connection : Nat)
    (id : String) (command : Command γ) :
    (handle setup s connection id command).1.calibrated =
      calibratedAfter (.received connection (.message ⟨id, some command⟩) :: s.log) := by
  -- Only a reset and a calibration touch the flag.
  cases command with
  | config _ | extract _ _ _ | udpDataStreaming _ | startRun _ =>
    dsimp only [handle, calibratedAfter]
    split <;> exact calibrated
  | getOverloadStatus => exact calibrated
  | reset keepCalibration => simp [handle, calibratedAfter, calibrated]
  | calibration _ _ _ => rfl

/-- What a handler responds with is the answer to its command. -/
theorem handle_answer (stored : s.storedConfig = storedAfter setup s.log) (connection : Nat)
    (id : String) (command : Command γ) :
    (handle setup s connection id command).2.body = commandAnswer setup s.log command := by
  -- Every handler answers at once, apart from an accepted request for streaming.
  cases command with
  | calibration math gain offset =>
    simp only [handle, commandAnswer]
    cases calibrationNames [math, gain, offset] with
    | ok _ => rfl
    | error text => rfl
  -- What is extracted is what the log says has been stored.
  | extract entity specification configuration =>
    simp only [handle, commandAnswer, stored]
    split <;> rfl
  | reset _ => rfl
  | getOverloadStatus => rfl
  | config _ => simp only [handle, commandAnswer]; split <;> rfl
  | udpDataStreaming _ => simp only [handle, commandAnswer]; split <;> rfl
  | startRun _ => simp only [handle, commandAnswer]; split <;> rfl

end Handlers

variable {setup} {s s' : DummyDac γ}

/-- The responses fit as before when neither they nor what they depend on has changed. -/
theorem Answered.of_same (answered : Answered setup s)
    (same : ∀ connection, SameReplies (s.connections connection) (s'.connections connection))
    (storedConfig : s'.storedConfig = s.storedConfig) (calibrated : s'.calibrated = s.calibrated)
    (stored : storedAfter setup s'.log = storedAfter setup s.log)
    (calibrations : calibratedAfter s'.log = calibratedAfter s.log)
    (answers_ : ∀ connection, answers setup connection s'.log = answers setup connection s.log)
    (requests : ∀ connection, requested connection s'.log = requested connection s.log) :
    Answered setup s' where
  stored := by rw [storedConfig, stored, answered.stored]
  calibrated := by rw [calibrated, calibrations, answered.calibrated]
  replies connection := by
    obtain ⟨unsent, split, sent⟩ := answered.replies connection
    -- What was left unsent stays unsent, and a connection that is there was there before.
    refine ⟨unsent, by rw [answers_, split, (same connection).replies], fun there => sent ?_⟩
    by_contra gone
    rw [Bool.not_eq_false] at gone
    simp [(same connection).lost gone] at there
  ids connection := by
    rw [answers_, requests, (same connection).pending, answered.ids]

/-- The responses of all connections but one are left alone. -/
theorem sameReplies_onConnection (s : DummyDac γ) (connection : Nat)
    (change : Connection γ → Connection γ)
    (same : SameReplies (s.connections connection) (change (s.connections connection)))
    (other : Nat) :
    SameReplies (s.connections other) ((s.onConnection connection change).connections other) := by
  -- The other connections are not touched.
  rw [onConnection_connections]
  split
  case isTrue here =>
    subst here
    exact same
  case isFalse => exact ⟨id, rfl, rfl⟩

/-- A response fits if it answers the event that has just happened on its connection. -/
theorem Answered.extend (answered : Answered setup s) (connection : Nat) (event : Event γ)
    (here : Connection γ) (responses : List (String × ReplyBody γ))
    (stored : s'.storedConfig = storedAfter setup (event :: s.log))
    (calibrated : s'.calibrated = calibratedAfter (event :: s.log))
    (log : s'.log = event :: s.log)
    (connections : ∀ other, s'.connections other =
      if other = connection then here else s.connections other)
    (answer_ : ∀ other, (((answer setup s.log event).filter fun response =>
      response.1 = other).map Prod.snd).toList = if other = connection then responses else [])
    (lost : here.lost = (s.connections connection).lost)
    (replies : (s.connections connection).lost = false →
      here.replies = (s.connections connection).replies ++ responses)
    (dropped : (s.connections connection).lost = true →
      here.replies = (s.connections connection).replies)
    (elsewhere : ∀ other, other ≠ connection → requested other (event :: s.log) = requested other s.log)
    (ids : (answers setup connection s.log).map Prod.fst ++ responses.map Prod.fst ++ here.pending =
      requested connection (event :: s.log)) : Answered setup s' where
  stored := by rw [log, stored]
  calibrated := by rw [log, calibrated]
  replies other := by
    obtain ⟨unsent, split, sent⟩ := answered.replies other
    rw [log, answers, answer_, connections]
    -- Only the connection on which the event happened gets the responses.
    by_cases own : other = connection
    · subst own
      rw [if_pos rfl, if_pos rfl]
      cases there : (s.connections other).lost with
      -- A lost connection has all of them unsent.
      | true =>
        refine ⟨unsent ++ responses, by rw [split, dropped there, List.append_assoc], fun back => ?_⟩
        rw [lost, there] at back
        cases back
      | false =>
        obtain rfl := sent there
        exact ⟨[], by rw [split, replies there]; simp, fun _ => rfl⟩
    · rw [if_neg own, if_neg own, List.append_nil]
      exact ⟨unsent, split, sent⟩
  ids other := by
    rw [log, answers, answer_, connections]
    by_cases own : other = connection
    · subst own
      rw [if_pos rfl, if_pos rfl, List.map_append, ids]
    · rw [if_neg own, if_neg own, List.append_nil, elsewhere other own, answered.ids]

/-- Processing a command answers it. -/
theorem Answered.command (answered : Answered setup s) {connection : Nat} {id : String}
    {command : Command γ} (there : (s.connections connection).lost = false)
    (free : (s.connections connection).opening = none) :
    Answered setup ((process setup s connection ⟨id, some command⟩).note
      (.received connection (.message ⟨id, some command⟩))) := by
  obtain ⟨connections, logged⟩ := handle_frame setup s connection id command
  have body := handle_answer answered.stored connection id command
  have stored := handle_stored answered.stored connection id command
  have calibrated := handle_calibrated setup answered.calibrated connection id command
  have processed : process setup s connection ⟨id, some command⟩ =
      (handle setup s connection id command).1.onConnection connection fun here =>
        here.conclude id (handle setup s connection id command).2 := rfl
  rw [processed]
  generalize handle setup s connection id command = handled at *
  -- The connection either gets a response or is left waiting for its endpoint.
  have answer_ : ∀ other, (((answer setup s.log
      (.received connection (.message ⟨id, some command⟩))).filter fun response =>
        response.1 = other).map Prod.snd).toList =
      if other = connection then
        (if id = "" then [] else (handled.2.body.map fun body => (id, body)).toList) else [] := by
    intro other
    rw [answer, ← body]
    by_cases notification : id = ""
    · simp [notification]
    · rw [if_neg notification, if_neg notification]
      cases handled.2.body with
      | none => simp
      | some text =>
        by_cases own : connection = other
        · simp [own]
        · simp [own, Ne.symm own]
  have waiting : (s.connections connection).pending = [] := by simp [Connection.pending, free]
  have known := answered.ids connection
  rw [waiting, List.append_nil] at known
  refine answered.extend connection _ ((s.connections connection).conclude id handled.2) _
    stored calibrated (by simp [logged]) (fun other => by simp [connections]) answer_ ?_ ?_ ?_ ?_ ?_
  · cases handled.2 with
    | returned text => exact (reply_frame _ id text).1
    | raised text => exact (reply_frame _ id (.errorMessage text)).1
    | waiting => rfl
  · intro _
    cases handled.2 with
    | returned text => exact replies_reply there id text
    | raised text => exact replies_reply there id (.errorMessage text)
    | waiting => simp [Connection.conclude, Handled.body, Connection.replies]
  · intro gone
    rw [there] at gone
    cases gone
  · intro other apart
    simp [requested, Ne.symm apart]
  · rw [known]
    simp only [requested, true_and]
    cases handled.2 with
    | returned text =>
      by_cases notification : id = "" <;>
        simp [Connection.conclude, pending_reply, waiting, notification, Handled.body]
    | raised text =>
      by_cases notification : id = "" <;>
        simp [Connection.conclude, pending_reply, waiting, notification, Handled.body]
    | waiting =>
      by_cases notification : id = "" <;>
        simp [Connection.conclude, Connection.pending, notification, Handled.body, Option.filter]

/-- The end of a wait for an endpoint answers the request that waited. -/
theorem Answered.endpoint (answered : Answered setup s) {connection : Nat} {id : String}
    (waits : (s.connections connection).opening = some id) (outcome : Except String Unit) :
    Answered setup ((s.onConnection connection fun here =>
      (here.endpoint outcome).reply id (endpointAnswer outcome)).note
        (.opened connection id outcome)) := by
  have known := answered.ids connection
  have frame := reply_frame ((s.connections connection).endpoint outcome) id (endpointAnswer outcome)
  -- The request that waited is answered now, if it had an id.
  refine answered.extend connection (.opened connection id outcome)
    (((s.connections connection).endpoint outcome).reply id (endpointAnswer outcome))
    (if id = "" then [] else [(id, endpointAnswer outcome)])
    answered.stored answered.calibrated rfl (fun other => by simp) ?_ frame.1 ?_ ?_ ?_ ?_
  · intro other
    by_cases notification : id = ""
    · simp [answer, notification]
    · by_cases own : connection = other
      · simp [answer, notification, own]
      · simp [answer, notification, own, Ne.symm own]
  · intro there
    exact replies_reply (show ((s.connections connection).endpoint outcome).lost = false from there)
      id _
  · intro gone
    rw [reply_lost (show ((s.connections connection).endpoint outcome).lost = true from gone)]
    rfl
  · intro other _
    rfl
  -- The id moves from what is pending to what is answered.
  · show _ = requested connection s.log
    rw [← known, pending_reply]
    by_cases notification : id = "" <;>
      simp [Connection.pending, waits, notification, Connection.endpoint, Option.filter]

/-- Going on with a run leaves the responses and what they depend on alone. -/
theorem goOn_frame (setup : DeviceSetup γ) (s : DummyDac γ) (connection task : Nat) (shape : RunShape)
    (ready : List RunMessage) (pieces : List RunPiece) :
    (s.goOn setup connection task shape ready pieces).storedConfig = s.storedConfig ∧
      (s.goOn setup connection task shape ready pieces).calibrated = s.calibrated ∧
      (s.goOn setup connection task shape ready pieces).log = s.log ∧
      ∀ other, SameReplies (s.connections other)
        ((s.goOn setup connection task shape ready pieces).connections other) := by
  -- A run only writes run messages, which are no replies.
  unfold goOn
  split
  · exact ⟨rfl, rfl, rfl, fun _ => ⟨id, rfl, rfl⟩⟩
  · rename_i message _ _ _
    exact ⟨rfl, rfl, rfl, sameReplies_onConnection s connection
      (fun here => here.sendRunMessage task message) (sameReplies_sendRunMessage _ task message)⟩

/-- What the steps of a device do, and when. -/
inductive Moved (setup : DeviceSetup γ) (s : DummyDac γ) : DeviceAction γ → DummyDac γ → Prop where
  | accept {connection : Nat} :
      Moved setup s (.accept connection)
        (s.onConnection connection fun here => { here with accepted := true })
  | receive {connection : Nat} {incoming : Incoming γ}
      (there : (s.connections connection).lost = false)
      (free : (s.connections connection).opening = none) :
      Moved setup s (.receive connection incoming)
        ((receive setup s connection incoming).note (.received connection incoming))
  -- The endpoint is opened by another task, which answers in the end.
  | endpoint {connection : Nat} {id : String} (outcome : Except String Unit)
      (waits : (s.connections connection).opening = some id) :
      Moved setup s (.endpoint connection outcome)
        ((s.onConnection connection fun here =>
          (here.endpoint outcome).reply id (endpointAnswer outcome)).note
            (.opened connection id outcome))
  | start {task : Nat} {known : RunTask} (found : s.tasks[task]? = some known)
      (created : known.point = .created) :
      Moved setup s (.send task)
        (s.goOn setup known.connection task (runShape setup s.storedConfig known.command) []
          (runPieces setup.errorStage setup.carrierMacs))
  | goOn {task : Nat} {known : RunTask} {shape : RunShape} {ready : List RunMessage}
      {pieces : List RunPiece} (found : s.tasks[task]? = some known)
      (running : known.point = .running shape ready pieces) :
      Moved setup s (.send task) (s.goOn setup known.connection task shape ready pieces)
  | lose {connection : Nat} :
      Moved setup s (.lose connection)
        (s.onConnection connection fun here => { here with lost := true })

/-- A device makes no other steps. -/
theorem step_moves {action : DeviceAction γ} (stepped : step setup s action = some s') :
    Moved setup s action s' := by
  -- One case for each action; what its guard has checked is kept as a hypothesis.
  cases action with
  | accept connection =>
    simp only [DummyDac.step] at stepped
    split at stepped
    · cases stepped
    · exact Option.some.inj stepped ▸ .accept
  | receive connection incoming =>
    simp only [DummyDac.step] at stepped
    split at stepped
    case isFalse => cases stepped
    case isTrue ready => exact Option.some.inj stepped ▸ .receive ready.2.1 ready.2.2
  | endpoint connection outcome =>
    simp only [DummyDac.step] at stepped
    split at stepped
    · cases stepped
    · rename_i id waits
      exact Option.some.inj stepped ▸ .endpoint outcome waits
  -- A task goes on from where it is, and one that has ended does not step.
  | send task =>
    simp only [DummyDac.step] at stepped
    split at stepped
    · cases stepped
    · rename_i known found
      split at stepped
      · rename_i created
        exact Option.some.inj stepped ▸ .start found created
      · rename_i shape ready pieces running
        exact Option.some.inj stepped ▸ .goOn found running
      · cases stepped
      · cases stepped
  | lose connection =>
    simp only [DummyDac.step] at stepped
    split at stepped
    · exact Option.some.inj stepped ▸ .lose
    · cases stepped

/-- Going on with a run keeps the responses the answers to what has come. -/
theorem Answered.goOn (answered : Answered setup s) (connection task : Nat) (shape : RunShape)
    (ready : List RunMessage) (pieces : List RunPiece) :
    Answered setup (s.goOn setup connection task shape ready pieces) := by
  -- A task that goes on sends messages of its run alone.
  obtain ⟨stored, calibrated, log, same⟩ := goOn_frame setup s connection task shape ready pieces
  exact answered.of_same same stored calibrated (by rw [log]) (by rw [log])
    (fun _ => by rw [log]) fun _ => by rw [log]

/-- Every step leaves the responses as the answers to what has come. -/
theorem Answered.step (answered : Answered setup s) {action : DeviceAction γ}
    (stepped : step setup s action = some s') : Answered setup s' := by
  -- Only a request that is received, and an endpoint that is opened, are answered.
  cases step_moves stepped with
  | @accept connection =>
    exact answered.of_same (sameReplies_onConnection s connection
      (fun here => { here with accepted := true }) ⟨id, rfl, rfl⟩) rfl rfl rfl rfl
      (fun _ => rfl) fun _ => rfl
  | @receive connection incoming there free =>
    cases incoming with
    | ping =>
      have same : SameReplies (s.connections connection)
          ((s.connections connection).write .pingResponse) :=
        sameReplies_write _ fun _ _ => by simp
      exact answered.of_same (sameReplies_onConnection s connection
        (fun here => here.write .pingResponse) same) rfl rfl rfl rfl
        (fun _ => List.append_nil _) fun _ => rfl
    | message request =>
      obtain ⟨id, command⟩ := request
      cases command with
      | none =>
        exact answered.of_same (fun _ => ⟨fun gone => gone, rfl, rfl⟩) rfl rfl rfl rfl
          (fun _ => List.append_nil _) fun _ => rfl
      | some command => exact answered.command there free
  | endpoint outcome waits => exact answered.endpoint waits outcome
  | start | goOn => exact answered.goOn _ _ _ _ _
  | @lose connection =>
    exact answered.of_same (sameReplies_onConnection s connection
      (fun here => { here with lost := true }) ⟨fun _ => rfl, rfl, rfl⟩) rfl rfl rfl rfl
      (fun _ => rfl) fun _ => rfl

/-- A device without connections has answered everything. -/
theorem initial_answered : Answered setup (initial : DummyDac γ) where
  stored := rfl
  calibrated := rfl
  -- Nothing was asked yet.
  replies _ := ⟨[], rfl, fun _ => rfl⟩
  ids _ := rfl

/-- In every reachable state the responses are the answers to what has come. -/
theorem reachable_answered (reached : Transition.Reachable (step setup) initial s) :
    Answered setup s :=
  Transition.reachable_preserves initial_answered
    (fun _ _ _ answered stepped => answered.step stepped) reached

/--
A device answers every request once, and its clients see one device.

The responses on a connection are the answers to its requests, in their order and with their
identifiers, and each is what the commands that came before on all connections make of it; only
the request that waits for an endpoint, and what a lost connection has dropped, are missing. What
is stored, and whether the device is calibrated, is what these commands have left.
-/
theorem device_answers (reached : Transition.Reachable (step setup) initial s) (connection : Nat) :
    (s.connections connection).replies <+: answers setup connection s.log ∧
      ((s.connections connection).lost = false →
        (s.connections connection).replies = answers setup connection s.log) ∧
      (answers setup connection s.log).map Prod.fst ++ (s.connections connection).pending =
        requested connection s.log ∧
      s.storedConfig = storedAfter setup s.log ∧ s.calibrated = calibratedAfter s.log := by
  have answered := reachable_answered reached
  obtain ⟨unsent, split, sent⟩ := answered.replies connection
  refine ⟨⟨unsent, split.symm⟩, fun there => ?_, answered.ids connection, answered.stored,
    answered.calibrated⟩
  -- Only a lost connection has dropped responses.
  rw [split, sent there, List.append_nil]

end DummyDac

section Example

/-- A device with one carrier, which has no samples to speak of. -/
def plainSetup : DeviceSetup Nat where
  -- A device without errors.
  errorStage := .none
  errorMessage := none
  acceptUdpStreaming := true
  carrierMacs := ["AB-CD-EF-12-34-56"]
  entitySpecification := ⟨"", .other 0⟩
  numerics := ⟨fun _ _ => 0, fun _ _ _ _ => 0, fun _ _ _ => 0⟩

/-- One client configures the device, and another one extracts while a third waits for UDP. -/
def sharedRun : List (DeviceAction Nat) :=
  [.accept 0, .accept 1, .accept 2,
    .receive 2 (.message ⟨"udp", some (.udpDataStreaming 5000)⟩),
    .receive 0 (.message ⟨"", some (.config [⟨"/A/0", .other 1⟩, ⟨"/B/0", .other 2⟩])⟩),
    .receive 1 (.message ⟨"one", some (.extract (some "B") false true)⟩),
    .receive 1 (.message ⟨"two", some (.calibration .enabled .disabled .disabled)⟩)]

/-- The second client gets the part of the configuration it has asked for, and calibrates. -/
theorem device_answers_shared :
    ∃ s, Transition.run (DummyDac.step plainSetup) DummyDac.initial sharedRun = some s ∧
      (s.connections 0).replies = [] ∧
      (s.connections 1).replies =
        [("one", .extractResponse [⟨"/B/0", .other 2⟩]), ("two", .calibrationResponse)] ∧
      (s.connections 2).pending = ["udp"] ∧ s.calibrated = true := by
  obtain ⟨s, ran⟩ : ∃ s, Transition.run (DummyDac.step plainSetup) DummyDac.initial sharedRun = some s :=
    ⟨_, rfl⟩
  -- The answers are read off the theorem for each of the connections.
  have answers := fun connection => DummyDac.device_answers ⟨sharedRun, ran⟩ connection
  cases ran
  refine ⟨_, rfl, (answers 0).2.1 rfl, (answers 1).2.1 rfl, (answers 2).2.2.1, ?_⟩
  exact (answers 0).2.2.2.2

end Example

end Pybrid.Mock
