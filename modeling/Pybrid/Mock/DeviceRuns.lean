import Pybrid.Library.Merge
import Pybrid.Mock.DeviceAnswers

/-! The runs of the mock device: what each of them sends, whatever else the device does in between. -/

namespace Pybrid.Mock

namespace Connection

variable {γ : Type}

/-- The run messages among what is written to a client, with their tasks. -/
def runs (connection : Connection γ) : List (Nat × RunMessage) :=
  connection.control.filterMap fun outgoing =>
    match outgoing with
    | .run task message => some (task, message)
    | _ => none

/-- The messages of one run: those written to the client, and those sent as datagrams. -/
def sentOf (connection : Connection γ) (task : Nat) : List RunMessage :=
  Merge.of task (connection.runs ++ connection.data)

/-- A connection has gone on without sending run messages. -/
structure Extends (before after : Connection γ) : Prop where
  runs : after.runs = before.runs
  data : after.data = before.data
  sender : after.dataTransport = false → before.dataTransport = false
  control : before.control <+: after.control

theorem Extends.refl (connection : Connection γ) : Extends connection connection :=
  ⟨rfl, rfl, fun none_ => none_, List.prefix_rfl⟩

theorem Extends.sentOf {before after : Connection γ} (extended : Extends before after) (task : Nat) :
    after.sentOf task = before.sentOf task := by
  rw [Connection.sentOf, extended.runs, extended.data, Connection.sentOf]

/-- Writing anything but a run message extends a connection. -/
theorem extends_write (connection : Connection γ) {outgoing : Outgoing γ}
    (other : ∀ task message, outgoing ≠ .run task message) :
    Extends connection (connection.write outgoing) := by
  unfold Connection.write
  -- A lost connection takes nothing up.
  split
  · exact .refl connection
  · refine ⟨?_, rfl, fun none_ => none_, List.prefix_append _ _⟩
    cases outgoing with
    | run task message => exact absurd rfl (other task message)
    | pingResponse => simp [runs]
    | reply id body => simp [runs]

/-- So does a response. -/
theorem extends_reply (connection : Connection γ) (id : String) (body : ReplyBody γ) :
    Extends connection (connection.reply id body) := by
  unfold Connection.reply
  -- A notification is not answered.
  split
  · exact .refl connection
  · exact extends_write connection fun _ _ => by simp

/-- So does the end of a handler. -/
theorem extends_conclude (connection : Connection γ) (id : String) (handled : Handled γ) :
    Extends connection (connection.conclude id handled) := by
  -- A run that has been started is answered later, by its task.
  cases handled with
  | returned body => exact extends_reply connection id body
  | raised text => exact extends_reply connection id (.errorMessage text)
  | waiting => exact ⟨rfl, rfl, fun none_ => none_, List.prefix_rfl⟩

/-- So does the end of a wait for an endpoint. -/
theorem extends_endpoint (connection : Connection γ) (outcome : Except String Unit) (id : String)
    (body : ReplyBody γ) : Extends connection ((connection.endpoint outcome).reply id body) := by
  -- The endpoint itself sends nothing, it only turns the data transport on.
  have replied := extends_reply (connection.endpoint outcome) id body
  refine ⟨replied.runs, replied.data, fun none_ => ?_, replied.control⟩
  have none_ := replied.sender none_
  simp only [endpoint, Bool.or_eq_false_iff] at none_
  exact none_.1

/-- The send would raise. -/
def Fails (connection : Connection γ) : Prop :=
  connection.lost = true ∧ connection.dataTransport = false

instance (connection : Connection γ) : Decidable connection.Fails :=
  inferInstanceAs (Decidable (_ ∧ _))

/-- What sending a run message changes. -/
theorem sendRunMessage_sentOf {connection : Connection γ}
    (udp : connection.dataTransport = false → connection.data = []) (task : Nat)
    (message : RunMessage) (other : Nat) :
    (connection.sendRunMessage task message).sentOf other = connection.sentOf other ++
      if task = other ∧ ¬connection.Fails then [message] else [] := by
  unfold Connection.sendRunMessage Connection.write
  cases sender : connection.dataTransport with
  | true =>
    by_cases own : task = other <;>
      simp [Connection.sentOf, Connection.runs, Fails, sender, own, Merge.of_cons]
  | false =>
    -- Datagrams are only sent once there is a sender, so that TCP comes first.
    have none_ := udp sender
    cases lost : connection.lost with
    | true => simp [Fails, lost, sender]
    | false =>
      by_cases own : task = other <;>
        simp [Connection.sentOf, Connection.runs, Fails, lost, none_, own, Merge.of_cons]

/-- Sending a run message adds at most this message. -/
theorem mem_sendRunMessage {connection : Connection γ} {task : Nat} {message : RunMessage}
    {entry : Nat × RunMessage} (member : entry ∈
      (connection.sendRunMessage task message).runs ++ (connection.sendRunMessage task message).data) :
    entry ∈ connection.runs ++ connection.data ∨ entry = (task, message) := by
  unfold Connection.sendRunMessage Connection.write at member
  -- With a data transport the message goes there, otherwise to the control stream.
  split at member
  · simp only [Connection.runs, List.mem_append, List.mem_singleton] at member ⊢
    tauto
  · split at member
    · exact .inl member
    · simp only [Connection.runs, List.filterMap_append, List.mem_append, List.filterMap_cons,
        List.filterMap_nil, List.mem_singleton] at member ⊢
      tauto

/-- Sending a run message extends what is written. -/
theorem sendRunMessage_frame (connection : Connection γ) (task : Nat) (message : RunMessage) :
    (connection.sendRunMessage task message).dataTransport = connection.dataTransport ∧
      connection.control <+: (connection.sendRunMessage task message).control ∧
      (connection.dataTransport = false →
        (connection.sendRunMessage task message).data = connection.data) := by
  -- Either stream only grows.
  unfold Connection.sendRunMessage Connection.write
  split
  case isTrue sender =>
    refine ⟨rfl, List.prefix_rfl, fun none_ => ?_⟩
    rw [none_] at sender
    cases sender
  case isFalse =>
    split
    · exact ⟨rfl, List.prefix_rfl, fun _ => rfl⟩
    · exact ⟨rfl, List.prefix_append _ _, fun _ => rfl⟩

end Connection

namespace DummyDac

variable {γ : Type} (setup : DeviceSetup γ)

/-- These are the messages of a whole run of this kind. -/
def Whole (shape : RunShape) (messages : List RunMessage) : Prop :=
  Schedule setup.errorStage setup.numerics shape
    (runPieces setup.errorStage setup.carrierMacs) messages

/-- The shape of a run that has begun with some module stored. -/
def Shaped (command : StartRunCommand) (shape : RunShape) : Prop :=
  ∃ storedConfig : Option (Module γ), shape = runShape setup storedConfig command

/-- How far a run has come with what it has sent. -/
def Progress (command : StartRunCommand) (sent : List RunMessage) : TaskPoint → Prop
  | .created => sent = []
  -- Whatever way the task goes on, the messages will be those of a whole run.
  | .running shape ready pieces => Shaped setup command shape ∧ ∀ later,
      Schedule setup.errorStage setup.numerics shape pieces later →
        Whole setup shape (sent ++ (ready ++ later))
  | .finished => ∃ shape, Shaped setup command shape ∧ Whole setup shape sent
  -- A task that raised has sent the beginning of a run.
  | .failed => ∃ shape rest, Shaped setup command shape ∧ Whole setup shape (sent ++ rest)

/-- Every run has sent the first messages of a run of its kind, behind the response to its start. -/
structure Runs (s : DummyDac γ) : Prop where
  progress : ∀ task known, s.tasks[task]? = some known →
    Progress setup known.command ((s.connections known.connection).sentOf task) known.point
  -- Nothing is sent that belongs to no run.
  own : ∀ connection, ∀ entry ∈ (s.connections connection).runs ++ (s.connections connection).data,
    ∃ known, s.tasks[entry.1]? = some known ∧ known.connection = connection
  udp : ∀ connection, (s.connections connection).dataTransport = false →
    (s.connections connection).data = []
  -- The answer to the request comes before the first message of the run.
  started : ∀ task known, s.tasks[task]? = some known → known.request ≠ "" →
    ∃ before after, (s.connections known.connection).control =
        before ++ .reply known.request .startRunResponse :: after ∧
      ∀ message, .run task message ∉ before

variable {setup} {s s' : DummyDac γ}

/-- Runs are left alone by what only extends the connections. -/
theorem Runs.extended (runs : Runs setup s)
    (extended : ∀ connection, (s.connections connection).Extends (s'.connections connection))
    (tasks : s'.tasks = s.tasks) : Runs setup s' where
  progress task known found := by
    rw [(extended known.connection).sentOf]
    exact runs.progress task known (tasks ▸ found)
  own connection entry member := by
    rw [(extended connection).runs, (extended connection).data] at member
    rw [tasks]
    exact runs.own connection entry member
  udp connection none_ := by
    rw [(extended connection).data]
    exact runs.udp connection ((extended connection).sender none_)
  started task known found request := by
    obtain ⟨before, after, control, unsent⟩ := runs.started task known (tasks ▸ found) request
    -- What is added to the control stream comes after the answer.
    obtain ⟨tail, same⟩ := (extended known.connection).control
    exact ⟨before, after ++ tail, by rw [← same, control]; simp, unsent⟩

/-- One connection is extended, and the others are left alone. -/
theorem extends_onConnection (s : DummyDac γ) (connection : Nat)
    (change : Connection γ → Connection γ)
    (extended : (s.connections connection).Extends (change (s.connections connection))) (other : Nat) :
    (s.connections other).Extends ((s.onConnection connection change).connections other) := by
  rw [onConnection_connections]
  -- The other connections are left alone.
  split
  case isTrue here =>
    subst here
    exact extended
  case isFalse => exact .refl _

/-- A new task has sent nothing, and its request has been responded to. -/
theorem Runs.start (runs : Runs setup s) {new_ : RunTask}
    (created : new_.point = .created) (tasks : s'.tasks = s.tasks ++ [new_])
    (extended : ∀ connection, (s.connections connection).Extends (s'.connections connection))
    (responded : new_.request ≠ "" → (s'.connections new_.connection).control =
      (s.connections new_.connection).control ++ [.reply new_.request .startRunResponse]) :
    Runs setup s' := by
  -- A task is an old one, or the one behind them.
  have found_cases : ∀ {task known}, s'.tasks[task]? = some known →
      s.tasks[task]? = some known ∨ task = s.tasks.length ∧ known = new_ := by
    intro task known found
    rw [tasks] at found
    rcases Nat.lt_or_ge task s.tasks.length with old | late
    · rw [List.getElem?_append_left old] at found
      exact .inl found
    · rw [List.getElem?_append_right late, List.getElem?_singleton] at found
      split at found
      · exact .inr ⟨by omega, (Option.some.inj found).symm⟩
      · cases found
  have fresh : ∀ connection, ∀ entry ∈ (s.connections connection).runs ++
      (s.connections connection).data, entry.1 ≠ s.tasks.length := by
    intro connection entry member same
    obtain ⟨known, found, _⟩ := runs.own connection entry member
    rw [same, List.getElem?_eq_none (le_refl _)] at found
    cases found
  refine ⟨fun task known found => ?_, fun connection entry member => ?_,
    fun connection none_ => ?_, fun task known found request => ?_⟩
  · rw [(extended known.connection).sentOf]
    rcases found_cases found with old | ⟨rfl, rfl⟩
    · exact runs.progress task known old
    · rw [created]
      show Merge.of _ _ = []
      exact Merge.of_eq_nil fun entry member => fresh _ entry member
  · rw [(extended connection).runs, (extended connection).data] at member
    obtain ⟨known, found, own⟩ := runs.own connection entry member
    have old := (List.getElem?_eq_some_iff.mp found).1
    exact ⟨known, by rw [tasks, List.getElem?_append_left old, found], own⟩
  · rw [(extended connection).data]
    exact runs.udp connection ((extended connection).sender none_)
  · rcases found_cases found with old | ⟨rfl, rfl⟩
    · obtain ⟨before, after, control, unsent⟩ := runs.started task known old request
      obtain ⟨tail, same⟩ := (extended known.connection).control
      exact ⟨before, after ++ tail, by rw [← same, control]; simp, unsent⟩
    · refine ⟨_, [], responded request, fun message member => ?_⟩
      refine fresh known.connection (_, message) (List.mem_append_left _ ?_) rfl
      exact List.mem_filterMap.mpr ⟨_, member, rfl⟩

/-- A task goes on; what it sends on its connection is its own. -/
theorem Runs.moved (runs : Runs setup s) {task : Nat} {known : RunTask} {point : TaskPoint}
    (found : s.tasks[task]? = some known)
    (tasks : s'.tasks = s.tasks.modify task fun known => { known with point })
    (elsewhere : ∀ other, other ≠ known.connection → s'.connections other = s.connections other)
    (progress : Progress setup known.command
      ((s'.connections known.connection).sentOf task) point)
    (others : ∀ other, other ≠ task → (s'.connections known.connection).sentOf other =
      (s.connections known.connection).sentOf other)
    (member : ∀ entry ∈ (s'.connections known.connection).runs ++
      (s'.connections known.connection).data,
        entry ∈ (s.connections known.connection).runs ++ (s.connections known.connection).data ∨
          entry.1 = task)
    (udp : (s'.connections known.connection).dataTransport = false →
      (s'.connections known.connection).data = [])
    (control : (s.connections known.connection).control <+:
      (s'.connections known.connection).control) : Runs setup s' := by
  -- The tasks are those from before, one of them at another point.
  have here : s'.tasks[task]? = some { known with point } := by
    rw [tasks, List.getElem?_modify_eq, found]
    rfl
  have there : ∀ other, other ≠ task → s'.tasks[other]? = s.tasks[other]? := by
    intro other apart
    rw [tasks, List.getElem?_modify_ne _ _ (Ne.symm apart)]
  have kept : ∀ {other : Nat} {old : RunTask}, s.tasks[other]? = some old →
      ∃ now, s'.tasks[other]? = some now ∧ now.connection = old.connection := by
    intro other old listed
    by_cases same : other = task
    · subst same
      obtain rfl := Option.some.inj (found.symm.trans listed)
      exact ⟨_, here, rfl⟩
    · exact ⟨old, by rw [there other same, listed], rfl⟩
  refine ⟨fun other now listed => ?_, fun connection entry inside => ?_, fun connection none_ => ?_,
    fun other now listed request => ?_⟩
  · by_cases same : other = task
    · subst same
      obtain rfl := Option.some.inj (here.symm.trans listed)
      exact progress
    · rw [there other same] at listed
      by_cases own : now.connection = known.connection
      · rw [own, others other same, ← own]
        exact runs.progress other now listed
      · rw [elsewhere _ own]
        exact runs.progress other now listed
  · by_cases own : connection = known.connection
    · subst own
      rcases member entry inside with old | rfl
      · obtain ⟨before, listed, same⟩ := runs.own known.connection entry old
        obtain ⟨now, listed', same'⟩ := kept listed
        exact ⟨now, listed', same'.trans same⟩
      · exact ⟨_, here, rfl⟩
    · rw [elsewhere connection own] at inside
      obtain ⟨before, listed, same⟩ := runs.own connection entry inside
      obtain ⟨now, listed', same'⟩ := kept listed
      exact ⟨now, listed', same'.trans same⟩
  · by_cases own : connection = known.connection
    · subst own
      exact udp none_
    · rw [elsewhere connection own] at none_ ⊢
      exact runs.udp connection none_
  · -- The response stays where it is, in front of everything that is written later.
    obtain ⟨old, before, asked, placed⟩ : ∃ old, s.tasks[other]? = some old ∧
        now.request = old.request ∧ now.connection = old.connection := by
      by_cases same : other = task
      · subst same
        obtain rfl := Option.some.inj (here.symm.trans listed)
        exact ⟨known, found, rfl, rfl⟩
      · exact ⟨now, there other same ▸ listed, rfl, rfl⟩
    rw [asked] at request ⊢
    rw [placed]
    obtain ⟨first, after, split, unsent⟩ := runs.started other old before request
    by_cases own : old.connection = known.connection
    · rw [own] at split ⊢
      obtain ⟨tail, same⟩ := control
      exact ⟨first, after ++ tail, by rw [← same, split]; simp, unsent⟩
    · rw [elsewhere _ own]
      exact ⟨first, after, split, unsent⟩

/-- A run that goes on makes progress, or is finished, or fails to send. -/
theorem Runs.goOn (runs : Runs setup s) {task : Nat} {known : RunTask}
    (found : s.tasks[task]? = some known) {shape : RunShape} {ready : List RunMessage}
    {pieces : List RunPiece} (shaped : Shaped setup known.command shape)
    (following : ∀ later, Schedule setup.errorStage setup.numerics shape pieces later →
      Whole setup shape ((s.connections known.connection).sentOf task ++ (ready ++ later))) :
    Runs setup (s.goOn setup known.connection task shape ready pieces) := by
  have udp := runs.udp known.connection
  unfold DummyDac.goOn
  split
  case h_1 none_ =>
    obtain ⟨rfl, schedule⟩ := nextMessage_none none_
    have whole := following [] schedule
    rw [List.append_nil, List.append_nil] at whole
    exact runs.moved found rfl (fun _ _ => rfl) ⟨shape, shaped, whole⟩ (fun _ _ => rfl)
      (fun _ member => .inl member) udp List.prefix_rfl
  case h_2 message rest left next =>
    obtain ⟨sender, control, data⟩ :=
      Connection.sendRunMessage_frame (s.connections known.connection) task message
    have sent := Connection.sendRunMessage_sentOf udp task message
    -- Only the connection of the run changes.
    have changed := onConnection_connections s known.connection
      fun here => here.sendRunMessage task message
    have connections : ∀ point, ((s.onConnection known.connection fun here =>
        here.sendRunMessage task message).setPoint task point).connections known.connection =
          (s.connections known.connection).sendRunMessage task message := by
      intro point
      exact (changed known.connection).trans (if_pos rfl)
    refine runs.moved found rfl (fun other apart => (changed other).trans (if_neg apart))
      ?_ ?_ ?_ ?_ ?_
    · rw [connections, sent]
      by_cases fails : (s.connections known.connection).Fails
      · -- Nothing is sent, and nothing more will be.
        have stays : (if task = task ∧ ¬(s.connections known.connection).Fails then [message]
            else []) = [] := by simp [fails]
        rw [stays, List.append_nil, if_pos (show _ ∧ _ from fails)]
        obtain ⟨messages, schedule⟩ : ∃ messages,
            Schedule setup.errorStage setup.numerics shape pieces messages :=
          ⟨_, schedule_all false pieces⟩
        exact ⟨shape, _, shaped, following messages schedule⟩
      · rw [if_pos ⟨rfl, fails⟩, if_neg (show ¬(_ ∧ _) from fails)]
        refine ⟨shaped, fun later schedule => ?_⟩
        obtain ⟨messages, before, same⟩ := nextMessage_some next schedule
        have whole := following messages before
        rwa [same, List.append_cons] at whole
    · intro other apart
      rw [connections, sent, if_neg fun both => apart both.1.symm, List.append_nil]
    · intro entry member
      rw [connections] at member
      rcases Connection.mem_sendRunMessage member with old | rfl
      · exact .inl old
      · exact .inr rfl
    · intro none_
      rw [connections] at none_ ⊢
      rw [sender] at none_
      rw [data none_, udp none_]
    · rw [connections]
      exact control

/-- A handler starts a task if its command starts a run, and else leaves the tasks alone. -/
theorem handle_tasks (setup : DeviceSetup γ) (s : DummyDac γ) (connection : Nat) (id : String) (command : Command γ) :
    (handle setup s connection id command).1.tasks = s.tasks ∨
      ∃ start, (handle setup s connection id command).1.tasks =
          s.tasks ++ [⟨connection, id, start, .created⟩] ∧
        (handle setup s connection id command).2 = .returned .startRunResponse := by
  -- Only a start that is accepted adds a task.
  cases command with
  | startRun start =>
    dsimp only [handle]
    split
    · exact .inl rfl
    · exact .inr ⟨start, rfl, rfl⟩
  | config _ | extract _ _ _ | udpDataStreaming _ =>
    dsimp only [handle]
    split <;> exact .inl rfl
  | reset _ | getOverloadStatus | calibration _ _ _ => exact .inl rfl

/-- Processing a message leaves the runs alone, or starts one. -/
theorem Runs.process (runs : Runs setup s) {connection : Nat} (request : Request γ)
    (there : (s.connections connection).lost = false) :
    Runs setup (process setup s connection request) := by
  obtain ⟨id, command⟩ := request
  -- A request without a command is dropped.
  cases command with
  | none => exact runs
  | some command =>
    obtain ⟨connections, _⟩ := handle_frame setup s connection id command
    have tasks := handle_tasks setup s connection id command
    have processed : DummyDac.process setup s connection ⟨id, some command⟩ =
        (handle setup s connection id command).1.onConnection connection fun here =>
          here.conclude id (handle setup s connection id command).2 := rfl
    rw [processed]
    generalize handle setup s connection id command = handled at *
    have extended : ∀ other, (s.connections other).Extends
        ((handled.1.onConnection connection fun here =>
          here.conclude id handled.2).connections other) := by
      intro other
      have later := extends_onConnection handled.1 connection
        (fun here => here.conclude id handled.2) (Connection.extends_conclude _ id handled.2) other
      rwa [connections] at later
    -- With a new task the answer is the last message of the stream.
    rcases tasks with same | ⟨start, added, ended⟩
    · exact runs.extended extended same
    · refine runs.start rfl added extended fun asked => ?_
      rw [onConnection_connections, if_pos rfl, connections, ended]
      simp only [Connection.conclude, Connection.reply, if_neg asked, Connection.write, there]
      rfl

/-- Every step leaves the runs as what they are. -/
theorem Runs.step (runs : Runs setup s) {action : DeviceAction γ}
    (stepped : DummyDac.step setup s action = some s') : Runs setup s' := by
  cases step_moves stepped with
  | @accept connection =>
    exact runs.extended (extends_onConnection s connection
      (fun here => { here with accepted := true }) ⟨rfl, rfl, id, List.prefix_rfl⟩) rfl
  | @receive connection incoming there free =>
    have received : Runs setup (receive setup s connection incoming) := by
      cases incoming with
      | ping =>
        have extended : (s.connections connection).Extends
            ((s.connections connection).write .pingResponse) :=
          Connection.extends_write _ fun _ _ => by simp
        exact runs.extended (extends_onConnection s connection
          (fun here => here.write .pingResponse) extended) rfl
      | message request => exact runs.process request there
    exact received.extended (fun connection => .refl _) rfl
  | @endpoint connection id outcome waits =>
    have extended := extends_onConnection s connection
      (fun here => (here.endpoint outcome).reply id (endpointAnswer outcome))
      (Connection.extends_endpoint _ outcome id _)
    exact (runs.extended extended rfl).extended (fun connection => .refl _) rfl
  | @start task known found created =>
    -- Nothing of the run has been sent, so that all of it is still to be made.
    have progress := runs.progress task known found
    rw [created] at progress
    refine runs.goOn found ⟨s.storedConfig, rfl⟩ fun later schedule => ?_
    rw [show (s.connections known.connection).sentOf task = [] from progress]
    exact schedule
  | @goOn task known shape ready pieces found running =>
    have progress := runs.progress task known found
    rw [running] at progress
    exact runs.goOn found progress.1 progress.2
  | @lose connection =>
    exact runs.extended (extends_onConnection s connection
      (fun here => { here with lost := true }) ⟨rfl, rfl, id, List.prefix_rfl⟩) rfl

/-- A device without connections has no runs. -/
theorem initial_runs : Runs setup (initial : DummyDac γ) where
  -- No task has been created.
  progress _ _ found := by simp [initial] at found
  own _ _ member := by simp [initial, Connection.runs] at member
  udp _ _ := rfl
  started _ _ found := by simp [initial] at found

/-- In every reachable state the runs are what they are. -/
theorem reachable_runs (reached : Transition.Reachable (DummyDac.step setup) initial s) :
    Runs setup s :=
  Transition.reachable_preserves initial_runs (fun _ _ _ runs stepped => runs.step stepped) reached

/-- What has been sent of a run begins a whole run, and is one if the run is finished. -/
theorem Progress.whole {command : StartRunCommand} {sent : List RunMessage} {point : TaskPoint}
    (progress : Progress setup command sent point) :
    ∃ shape rest, Shaped setup command shape ∧ Whole setup shape (sent ++ rest) ∧
      (point = .finished → rest = []) := by
  -- A task that has not begun could still send a whole run.
  cases point with
  | created =>
    obtain rfl : sent = [] := progress
    exact ⟨runShape setup none command, _, ⟨none, rfl⟩, schedule_all false _, by simp⟩
  | running shape ready pieces =>
    obtain ⟨shaped, following⟩ := progress
    exact ⟨shape, _, shaped, following _ (schedule_all false pieces), by simp⟩
  | finished =>
    obtain ⟨shape, shaped, whole⟩ := progress
    exact ⟨shape, [], shaped, by rwa [List.append_nil], fun _ => rfl⟩
  | failed =>
    obtain ⟨shape, rest, shaped, whole⟩ := progress
    exact ⟨shape, rest, shaped, whole, by simp⟩

/-- The messages of a run and what is left of it are one run of the device's carriers. -/
theorem Runs.sent_begins (runs : Runs setup s) {task : Nat} {known : RunTask}
    (found : s.tasks[task]? = some known) :
    ∃ (storedConfig : Option (Module γ)) (carriers finals : List (String × SampleArray))
      (rest : List RunMessage),
      carriers.map Prod.fst = setup.carrierMacs ∧ finals.map Prod.fst = setup.carrierMacs ∧
      Generated setup.numerics (runShape setup storedConfig known.command) carriers ∧
      GeneratedFinals setup.numerics (runShape setup storedConfig known.command) finals ∧
      (s.connections known.connection).sentOf task ++ rest =
        executeRun setup.errorStage carriers finals ∧
      (known.point = .finished → rest = []) := by
  -- The progress of the task says what may still come, and its pieces are the carriers' samples.
  obtain ⟨_, rest, ⟨storedConfig, rfl⟩, whole, finished⟩ := (runs.progress task known found).whole
  obtain ⟨carriers, finals, macs, macs', generated, generated', same⟩ := schedule_runPieces whole
  exact ⟨storedConfig, carriers, finals, rest, macs, macs', generated, generated', same, finished⟩

/-- Nothing of a run is sent to another client. -/
theorem Runs.sent_apart (runs : Runs setup s) {task : Nat} {known : RunTask}
    (found : s.tasks[task]? = some known) {other : Nat} (apart : other ≠ known.connection) :
    (s.connections other).sentOf task = [] := by
  refine Merge.of_eq_nil fun entry member same => ?_
  -- A message of the task on another connection would give the task a second owner.
  obtain ⟨known', found', own⟩ := runs.own other entry member
  rw [same, found] at found'
  obtain rfl := Option.some.inj found'
  exact apart own.symm

/--
What a run sends is one run of the device, whatever else the device does in between.

Its messages, those over TCP before those over UDP, are the first ones of a run of its carriers,
and all of them once it is finished; they come behind the response to its start, and no other
client gets any of them. Every run message there is belongs to a run started on its connection.
-/
theorem device_runs (reached : Transition.Reachable (DummyDac.step setup) initial s) :
    (∀ task known, s.tasks[task]? = some known →
      (∃ (storedConfig : Option (Module γ)) (carriers finals : List (String × SampleArray))
        (rest : List RunMessage),
        carriers.map Prod.fst = setup.carrierMacs ∧ finals.map Prod.fst = setup.carrierMacs ∧
        Generated setup.numerics (runShape setup storedConfig known.command) carriers ∧
        GeneratedFinals setup.numerics (runShape setup storedConfig known.command) finals ∧
        (s.connections known.connection).sentOf task ++ rest =
          executeRun setup.errorStage carriers finals ∧
        (known.point = .finished → rest = [])) ∧
      (known.request ≠ "" → ∃ before after, (s.connections known.connection).control =
          before ++ .reply known.request .startRunResponse :: after ∧
        ∀ message, .run task message ∉ before) ∧
      ∀ other, other ≠ known.connection → (s.connections other).sentOf task = []) ∧
    ∀ connection, ∀ entry ∈ (s.connections connection).runs ++ (s.connections connection).data,
      ∃ known, s.tasks[entry.1]? = some known ∧ known.connection = connection := by
  have runs := reachable_runs reached
  -- The clauses are read off the invariant.
  refine ⟨fun task known found => ?_, runs.own⟩
  exact ⟨runs.sent_begins found, runs.started task known found,
    fun _ apart => runs.sent_apart found apart⟩

end DummyDac

section Example

/-- A run of two channels that switches to UDP while another client resets the device. -/
def switchedRun : List (DeviceAction Nat) :=
  [.accept 0, .accept 1, .receive 0 (.message ⟨"start", some (.startRun ⟨"run", ⟨1, .milli⟩, 1000, 2⟩)⟩),
    .send 0, .send 0, .receive 0 (.message ⟨"udp", some (.udpDataStreaming 5000)⟩),
    .receive 1 (.message ⟨"reset", some (.reset false)⟩), .endpoint 0 (.ok ()),
    .send 0, .send 0, .send 0, .send 0, .send 0, .send 0]

/-- The run is finished, and has sent the seven messages of a run with one carrier. -/
theorem device_runs_switched :
    ∃ s, Transition.run (DummyDac.step plainSetup) DummyDac.initial switchedRun = some s ∧
      ∃ carriers finals, carriers.map Prod.fst = ["AB-CD-EF-12-34-56"] ∧
        finals.map Prod.fst = ["AB-CD-EF-12-34-56"] ∧
        (s.connections 0).sentOf 0 = executeRun .none carriers finals ∧
        (s.connections 0).data.length = 5 := by
  obtain ⟨s, ran⟩ : ∃ s, Transition.run (DummyDac.step plainSetup) DummyDac.initial switchedRun =
      some s := ⟨_, rfl⟩
  have reached : Transition.Reachable (DummyDac.step plainSetup) DummyDac.initial s :=
    ⟨switchedRun, ran⟩
  -- The run goes to its end over the data transport.
  obtain ⟨known, found, point, connection, length⟩ : ∃ known, s.tasks[0]? = some known ∧
      known.point = .finished ∧ known.connection = 0 ∧ (s.connections 0).data.length = 5 := by
    cases ran
    exact ⟨_, rfl, rfl, rfl, rfl⟩
  obtain ⟨_, carriers, finals, rest, macs, macs', _, _, same, finished⟩ :=
    ((DummyDac.device_runs reached).1 0 known found).1
  rw [finished point, List.append_nil, connection] at same
  exact ⟨s, ran, carriers, finals, macs, macs', same, length⟩

end Example

end Pybrid.Mock
