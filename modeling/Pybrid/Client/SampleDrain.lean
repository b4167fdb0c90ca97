import Pybrid.Client.SampleAssembly
import Pybrid.Library.Transition

/-! The tasks that drain decoded samples for the runs of a client, and whose samples they collect. -/

namespace Pybrid.Client

/-- A run data message that arrives, with the run it belongs to. -/
structure Arrival where
  /-- The identifier of the run, absent when no run is set. -/
  run : Option Nat
  /-- Whether the message was sent at the end of the operation phase. -/
  atEnd : Bool
  message : RunDataMessage
  deriving DecidableEq, Repr

/-- A decoded blob in an output queue; its bytes do not tell which message it came from. -/
structure Blob where
  bytes : List UInt8
  origin : Arrival

/-- A sample value, and the message it came from. -/
structure Sample where
  bits : UInt64
  origin : Arrival
  deriving DecidableEq, Repr

/-- What is put into the output queue for a message. -/
def Arrival.blobs (scale : SampleScale) (arrival : Arrival) : List Blob :=
  let sampleType :=
    if arrival.atEnd then SampleDecoding.sampleTypeOpEnd else SampleDecoding.sampleTypeOp
  match SampleDecoding.deliver scale sampleType arrival.message ⟨[], [], [], []⟩ with
  | .ok sink => sink.queue.map fun bytes => ⟨bytes, arrival⟩
  | .error _ => []

/-- The chunk in a blob, if it can be parsed. -/
def Blob.chunk (blob : Blob) : Option (ChunkRecord Sample) :=
  (parseSampleBlob blob.bytes).map fun chunk =>
    { chunk with samples := chunk.samples.map fun channel => channel.map fun bits =>
        ⟨bits, blob.origin⟩ }

/-- Where a drain task is. -/
inductive DrainPhase where
  /-- It takes blobs out of the queues, round after round. -/
  | polling
  /-- It sweeps the queues a last time: blobs it has taken, and connections still to come. -/
  | sweeping (pending : List Blob) (left : List Nat)
  | ended

/-- The task that drains the output queues for a run. -/
structure DrainTask where
  /-- The connections of the run. -/
  connections : List Nat
  phase : DrainPhase
  chunkBuffer : List (ChunkRecord Sample)

/-- Add what can be parsed to the chunk buffer. -/
def DrainTask.buffer (task : DrainTask) (blob : Blob) : DrainTask :=
  { task with chunkBuffer := task.chunkBuffer ++ blob.chunk.toList }

/-- Where the run under way is. -/
inductive FlightPhase where
  /-- The session waits for the carriers to take off. -/
  | takingOff
  /-- The session waits for the end of the run. -/
  | flying
  /-- The session has stopped the drain task and waits for it. -/
  | stopped
  deriving DecidableEq, Repr

/-- The runs of a controller, and the queues their samples come through. -/
structure Flights where
  /-- The output queue of each connection. -/
  queues : Nat → List Blob
  /-- The drain task of each run that was started. -/
  drains : Nat → Option DrainTask
  /-- The run under way; sessions on one controller exclude each other. -/
  active : Option (Nat × FlightPhase)
  /-- The assembled runs. -/
  results : List (Nat × RunData Sample)

/-- What happens to the runs of a controller. -/
inductive FlightAction where
  /-- The data channel of a connection hands on a message. -/
  | receive (connection : Nat) (arrival : Arrival)
  /-- A run is accepted, and its drain task created. -/
  | start (run : Nat) (connections : List Nat)
  /-- All carriers have taken off. -/
  | takeOff
  /-- The session leaves the run while it waits for take-off. -/
  | abandon
  /-- The wait for the end of the run is over, and the drain task is told to stop. -/
  | stop
  /-- A drain task takes the next blob of a connection. -/
  | poll (run connection : Nat)
  /-- A drain task notices that it is to stop. -/
  | settle (run : Nat)
  /-- A drain task takes all blobs of the next connection. -/
  | collect (run : Nat)
  /-- A drain task parses the next blob of those it has taken. -/
  | parse (run : Nat)
  /-- A drain task returns. -/
  | finish (run : Nat)
  /-- The wait for the drain task is cancelled, which cancels the task. -/
  | cancel
  /-- The chunks of the run are assembled. -/
  | assemble

namespace Flights

/-- No run, and nothing in the queues. -/
def initial : Flights where
  queues := fun _ => []
  drains := fun _ => none
  active := none
  results := []

/-- Change the output queue of a connection. -/
def setQueue (s : Flights) (connection : Nat) (queue : List Blob) : Flights :=
  { s with queues := Function.update s.queues connection queue }

/-- Change the drain task of a run. -/
def setDrain (s : Flights) (run : Nat) (task : DrainTask) : Flights :=
  { s with drains := Function.update s.drains run (some task) }

variable (scale : SampleScale) (clustersPerCarrier : List (List (List UInt8) × Nat))

/-- One step of the runs of a controller. -/
def step (s : Flights) : FlightAction → Option Flights
  | .receive connection arrival =>
    some (s.setQueue connection (s.queues connection ++ arrival.blobs scale))
  | .start run connections =>
    match s.active, s.drains run with
    | none, none =>
      some { s.setDrain run ⟨connections, .polling, []⟩ with active := some (run, .takingOff) }
    | _, _ => none
  | .takeOff =>
    match s.active with
    | some (run, .takingOff) => some { s with active := some (run, .flying) }
    | _ => none
  | .abandon =>
    match s.active with
    | some (_, .takingOff) => some { s with active := none }
    | _ => none
  | .stop =>
    match s.active with
    | some (run, .flying) => some { s with active := some (run, .stopped) }
    | _ => none
  -- The task asks each queue in turn; here it finds a blob in one of them.
  | .poll run connection =>
    match s.drains run, s.queues connection with
    | some task, blob :: later =>
      match task.phase with
      | .polling =>
        if connection ∈ task.connections then
          some ((s.setQueue connection later).setDrain run (task.buffer blob))
        else none
      | _ => none
    | _, _ => none
  -- Once it is told to stop, the task goes over all its connections once more.
  | .settle run =>
    match s.active, s.drains run with
    | some (current, .stopped), some task =>
      match task.phase with
      | .polling =>
        if current = run then
          some (s.setDrain run { task with phase := .sweeping [] task.connections })
        else none
      | _ => none
    | _, _ => none
  | .collect run =>
    match s.drains run with
    | some task =>
      match task.phase with
      | .sweeping [] (connection :: left) =>
        some ((s.setQueue connection []).setDrain run
          { task with phase := .sweeping (s.queues connection) left })
      | _ => none
    | none => none
  | .parse run =>
    match s.drains run with
    | some task =>
      match task.phase with
      | .sweeping (blob :: pending) left =>
        some (s.setDrain run { task.buffer blob with phase := .sweeping pending left })
      | _ => none
    | none => none
  | .finish run =>
    match s.drains run with
    | some task =>
      match task.phase with
      | .sweeping [] [] => some (s.setDrain run { task with phase := .ended })
      | _ => none
    | none => none
  -- Cancelling the wait cancels the task, which ends with what it has got.
  | .cancel =>
    match s.active with
    | some (run, .stopped) =>
      (s.drains run).map fun task => s.setDrain run { task with phase := .ended }
    | _ => none
  | .assemble =>
    match s.active with
    | some (run, .stopped) =>
      match s.drains run with
      | some task =>
        match task.phase with
        | .ended =>
          -- Whatever has been buffered is assembled, also if assembling it raises.
          let data := Raising.final (assembleRunData clustersPerCarrier task.chunkBuffer .empty)
          some { s with active := none, results := (run, data) :: s.results }
        | _ => none
      | none => none
    | _ => none

/-- The blob, if it holds samples at all, holds samples of the run. -/
def Own (run : Nat) (blob : Blob) : Prop := blob.chunk.isSome = true → blob.origin.run = some run

instance (run : Nat) (blob : Blob) : Decidable (Own run blob) :=
  inferInstanceAs (Decidable (_ → _))

/--
What keeps the samples of runs apart.

When a run is started, the queues of its connections hold no samples of another run, and while it is
under way none of another run arrive there.
-/
def Apart (s : Flights) : FlightAction → Prop
  -- The queues hold nothing of an earlier run when the run starts.
  | .start run connections => ∀ connection ∈ connections, ∀ blob ∈ s.queues connection, Own run blob
  -- Nothing of another run arrives while a run is under way.
  | .receive connection arrival =>
    match s.active with
    | none => True
    | some (run, _) => ∀ task ∈ s.drains run, connection ∈ task.connections →
        ∀ blob ∈ arrival.blobs scale, Own run blob
  | _ => True

instance decidableApart (s : Flights) : ∀ action, Decidable (Apart scale s action)
  | .start run connections =>
    inferInstanceAs (Decidable (∀ connection ∈ connections, ∀ blob ∈ s.queues connection, Own run blob))
  | .receive connection arrival =>
    match under : s.active with
    | none => isTrue (by simp only [Apart, under])
    | some (run, phase) =>
      decidable_of_iff (∀ task ∈ s.drains run, connection ∈ task.connections →
        ∀ blob ∈ arrival.blobs scale, Own run blob) (by simp only [Apart, under])
  | .takeOff | .abandon | .stop | .poll _ _ | .settle _ | .collect _ | .parse _ | .finish _
  | .cancel | .assemble => isTrue trivial

/-- A sample came from a message of this run. -/
def OfRun (run : Nat) (sample : Sample) : Prop := sample.origin.run = some run

/-- The blobs a drain task has taken and not yet parsed. -/
def DrainPhase.pending : DrainPhase → List Blob
  | .sweeping pending _ => pending
  | _ => []

/-- The connections a drain task has still to sweep. -/
def DrainPhase.left : DrainPhase → List Nat
  | .sweeping _ left => left
  | _ => []

/-- The task has only seen samples of its run. -/
structure Untainted (run : Nat) (task : DrainTask) : Prop where
  buffered : ∀ chunk ∈ task.chunkBuffer, chunk.All (OfRun run)
  taken : ∀ blob ∈ DrainPhase.pending task.phase, Own run blob
  remaining : ∀ connection ∈ DrainPhase.left task.phase, connection ∈ task.connections

/-- The task has only seen, and can only see, samples of its run. -/
structure Pure (s : Flights) (run : Nat) (task : DrainTask) : Prop extends Untainted run task where
  queued : ∀ connection ∈ task.connections, ∀ blob ∈ s.queues connection, Own run blob

/-- The run under way drains its own samples only, and so did all that were assembled. -/
structure Separate (s : Flights) : Prop where
  active : ∀ run phase, s.active = some (run, phase) → ∃ task, s.drains run = some task ∧ s.Pure run task
  results : ∀ entry ∈ s.results, entry.2.All (OfRun entry.1)

/-- The samples of a parsed blob are of its run. -/
theorem Own.chunk {run : Nat} {blob : Blob} (own : Own run blob) {chunk : ChunkRecord Sample}
    (parsed : blob.chunk = some chunk) : chunk.All (OfRun run) := by
  -- The run of the blob is that of all its samples.
  have origin : blob.origin.run = some run := own (by rw [parsed]; rfl)
  obtain ⟨plain, _, rfl⟩ := Option.map_eq_some_iff.mp parsed
  intro channel member sample inside
  simp only [List.mem_map] at member
  obtain ⟨bits, _, rfl⟩ := member
  obtain ⟨value, _, rfl⟩ := List.mem_map.mp inside
  exact origin

/-- Buffering a blob of the run keeps the buffer to samples of the run. -/
theorem buffered_buffer {run : Nat} {task : DrainTask} {blob : Blob} (own : Own run blob)
    (buffered : ∀ chunk ∈ task.chunkBuffer, chunk.All (OfRun run)) :
    ∀ chunk ∈ (task.buffer blob).chunkBuffer, chunk.All (OfRun run) := by
  intro chunk member
  rcases List.mem_append.mp member with old | new
  · exact buffered chunk old
  · exact own.chunk (Option.mem_toList.mp new)

/-- Queues that only shrink, or change elsewhere, keep a task to its run. -/
theorem Pure.mono {s next : Flights} {run : Nat} {task : DrainTask} (held : s.Pure run task)
    (shrinks : ∀ connection ∈ task.connections, ∀ blob ∈ next.queues connection,
      blob ∈ s.queues connection) : next.Pure run task where
  toUntainted := held.toUntainted
  queued := fun connection member blob queued =>
    held.queued connection member blob (shrinks connection member blob queued)

@[simp] theorem queues_setQueue_self (s : Flights) (connection : Nat) (queue : List Blob) :
    (s.setQueue connection queue).queues connection = queue := Function.update_self ..

@[simp] theorem queues_setQueue_of_ne (s : Flights) {connection other : Nat} (queue : List Blob)
    (apart : other ≠ connection) :
    (s.setQueue connection queue).queues other = s.queues other := Function.update_of_ne apart ..

/-- A queue that lost blobs holds none it did not hold before. -/
theorem mem_setQueue {s : Flights} {connection : Nat} {queue : List Blob}
    (fewer : ∀ blob ∈ queue, blob ∈ s.queues connection) (other : Nat) :
    ∀ blob ∈ (s.setQueue connection queue).queues other, blob ∈ s.queues other := by
  intro blob member
  -- Only the queue of this connection is replaced, by a part of it.
  by_cases same : other = connection
  · subst same
    rw [queues_setQueue_self] at member
    exact fewer blob member
  · rwa [queues_setQueue_of_ne s queue same] at member

/-- A drain task that takes blobs away keeps the runs apart, if it is kept to its own run. -/
theorem Separate.drained {s : Flights} (held : s.Separate) {run connection : Nat} {queue : List Blob}
    {task next : DrainTask} (present : s.drains run = some task)
    (same : next.connections = task.connections)
    (fewer : ∀ blob ∈ queue, blob ∈ s.queues connection)
    (kept : s.Pure run task → Untainted run next) :
    ((s.setQueue connection queue).setDrain run next).Separate where
  active := by
    intro current phase under
    obtain ⟨task', found, own⟩ := held.active current phase under
    by_cases mine : current = run
    · -- The task of the run under way itself.
      subst mine
      rw [present] at found
      cases found
      refine ⟨next, Function.update_self .., kept own, ?_⟩
      intro other member blob queued
      exact own.queued other (same ▸ member) blob (mem_setQueue fewer other blob queued)
    · -- A task left over from another run takes blobs, and adds none.
      refine ⟨task', ?_, own.mono fun other _ => mem_setQueue fewer other⟩
      exact (Function.update_of_ne mine ..).trans found
  results := held.results

/-- A drain task that leaves the queues alone. -/
theorem Separate.advanced {s : Flights} (held : s.Separate) {run : Nat} {task next : DrainTask}
    (present : s.drains run = some task) (same : next.connections = task.connections)
    (kept : s.Pure run task → Untainted run next) : (s.setDrain run next).Separate := by
  have through : ((s.setQueue 0 (s.queues 0)).setDrain run next).Separate :=
    held.drained present same (fun _ member => member) kept
  rwa [setQueue, Function.update_eq_self] at through

/-- Only the phase of the run under way changes. -/
theorem Separate.phase {s : Flights} (held : s.Separate) {run : Nat} {phase : FlightPhase}
    (under : s.active = some (run, phase)) (later : FlightPhase) :
    ({ s with active := some (run, later) } : Flights).Separate where
  active := by
    rintro _ _ ⟨⟩
    -- The task of the run under way is the same in every phase.
    obtain ⟨task, found, own⟩ := held.active run phase under
    exact ⟨task, found, own.toUntainted, own.queued⟩
  results := held.results

variable {scale clustersPerCarrier}

/-- Every step that keeps samples apart keeps the runs separate. -/
theorem Separate.step {s next : Flights} {action : FlightAction} (held : s.Separate)
    (apart : Apart scale s action) (stepped : s.step scale clustersPerCarrier action = some next) :
    next.Separate := by
  cases action with
  | receive connection arrival =>
    cases stepped
    refine ⟨fun run phase under => ?_, held.results⟩
    obtain ⟨task, found, own⟩ := held.active run phase under
    refine ⟨task, found, own.toUntainted, fun other member blob queued => ?_⟩
    by_cases same : other = connection
    · subst same
      rw [queues_setQueue_self] at queued
      rcases List.mem_append.mp queued with old | new
      · exact own.queued other member blob old
      · simp only [Apart, show s.active = some (run, phase) from under] at apart
        exact apart task found member blob new
    · rw [queues_setQueue_of_ne s _ same] at queued
      exact own.queued other member blob queued
  | start run connections =>
    simp only [Flights.step] at stepped
    split at stepped
    · cases stepped
      refine ⟨?_, held.results⟩
      rintro _ _ ⟨⟩
      refine ⟨⟨connections, .polling, []⟩, Function.update_self .., ⟨?_, ?_, ?_⟩, apart⟩
      · simp
      · simp [DrainPhase.pending]
      · simp [DrainPhase.left]
    · cases stepped
  | takeOff =>
    simp only [Flights.step] at stepped
    split at stepped
    · rename_i run under
      cases stepped
      exact held.phase under .flying
    · cases stepped
  | abandon =>
    simp only [Flights.step] at stepped
    split at stepped
    · cases stepped
      exact ⟨fun run phase under => (by cases under), held.results⟩
    · cases stepped
  | stop =>
    simp only [Flights.step] at stepped
    split at stepped
    · rename_i run under
      cases stepped
      exact held.phase under .stopped
    · cases stepped
  | poll run connection =>
    simp only [Flights.step] at stepped
    split at stepped
    · rename_i task blob later present queued
      split at stepped
      · rename_i polling
        split at stepped
        · rename_i mine
          cases stepped
          -- The blob that is taken was the first of the queue.
          refine held.drained present rfl (fun other member => ?_) fun own => ⟨?_, ?_, ?_⟩
          · rw [queued]
            exact List.mem_cons_of_mem blob member
          · refine buffered_buffer (own.queued connection mine blob ?_) own.buffered
            rw [queued]
            exact List.mem_cons_self ..
          · exact own.taken
          · exact own.remaining
        · cases stepped
      · cases stepped
    · cases stepped
  | settle run =>
    simp only [Flights.step] at stepped
    split at stepped
    · rename_i current task under present
      split at stepped
      · split at stepped
        · cases stepped
          exact held.advanced present rfl fun own =>
            ⟨own.buffered, by simp [DrainPhase.pending], by simp [DrainPhase.left]⟩
        · cases stepped
      · cases stepped
    · cases stepped
  | collect run =>
    simp only [Flights.step] at stepped
    split at stepped
    · rename_i task present
      split at stepped
      · rename_i connection left sweeping
        cases stepped
        refine held.drained present rfl (fun blob member => (by cases member)) fun own =>
          ⟨own.buffered, ?_, fun other member => own.remaining other ?_⟩
        -- All that is in the queue is taken at once.
        · exact own.queued connection (own.remaining connection (by simp [sweeping, DrainPhase.left]))
        · simp only [sweeping, DrainPhase.left] at member ⊢
          exact List.mem_cons_of_mem connection member
      · cases stepped
    · cases stepped
  | parse run =>
    simp only [Flights.step] at stepped
    split at stepped
    · rename_i task present
      split at stepped
      · rename_i blob pending left sweeping
        cases stepped
        refine held.advanced present rfl fun own =>
          ⟨buffered_buffer ?_ own.buffered, ?_, fun other member => own.remaining other ?_⟩
        · exact own.taken blob (by simp [sweeping, DrainPhase.pending])
        · exact fun other member => own.taken other (by
            simp only [sweeping, DrainPhase.pending] at member ⊢
            exact List.mem_cons_of_mem blob member)
        · simpa [sweeping, DrainPhase.left] using member
      · cases stepped
    · cases stepped
  | finish run =>
    simp only [Flights.step] at stepped
    split at stepped
    · rename_i task present
      split at stepped
      · cases stepped
        exact held.advanced present rfl fun own =>
          ⟨own.buffered, by simp [DrainPhase.pending], by simp [DrainPhase.left]⟩
      · cases stepped
    · cases stepped
  | cancel =>
    simp only [Flights.step] at stepped
    split at stepped
    · obtain ⟨task, present, rfl⟩ := Option.map_eq_some_iff.mp stepped
      exact held.advanced present rfl fun own =>
        ⟨own.buffered, by simp [DrainPhase.pending], by simp [DrainPhase.left]⟩
    · cases stepped
  | assemble =>
    simp only [Flights.step] at stepped
    split at stepped
    · rename_i run under
      split at stepped
      · rename_i task present
        split at stepped
        · cases stepped
          refine ⟨fun run phase under => (by cases under), fun entry member => ?_⟩
          rcases List.mem_cons.mp member with rfl | old
          · obtain ⟨task', found, own⟩ := held.active run _ under
            rw [present] at found
            cases found
            exact assembleRunData_all clustersPerCarrier own.buffered
              ⟨fun entry member => (by cases member), fun entry member => (by cases member)⟩
          · exact held.results entry old
        · cases stepped
      · cases stepped
    · cases stepped

/--
Every run holds samples of its own messages only, as long as no samples of another run are left in
the queues when it starts and none arrive while it is under way.
-/
theorem results_hold_own_samples (scale : SampleScale)
    (clustersPerCarrier : List (List (List UInt8) × Nat)) (actions : List FlightAction)
    (final : Flights)
    (apart : Transition.Meets (step scale clustersPerCarrier) (Apart scale) initial actions)
    (ran : Transition.run (step scale clustersPerCarrier) initial actions = some final) :
    ∀ entry ∈ final.results, entry.2.All (OfRun entry.1) := by
  -- At first no run is under way and none has been assembled.
  have start : initial.Separate :=
    ⟨fun run phase under => (by cases under), fun entry member => (by cases member)⟩
  exact (Transition.run_preserves (fun _ _ _ held apart stepped => Separate.step held apart stepped)
    actions initial final start apart ran).results

/-- A message of this run with one sample of one channel. -/
def oneSample (run : Nat) : Arrival where
  run := some run
  atEnd := false
  message :=
    { chunk := some 0, entity := some [47, 65],
      data := some ⟨[0, 0, 128, 63], .float 32, [⟨0, 0, 0, 0⟩], 1, 1⟩ }

/-- A run whose message arrives while it is under way. -/
def ownSample : List FlightAction :=
  [.start 1 [0], .takeOff, .receive 0 (oneSample 1), .poll 1 0, .stop, .settle 1, .collect 1,
    .finish 1, .assemble]

/-- A second run behind a message of the first one that arrived late. -/
def lateSample : List FlightAction :=
  [.start 1 [0], .takeOff, .stop, .settle 1, .collect 1, .finish 1, .assemble,
    .receive 0 (oneSample 1), .start 2 [0], .takeOff, .poll 2 0, .stop, .settle 2, .collect 2,
    .finish 2, .assemble]

/-- How samples are scaled matters to nothing here. -/
def unscaled : SampleScale := fun _ _ _ _ => 0

/-- A run keeps its own sample. -/
theorem results_hold_own_samples_one :
    Transition.Meets (step unscaled []) (Apart unscaled) initial ownSample ∧
      ∃ final, Transition.run (step unscaled []) initial ownSample = some final ∧
        ∀ entry ∈ final.results, entry.2.All (OfRun entry.1) :=
  ⟨by decide, _, rfl, results_hold_own_samples unscaled [] ownSample _ (by decide) rfl⟩

/-- A message of the first run that arrives late ends up in the data of the second run. -/
theorem late_sample_enters_next_run :
    ∃ final, Transition.run (step unscaled []) initial lateSample = some final ∧
      ¬∀ entry ∈ final.results, entry.2.All (OfRun entry.1) := by
  -- The second run gets the sample that arrived late for the first one.
  have collected : (Transition.run (step unscaled []) initial lateSample).map
      (fun s => s.results.map fun entry => (entry.1, entry.2.data)) =
        some [(2, [some [⟨0, oneSample 1⟩]]), (1, [])] := by decide
  obtain ⟨final, ran, collected⟩ := Option.map_eq_some_iff.mp collected
  refine ⟨final, ran, fun all => ?_⟩
  have second : (2, [some [⟨0, oneSample 1⟩]]) ∈
      final.results.map fun entry => (entry.1, entry.2.data) := by
    rw [collected]
    exact List.mem_cons_self ..
  obtain ⟨entry, listed, same⟩ := List.mem_map.mp second
  obtain ⟨number, data⟩ := Prod.ext_iff.mp same
  have own := (all entry listed).data (some [⟨0, oneSample 1⟩])
    (by rw [show entry.2.data = _ from data]; exact List.mem_cons_self ..) _ rfl ⟨0, oneSample 1⟩
    (List.mem_cons_self ..)
  rw [OfRun, show entry.1 = 2 from number] at own
  cases own

end Flights

end Pybrid.Client
