import Pybrid.Mock.RunParts

/-! What is known in every state of a run over mock devices, from what has been heard to what was drained. -/

namespace Pybrid.Mock

open SampleDecoding Client SampleAssembly

namespace RunSession

variable {n : Nat} {scale : SampleScale} {clustersPerCarrier : List (List (List UInt8) × Nat)}
  {devices : Fin n → RunDevice}

/-- The state changes among the messages, each with the connection it came from. -/
def changes (heard : List (Fin n × RunMessage)) : List (Fin n × RunState) :=
  heard.filterMap fun entry => entry.2.newState.map fun state => (entry.1, state)

/-- The reports that the callbacks for these state changes make. -/
def reports (devices : Fin n → RunDevice) (called : List (Fin n × RunState)) :
    List DistributedRunState.Report :=
  called.flatMap fun entry => reportsOf (devices entry.1) entry.2

/-- What has been heard, and what the callbacks and the drain task have made of it. -/
structure Follows (scale : SampleScale) (devices : Fin n → RunDevice) (s : RunSession n)
    (heard : List (Fin n × RunMessage)) (called : List (Fin n × RunState))
    (drained : List (Fin n × List UInt8)) : Prop where
  -- Nothing is lost or overtaken between a device and the client.
  carried : ∀ i, Merge.of i heard ++ s.onWire i ++ s.toSend i = (devices i).messages
  -- The calls of the callbacks are the changes heard, in order.
  made : called ++ s.calls = changes heard
  tracks : DistributedRunState.Tracks .new (involvedPaths devices) (reports devices called) s.tracker
  clear : (∀ entry ∈ called, entry.2 ≠ .error) → s.tracker.anyError = none
  -- What was drained and what waits is what the messages carried.
  queued : ∀ i, Merge.of i drained ++ (s.sinks i).queue =
    (Merge.of i heard).flatMap (RunMessage.blobs scale)
  buffered : s.chunkBuffer =
    (drained.map Prod.snd).foldl (fun buffer blob => bufferSampleBlob blob buffer) []

/-- One more state change in its place, or none. -/
theorem changes_snoc (heard : List (Fin n × RunMessage)) (i : Fin n) (message : RunMessage) :
    changes (heard ++ [(i, message)]) =
      changes heard ++ (message.newState.map fun state => (i, state)).toList := by
  cases new_ : message.newState <;> simp [changes, new_]

/-- What one more message adds for its connection and for the others. -/
theorem of_snoc {β : Type} (merged : List (Fin n × β)) (i j : Fin n) (entry : β) :
    Merge.of j (merged ++ [(i, entry)]) = Merge.of j merged ++ if i = j then [entry] else [] := by
  simpa using Merge.of_tagged j i [entry]

section Steps

variable {s : RunSession n} {heard : List (Fin n × RunMessage)} {called : List (Fin n × RunState)}
  {drained : List (Fin n × List UInt8)}

/-- The phase of the session does not matter here. -/
theorem Follows.phase (follows : Follows scale devices s heard called drained) (phase : RunPhase n) :
    Follows scale devices { s with phase } heard called drained :=
  ⟨follows.carried, follows.made, follows.tracks, follows.clear, follows.queued, follows.buffered⟩

/-- A message that is sent is on the wire. -/
theorem Follows.send (follows : Follows scale devices s heard called drained) {i : Fin n}
    {message : RunMessage} {later : List RunMessage} (next : s.toSend i = message :: later) :
    Follows scale devices { s with
      toSend := Function.update s.toSend i later
      onWire := Function.update s.onWire i (s.onWire i ++ [message]) } heard called drained where
  carried := by
    intro j
    -- A message moves from the device to the end of its own wire.
    by_cases own : j = i
    · subst own
      simpa [next] using follows.carried j
    · simpa [own] using follows.carried j
  made := follows.made
  tracks := follows.tracks
  clear := follows.clear
  queued := follows.queued
  buffered := follows.buffered

/-- A message that is received is heard; the sink and the calls hold what it adds. -/
theorem Follows.receive (follows : Follows scale devices s heard called drained) {i : Fin n}
    {message : RunMessage} {later : List RunMessage} (next : s.onWire i = message :: later)
    (sink : SampleSink) (added : sink.queue = (s.sinks i).queue ++ message.blobs scale) :
    Follows scale devices { s.received i later with
      sinks := Function.update s.sinks i sink
      calls := s.calls ++ (message.newState.map fun state => (i, state)).toList }
        (heard ++ [(i, message)]) called drained where
  carried := by
    intro j
    rw [of_snoc]
    -- The first message of the wire becomes the last one heard.
    by_cases own : j = i
    · subst own
      simpa [received, next] using follows.carried j
    · simpa [received, own, Ne.symm own] using follows.carried j
  made := by
    rw [changes_snoc, ← follows.made, List.append_assoc]
  tracks := follows.tracks
  clear := follows.clear
  queued := by
    intro j
    rw [of_snoc, List.flatMap_append, ← follows.queued j]
    -- Its blobs join the queue of its own connection.
    by_cases own : j = i
    · subst own
      simp [added]
    · simp [own, Ne.symm own]
  buffered := follows.buffered

/-- Blobs that are taken off the front of a queue are drained. -/
theorem Follows.drain (follows : Follows scale devices s heard called drained) {i : Fin n}
    (blobs : List (List UInt8)) {left : List (List UInt8)} (taken : (s.sinks i).queue = blobs ++ left) :
    Follows scale devices (s.drain i blobs left) heard called
      (drained ++ blobs.map fun blob => (i, blob)) where
  carried := follows.carried
  made := follows.made
  tracks := follows.tracks
  clear := follows.clear
  queued := by
    intro j
    rw [Merge.of_append, Merge.of_tagged, ← follows.queued j]
    -- The blobs leave the front of one queue, in order.
    by_cases own : j = i
    · subst own
      simp [RunSession.drain, taken]
    · simp [RunSession.drain, own, Ne.symm own]
  buffered := by
    simp [RunSession.drain, follows.buffered, Function.comp_def]

/-- What is reported for a connection are its own paths. -/
theorem mem_involvedPaths {i : Fin n} {state : RunState} :
    ∀ report ∈ reportsOf (devices i) state, report.path ∈ involvedPaths devices := by
  intro report listed
  -- A device reports for its own paths only.
  obtain ⟨path, member, rfl⟩ := List.mem_map.mp listed
  exact List.mem_flatMap.mpr ⟨i, List.mem_finRange i, member⟩

/-- Some path is involved in a run. -/
theorem involvedPaths_ne_nil (participate : Participate devices) : involvedPaths devices ≠ [] := by
  obtain ⟨path, listed⟩ := List.exists_mem_of_ne_nil _ (participate.tracked ⟨0, participate.some_⟩)
  exact List.ne_nil_of_mem (List.mem_flatMap.mpr ⟨_, List.mem_finRange _, listed⟩)

/-- A callback is made on the tracker that the earlier ones have left. -/
theorem Follows.call (follows : Follows scale devices s heard called drained)
    (participate : Participate devices) {i : Fin n} {state : RunState}
    {later : List (Fin n × RunState)} (next : s.calls = (i, state) :: later) :
    ∃ tracker, Transition.run DistributedRunState.track s.tracker (reportsOf (devices i) state) =
        some tracker ∧
      Follows scale devices { s with calls := later, tracker } heard (called ++ [(i, state)]) drained := by
  -- The callback reports the state for every carrier of the device.
  obtain ⟨tracker, ran, tracks⟩ := follows.tracks.run (involvedPaths_ne_nil participate)
    (reportsOf (devices i) state) mem_involvedPaths
  refine ⟨tracker, ran, follows.carried, ?_, ?_, ?_, follows.queued, follows.buffered⟩
  · simpa [next] using follows.made
  · simpa [reports] using tracks
  · intro fine
    rw [DistributedRunState.run_anyError ran]
    -- No error before, and none in the reports of this callback.
    · exact follows.clear fun entry member => fine entry (List.mem_append_left _ member)
    · intro report listed
      obtain ⟨path, _, rfl⟩ := List.mem_map.mp listed
      exact fine (i, state) (by simp)

/-- A state that was called back was heard from the connection. -/
theorem Follows.heard_of_called (follows : Follows scale devices s heard called drained) {i : Fin n}
    {state : RunState} (listed : (i, state) ∈ called) :
    state ∈ (Merge.of i heard).filterMap RunMessage.newState := by
  -- A call that was run was made first.
  have changed : (i, state) ∈ changes heard := follows.made ▸ List.mem_append_left _ listed
  obtain ⟨⟨_, message⟩, member, found⟩ := List.mem_filterMap.mp changed
  obtain ⟨_, new_, same⟩ := Option.map_eq_some_iff.mp found
  cases same
  exact List.mem_filterMap.mpr ⟨message, Merge.mem_of.mpr member, new_⟩

/-- What has been heard of a connection is among what the device announces. -/
theorem Follows.announced (follows : Follows scale devices s heard called drained) {i : Fin n}
    {state : RunState} (listed : (i, state) ∈ called) :
    state ∈ announcedStates (devices i).stage := by
  -- What was heard is the front of all messages of the device.
  rw [← newStates_messages, ← follows.carried i, List.append_assoc, List.filterMap_append]
  exact List.mem_append_left _ (follows.heard_of_called listed)

/-- A path belongs to one connection. -/
theorem Follows.connection_unique (follows : Follows scale devices s heard called drained)
    {i j : Fin n} {path : Path} (here : path ∈ (devices i).paths) (there : path ∈ (devices j).paths) :
    i = j := by
  have distinct : (involvedPaths devices).Nodup := follows.tracks.keys ▸ s.tracker.distinct
  have symmetric : Std.Symm (Function.onFun List.Disjoint fun i => (devices i).paths) :=
    ⟨fun _ _ disjoint => disjoint.symm⟩
  -- The tracker holds every path once.
  by_contra different
  exact (List.nodup_flatMap.mp distinct).2.forall (List.mem_finRange i) (List.mem_finRange j) different
    here there

/-- A path of a connection has reported a state once the connection has been called back for it. -/
theorem Follows.reported_iff (follows : Follows scale devices s heard called drained) {i : Fin n}
    {path : Path} (own : path ∈ (devices i).paths) {state : RunState} :
    DistributedRunState.Reported (reports devices called) path state ↔ (i, state) ∈ called := by
  -- A path belongs to one device, whose callback is what reports it.
  constructor
  · rintro ⟨report, listed, rfl, rfl⟩
    obtain ⟨⟨j, state⟩, member, found⟩ := List.mem_flatMap.mp listed
    obtain ⟨path, there, rfl⟩ := List.mem_map.mp found
    rwa [follows.connection_unique own there]
  · intro listed
    exact ⟨⟨path, state, some ""⟩, List.mem_flatMap.mpr ⟨_, listed, List.mem_map.mpr ⟨path, own, rfl⟩⟩,
      rfl, rfl⟩

/-- A wait for a state goes by what the connections have been called back for. -/
theorem Follows.reached_iff (follows : Follows scale devices s heard called drained)
    (participate : Participate devices) {state : RunState} :
    (∀ carrier ∈ s.tracker.states, state ∈ carrier.2) ↔ ∀ i, (i, state) ∈ called := by
  -- Every device has a carrier, and every carrier a device.
  constructor
  · intro all i
    obtain ⟨path, own⟩ := List.exists_mem_of_ne_nil _ (participate.tracked i)
    have involved : path ∈ s.tracker.states.map Prod.fst := by
      rw [follows.tracks.keys]
      exact List.mem_flatMap.mpr ⟨i, List.mem_finRange i, own⟩
    obtain ⟨carrier, listed, rfl⟩ := List.mem_map.mp involved
    exact (follows.reported_iff own).mp ((follows.tracks.reached carrier listed state).mp (all carrier listed))
  · intro all carrier listed
    have involved : carrier.1 ∈ involvedPaths devices :=
      follows.tracks.keys ▸ List.mem_map_of_mem listed
    obtain ⟨i, _, own⟩ := List.mem_flatMap.mp involved
    exact (follows.tracks.reached carrier listed state).mpr ((follows.reported_iff own).mpr (all i))

/-- When a connection has been called back for the end of the run, nothing of it is still to come. -/
theorem Follows.complete (follows : Follows scale devices s heard called drained) {i : Fin n}
    (done : (i, .done) ∈ called) : s.onWire i = [] ∧ s.toSend i = [] := by
  obtain ⟨front, last, whole, before⟩ := messages_done_last (devices i) (follows.announced done)
  have carried : Merge.of i heard ++ (s.onWire i ++ s.toSend i) = front ++ [last] := by
    rw [← whole, ← List.append_assoc]
    exact follows.carried i
  rw [← List.append_eq_nil_iff]
  by_contra more
  -- What is still to come would hold the last message, and the others announce no end.
  obtain ⟨rest, final, split⟩ := List.eq_nil_or_concat _ |>.resolve_left more
  rw [split, List.concat_eq_append, ← List.append_assoc] at carried
  obtain ⟨early, _⟩ := List.append_inj' carried rfl
  refine before ?_
  rw [← early, List.filterMap_append]
  exact List.mem_append_left _ (follows.heard_of_called done)

end Steps

/-- Every connection has been called back for the take-off and for the end of the run. -/
def Landed (called : List (Fin n × RunState)) : Prop := ∀ i, (i, .takeOff) ∈ called ∧ (i, .done) ∈ called

/--
What is known in each phase of a run, while no exception is on its way.

The queues are known to be empty behind the last sweep only where it was not cut short.
-/
def PhaseHolds (uncut : Prop) (clustersPerCarrier : List (List (List UInt8) × Nat))
    (s : RunSession n) (called : List (Fin n × RunState)) : Prop :=
  match s.phase with
  -- A run that is going to raise promises nothing.
  | .takingOff | .stopping true | .sweeping _ true | .raised => True
  -- What a phase promises is why the code got to it.
  | .flying => ∀ i, (i, .takeOff) ∈ called
  | .stopping false => Landed called
  -- The queues that were swept stay empty once everything has arrived.
  | .sweeping left false => Landed called ∧ (uncut → ∀ i, i ∉ left → (s.sinks i).queue = [])
  | .returned run => Landed called ∧ (uncut → ∀ i, (s.sinks i).queue = []) ∧
      assembleRunData clustersPerCarrier (s.chunkBuffer.map Prod.snd) .empty = .ok () run

/-- Every state of a run follows what has been heard, and is in a phase for which it is enough. -/
def Invariant (uncut : Prop) (scale : SampleScale)
    (clustersPerCarrier : List (List (List UInt8) × Nat)) (devices : Fin n → RunDevice)
    (s : RunSession n) : Prop :=
  ∃ heard called drained, Follows scale devices s heard called drained ∧
    PhaseHolds uncut clustersPerCarrier s called

/-- The phase holds on when more is called back, and the drain task has nothing to do when all has landed. -/
theorem PhaseHolds.mono {uncut : Prop} {s next : RunSession n}
    {called called' : List (Fin n × RunState)}
    (held : PhaseHolds uncut clustersPerCarrier s called) (phase : next.phase = s.phase)
    (grows : ∀ entry ∈ called, entry ∈ called')
    (same : Landed called → next.sinks = s.sinks ∧ next.chunkBuffer = s.chunkBuffer) :
    PhaseHolds uncut clustersPerCarrier next called' := by
  have landed : Landed called → Landed called' :=
    fun all i => ⟨grows _ (all i).1, grows _ (all i).2⟩
  unfold PhaseHolds at held ⊢
  rw [phase]
  -- More calls keep every promise; the queues matter only after landing.
  cases at_ : s.phase with
  | takingOff | raised => trivial
  | flying =>
    simp only [at_] at held
    exact fun i => grows _ (held i)
  | stopping raises =>
    cases raises with
    | true => trivial
    | false =>
      simp only [at_] at held
      exact landed held
  | sweeping left raises =>
    cases raises with
    | true => trivial
    | false =>
      simp only [at_] at held
      simp only [(same held.1).1]
      exact ⟨landed held.1, held.2⟩
  | returned run =>
    simp only [at_] at held
    simp only [(same held.1).1, (same held.1).2]
    exact ⟨landed held.1, held.2⟩

/-- The run of some devices starts with nothing heard. -/
theorem invariant_start {uncut : Prop} (participate : Participate devices)
    {tracker : DistributedRunState}
    (made : DistributedRunState.init {} (involvedPaths devices) = .ok tracker) :
    Invariant uncut scale clustersPerCarrier devices (start devices tracker) := by
  have phase : PhaseHolds uncut clustersPerCarrier (start devices tracker) [] := by
    -- Nothing is asked of a run that waits for the take-off, or was refused.
    unfold PhaseHolds
    by_cases refused : ∃ i, (devices i).Refuses
    · simp [start, refused]
    · simp [start, refused]
  refine ⟨[], [], [], ⟨fun i => rfl, rfl, ?_, fun _ => ?_, fun i => rfl, rfl⟩, phase⟩
  · exact DistributedRunState.init_tracks (involvedPaths_ne_nil participate) made
  · exact DistributedRunState.addPaths_anyError made

/-- Data that is decoded adds its blobs to the queue, and leaves the rest alone. -/
theorem decode_adds {s next : RunSession n} {i : Fin n} {sampleType : UInt32} {message : RunDataMessage}
    (decoded : s.decode scale i sampleType message = some next) :
    ∃ sink : SampleSink, next = { s with sinks := Function.update s.sinks i sink } ∧
      sink.queue = (s.sinks i).queue ++ deliveredBlobs scale sampleType message := by
  obtain ⟨sink, delivered, rfl⟩ := Option.map_eq_some_iff.mp decoded
  refine ⟨sink, rfl, ?_⟩
  -- A message that is refused gives no step.
  cases result : deliver scale sampleType message (s.sinks i) with
  | error raised => simp [result, Except.toOption] at delivered
  | ok sink' =>
    simp only [result, Except.toOption, Option.some.injEq] at delivered
    rw [← delivered, deliver_adds scale result]

/-- What the steps of a run do, and when; data is received where decoding it raises nothing. -/
inductive Moved (scale : SampleScale) (clustersPerCarrier : List (List (List UInt8) × Nat))
    (devices : Fin n → RunDevice) (s : RunSession n) : RunAction n → RunSession n → Prop where
  | send {i : Fin n} {message : RunMessage} {later : List RunMessage}
      (queued : s.toSend i = message :: later) :
      Moved scale clustersPerCarrier devices s (.send i) { s with
        toSend := Function.update s.toSend i later
        onWire := Function.update s.onWire i (s.onWire i ++ [message]) }
  -- A change of state is only noted, its callback runs later.
  | announce {i : Fin n} {old new_ : RunState} {later : List RunMessage}
      (queued : s.onWire i = .runStateChange old new_ :: later) :
      Moved scale clustersPerCarrier devices s (.receive i)
        { s.received i later with calls := s.calls ++ [(i, new_)] }
  | data {i : Fin n} {message : RunMessage} {later : List RunMessage} {sink : SampleSink}
      (queued : s.onWire i = message :: later) (stateless : message.newState = none)
      (added : sink.queue = (s.sinks i).queue ++ message.blobs scale) :
      Moved scale clustersPerCarrier devices s (.receive i)
        { s.received i later with sinks := Function.update s.sinks i sink }
  | call {i : Fin n} {state : RunState} {later : List (Fin n × RunState)}
      {tracker : DistributedRunState} (queued : s.calls = (i, state) :: later)
      (ran : Transition.run DistributedRunState.track s.tracker (reportsOf (devices i) state) =
        some tracker) :
      Moved scale clustersPerCarrier devices s .call { s with calls := later, tracker }
  -- The drain task runs as long as it is not awaited.
  | poll {i : Fin n} {blob : List UInt8} {later : List (List UInt8)}
      (polling : s.phase = .takingOff ∨ s.phase = .flying ∨ ∃ raises, s.phase = .stopping raises)
      (queued : (s.sinks i).queue = blob :: later) :
      Moved scale clustersPerCarrier devices s (.poll i) (s.drain i [blob] later)
  | takeOff (waiting : s.phase = .takingOff) (reached : Reached s.tracker .takeOff) :
      Moved scale clustersPerCarrier devices s .takeOff { s with phase := .flying }
  | land (waiting : s.phase = .flying) (reached : Reached s.tracker .done) :
      Moved scale clustersPerCarrier devices s .land { s with phase := .stopping false }
  -- The wait for the take-off is outside the try, so that nothing is swept.
  | expireEarly (waiting : s.phase = .takingOff) :
      Moved scale clustersPerCarrier devices s .expire { s with phase := .raised }
  | expire (waiting : s.phase = .flying) :
      Moved scale clustersPerCarrier devices s .expire { s with phase := .stopping true }
  | settle {raises : Bool} (stopping : s.phase = .stopping raises) :
      Moved scale clustersPerCarrier devices s .settle
        { s with phase := .sweeping (List.finRange n) raises }
  | sweep {i : Fin n} {left : List (Fin n)} {raises : Bool}
      (sweeping : s.phase = .sweeping (i :: left) raises) :
      Moved scale clustersPerCarrier devices s .sweep
        { s.drain i (s.sinks i).queue [] with phase := .sweeping left raises }
  -- The pause of the drain task can be cancelled, which skips the sweep.
  | cancel {raises : Bool}
      (stopped : s.phase = .stopping raises ∨ ∃ left, s.phase = .sweeping left raises) :
      Moved scale clustersPerCarrier devices s .cancel { s with phase := .sweeping [] raises }
  | assemble {raises : Bool} {run : RunData UInt64} (swept : s.phase = .sweeping [] raises)
      (assembled : assembleRunData clustersPerCarrier (s.chunkBuffer.map Prod.snd) .empty = .ok () run) :
      Moved scale clustersPerCarrier devices s .assemble
        { s with phase := if raises then .raised else .returned run }
  | fail {raises : Bool} {raised : Raised} {run : RunData UInt64}
      (swept : s.phase = .sweeping [] raises)
      (failed : assembleRunData clustersPerCarrier (s.chunkBuffer.map Prod.snd) .empty =
        .error raised run) :
      Moved scale clustersPerCarrier devices s .assemble { s with phase := .raised }

/-- A run makes no other steps. -/
theorem step_moves {s next : RunSession n} {action : RunAction n}
    (stepped : s.step scale clustersPerCarrier devices action = some next) :
    Moved scale clustersPerCarrier devices s action next := by
  -- One case for each action, in which all but one branch yield no step.
  cases action with
  | send i =>
    simp only [RunSession.step] at stepped
    split at stepped
    · cases stepped
    · rename_i message later queued
      exact Option.some.inj stepped ▸ .send queued
  | receive i =>
    simp only [RunSession.step] at stepped
    split at stepped
    · cases stepped
    · rename_i old new_ later queued
      exact Option.some.inj stepped ▸ .announce queued
    · rename_i message later queued
      obtain ⟨sink, rfl, added⟩ := decode_adds stepped
      exact .data queued rfl added
    · rename_i message later queued
      obtain ⟨sink, rfl, added⟩ := decode_adds stepped
      exact .data queued rfl added
  | call =>
    simp only [RunSession.step] at stepped
    split at stepped
    · cases stepped
    · rename_i i state later queued
      obtain ⟨tracker, ran, rfl⟩ := Option.map_eq_some_iff.mp stepped
      exact .call queued ran
  | poll i =>
    simp only [RunSession.step] at stepped
    split at stepped
    · rename_i blob later waiting queued
      exact Option.some.inj stepped ▸ .poll (.inl waiting) queued
    · rename_i blob later waiting queued
      exact Option.some.inj stepped ▸ .poll (.inr (.inl waiting)) queued
    · rename_i raises blob later stopping queued
      exact Option.some.inj stepped ▸ .poll (.inr (.inr ⟨raises, stopping⟩)) queued
    · cases stepped
  | takeOff =>
    simp only [RunSession.step] at stepped
    split at stepped
    · rename_i waiting
      split at stepped
      · rename_i reached
        exact Option.some.inj stepped ▸ .takeOff waiting reached
      · cases stepped
    · cases stepped
  | land =>
    simp only [RunSession.step] at stepped
    split at stepped
    · rename_i waiting
      split at stepped
      · rename_i reached
        exact Option.some.inj stepped ▸ .land waiting reached
      · cases stepped
    · cases stepped
  | expire =>
    simp only [RunSession.step] at stepped
    split at stepped
    · rename_i waiting
      exact Option.some.inj stepped ▸ .expireEarly waiting
    · rename_i waiting
      exact Option.some.inj stepped ▸ .expire waiting
    · cases stepped
  | settle =>
    simp only [RunSession.step] at stepped
    split at stepped
    · rename_i raises stopping
      exact Option.some.inj stepped ▸ .settle stopping
    · cases stepped
  | sweep =>
    simp only [RunSession.step] at stepped
    split at stepped
    · rename_i i left raises sweeping
      exact Option.some.inj stepped ▸ .sweep sweeping
    · cases stepped
  | cancel =>
    simp only [RunSession.step] at stepped
    split at stepped
    · rename_i raises stopping
      exact Option.some.inj stepped ▸ .cancel (.inl stopping)
    · rename_i left raises sweeping
      exact Option.some.inj stepped ▸ .cancel (.inr ⟨left, sweeping⟩)
    · cases stepped
  | assemble =>
    simp only [RunSession.step] at stepped
    split at stepped
    · rename_i raises swept
      split at stepped
      · rename_i run final assembled
        exact Option.some.inj stepped ▸ .assemble swept assembled
      · rename_i raised final failed
        exact Option.some.inj stepped ▸ .fail swept failed
    · cases stepped

/-- Nothing is received any more when all have landed. -/
theorem Follows.not_landed {s : RunSession n} {heard : List (Fin n × RunMessage)}
    {called : List (Fin n × RunState)} {drained : List (Fin n × List UInt8)}
    (follows : Follows scale devices s heard called drained) {i : Fin n} {message : RunMessage}
    {later : List RunMessage} (queued : s.onWire i = message :: later) : ¬Landed called := by
  -- DONE is the last message of a device.
  intro landed
  simp [(follows.complete (landed i).2).1] at queued

/-- Every step of a run keeps the invariant; a cancellation cuts the last sweep short. -/
theorem Invariant.step {uncut : Prop} (participate : Participate devices) {s next : RunSession n}
    {action : RunAction n} (held : Invariant uncut scale clustersPerCarrier devices s)
    (uncancelled : uncut → action ≠ .cancel)
    (stepped : s.step scale clustersPerCarrier devices action = some next) :
    Invariant uncut scale clustersPerCarrier devices next := by
  obtain ⟨heard, called, drained, follows, phase⟩ := held
  have all : ∀ entry ∈ called, entry ∈ called := fun _ member => member
  cases step_moves stepped with
  | send queued => exact ⟨_, _, _, follows.send queued, phase.mono rfl all fun _ => ⟨rfl, rfl⟩⟩
  | @announce i old new_ later queued =>
    have heard' := follows.receive queued (s.sinks i) (by simp [RunMessage.blobs])
    rw [Function.update_eq_self] at heard'
    exact ⟨_, _, _, heard', phase.mono rfl all fun landed => absurd landed (follows.not_landed queued)⟩
  | data queued stateless added =>
    have heard' := follows.receive queued _ added
    simp only [stateless, Option.map_none, Option.toList_none, List.append_nil] at heard'
    exact ⟨_, _, _, heard', phase.mono rfl all fun landed => absurd landed (follows.not_landed queued)⟩
  | call queued ran =>
    obtain ⟨tracker, ran', follows'⟩ := follows.call participate queued
    obtain rfl := Option.some.inj (ran.symm.trans ran')
    exact ⟨_, _, _, follows', phase.mono rfl (fun entry member => List.mem_append_left _ member)
      fun _ => ⟨rfl, rfl⟩⟩
  | @poll i blob later polling queued =>
    refine ⟨_, _, _, follows.drain [blob] queued, ?_⟩
    -- In these phases nothing is known of the queues.
    rcases polling with at_ | at_ | ⟨raises, at_⟩
    · simp [PhaseHolds, drain, at_]
    · simp only [PhaseHolds, at_] at phase
      simpa [PhaseHolds, drain, at_] using phase
    · cases raises with
      | true => simp [PhaseHolds, drain, at_]
      | false =>
        simp only [PhaseHolds, at_] at phase
        simpa [PhaseHolds, drain, at_] using phase
  | takeOff waiting reached =>
    exact ⟨_, _, _, follows.phase _, (follows.reached_iff participate).mp reached.2⟩
  | land waiting reached =>
    simp only [PhaseHolds, waiting] at phase
    exact ⟨_, _, _, follows.phase _,
      fun i => ⟨phase i, (follows.reached_iff participate).mp reached.2 i⟩⟩
  | expireEarly | expire | fail => exact ⟨_, _, _, follows.phase _, trivial⟩
  | @settle raises stopping =>
    refine ⟨_, _, _, follows.phase _, ?_⟩
    cases raises with
    | true => trivial
    | false =>
      simp only [PhaseHolds, stopping] at phase
      exact ⟨phase, fun _ i absent => absurd (List.mem_finRange i) absent⟩
  | @sweep i left raises sweeping =>
    refine ⟨_, _, _, (follows.drain _ (List.append_nil _).symm).phase _, ?_⟩
    cases raises with
    | true => trivial
    | false =>
      simp only [PhaseHolds, sweeping] at phase
      refine ⟨phase.1, fun whole j absent => ?_⟩
      by_cases own : j = i
      · subst own
        simp [drain]
      · have before := phase.2 whole j (by simp [own, absent])
        simpa [drain, own] using before
  | @cancel raises stopped =>
    refine ⟨_, _, _, follows.phase _, ?_⟩
    cases raises with
    | true => trivial
    | false =>
      -- All have landed before the drain task is stopped; what it leaves in the queues stays there.
      have landed : Landed called := by
        rcases stopped with stopping | ⟨left, sweeping⟩
        · simpa only [PhaseHolds, stopping] using phase
        · simp only [PhaseHolds, sweeping] at phase
          exact phase.1
      exact ⟨landed, fun whole => absurd rfl (uncancelled whole)⟩
  | @assemble raises run swept assembled =>
    refine ⟨_, _, _, follows.phase _, ?_⟩
    cases raises with
    | true => trivial
    | false =>
      simp only [PhaseHolds, swept] at phase
      exact ⟨phase.1, fun whole i => phase.2 whole i (by simp), assembled⟩

section Landing

variable {s : RunSession n} {heard : List (Fin n × RunMessage)} {called : List (Fin n × RunState)}
  {drained : List (Fin n × List UInt8)}

/-- When all have landed, every device has finished. -/
theorem Follows.finishes (follows : Follows scale devices s heard called drained)
    (landed : Landed called) (i : Fin n) : Finishes (devices i).stage :=
  finishes_iff.mpr ⟨follows.announced (landed i).1, follows.announced (landed i).2⟩

/-- When all have landed and the queues are empty, everything has been drained. -/
theorem Follows.all_drained (follows : Follows scale devices s heard called drained)
    (landed : Landed called) (empty : ∀ i, (s.sinks i).queue = []) (i : Fin n) :
    Merge.of i drained = (devices i).messages.flatMap (RunMessage.blobs scale) := by
  -- Nothing is under way any more, so that all that was carried was queued.
  obtain ⟨onWire, toSend⟩ := follows.complete (landed i).2
  have carried := follows.carried i
  have queued := follows.queued i
  rw [onWire, toSend, List.append_nil, List.append_nil] at carried
  rwa [empty, List.append_nil, carried] at queued

/-- When all have landed and the queues are empty, the data of the run are complete. -/
theorem Follows.assembled (follows : Follows scale devices s heard called drained)
    (participate : Participate devices) (landed : Landed called) (empty : ∀ i, (s.sinks i).queue = [])
    (clustersPerCarrier : List (List (List UInt8) × Nat)) :
    ∃ (order : List (String × SampleArray)) (final : RunData UInt64), order.Perm (allSamples devices) ∧
      assembleRunData clustersPerCarrier (s.chunkBuffer.map Prod.snd) .empty = .ok () final ∧
      final.data = (List.range (maxChannels order)).map fun channel =>
        some (channelData scale order channel) := by
  rw [follows.buffered]
  exact participate.assembled scale (follows.finishes landed)
    (follows.all_drained landed empty) clustersPerCarrier

/-- When all have landed, the tracked state of the run is its last one. -/
theorem Follows.run_done (follows : Follows scale devices s heard called drained)
    (landed : Landed called) : s.tracker.run.state = .done := by
  -- A device that announces DONE announces no error.
  have fine : ¬DistributedRunState.Failed (involvedPaths devices) (reports devices called) := by
    rintro ⟨path, involved, failed⟩
    obtain ⟨i, _, own⟩ := List.mem_flatMap.mp involved
    exact (follows.finishes landed i).2.2.1
      (error_announced.mp (follows.announced ((follows.reported_iff own).mp failed)))
  -- DONE was called for every device, and it is the highest state.
  have common : DistributedRunState.Common (involvedPaths devices) (reports devices called) .done := by
    intro path involved
    obtain ⟨i, _, own⟩ := List.mem_flatMap.mp involved
    exact (follows.reported_iff own).mpr (landed i).2
  obtain ⟨listed, _, most⟩ := follows.tracks.settled.greatest fine ⟨.done, by decide, common⟩
  have last := most .done (by decide) common
  generalize s.tracker.run.state = state at listed last
  -- No state that is listed comes after it.
  cases state <;> simp [RunState.stateOrder] at listed last ⊢

/-- The invariant holds in every state of a run, cut short where the run is cancelled. -/
theorem invariant_reached {uncut : Prop} (participate : Participate devices)
    {tracker : DistributedRunState}
    (made : DistributedRunState.init {} (involvedPaths devices) = .ok tracker)
    {actions : List (RunAction n)} (uncancelled : ∀ action ∈ actions, uncut → action ≠ .cancel)
    (ran : Transition.run (step scale clustersPerCarrier devices) (start devices tracker) actions = some s) :
    Invariant uncut scale clustersPerCarrier devices s := by
  -- The step lemma, under the condition on one action.
  have kept : ∀ state action next, Invariant uncut scale clustersPerCarrier devices state →
      (uncut → action ≠ .cancel) → step scale clustersPerCarrier devices state action = some next →
      Invariant uncut scale clustersPerCarrier devices next :=
    fun _ _ _ held allowed stepped => held.step participate allowed stepped
  exact Transition.run_preserves kept actions _ s (invariant_start participate made)
    (Transition.meets_allowed uncancelled) ran

end Landing

end RunSession
end Pybrid.Mock
