import Pybrid.Mock.RunInvariant

/-! Which runs over mock devices can come to their end, and that a run that is returned is complete. -/

namespace Pybrid.Mock

open SampleDecoding Client SampleAssembly

section Parts

variable {n : Nat} {devices : Fin n → RunDevice}

/-- The data that a device sends are its parts. -/
theorem RunDevice.mem_messages {device : RunDevice} {message : RunMessage}
    (sent : message ∈ device.messages) :
    (∃ old new_, message = .runStateChange old new_) ∨
    (∃ part ∈ device.parts, part.sampleType = sampleTypeOp ∧ message = .runData part.message) ∨
    ∃ part ∈ device.parts, part.sampleType = sampleTypeOpEnd ∧ message = .runDataEnd part.message := by
  have change : ∀ dropping old new_, message ∈ unlessDropped device.stage dropping
      [RunMessage.runStateChange old new_] → message = .runStateChange old new_ := by
    intro dropping old new_ member
    unfold unlessDropped at member
    split at member
    · cases member
    · exact List.mem_singleton.mp member
  have started : ¬device.Refuses := by
    intro refuses
    simp [RunDevice.messages, refuses] at sent
  simp only [RunDevice.messages, if_neg started, executeRun, List.mem_append, List.mem_cons,
    List.mem_map] at sent
  -- The message is one of the announcements, of the data or of the ending.
  rcases sent with start | rfl | rfl | ⟨data, listed, rfl⟩ | ending
  · exact .inl ⟨_, _, change _ _ _ start⟩
  · exact .inl ⟨_, _, rfl⟩
  · exact .inl ⟨_, _, rfl⟩
  · rw [sendSamples_chunksOf] at listed
    obtain ⟨at_, member, rfl⟩ := List.mem_map.mp listed
    exact .inr (.inl ⟨at_.part, List.mem_append_left _ (List.mem_map_of_mem member), rfl, rfl⟩)
  · unfold endRun at ending
    split at ending
    · exact .inl ⟨_, _, List.mem_singleton.mp ending⟩
    · simp only [List.mem_cons, List.mem_append, List.mem_map] at ending
      rcases ending with rfl | ⟨final, member, rfl⟩ | last
      · exact .inl ⟨_, _, rfl⟩
      · exact .inr (.inr ⟨finalPart final, List.mem_append_right _ (List.mem_map_of_mem member), rfl, rfl⟩)
      · exact .inl ⟨_, _, change _ _ _ last⟩

end Parts

namespace RunSession

variable {n : Nat} {scale : SampleScale} {clustersPerCarrier : List (List (List UInt8) × Nat)}
  {devices : Fin n → RunDevice} {s : RunSession n} {heard : List (Fin n × RunMessage)}
  {called : List (Fin n × RunState)} {drained : List (Fin n × List UInt8)}

/-- No exception is on its way. -/
def Unharmed : RunPhase n → Prop
  | .takingOff | .flying | .stopping false | .sweeping _ false | .returned _ => True
  | .stopping true | .sweeping _ true | .raised => False

/-- The run has been returned. -/
def Returned (s : RunSession n) : Prop := ∃ run, s.phase = .returned run

/-- An action that brings a run forward. -/
def Forward : RunAction n → Prop
  | .expire | .cancel => False
  | _ => True

/-- How often messages have still to be moved. -/
def load (s : RunSession n) : Nat := ∑ i, (2 * (s.toSend i).length + (s.onWire i).length)

/-- How far a phase is from the end. -/
def phaseDistance : RunPhase n → Nat
  | .takingOff => n + 4
  | .flying => n + 3
  | .stopping _ => n + 2
  | .sweeping left _ => left.length + 1
  | .returned _ | .raised => 0

/-- How far a run is from its end. -/
def distance (s : RunSession n) : Nat := 2 * load s + s.calls.length + phaseDistance s.phase

/-- The load goes down with that of one connection. -/
theorem load_lt {next : RunSession n} {i : Fin n}
    (others : ∀ j, j ≠ i → next.toSend j = s.toSend j ∧ next.onWire j = s.onWire j)
    (less : 2 * (next.toSend i).length + (next.onWire i).length <
      2 * (s.toSend i).length + (s.onWire i).length) : load next < load s := by
  refine Finset.sum_lt_sum (fun j _ => ?_) ⟨i, Finset.mem_univ i, less⟩
  -- The other devices count as before.
  by_cases own : j = i
  · exact own ▸ less.le
  · rw [(others j own).1, (others j own).2]

/-- A message that is sent is closer to the client. -/
theorem send_advances {i : Fin n} {message : RunMessage} {later : List RunMessage}
    (queued : s.toSend i = message :: later) :
    ∃ next, s.step scale clustersPerCarrier devices (.send i) = some next ∧ next.phase = s.phase ∧
      distance next < distance s := by
  refine ⟨_, by simp only [RunSession.step, queued]; rfl, ?_, ?_⟩
  · rfl
  -- A message to be sent weighs two and one under way weighs one.
  have less : load { s with
      toSend := Function.update s.toSend i later
      onWire := Function.update s.onWire i (s.onWire i ++ [message]) } < load s := by
    refine load_lt (i := i) (fun j other => by simp [other]) ?_
    simp only [Function.update_self, queued, List.length_cons, List.length_append, List.length_nil]
    omega
  simp only [distance]
  omega

/-- What is on the wire was sent by the device. -/
theorem Follows.mem_onWire (follows : Follows scale devices s heard called drained) {i : Fin n}
    {message : RunMessage} (queued : message ∈ s.onWire i) : message ∈ (devices i).messages := by
  rw [← follows.carried i]
  exact List.mem_append_left _ (List.mem_append_right _ queued)

/-- A message that is received has arrived; the data channels decode all data of the devices. -/
theorem receive_advances (follows : Follows scale devices s heard called drained)
    (participate : Participate devices) {i : Fin n} {message : RunMessage} {later : List RunMessage}
    (queued : s.onWire i = message :: later) :
    ∃ next, s.step scale clustersPerCarrier devices (.receive i) = some next ∧ next.phase = s.phase ∧
      distance next < distance s := by
  -- Whatever else happens, the message is off the wire.
  have less : ∀ sinks calls, load { s.received i later with sinks, calls } < load s := by
    intro sinks calls
    refine load_lt (i := i) (fun j other => by simp [received, other]) ?_
    simp [received, queued]
  have decodes : ∀ part ∈ (devices i).parts, ∃ next,
      (s.received i later).decode scale i part.sampleType part.message = some next ∧
        next.phase = s.phase ∧ distance next < distance s := by
    intro part listed
    have delivered := (participate.sound scale part listed).deliver scale ((s.received i later).sinks i)
    refine ⟨_, by simp only [RunSession.decode, delivered, Except.toOption, Option.map_some]; rfl, ?_, ?_⟩
    · rfl
    have fewer := less (Function.update s.sinks i
      { s.sinks i with queue := (s.sinks i).queue ++ [part.blob scale] }) s.calls
    simp only [distance, received] at fewer ⊢
    omega
  rcases RunDevice.mem_messages (follows.mem_onWire (queued ▸ List.mem_cons_self)) with
    ⟨old, new_, rfl⟩ | ⟨part, listed, kind, rfl⟩ | ⟨part, listed, kind, rfl⟩
  · refine ⟨_, by simp only [RunSession.step, queued]; rfl, ?_, ?_⟩
    · rfl
    have fewer := less s.sinks (s.calls ++ [(i, new_)])
    simp only [distance, received, List.length_append, List.length_singleton] at fewer ⊢
    omega
  · obtain ⟨next, decoded, closer⟩ := decodes part listed
    exact ⟨next, by simp only [RunSession.step, queued, ← decoded, kind], closer⟩
  · obtain ⟨next, decoded, closer⟩ := decodes part listed
    exact ⟨next, by simp only [RunSession.step, queued, ← decoded, kind], closer⟩

/-- A callback that is made is out of the way. -/
theorem call_advances (follows : Follows scale devices s heard called drained)
    (participate : Participate devices) {i : Fin n} {state : RunState} {later : List (Fin n × RunState)}
    (queued : s.calls = (i, state) :: later) :
    ∃ next, s.step scale clustersPerCarrier devices .call = some next ∧ next.phase = s.phase ∧
      distance next < distance s := by
  -- The callback reports carriers that are tracked, and so runs.
  obtain ⟨tracker, ran, -⟩ := follows.call participate queued
  refine ⟨_, by simp only [RunSession.step, queued, ran, Option.map_some]; rfl, ?_, ?_⟩
  · rfl
  have same : load { s with calls := later, tracker } = load s := rfl
  simp only [distance, same, queued, List.length_cons]
  omega

/-- When nothing is on its way, every state that was announced has been called back. -/
theorem Follows.called_of_announced (follows : Follows scale devices s heard called drained)
    (calls : s.calls = []) {i : Fin n} (onWire : s.onWire i = []) (toSend : s.toSend i = [])
    {state : RunState} (announced : state ∈ announcedStates (devices i).stage) : (i, state) ∈ called := by
  have made := follows.made
  rw [calls, List.append_nil] at made
  -- Nothing is under way, so that all that was announced was heard.
  have carried := follows.carried i
  rw [onWire, toSend, List.append_nil, List.append_nil] at carried
  rw [← newStates_messages] at announced
  obtain ⟨message, listed, new_⟩ := List.mem_filterMap.mp announced
  rw [made]
  refine List.mem_filterMap.mpr ⟨(i, message), Merge.mem_of.mp ?_, by simp [new_]⟩
  rw [carried]
  exact listed

/-- When nothing is on its way, a wait for a state that all devices announce returns. -/
theorem Follows.reached (follows : Follows scale devices s heard called drained)
    (participate : Participate devices) (calls : s.calls = [])
    (quiet : ∀ i, s.toSend i = [] ∧ s.onWire i = []) (finish : ∀ i, Finishes (devices i).stage)
    {state : RunState} (announced : ∀ i, state ∈ announcedStates (devices i).stage) :
    Reached s.tracker state := by
  refine ⟨follows.clear ?_, (follows.reached_iff participate).mpr fun i =>
    follows.called_of_announced calls (quiet i).2 (quiet i).1 (announced i)⟩
  -- No device that finishes announces an error.
  rintro ⟨i, _⟩ listed rfl
  exact (finish i).2.2.1 (error_announced.mp (follows.announced listed))

/-- When nothing is on its way, the session goes on to the end of the run. -/
theorem session_advances (follows : Follows scale devices s heard called drained)
    (phase : PhaseHolds True clustersPerCarrier s called) (unharmed : Unharmed s.phase)
    (participate : Participate devices) (finish : ∀ i, Finishes (devices i).stage)
    (calls : s.calls = []) (quiet : ∀ i, s.toSend i = [] ∧ s.onWire i = []) (open_ : ¬Returned s) :
    ∃ action next, Forward action ∧ s.step scale clustersPerCarrier devices action = some next ∧
      Unharmed next.phase ∧ distance next < distance s := by
  have reached : ∀ {state}, (∀ i, state ∈ announcedStates (devices i).stage) → Reached s.tracker state :=
    fun announced => follows.reached participate calls quiet finish announced
  -- A change of the phase alone leaves the load as it is.
  have moved : ∀ phase : RunPhase n, phaseDistance phase < phaseDistance s.phase →
      distance { s with phase } < distance s := by
    intro phase closer
    have same : load { s with phase } = load s := rfl
    simp only [distance, same]
    omega
  -- Every phase but the last two has its own next step.
  cases at_ : s.phase with
  | takingOff =>
    have took := reached fun i => (finishes_iff.mp (finish i)).1
    exact ⟨.takeOff, { s with phase := .flying }, trivial,
      by simp only [RunSession.step, at_, if_pos took], trivial,
      moved .flying (by simp [at_, phaseDistance])⟩
  | flying =>
    have done := reached fun i => (finishes_iff.mp (finish i)).2
    exact ⟨.land, { s with phase := .stopping false }, trivial,
      by simp only [RunSession.step, at_, if_pos done], trivial,
      moved (.stopping false) (by simp [at_, phaseDistance])⟩
  | stopping raises =>
    cases raises with
    | true => simp [at_, Unharmed] at unharmed
    | false =>
      exact ⟨.settle, { s with phase := .sweeping (List.finRange n) false }, trivial,
        by simp only [RunSession.step, at_], trivial,
        moved (.sweeping (List.finRange n) false) (by simp [at_, phaseDistance])⟩
  | sweeping left raises =>
    cases raises with
    | true => simp [at_, Unharmed] at unharmed
    | false =>
      cases left with
      | cons i left =>
        refine ⟨.sweep, { s.drain i (s.sinks i).queue [] with phase := .sweeping left false }, trivial,
          by simp only [RunSession.step, at_], trivial, ?_⟩
        have same : ∀ phase, load { s.drain i (s.sinks i).queue [] with phase } = load s := fun _ => rfl
        simp only [distance, same, at_, phaseDistance, List.length_cons]
        simp [drain]
      | nil =>
        simp only [PhaseHolds, at_] at phase
        -- All queues are swept, so that the chunks can be assembled.
        obtain ⟨order, run, -, assembled, -⟩ := follows.assembled participate phase.1
          (fun i => phase.2 trivial i (by simp)) clustersPerCarrier
        exact ⟨.assemble, { s with phase := .returned run }, trivial,
          by simp only [RunSession.step, at_, assembled, Bool.false_eq_true, if_false], trivial,
          moved (.returned run) (by simp [at_, phaseDistance])⟩
  | returned run => exact absurd ⟨run, at_⟩ open_
  | raised => simp [at_, Unharmed] at unharmed

/-- A run that has met no exception and is not over can be brought forward, where all devices finish. -/
theorem run_advances (participate : Participate devices) (finish : ∀ i, Finishes (devices i).stage)
    (s : RunSession n) (held : Invariant True scale clustersPerCarrier devices s ∧ Unharmed s.phase)
    (open_ : ¬Returned s) :
    ∃ action next, Forward action ∧ s.step scale clustersPerCarrier devices action = some next ∧
      (Invariant True scale clustersPerCarrier devices next ∧ Unharmed next.phase) ∧
      distance next < distance s := by
  obtain ⟨invariant, unharmed⟩ := held
  obtain ⟨heard, called, drained, follows, phase⟩ := invariant
  -- What brings a run forward is not a cancellation, so it keeps the invariant.
  have kept : ∀ action next, Forward action → s.step scale clustersPerCarrier devices action = some next →
      Invariant True scale clustersPerCarrier devices next := by
    intro action next forward stepped
    refine Invariant.step participate ⟨heard, called, drained, follows, phase⟩ (fun _ => ?_) stepped
    rintro rfl
    exact forward
  by_cases sending : ∃ i, s.toSend i ≠ []
  · obtain ⟨i, more⟩ := sending
    obtain ⟨message, later, queued⟩ := List.exists_cons_of_ne_nil more
    obtain ⟨next, stepped, same, closer⟩ := send_advances queued
    exact ⟨.send i, next, trivial, stepped, ⟨kept (.send i) next trivial stepped, same ▸ unharmed⟩, closer⟩
  by_cases receiving : ∃ i, s.onWire i ≠ []
  · obtain ⟨i, more⟩ := receiving
    obtain ⟨message, later, queued⟩ := List.exists_cons_of_ne_nil more
    obtain ⟨next, stepped, same, closer⟩ := receive_advances follows participate queued
    exact ⟨.receive i, next, trivial, stepped, ⟨kept (.receive i) next trivial stepped, same ▸ unharmed⟩, closer⟩
  by_cases calling : s.calls = []
  · push Not at sending receiving
    obtain ⟨action, next, forward, stepped, unharmed', closer⟩ := session_advances follows phase unharmed
      participate finish calling (fun i => ⟨sending i, receiving i⟩) open_
    exact ⟨action, next, forward, stepped, ⟨kept _ _ forward stepped, unharmed'⟩, closer⟩
  · obtain ⟨⟨i, state⟩, later, queued⟩ := List.exists_cons_of_ne_nil calling
    obtain ⟨next, stepped, same, closer⟩ := call_advances follows participate queued
    exact ⟨.call, next, trivial, stepped, ⟨kept .call next trivial stepped, same ▸ unharmed⟩, closer⟩

/-- What brings a run forward lets no exception in. -/
theorem unharmed_step (participate : Participate devices) {next : RunSession n} {action : RunAction n}
    (invariant : Invariant True scale clustersPerCarrier devices s) (unharmed : Unharmed s.phase)
    (forward : Forward action) (stepped : s.step scale clustersPerCarrier devices action = some next) :
    Unharmed next.phase := by
  obtain ⟨heard, called, drained, follows, phase⟩ := invariant
  -- The chunks of a run that has landed are assembled.
  have landed : ∀ {raises : Bool}, s.phase = .sweeping [] raises → raises = false ∧
      ∃ run, assembleRunData clustersPerCarrier (s.chunkBuffer.map Prod.snd) .empty = .ok () run := by
    intro raises swept
    cases raises with
    | true => simp [swept, Unharmed] at unharmed
    | false =>
      simp only [PhaseHolds, swept] at phase
      obtain ⟨order, run, -, assembled, -⟩ := follows.assembled participate phase.1
        (fun i => phase.2 trivial i (by simp)) clustersPerCarrier
      exact ⟨rfl, run, assembled⟩
  cases step_moves stepped with
  | send | announce | data | call | poll => exact unharmed
  | takeOff | land => trivial
  | expireEarly | expire | cancel => exact forward.elim
  | @settle raises stopping =>
    cases raises with
    | true => simp [stopping, Unharmed] at unharmed
    | false => trivial
  | @sweep i left raises sweeping =>
    cases raises with
    | true => simp [sweeping, Unharmed] at unharmed
    | false => trivial
  | assemble swept assembled =>
    obtain ⟨rfl, -⟩ := landed swept
    trivial
  | fail swept failed =>
    obtain ⟨-, run, assembled⟩ := landed swept
    rw [assembled] at failed
    cases failed

/-- Where all devices finish, a run that has met no exception can be brought to its end. -/
theorem forward_run_returns (scale : SampleScale)
    (clustersPerCarrier : List (List (List UInt8) × Nat)) (participate : Participate devices)
    (finish : ∀ i, Finishes (devices i).stage) {tracker : DistributedRunState}
    (made : DistributedRunState.init {} (involvedPaths devices) = .ok tracker)
    {actions : List (RunAction n)} (forward : ∀ action ∈ actions, Forward action)
    (ran : Transition.run (step scale clustersPerCarrier devices) (start devices tracker) actions = some s) :
    ∃ later final run, (∀ action ∈ later, Forward action) ∧
      Transition.run (step scale clustersPerCarrier devices) s later = some final ∧
      final.phase = .returned run := by
  have kept : ∀ state action next,
      Invariant True scale clustersPerCarrier devices state ∧ Unharmed state.phase → Forward action →
      step scale clustersPerCarrier devices state action = some next →
      Invariant True scale clustersPerCarrier devices next ∧ Unharmed next.phase := by
    intro state action next held allowed stepped
    refine ⟨held.1.step participate (fun _ => ?_) stepped,
      unharmed_step participate held.1 held.2 allowed stepped⟩
    rintro rfl
    exact allowed
  -- No device refuses to start, so the run waits for the take-off.
  have started : ¬∃ i, (devices i).Refuses := fun ⟨i, refuses⟩ => (finish i).1 refuses
  have fresh : Unharmed (start devices tracker).phase := by simp [start, started, Unharmed]
  have reached := Transition.run_preserves kept actions _ s
    ⟨invariant_start participate made, fresh⟩ (Transition.meets_allowed forward) ran
  obtain ⟨later, final, allowed, ran', -, run, returned⟩ :=
    Transition.run_reaches distance (run_advances participate finish) s reached
  exact ⟨later, final, run, allowed, ran', returned⟩

/--
A run can be returned just where every device starts it and announces its take-off and its end.

If all do, every run that has met no timeout and no cancellation can still be brought to its end;
if one does not, no run is ever returned, whatever is cancelled.
-/
theorem run_returns (scale : SampleScale) (clustersPerCarrier : List (List (List UInt8) × Nat))
    (participate : Participate devices) {tracker : DistributedRunState}
    (made : DistributedRunState.init {} (involvedPaths devices) = .ok tracker) :
    ((∀ i, Finishes (devices i).stage) → ∀ actions s, (∀ action ∈ actions, Forward action) →
      Transition.run (step scale clustersPerCarrier devices) (start devices tracker) actions = some s →
      ∃ later final run, (∀ action ∈ later, Forward action) ∧
        Transition.run (step scale clustersPerCarrier devices) s later = some final ∧
        final.phase = .returned run) ∧
    ((∃ i, ¬Finishes (devices i).stage) → ∀ actions s run,
      Transition.run (step scale clustersPerCarrier devices) (start devices tracker) actions = some s →
      s.phase ≠ .returned run) := by
  constructor
  · intro finish actions s forward ran
    exact forward_run_returns scale clustersPerCarrier participate finish made forward ran
  · rintro ⟨i, fails⟩ actions s run ran returned
    -- A run that is returned has landed on all devices, also where the last sweep was cut short.
    have reached : Invariant False scale clustersPerCarrier devices s :=
      invariant_reached participate made (fun _ _ => False.elim) ran
    obtain ⟨heard, called, drained, follows, phase⟩ := reached
    simp only [PhaseHolds, returned] at phase
    exact fails (follows.finishes phase.1 i)

/-- Two devices with one carrier each; the second one has this error stage. -/
def pairDevices (stage : ErrorStage) (i : Fin 2) : RunDevice :=
  let carriers := if i.val = 0 then pairCarriers.take 1 else pairCarriers.drop 1
  { paths := carriers.map fun carrier => [carrier.1]
    stage := if i.val = 0 then .none else stage
    carriers
    finals := carriers.map fun carrier => (carrier.1, ⟨carrier.2.numChannels, 1, fun _ _ => 0⟩) }

/-- They can take part in a run, if they send all of their samples. -/
theorem pairDevices_participate {stage : ErrorStage} (whole : stage ≠ .fewerSamples) :
    Participate (pairDevices stage) where
  some_ := by decide
  tracked i := by
    fin_cases i <;> simp [pairDevices, pairCarriers]
  carriers i := by
    fin_cases i <;> simp [pairDevices, pairCarriers]
  sendable := by
    -- What the stage drops are announcements, not samples.
    have same : allSamples (pairDevices stage) = sent .none pairCarriers := by
      cases stage <;> first | rfl | exact absurd rfl whole
    rw [same]
    exact pairCarriers_sendable
  finals i := by
    fin_cases i <;> simp [pairDevices, pairCarriers]

/-- The tracker of their run. -/
theorem pairDevices_tracked (stage : ErrorStage) :
    ∃ tracker, DistributedRunState.init {} (involvedPaths (pairDevices stage)) = .ok tracker :=
  ⟨_, rfl⟩

/-- Two devices that finish let a run return; one that refuses it or reports no end does not. -/
theorem run_returns_pair :
    (∃ tracker, ∃ later final run,
      Transition.run (step unitScale [] (pairDevices .none)) (start (pairDevices .none) tracker) later =
        some final ∧ final.phase = .returned run) ∧
    ∀ stage ∈ [ErrorStage.dropDoneState, .atStartRun], ∃ tracker, ∀ actions s run,
      Transition.run (step unitScale [] (pairDevices stage)) (start (pairDevices stage) tracker)
        actions = some s → s.phase ≠ .returned run := by
  obtain ⟨tracker, made⟩ := pairDevices_tracked .none
  have finish : ∀ i, Finishes (pairDevices .none i).stage := by
    intro i
    fin_cases i <;> simp [pairDevices, Finishes]
  obtain ⟨later, final, run, -, ran, returned⟩ :=
    (run_returns unitScale [] (pairDevices_participate (by decide)) made).1 finish [] _ (by simp) rfl
  refine ⟨⟨tracker, later, final, run, ran, returned⟩, fun stage listed => ?_⟩
  obtain ⟨tracker', made'⟩ := pairDevices_tracked stage
  have whole : stage ≠ .fewerSamples := by rintro rfl; simp at listed
  -- The second device never says that it is done.
  have fails : ¬Finishes (pairDevices stage 1).stage := by
    rcases List.mem_pair.mp listed with rfl | rfl <;> simp [pairDevices, Finishes]
  exact ⟨tracker', (run_returns unitScale [] (pairDevices_participate whole) made').2 ⟨1, fails⟩⟩

/--
A run that is returned has everything its devices have sent.

Whatever the interleaving of sending, receiving, calling back, draining and waiting was, nothing is
left on the way, the run is done, and its data hold every sample of every carrier in its order.
-/
theorem returned_run_complete (scale : SampleScale)
    (clustersPerCarrier : List (List (List UInt8) × Nat)) (participate : Participate devices)
    {tracker : DistributedRunState}
    (made : DistributedRunState.init {} (involvedPaths devices) = .ok tracker)
    {actions : List (RunAction n)} (uncancelled : ∀ action ∈ actions, action ≠ .cancel)
    (ran : Transition.run (step scale clustersPerCarrier devices) (start devices tracker) actions = some s)
    {run : RunData UInt64} (returned : s.phase = .returned run) :
    s.tracker.run.state = .done ∧
    (∀ i, s.toSend i = [] ∧ s.onWire i = [] ∧ (s.sinks i).queue = []) ∧
    ∃ order : List (String × SampleArray), order.Perm (allSamples devices) ∧
      run.data = (List.range (maxChannels order)).map fun channel =>
        some (channelData scale order channel) := by
  -- The run is not cancelled, so the last sweep has gone over all connections.
  have reached : Invariant True scale clustersPerCarrier devices s :=
    invariant_reached participate made (fun action listed _ => uncancelled action listed) ran
  obtain ⟨heard, called, drained, follows, phase⟩ := reached
  simp only [PhaseHolds, returned] at phase
  obtain ⟨landed, swept, assembled⟩ := phase
  have empty := swept trivial
  obtain ⟨order, final, sorted, assembled', data⟩ :=
    follows.assembled participate landed empty clustersPerCarrier
  rw [assembled] at assembled'
  cases assembled'
  refine ⟨follows.run_done landed, fun i => ?_, order, sorted, data⟩
  obtain ⟨onWire, toSend⟩ := follows.complete (landed i).2
  exact ⟨toSend, onWire, empty i⟩

/-- Two devices give a run that is returned, with the three channels of its two carriers. -/
theorem returned_run_complete_pair :
    ∃ (tracker : DistributedRunState) (actions : List (RunAction 2)) (s : RunSession 2) (run : RunData UInt64),
      Transition.run (step unitScale [] (pairDevices .none)) (start (pairDevices .none) tracker) actions =
        some s ∧ s.phase = .returned run ∧ s.tracker.run.state = .done ∧
      ∃ order : List (String × SampleArray), order.Perm (allSamples (pairDevices .none)) ∧
        run.data.length = maxChannels order := by
  obtain ⟨tracker, made⟩ := pairDevices_tracked .none
  have participate : Participate (pairDevices .none) := pairDevices_participate (by decide)
  have finish : ∀ i, Finishes (pairDevices .none i).stage := by
    intro i
    fin_cases i <;> simp [pairDevices, Finishes]
  obtain ⟨actions, s, run, forward, ran, returned⟩ := forward_run_returns unitScale []
    participate finish made (List.forall_mem_nil _) rfl
  -- A forward run never cancels the pause.
  have uncancelled : ∀ action ∈ actions, action ≠ .cancel := by
    rintro action member rfl
    exact forward _ member
  obtain ⟨done, -, order, sorted, data⟩ :=
    returned_run_complete unitScale [] participate made uncancelled ran returned
  exact ⟨tracker, actions, s, run, ran, returned, done, order, sorted, by rw [data]; simp⟩

end RunSession
end Pybrid.Mock
