import Pybrid.Library.Transition

/-! The blocking receive of the TCP transport against the io thread, under the control channel's loop. -/

namespace Pybrid

/-- What a call of `recv` reports. -/
inductive RecvOutcome where
  | success (message : List UInt8)
  | timeout
  | disconnected
  deriving DecidableEq, Repr

/-- The next statement of the consumer, which calls `recv` with a positive timeout in a loop. -/
inductive RecvPoint where
  /-- The non-blocking look at the queue on entry. -/
  | firstGet
  /-- The test of `connected_` before the wait is set up. -/
  | testConnected
  /-- The condition of the wait loop. -/
  | testLoop
  /-- The look at the queue inside the wait loop. -/
  | loopGet
  /-- Blocked on the condition variable. -/
  | waiting
  /-- The last look at the queue after the deadline. -/
  | timeoutGet
  /-- `recv` has returned to the receive loop. -/
  | returned (outcome : RecvOutcome)
  /-- The receive loop has ended. -/
  | stopped
  deriving DecidableEq, Repr

/-- The state shared by the io thread and the consumer. -/
structure RecvState where
  recvQueue : List (List UInt8)
  running : Bool
  connected : Bool
  point : RecvPoint
  /-- Every complete message enqueued so far. -/
  received : List (List UInt8)
  /-- The messages the receive loop went on to parse and process. -/
  handled : List (List UInt8)
  /-- The receive loop has failed the pending requests. -/
  pendingFailed : Bool
  deriving DecidableEq, Repr

/-- Atomic steps of the two threads. -/
inductive RecvAction where
  /-- The io thread enqueues a complete message. -/
  | enqueue (message : List UInt8)
  /-- The io thread clears `connected_`. -/
  | disconnect
  /-- The io thread notifies the condition variable. -/
  | notify
  /-- The consumer executes its next statement. -/
  | consume
  /-- The wait ends before the deadline, notified or spuriously. -/
  | wake
  /-- The wait reaches the deadline. -/
  | expire
  deriving DecidableEq, Repr

/-- The consumer looks at the queue before it looks at `connected_` again. -/
def RecvPoint.pollsQueue : RecvPoint → Bool
  | .firstGet | .loopGet | .timeoutGet | .returned .timeout | .returned (.success _) => true
  | .testConnected | .testLoop | .waiting | .returned .disconnected | .stopped => false

/-- The message `recv` has returned and the receive loop has not processed yet. -/
def RecvPoint.inHand : RecvPoint → List (List UInt8)
  | .returned (.success message) => [message]
  | _ => []

namespace RecvState

/-- A connected transport with an empty queue, and a receive loop about to call `recv`. -/
def initial : RecvState where
  recvQueue := []
  running := true
  connected := true
  point := .firstGet
  received := []
  handled := []
  pendingFailed := false

/-- Take the oldest message, or go on to the given point when there is none. -/
def get (s : RecvState) (otherwise : RecvPoint) : RecvState :=
  match s.recvQueue with
  | message :: rest => { s with recvQueue := rest, point := .returned (.success message) }
  | [] => { s with point := otherwise }

/-- The consumer's next statement; a blocked or finished consumer has none. -/
def consume (s : RecvState) : Option RecvState :=
  match s.point with
  | .firstGet => some (s.get .testConnected)
  | .testConnected =>
    some { s with point := if s.connected then .testLoop else .returned .disconnected }
  | .testLoop =>
    some { s with point :=
      if s.running && s.connected then .loopGet else .returned .disconnected }
  | .loopGet => some (s.get .waiting)
  | .timeoutGet => some (s.get (.returned .timeout))
  | .returned .timeout => some { s with point := .firstGet }
  | .returned (.success message) =>
    -- Only a message with at least one byte is parsed and processed.
    some { s with
      point := .firstGet
      handled := if message = [] then s.handled else s.handled ++ [message] }
  | .returned .disconnected => some { s with point := .stopped, pendingFailed := true }
  | .waiting => none
  | .stopped => none

/-- One atomic step. -/
def step (s : RecvState) : RecvAction → Option RecvState
  | .enqueue message =>
    -- Clearing the flag is the io thread's last step on a connection.
    if s.connected then
      some { s with recvQueue := s.recvQueue ++ [message], received := s.received ++ [message] }
    else none
  | .disconnect => if s.connected then some { s with connected := false } else none
  -- A wait can also end without a notification, so that nothing depends on this step.
  | .notify => some s
  | .consume => s.consume
  | .wake => if s.point = .waiting then some { s with point := .testLoop } else none
  | .expire => if s.point = .waiting then some { s with point := .timeoutGet } else none

/-- The messages the receive loop parses, which have at least one byte. -/
def parsed (messages : List (List UInt8)) : List (List UInt8) :=
  -- Empty messages are consumed without being handed on.
  messages.filter fun message => decide (message ≠ [])

/--
What holds while no disconnect overtakes a queued message.

A queued message is never behind the consumer's back once the connection is gone, and no
message is handled twice or out of order.
-/
structure Delivers (s : RecvState) : Prop where
  running : s.running = true
  ahead : s.connected = false → s.recvQueue = [] ∨ s.point.pollsQueue = true
  reported : s.point = .returned .disconnected ∨ s.point = .stopped → s.connected = false
  failed : s.pendingFailed = true → s.point = .stopped
  accounted : parsed s.received = s.handled ++ parsed (s.point.inHand ++ s.recvQueue)

/-- The connection flag is cleared only when the consumer's next look is at the queue, or finds it empty. -/
def SafeDisconnect (s : RecvState) (action : RecvAction) : Prop :=
  -- Nothing is asked of the other actions.
  action = .disconnect → s.recvQueue = [] ∨ s.point.pollsQueue = true

/-- A look at the queue either takes its oldest message or finds it empty. -/
theorem Delivers.get {s : RecvState} (delivers : s.Delivers) (idle : s.point.inHand = [])
    (open_ : s.pendingFailed = false) {otherwise : RecvPoint} (bare : otherwise.inHand = [])
    (alive : otherwise ≠ .returned .disconnected ∧ otherwise ≠ .stopped) :
    (s.get otherwise).Delivers := by
  -- A message moves from the front of the queue into the consumer's hand, and nothing else changes.
  obtain ⟨running, ahead, reported, failed, accounted⟩ := delivers
  rw [idle] at accounted
  unfold RecvState.get
  split
  · rename_i message rest queued
    exact ⟨running, fun _ => .inr rfl, by simp, by simp [open_],
      by simpa [RecvPoint.inHand, queued] using accounted⟩
  · rename_i empty
    exact ⟨running, fun _ => .inl empty, by simp [alive], by simp [open_],
      by simpa [bare, empty] using accounted⟩

/-- Every consumer statement keeps the account. -/
theorem Delivers.consume {s next : RecvState} (delivers : s.Delivers)
    (stepped : s.consume = some next) : next.Delivers := by
  obtain ⟨running, ahead, reported, failed, accounted⟩ := id delivers
  -- Pending requests are only failed by the loop's last statement.
  have open_ : s.point ≠ .stopped → s.pendingFailed = false := by
    intro active
    by_contra flagged
    exact active (failed (by simpa using flagged))
  unfold RecvState.consume at stepped
  split at stepped
  -- The first look takes a message, or leads to the test of the connection.
  case h_1 point =>
    rw [← Option.some.inj stepped]
    exact delivers.get (by simp [point, RecvPoint.inHand]) (open_ (by simp [point])) rfl (by simp)
  -- With the connection gone, the queue is empty here, because this point is behind a look at it.
  case h_2 point =>
    rw [← Option.some.inj stepped]
    refine ⟨running, fun gone => ?_, ?_, by simp [open_, point], ?_⟩
    · exact (ahead gone).imp_right (by simp [point, RecvPoint.pollsQueue])
    · cases linked : s.connected <;> simp
    · cases linked : s.connected <;> simpa [linked, point, RecvPoint.inHand] using accounted
  -- The wait loop tests the same flag again.
  case h_3 point =>
    rw [← Option.some.inj stepped]
    refine ⟨running, fun gone => ?_, ?_, by simp [open_, point], ?_⟩
    · exact (ahead gone).imp_right (by simp [point, RecvPoint.pollsQueue])
    · cases linked : s.connected <;> simp [running]
    · cases linked : s.connected <;> simpa [linked, running, point, RecvPoint.inHand] using accounted
  case h_4 point =>
    rw [← Option.some.inj stepped]
    exact delivers.get (by simp [point, RecvPoint.inHand]) (open_ (by simp [point])) rfl (by simp)
  case h_5 point =>
    rw [← Option.some.inj stepped]
    exact delivers.get (by simp [point, RecvPoint.inHand]) (open_ (by simp [point])) rfl (by simp)
  -- The receive loop calls again, and the next call starts with a look at the queue.
  case h_6 point =>
    rw [← Option.some.inj stepped]
    exact ⟨running, fun _ => .inr rfl, by simp, by simp [open_, point],
      by simpa [point, RecvPoint.inHand] using accounted⟩
  -- The message in hand moves to the handled ones, unless it is empty.
  case h_7 message point =>
    rw [← Option.some.inj stepped]
    refine ⟨running, fun _ => .inr rfl, by simp, by simp [open_, point], ?_⟩
    by_cases empty : message = [] <;>
      simpa [point, RecvPoint.inHand, parsed, empty] using accounted
  -- The receive loop ends, and fails the pending requests.
  case h_8 point =>
    rw [← Option.some.inj stepped]
    have gone := reported (.inl point)
    refine ⟨running, fun _ => ?_, fun _ => gone, fun _ => rfl, ?_⟩
    · exact (ahead gone).imp_right (by simp [point, RecvPoint.pollsQueue])
    · simpa [point, RecvPoint.inHand] using accounted
  -- A blocked or finished consumer has no statement to execute.
  case h_9 => simp at stepped
  case h_10 => simp at stepped

/-- Every step that is not an overtaking disconnect keeps the account. -/
theorem Delivers.step {s next : RecvState} {action : RecvAction} (delivers : s.Delivers)
    (safe : SafeDisconnect s action) (stepped : s.step action = some next) : next.Delivers := by
  -- The io thread and the clock act at any point of the consumer, so each action stands for itself.
  obtain ⟨running, ahead, reported, failed, accounted⟩ := id delivers
  cases action with
  | enqueue message =>
    simp only [RecvState.step] at stepped
    split at stepped
    · -- While the connection is up, no disconnect has been reported yet.
      rename_i linked
      rw [← Option.some.inj stepped]
      refine ⟨running, by simp [linked], fun ended => ?_, failed, ?_⟩
      · exact absurd (reported ended) (by simp [linked])
      · simp only [parsed, List.filter_append] at accounted ⊢
        rw [accounted]
        simp
    · simp at stepped
  | disconnect =>
    simp only [RecvState.step] at stepped
    split at stepped
    · -- This is the one action the condition speaks about.
      rw [← Option.some.inj stepped]
      exact ⟨running, fun _ => safe rfl, fun _ => rfl, failed, accounted⟩
    · simp at stepped
  | notify =>
    simp only [RecvState.step, Option.some.injEq] at stepped
    exact stepped ▸ delivers
  | consume => exact delivers.consume stepped
  | wake =>
    simp only [RecvState.step] at stepped
    split at stepped
    · rename_i point
      rw [← Option.some.inj stepped]
      refine ⟨running, fun gone => ?_, by simp, fun flagged => ?_, ?_⟩
      · exact (ahead gone).imp_right (by simp [point, RecvPoint.pollsQueue])
      · exact absurd (failed flagged) (by simp [point])
      · simpa [point, RecvPoint.inHand] using accounted
    · simp at stepped
  | expire =>
    simp only [RecvState.step] at stepped
    split at stepped
    · rename_i point
      rw [← Option.some.inj stepped]
      refine ⟨running, fun _ => .inr rfl, by simp, fun flagged => ?_, ?_⟩
      · exact absurd (failed flagged) (by simp [point])
      · simpa [point, RecvPoint.inHand] using accounted
    · simp at stepped

/-- The initial state has nothing to account for. -/
theorem initial_delivers : initial.Delivers :=
  -- The connection is up and nothing was received.
  ⟨rfl, by simp [initial], by simp [initial], by simp [initial], rfl⟩

/--
No received message is lost when no disconnect overtakes a queued one.

In every run whose disconnects are safe, `recv` reports a disconnect only with an empty queue, and
the pending requests are failed only after every received message has been handled.
-/
theorem disconnect_reported_empty (actions : List RecvAction) (final : RecvState)
    (safe : Transition.Meets step SafeDisconnect initial actions)
    (ran : Transition.run step initial actions = some final) :
    (final.point = .returned .disconnected → final.recvQueue = []) ∧
    (final.pendingFailed = true → final.handled = parsed final.received) := by
  have delivers : final.Delivers := Transition.run_preserves
    (fun _ _ _ held condition stepped => held.step condition stepped)
    actions initial final initial_delivers safe ran
  -- At both points the connection is gone and the consumer does not look at the queue again.
  refine ⟨fun point => ?_, fun flagged => ?_⟩
  · exact (delivers.ahead (delivers.reported (.inl point))).resolve_right
      (by simp [point, RecvPoint.pollsQueue])
  · have point := delivers.failed flagged
    have empty := (delivers.ahead (delivers.reported (.inr point))).resolve_right
      (by simp [point, RecvPoint.pollsQueue])
    simpa [point, RecvPoint.inHand, empty, parsed] using delivers.accounted.symm

/--
A response that arrives between the two looks of `recv` is lost with the connection.

The disconnect is reported while the response is queued, and the pending requests are failed
without it ever being handled.
-/
theorem disconnect_overtakes_response :
    (∃ reported, Transition.run step initial [.consume, .enqueue [1], .disconnect, .consume] =
        some reported ∧ reported.point = .returned .disconnected ∧ reported.recvQueue = [[1]]) ∧
    ∃ final, Transition.run step initial
        [.consume, .enqueue [1], .disconnect, .consume, .consume] = some final ∧
        final.pendingFailed = true ∧ final.received = [[1]] ∧ final.handled = [] :=
  -- The first look finds nothing, then the response and the disconnect come in before the test.
  ⟨⟨_, rfl, rfl, rfl⟩, _, rfl, rfl, rfl, rfl⟩

/-- A response enqueued before the next call of `recv` is handled although the peer closes. -/
theorem disconnect_after_delivery :
    ∃ final, Transition.run step initial
        [.enqueue [1], .disconnect, .consume, .consume, .consume, .consume, .consume] =
        some final ∧ final.pendingFailed = true ∧ final.handled = parsed final.received := by
  -- The disconnect comes before the first look, which finds the message.
  refine ⟨_, rfl, rfl, (disconnect_reported_empty
    [.enqueue [1], .disconnect, .consume, .consume, .consume, .consume, .consume] _ ?_ rfl).2 rfl⟩
  simp [Transition.Meets, SafeDisconnect, step, initial, RecvPoint.pollsQueue]

end RecvState

end Pybrid
