import Pybrid.Native.DataChannel

/-! The control side of a shared TCP stream, read by its own loop or by a data channel. -/

namespace Pybrid

/-- The field number of a payload, by which callbacks are registered. -/
def MessageKind.fieldNumber : MessageKind → Nat
  | .errorMessage _ => 101
  | .updateCommand _ => 219
  | .runStateChange _ => 305
  | .runData _ => 306
  | .runDataEnd _ => 307
  | .udpDataStreamingRefused => 316
  | .updateResponse _ => 318
  | .busyResponse => 502
  | .other fieldNumber => fieldNumber

/-- `get_kind_field_number`: zero for a message without a payload. -/
def MessageV1.kindFieldNumber (message : MessageV1) : Nat :=
  (message.kind.map MessageKind.fieldNumber).getD 0

/-- What a control channel does for its callers. -/
inductive ControlEffect where
  /-- A pending request is given its response. -/
  | resolved (id : String) (response : MessageV1)
  /-- The pending ping is answered. -/
  | pingResolved
  /-- The callback of the message's kind is invoked. -/
  | invoked (message : MessageV1)
  /-- A pending request is given an exception. -/
  | failed (id : String) (what : String)
  /-- The pending ping is given an exception. -/
  | pingFailed (what : String)
  deriving DecidableEq, Repr

/-- What the callers of a control channel wait for. -/
structure ControlEnd where
  /-- The identifiers in `pending_requests_`. -/
  pending : List String
  /-- A request without an identifier is refused, so that none is pending. -/
  named : "" ∉ pending
  /-- `pending_ping_` is set. -/
  pendingPing : Bool
  /-- The kinds with a registered callback. -/
  callbacks : Nat → Bool

namespace ControlEnd

/-- Forget a pending request. -/
def resolve (c : ControlEnd) (id : String) : ControlEnd :=
  { c with
    pending := c.pending.filter (· != id)
    named := fun member => c.named (List.mem_of_mem_filter member) }

/-- Invoke the callback of an unsolicited message, if it has a kind and the kind a callback. -/
def dispatchCallback (c : ControlEnd) (message : MessageV1) : List ControlEffect :=
  if message.kindFieldNumber = 0 then []
  else if c.callbacks message.kindFieldNumber then [.invoked message] else []

/-- Give a message to the request it answers, or to its callback. -/
def processMessage (c : ControlEnd) (message : MessageV1) : ControlEnd × List ControlEffect :=
  if message.id = "" then (c, c.dispatchCallback message)
  else if message.id ∈ c.pending then (c.resolve message.id, [.resolved message.id message])
  else (c, c.dispatchCallback message)

/-- What every pending request and the pending ping are given when the connection is lost. -/
def connectionClosed : String := "ControlChannel: TCP connection closed"

/-- Fail everything that is pending. -/
def failPending (c : ControlEnd) : List ControlEffect :=
  c.pending.map (.failed · connectionClosed) ++
    if c.pendingPing then [.pingFailed connectionClosed] else []

/-- The control channel's own loop, by what it does for the callers. -/
def recvLoop (pb : Protobuf) : List RecvOutcome → ControlEnd → List ControlEffect
  | [], _ => []
  | .timeout :: later, c => recvLoop pb later c
  | .disconnected :: _, c => c.failPending
  | .success [] :: later, c => recvLoop pb later c
  | .success (byte :: bytes) :: later, c =>
    match pb.parseEnvelope (byte :: bytes) with
    | some (.generic .pingResponse) =>
      if c.pendingPing then .pingResolved :: recvLoop pb later { c with pendingPing := false }
      else recvLoop pb later c
    | some (.messageV1 message) =>
      (c.processMessage message).2 ++ recvLoop pb later (c.processMessage message).1
    -- What does not parse, other generic messages and empty envelopes are skipped.
    | _ => recvLoop pb later c

/-- The effects without the callbacks for data messages. -/
def observed (isData : MessageV1 → Bool) (effects : List ControlEffect) : List ControlEffect :=
  effects.filter fun effect =>
    match effect with
    | .invoked message => !isData message
    | _ => true

/-- The message in a payload, if it holds one. -/
def payloadMessage (pb : Protobuf) (payload : List UInt8) : Option MessageV1 :=
  match payload with
  | [] => none
  | byte :: bytes =>
    match pb.parseEnvelope (byte :: bytes) with
    | some (.messageV1 message) => some message
    | _ => none

/--
Everything that is pending is answered within the stream.

No ping is pending, and the first message with the identifier of a pending request comes before the
connection is lost and is no data message.
-/
def AnsweredInStream (pb : Protobuf) (isData : MessageV1 → Bool) (payloads : List (List UInt8))
    (c : ControlEnd) : Prop :=
  c.pendingPing = false ∧ ∀ id ∈ c.pending, ∃ message,
    (payloads.filterMap (payloadMessage pb)).find? (·.id == id) = some message ∧
      isData message = false

/-- A message for nobody leaves the callers waiting. -/
theorem processMessage_of_unanswered {c : ControlEnd} {message : MessageV1}
    (nobody : message.id ∉ c.pending) :
    c.processMessage message = (c, c.dispatchCallback message) := by
  unfold processMessage
  -- With an id or without one, no call waits for it.
  simp only [if_neg nobody, ite_self]

/-- A message with the identifier of a pending request answers it. -/
theorem processMessage_of_pending {c : ControlEnd} {message : MessageV1}
    (waiting : message.id ∈ c.pending) :
    c.processMessage message = (c.resolve message.id, [.resolved message.id message]) := by
  -- No call waits for the empty id.
  have named : message.id ≠ "" := fun empty => c.named (empty ▸ waiting)
  unfold processMessage
  rw [if_neg named, if_pos waiting]

/-- A message leaves the pending ping alone, and answers the requests with its identifier. -/
theorem processMessage_fst (c : ControlEnd) (message : MessageV1) :
    (c.processMessage message).1.pendingPing = c.pendingPing ∧
      ∀ id, id ∈ (c.processMessage message).1.pending ↔ id ∈ c.pending ∧ id ≠ message.id := by
  by_cases waiting : message.id ∈ c.pending
  · rw [processMessage_of_pending waiting]
    exact ⟨rfl, by simp [resolve]⟩
  · rw [processMessage_of_unanswered waiting]
    refine ⟨rfl, fun id => ⟨fun member => ⟨member, ?_⟩, And.left⟩⟩
    intro same
    exact waiting (same ▸ member)

/-- An answered stream stays answered behind its first message. -/
theorem AnsweredInStream.later {pb : Protobuf} {isData : MessageV1 → Bool} {payload : List UInt8}
    {later : List (List UInt8)} {c : ControlEnd} {message : MessageV1}
    (answered : AnsweredInStream pb isData (payload :: later) c)
    (held : payloadMessage pb payload = some message) :
    AnsweredInStream pb isData later (c.processMessage message).1 := by
  obtain ⟨ping, requests⟩ := answered
  obtain ⟨samePing, waiting⟩ := processMessage_fst c message
  refine ⟨samePing.trans ping, fun id member => ?_⟩
  obtain ⟨member, other⟩ := (waiting id).mp member
  obtain ⟨response, found, noData⟩ := requests id member
  refine ⟨response, ?_, noData⟩
  -- The first message has another identifier, so the search goes on behind it.
  rw [List.filterMap_cons_some held, List.find?_cons_of_neg] at found
  · exact found
  · simpa using Ne.symm other

/-- In an answered stream, a data message has nobody's identifier. -/
theorem AnsweredInStream.nobody {pb : Protobuf} {isData : MessageV1 → Bool} {payload : List UInt8}
    {later : List (List UInt8)} {c : ControlEnd} {message : MessageV1}
    (answered : AnsweredInStream pb isData (payload :: later) c)
    (held : payloadMessage pb payload = some message) (data : isData message = true) :
    message.id ∉ c.pending := by
  intro waiting
  obtain ⟨response, found, noData⟩ := answered.2 message.id waiting
  rw [List.filterMap_cons_some held, List.find?_cons_of_pos (by simp)] at found
  cases found
  simp [data] at noData

end ControlEnd

end Pybrid
