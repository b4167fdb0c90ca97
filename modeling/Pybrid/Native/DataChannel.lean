import Pybrid.Native.Message
import Pybrid.Native.TcpRecv

/-! The receive loops of a data channel, over UDP and over TCP. -/

namespace Pybrid

/-- A message about the connection itself. -/
inductive GenericMessage where
  | pingCommand
  | pingResponse
  /-- No kind is set. -/
  | unset
  deriving DecidableEq, Repr

/-- The envelope around everything that is sent; at most one of its two contents is set. -/
inductive Envelope where
  | generic (message : GenericMessage)
  | messageV1 (message : MessageV1)
  /-- Neither content is set. -/
  | empty
  deriving DecidableEq, Repr

/-- The generated parsers and serializers the channels call. -/
structure Protobuf where
  /-- `Envelope::ParseFromArray`, failing on malformed bytes. -/
  parseEnvelope : List UInt8 → Option Envelope
  /-- `MessageV1::ParseFromArray`, failing on malformed bytes. -/
  parseMessage : List UInt8 → Option MessageV1
  /-- `Envelope::SerializeToString` of an envelope that holds this message. -/
  serializeMessage : MessageV1 → List UInt8

/-- What a data channel is given before it starts, and what its subclass adds. -/
structure DataChannelHooks (ε σ : Type) where
  /-- `is_data_message` of the subclass. -/
  isDataMessage : MessageV1 → Bool
  /-- `handle_data_message` of the subclass. -/
  handleDataMessage : MessageV1 → σ → Except ε σ
  /-- `m_error_callback`. -/
  onError : String → σ → σ
  /-- `m_state_callback`. -/
  onRunStateChange : RunState → σ → σ
  /-- `m_control_response_callback`, which is given the bytes of an envelope. -/
  onControlResponse : List UInt8 → σ → σ

/-- The run state a data channel has seen last, and what its hooks have done. -/
structure DataChannelState (σ : Type) where
  runState : RunState
  hooks : σ
  deriving DecidableEq, Repr

namespace DataChannel

variable {ε σ : Type}

/-- Messages every data channel treats as data. -/
def isDataMessage (message : MessageV1) : Bool :=
  match message.kind with
  | some (.runData _) | some (.runDataEnd _) => true
  | _ => false

/-- The forwarding subclass takes state changes for data as well. -/
def forwardingIsDataMessage (message : MessageV1) : Bool :=
  match message.kind with
  | some (.runData _) | some (.runDataEnd _) | some (.runStateChange _) => true
  | _ => false

/-- Tell the error callback. -/
def report (h : DataChannelHooks ε σ) (what : String) (s : DataChannelState σ) :
    DataChannelState σ :=
  { s with hooks := h.onError what s.hooks }

/-- Remember a run state, and tell the state callback when it is another one. -/
def updateRunState (h : DataChannelHooks ε σ) (newState : RunState) (s : DataChannelState σ) :
    DataChannelState σ :=
  { runState := newState
    hooks := if s.runState = newState then s.hooks else h.onRunStateChange newState s.hooks }

/-- The run state of a state change message is remembered, whether it is data or not. -/
def noteRunState (h : DataChannelHooks ε σ) (message : MessageV1) (s : DataChannelState σ) :
    DataChannelState σ :=
  match message.kind with
  | some (.runStateChange newState) => updateRunState h newState s
  | _ => s

/-- Handle a message: data goes to the subclass, anything else back to the control channel. -/
def handleMessage (h : DataChannelHooks ε σ) (response : List UInt8) (message : MessageV1)
    (s : DataChannelState σ) : Except ε (DataChannelState σ) :=
  let noted := noteRunState h message s
  if h.isDataMessage message then
    -- There is no handler around this call: what the subclass raises ends the loop.
    (h.handleDataMessage message noted.hooks).map fun hooks => { noted with hooks }
  else .ok { noted with hooks := h.onControlResponse response noted.hooks }

/-- The loop over TCP; the sequence ends where the channel is stopped. -/
def tcpReceiveLoop (pb : Protobuf) (h : DataChannelHooks ε σ) :
    List RecvOutcome → DataChannelState σ → Except ε (DataChannelState σ)
  | [], s => .ok s
  | .timeout :: later, s => tcpReceiveLoop pb h later s
  | .disconnected :: _, s => .ok (report h "TCP connection closed during data streaming" s)
  | .success [] :: later, s => tcpReceiveLoop pb h later s
  | .success (byte :: bytes) :: later, s =>
    match pb.parseEnvelope (byte :: bytes) with
    | none => tcpReceiveLoop pb h later (report h "Failed to parse TCP Envelope" s)
    | some (.messageV1 message) =>
      -- The response callback is given the bytes as they were received.
      (handleMessage h (byte :: bytes) message s).bind (tcpReceiveLoop pb h later)
    | some _ => tcpReceiveLoop pb h later s

/-- Go on over TCP after the device has refused UDP at run time. -/
def fallbackToTcp (pb : Protobuf) (h : DataChannelHooks ε σ) (requireUdp : Bool)
    (tcp : Option (List RecvOutcome)) (s : DataChannelState σ) :
    Except ε (DataChannelState σ) :=
  if requireUdp then .ok (report h "UDP streaming refused at runtime and require_udp is set" s)
  else
    match tcp with
    | none => .ok (report h "UDP streaming refused and no TCP fallback configured" s)
    | some outcomes => tcpReceiveLoop pb h outcomes s

/-- A datagram is an envelope around a message, or a bare message. -/
def parseDatagram (pb : Protobuf) (datagram : List UInt8) : Option MessageV1 :=
  match pb.parseEnvelope datagram with
  | some (.messageV1 message) => some message
  | _ => pb.parseMessage datagram

/-- The loop over UDP, with what TCP would deliver after a refusal. -/
def udpReceiveLoop (pb : Protobuf) (h : DataChannelHooks ε σ) (requireUdp : Bool)
    (tcp : Option (List RecvOutcome)) :
    List RecvOutcome → DataChannelState σ → Except ε (DataChannelState σ)
  | [], s => .ok s
  | .timeout :: later, s => udpReceiveLoop pb h requireUdp tcp later s
  | .disconnected :: _, s => .ok s
  | .success [] :: later, s => udpReceiveLoop pb h requireUdp tcp later s
  | .success (byte :: bytes) :: later, s =>
    match parseDatagram pb (byte :: bytes) with
    | none =>
      udpReceiveLoop pb h requireUdp tcp later (report h "Failed to parse UDP message as protobuf" s)
    | some message =>
      if message.kind = some .udpDataStreamingRefused then fallbackToTcp pb h requireUdp tcp s
      else
        -- The message is wrapped anew for the response callback.
        (handleMessage h (pb.serializeMessage message) message s).bind
          (udpReceiveLoop pb h requireUdp tcp later)

/-- The data messages the loop over TCP comes to. -/
def tcpDataMessages (pb : Protobuf) (isData : MessageV1 → Bool) : List RecvOutcome → List MessageV1
  -- A lost connection ends the loop, whatever the sequence goes on with.
  | [] | .disconnected :: _ => []
  | .timeout :: later | .success [] :: later => tcpDataMessages pb isData later
  | .success (byte :: bytes) :: later =>
    match pb.parseEnvelope (byte :: bytes) with
    | some (.messageV1 message) =>
      if isData message then message :: tcpDataMessages pb isData later
      else tcpDataMessages pb isData later
    | _ => tcpDataMessages pb isData later

/-- The data messages the loop over UDP comes to, those over TCP after a refusal included. -/
def udpDataMessages (pb : Protobuf) (isData : MessageV1 → Bool) (requireUdp : Bool)
    (tcp : Option (List RecvOutcome)) : List RecvOutcome → List MessageV1
  | [] | .disconnected :: _ => []
  | .timeout :: later | .success [] :: later => udpDataMessages pb isData requireUdp tcp later
  | .success (byte :: bytes) :: later =>
    match parseDatagram pb (byte :: bytes) with
    | none => udpDataMessages pb isData requireUdp tcp later
    | some message =>
      if message.kind = some .udpDataStreamingRefused then
        if requireUdp then [] else tcpDataMessages pb isData (tcp.getD [])
      else if isData message then message :: udpDataMessages pb isData requireUdp tcp later
      else udpDataMessages pb isData requireUdp tcp later

section Returns

variable {pb : Protobuf} {h : DataChannelHooks ε σ} {Accepts : MessageV1 → Prop}

/-- Handling a message returns exactly when it is no data, or data the subclass accepts. -/
theorem handleMessage_returns_iff
    (decides : ∀ message s, (∃ s', h.handleDataMessage message s = .ok s') ↔ Accepts message)
    (response : List UInt8) (message : MessageV1) (s : DataChannelState σ) :
    (∃ s', handleMessage h response message s = .ok s') ↔
      (h.isDataMessage message = true → Accepts message) := by
  -- Only the subclass raises, and what it raises is passed on.
  unfold handleMessage
  cases data : h.isDataMessage message with
  | false => simp
  | true =>
    rw [← decides message (noteRunState h message s).hooks]
    cases handled : h.handleDataMessage message (noteRunState h message s).hooks <;>
      simp [Except.map, handled]

/-- Handling a message and going on returns when the message is accepted and the rest returns. -/
theorem handleMessage_bind_returns_iff
    (decides : ∀ message s, (∃ s', h.handleDataMessage message s = .ok s') ↔ Accepts message)
    (response : List UInt8) (message : MessageV1) (s : DataChannelState σ)
    {later : DataChannelState σ → Except ε (DataChannelState σ)} {Rest : Prop}
    (rest : ∀ s, (∃ s', later s = .ok s') ↔ Rest) :
    (∃ s', (handleMessage h response message s).bind later = .ok s') ↔
      (h.isDataMessage message = true → Accepts message) ∧ Rest := by
  rw [← handleMessage_returns_iff decides response message s]
  cases handled : handleMessage h response message s with
  | error raised => simp [Except.bind]
  | ok s' => simp [Except.bind, rest s']

/-- The loop over TCP returns exactly when the subclass accepts every data message it comes to. -/
theorem tcpReceiveLoop_returns_iff
    (decides : ∀ message s, (∃ s', h.handleDataMessage message s = .ok s') ↔ Accepts message)
    (outcomes : List RecvOutcome) :
    ∀ s, (∃ s', tcpReceiveLoop pb h outcomes s = .ok s') ↔
      ∀ message ∈ tcpDataMessages pb h.isDataMessage outcomes, Accepts message := by
  -- The induction is on what the transport still delivers.
  induction outcomes using tcpDataMessages.induct pb h.isDataMessage with
  | case1 => simp [tcpReceiveLoop, tcpDataMessages]
  | case2 later => simp [tcpReceiveLoop, tcpDataMessages]
  | case3 later ih => simpa [tcpReceiveLoop, tcpDataMessages] using ih
  | case4 later ih => simpa [tcpReceiveLoop, tcpDataMessages] using ih
  | case5 byte bytes later message parsed data ih =>
    -- A data message, on whose acceptance the rest depends.
    intro s
    simp only [tcpReceiveLoop, tcpDataMessages, parsed]
    rw [handleMessage_bind_returns_iff decides _ message s ih]
    simp [data]
  | case6 byte bytes later message parsed data ih =>
    intro s
    simp only [tcpReceiveLoop, tcpDataMessages, parsed]
    rw [handleMessage_bind_returns_iff decides _ message s ih]
    simp [data]
  | case7 byte bytes later other ih =>
    -- Whatever else is received leads back into the loop.
    intro s
    cases parsed : pb.parseEnvelope (byte :: bytes) with
    | none => simpa [tcpReceiveLoop, tcpDataMessages, parsed] using ih _
    | some envelope =>
      cases envelope with
      | messageV1 message => exact absurd parsed (other message)
      | generic message => simpa [tcpReceiveLoop, tcpDataMessages, parsed] using ih s
      | empty => simpa [tcpReceiveLoop, tcpDataMessages, parsed] using ih s

/-- The loop over UDP returns exactly when the subclass accepts every data message it comes to. -/
theorem udpReceiveLoop_returns_iff
    (decides : ∀ message s, (∃ s', h.handleDataMessage message s = .ok s') ↔ Accepts message)
    (requireUdp : Bool) (tcp : Option (List RecvOutcome)) (outcomes : List RecvOutcome) :
    ∀ s, (∃ s', udpReceiveLoop pb h requireUdp tcp outcomes s = .ok s') ↔
      ∀ message ∈ udpDataMessages pb h.isDataMessage requireUdp tcp outcomes, Accepts message := by
  -- The induction is on what the socket still delivers; a refusal hands over to the other loop.
  induction outcomes using udpDataMessages.induct pb h.isDataMessage requireUdp with
  | case1 => simp [udpReceiveLoop, udpDataMessages]
  | case2 later => simp [udpReceiveLoop, udpDataMessages]
  | case3 later ih => simpa [udpReceiveLoop, udpDataMessages] using ih
  | case4 later ih => simpa [udpReceiveLoop, udpDataMessages] using ih
  | case5 byte bytes later parsed ih =>
    intro s
    simpa [udpReceiveLoop, udpDataMessages, parsed] using ih _
  | case6 byte bytes later message parsed refused required =>
    intro s
    simp [udpReceiveLoop, udpDataMessages, parsed, refused, required, fallbackToTcp]
  | case7 byte bytes later message parsed refused allowed =>
    -- The refusal ends this loop, and the other one goes on in the same thread.
    intro s
    simp only [udpReceiveLoop, udpDataMessages, parsed, refused, fallbackToTcp, ↓reduceIte,
      if_neg allowed]
    cases tcp with
    | none => simp [tcpDataMessages]
    | some outcomes => exact tcpReceiveLoop_returns_iff decides outcomes s
  | case8 byte bytes later message parsed served data ih =>
    intro s
    simp only [udpReceiveLoop, udpDataMessages, parsed, if_neg served]
    rw [handleMessage_bind_returns_iff decides _ message s ih]
    simp [data]
  | case9 byte bytes later message parsed served data ih =>
    intro s
    simp only [udpReceiveLoop, udpDataMessages, parsed, if_neg served]
    rw [handleMessage_bind_returns_iff decides _ message s ih]
    simp [data]

end Returns

end DataChannel

end Pybrid
