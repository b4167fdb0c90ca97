import Mathlib

/-! The parts of the wire messages that the native channels and the proxy inspect. -/

namespace Pybrid

/-- The lifecycle states of a run, in wire order. -/
inductive RunState where
  | new
  | error
  | done
  | queued
  | takeOff
  | ic
  | op
  | opEnd
  | tmpHalt
  deriving DecidableEq, Repr

/-- One step of a firmware update, as sent to a device. -/
inductive UpdateCommand where
  /-- Announce an image of the given size and hash. -/
  | begin (size : UInt64) (hash : List UInt8)
  /-- Store one chunk of the image. -/
  | write (data : List UInt8) (offset : UInt64)
  /-- Apply the verified image and reboot. -/
  | commit
  /-- Give the update up. -/
  | abort
  /-- Compare the stored image with its hash. -/
  | verify
  /-- No step is set in the message. -/
  | unset
  deriving DecidableEq, Repr

/-- A device's answer to an update step. -/
inductive UpdateResponse where
  /-- The announced image is expected in chunks of at most this size. -/
  | ack (chunkSize : UInt64)
  /-- The step failed on the device. -/
  | failure (reason : String)
  /-- The step succeeded. -/
  | success
  /-- No outcome is set in the message. -/
  | unset
  deriving DecidableEq, Repr

/-- The payload of a message; payloads nothing here looks into are told apart by field number. -/
inductive MessageKind where
  | errorMessage (description : String)
  | busyResponse
  | updateCommand (command : UpdateCommand)
  | updateResponse (response : UpdateResponse)
  | runStateChange (state : RunState)
  | runData (payload : List UInt8)
  | runDataEnd (payload : List UInt8)
  | udpDataStreamingRefused
  | other (fieldNumber : Nat)
  deriving DecidableEq, Repr

/-- A version-one message: an optional identifier and an optional payload. -/
structure MessageV1 where
  /-- The identifier, empty in unsolicited messages. -/
  id : String
  /-- The payload, absent when none is set. -/
  kind : Option MessageKind
  deriving DecidableEq, Repr

namespace MessageV1

/-- The message carries an error payload. -/
def hasErrorMessage (message : MessageV1) : Bool :=
  -- A message without a payload is no error.
  match message.kind with
  | some (.errorMessage _) => true
  | _ => false

/-- The description of the error payload, empty without one. -/
def errorDescription (message : MessageV1) : String :=
  match message.kind with
  | some (.errorMessage description) => description
  -- As the generated accessor answers for another payload.
  | _ => ""

/-- The device asks for the request to be repeated later. -/
def hasBusyResponse (message : MessageV1) : Bool :=
  message.kind = some .busyResponse

/-- The update payload, an empty one when the message has none. -/
def updateResponse (message : MessageV1) : UpdateResponse :=
  match message.kind with
  | some (.updateResponse response) => response
  -- As the generated accessor answers for another payload.
  | _ => .unset

end MessageV1

/-- The acknowledged chunk size, zero when the response is no acknowledgement. -/
def UpdateResponse.chunkSize : UpdateResponse → UInt64
  | .ack chunkSize => chunkSize
  | _ => 0

end Pybrid
