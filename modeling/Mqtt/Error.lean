/-!
# Error codes

`Error` is the library's only failure vocabulary. Functions that report success
through it return `Error.ok`; functions that produce a value return a `Result`.
-/

namespace Mqtt

/-- Every code an operation of the library can report. -/
inductive Error where
  | ok
  | wouldBlock
  | incomplete
  | invalidArgument
  | notConnected
  | alreadyConnected
  | notSupported
  | bufferTooSmall
  | txQueueFull
  | noInflightSlot
  | noSubscriptionSlot
  | noPendingAckSlot
  | payloadTooLarge
  | topicTooLong
  | malformedPacket
  | protocolViolation
  | packetTooLarge
  | connectionRefused
  | keepAliveTimeout
  | connectTimeout
  | transportFailure
  | transportClosed
  | reentrant
  deriving DecidableEq, Repr

/-- A value, or the code that says why there is none. -/
abbrev Result (α : Type) := Except Error α

/-- Raw bytes: topics, payloads, packets and stream contents. -/
abbrev Bytes := List UInt8

/-- Comparing byte strings decides whether they are equal. -/
instance : LawfulBEq Bytes := inferInstance

end Mqtt
