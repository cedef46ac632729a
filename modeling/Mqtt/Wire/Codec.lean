import Mqtt.Library.BoundedWriter
import Mqtt.Wire.Packet
import Mqtt.Wire.Topic

/-!
# The codec

Encoders write a whole packet into a span and report its size. A failing encoder
leaves what it had already written in the span, so every encoder returns the
bytes it wrote next to its result. Decoders work on the remaining-length region
of one packet.

The byte stream reader and writer belong to a third-party library; they are
modelled as bounds-checked, big-endian and all-or-nothing per call.
-/

namespace Mqtt

open Library

/-- Largest value a two-byte string header can announce. -/
def kMaxStringLen : Nat := 65535

/-- Wire size of a length-prefixed string. -/
def utf8Size (length : Nat) : Nat := 2 + length

/-- Add to a remaining length, failing past the MQTT maximum. The sum is exact, as the 64-bit
sum of the source is for objects in memory; `checkedAdd64` is the one that can wrap. -/
def checkedAdd (error : Error) (total add : Nat) : Result Nat :=
  if total + add > kMaxRemainingLength then .error error else .ok (total + add)

/-- The check every encoder makes before it masks a QoS into two bits. -/
def validQos (qos : QoS) : Bool := qos.toByte ≤ 2

/-- A two-byte field in network order. -/
def u16Bytes (value : UInt16) : Bytes := [(value >>> 8).toUInt8, value.toUInt8]

/-- The value of a two-byte field. -/
def u16Value (high low : UInt8) : UInt16 := (high.toUInt16 <<< 8) ||| low.toUInt16

/-! ## Sizes -/

/-- The will's part of a CONNECT's remaining length. -/
def addWill (will : Will) (total : Nat) : Result Nat :=
  if will.valid then do
    if !validQos will.qos then throw .invalidArgument
    if will.topic.length > kMaxStringLen ∨ will.payload.length > kMaxStringLen then
      throw .invalidArgument
    if !isValidMqttString will.topic then throw .invalidArgument
    let total ← checkedAdd .invalidArgument total (utf8Size will.topic.length)
    checkedAdd .invalidArgument total (utf8Size will.payload.length)
  else pure total

/-- The username's part of a CONNECT's remaining length. -/
def addUsername (username : Bytes) (total : Nat) : Result Nat :=
  if !username.isEmpty then do
    if username.length > kMaxStringLen then throw .invalidArgument
    if !isValidMqttString username then throw .invalidArgument
    checkedAdd .invalidArgument total (utf8Size username.length)
  else pure total

/-- The password's part of a CONNECT's remaining length. -/
def addPassword (username password : Bytes) (total : Nat) : Result Nat :=
  if !password.isEmpty then do
    if username.isEmpty then throw .invalidArgument
    if password.length > kMaxStringLen then throw .invalidArgument
    checkedAdd .invalidArgument total (utf8Size password.length)
  else pure total

/-- Remaining length of the CONNECT packet these options produce. -/
def connectRemainingLength (opts : ConnectOptions) : Result Nat := do
  if opts.clientId.length > kMaxStringLen then throw .invalidArgument
  if !isValidMqttString opts.clientId then throw .invalidArgument
  let total ← checkedAdd .invalidArgument 0 (utf8Size 4 + 1 + 1 + 2)
  let total ← checkedAdd .invalidArgument total (utf8Size opts.clientId.length)
  let total ← addWill opts.will total
  let total ← addUsername opts.username total
  addPassword opts.username opts.password total

/-- Remaining length of a PUBLISH with this topic, payload size and QoS. -/
def publishRemainingLength (topic : Bytes) (payloadLen : Nat) (qos : QoS) : Result Nat := do
  if topic.isEmpty ∨ topic.length > kMaxStringLen then throw .invalidArgument
  if !validQos qos then throw .invalidArgument
  if !isValidMqttString topic then throw .invalidArgument
  let total ← checkedAdd .invalidArgument 0 (utf8Size topic.length)
  let total ← if qos ≠ .atMostOnce then checkedAdd .invalidArgument total 2 else pure total
  checkedAdd .payloadTooLarge total payloadLen

/-- One filter of a SUBSCRIBE or UNSUBSCRIBE, checked and added to the total. -/
def addFilter (total : Nat) (filter : Bytes) (qos : QoS) (extra : Nat) : Result Nat := do
  if filter.isEmpty ∨ filter.length > kMaxStringLen then throw .invalidArgument
  if !isValidMqttString filter then throw .invalidArgument
  if !validQos qos then throw .invalidArgument
  checkedAdd .invalidArgument total (utf8Size filter.length + extra)

/-- Remaining length of a SUBSCRIBE covering these subscriptions. -/
def subscribeRemainingLength (subs : List TopicSubscription) : Result Nat :=
  if subs.isEmpty then .error .invalidArgument
  else subs.foldlM (fun total s => addFilter total s.filter s.qos 1) 2

/-- Remaining length of an UNSUBSCRIBE covering these filters. -/
def unsubscribeRemainingLength (filters : List Bytes) : Result Nat :=
  if filters.isEmpty then .error .invalidArgument
  else filters.foldlM (fun total f => addFilter total f .atMostOnce 0) 2

/-! ## Encoding -/

/-- Writing into a span: a write that does not fit is `bufferTooSmall`. -/
abbrev Encoder := Writer Error UInt8 Unit

def put (bytes : Bytes) : Encoder := Writer.put .bufferTooSmall bytes

/-- The fixed header: first byte, then the remaining length. -/
def writeFixedHeader (header : FixedHeader) : Encoder := do
  put [header.toByte]
  match vbiEncode kMaxVbiBytes header.remainingLength with
  | .error error => Writer.fail error
  | .ok vbi => put vbi

/-- A length-prefixed string. Binary fields have the same form. -/
def writeString (s : Bytes) : Encoder :=
  if s.length > kMaxStringLen then Writer.fail .invalidArgument
  else do
    put (u16Bytes (UInt16.ofNat s.length))
    if !s.isEmpty then put s else pure ()

/-- "MQTT". -/
def protocolName : Bytes := [0x4D, 0x51, 0x54, 0x54]

/-- The connect flags byte, computed from which payload fields follow. -/
def connectFlags (opts : ConnectOptions) : UInt8 :=
  let flags : UInt8 := if opts.cleanSession then 0x02 else 0
  let flags :=
    if opts.will.valid then
      let flags := flags ||| 0x04
      let flags := flags ||| ((opts.will.qos.toByte &&& 0x03) <<< 3)
      if opts.will.retain then flags ||| 0x20 else flags
    else flags
  let flags := if !opts.password.isEmpty then flags ||| 0x40 else flags
  if !opts.username.isEmpty then flags ||| 0x80 else flags

/-- A CONNECT packet into a span of `size` bytes. -/
def encodeConnect (size : Nat) (opts : ConnectOptions) : Result Nat × Bytes :=
  match connectRemainingLength opts with
  | .error error => (.error error, [])
  | .ok remainingLength => Writer.exec size do
      writeFixedHeader { type := .connect, remainingLength := remainingLength }
      writeString protocolName
      put [kProtocolLevel311]
      put [connectFlags opts]
      put (u16Bytes opts.keepAliveS)
      writeString opts.clientId
      (if opts.will.valid then do
        writeString opts.will.topic
        writeString opts.will.payload
      else pure ())
      (if !opts.username.isEmpty then writeString opts.username else pure ())
      (if !opts.password.isEmpty then writeString opts.password else pure ())

/-- A PUBLISH packet into a span of `size` bytes. -/
def encodePublish (size : Nat) (topic payload : Bytes) (qos : QoS) (retain dup : Bool)
    (packetId : UInt16) : Result Nat × Bytes :=
  if qos ≠ .atMostOnce ∧ packetId = 0 then (.error .invalidArgument, [])
  else if qos = .atMostOnce ∧ dup then (.error .invalidArgument, [])
  else
    match publishRemainingLength topic payload.length qos with
    | .error error => (.error error, [])
    | .ok remainingLength => Writer.exec size do
        writeFixedHeader
          { type := .publish, dup := dup, qos := qos, retain := retain,
            remainingLength := remainingLength }
        writeString topic
        (if qos ≠ .atMostOnce then put (u16Bytes packetId) else pure ())
        (if !payload.isEmpty then put payload else pure ())

/-- The four packets whose body is a bare packet id. -/
def isAckType (type : PacketType) : Bool :=
  type = .puback || type = .pubrec || type = .pubrel || type = .pubcomp

/-- PUBACK, PUBREC, PUBREL or PUBCOMP into a span of `size` bytes. -/
def encodeAck (size : Nat) (type : PacketType) (packetId : UInt16) : Result Nat × Bytes :=
  if !isAckType type then (.error .invalidArgument, [])
  else if packetId = 0 then (.error .invalidArgument, [])
  else Writer.exec size do
    writeFixedHeader { type := type, remainingLength := 2 }
    put (u16Bytes packetId)

/-- A SUBSCRIBE packet into a span of `size` bytes. -/
def encodeSubscribe (size : Nat) (packetId : UInt16) (subs : List TopicSubscription) :
    Result Nat × Bytes :=
  if packetId = 0 then (.error .invalidArgument, [])
  else
    match subscribeRemainingLength subs with
    | .error error => (.error error, [])
    | .ok remainingLength => Writer.exec size do
        writeFixedHeader { type := .subscribe, remainingLength := remainingLength }
        put (u16Bytes packetId)
        subs.forM fun s => do
          writeString s.filter
          put [s.qos.toByte]

/-- An UNSUBSCRIBE packet into a span of `size` bytes. -/
def encodeUnsubscribe (size : Nat) (packetId : UInt16) (filters : List Bytes) :
    Result Nat × Bytes :=
  if packetId = 0 then (.error .invalidArgument, [])
  else
    match unsubscribeRemainingLength filters with
    | .error error => (.error error, [])
    | .ok remainingLength => Writer.exec size do
        writeFixedHeader { type := .unsubscribe, remainingLength := remainingLength }
        put (u16Bytes packetId)
        filters.forM writeString

/-- PINGREQ or DISCONNECT into a span of `size` bytes. -/
def encodeEmpty (size : Nat) (type : PacketType) : Result Nat × Bytes :=
  if type ≠ .pingreq ∧ type ≠ .disconnect then (.error .invalidArgument, [])
  else Writer.exec size (writeFixedHeader { type := type, remainingLength := 0 })

/-! ## Decoding -/

/-- What the front of a receive buffer says about the packet there. -/
structure PacketPeek where
  header : FixedHeader := {}
  headerBytes : Nat := 0
  totalBytes : Nat := 0
  deriving DecidableEq, Repr

/-- Look at the front of a receive buffer without consuming anything. -/
def peekHeader : Bytes → Result PacketPeek
  | [] => .error .incomplete
  | first :: rest =>
    match FixedHeader.fromByte first with
    | .error error => .error error
    | .ok header =>
      match vbiDecode rest with
      | .error error => .error error
      | .ok vbi => .ok
          { header := { header with remainingLength := vbi.value }
            headerBytes := 1 + vbi.bytes
            totalBytes := 1 + vbi.bytes + vbi.value }

/-- Decode CONNACK. -/
def decodeConnack : Bytes → Result ConnackInfo
  | [flags, code] =>
    if flags &&& 0xFE ≠ 0 then .error .protocolViolation
    else if code > 5 then .error .protocolViolation
    else if flags &&& 0x01 ≠ 0 ∧ code ≠ 0 then .error .protocolViolation
    else .ok { code := ConnackCode.ofByte code, sessionPresent := flags &&& 0x01 ≠ 0 }
  | _ => .error .malformedPacket

/-- Read a length-prefixed string; the second component is what is left. -/
def readString : Bytes → Result (Bytes × Bytes)
  | high :: low :: rest =>
    let length := (u16Value high low).toNat
    if length = 0 then .ok ([], rest)
    else if rest.length < length then .error .malformedPacket
    else if !isValidMqttString (rest.take length) then .error .malformedPacket
    else .ok (rest.take length, rest.drop length)
  | _ => .error .malformedPacket

/-- Decode PUBLISH. -/
def decodePublish (header : FixedHeader) (body : Bytes) : Result Message :=
  match readString body with
  | .error error => .error error
  | .ok (topic, rest) =>
    if topic.isEmpty then .error .protocolViolation
    else
      let message : Message :=
        { topic := topic, qos := header.qos, retain := header.retain, dup := header.dup }
      if header.qos ≠ .atMostOnce then
        match rest with
        | high :: low :: payload =>
          if u16Value high low = 0 then .error .protocolViolation
          else .ok { message with packetId := u16Value high low, payload := payload }
        | _ => .error .malformedPacket
      else if header.dup then .error .protocolViolation
      else .ok { message with payload := rest }

/-- Decode a body that is a bare packet id. -/
def decodePacketId : Bytes → Result UInt16
  | [high, low] =>
    if u16Value high low = 0 then .error .protocolViolation else .ok (u16Value high low)
  | _ => .error .malformedPacket

/-- A decoded SUBACK. -/
structure SubackView where
  packetId : UInt16 := 0
  returnCodes : Bytes := []
  deriving DecidableEq, Repr

/-- Decode SUBACK. -/
def decodeSuback : Bytes → Result SubackView
  | high :: low :: code :: codes =>
    if u16Value high low = 0 then .error .protocolViolation
    else if (code :: codes).any fun c => c > 2 && c ≠ kSubackFailure then
      .error .protocolViolation
    else .ok { packetId := u16Value high low, returnCodes := code :: codes }
  | _ => .error .malformedPacket

end Mqtt
