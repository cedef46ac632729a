import Mqtt.Error

/-!
# Wire vocabulary

Packet types, the fixed header, and the variable byte integer that carries the
remaining length. Remaining lengths never exceed `kMaxRemainingLength`, so the
arithmetic the source does in `uint32_t` cannot wrap and is done in `Nat` here.
-/

namespace Mqtt

/-- MQTT control packet types. -/
inductive PacketType where
  | reserved
  | connect
  | connack
  | publish
  | puback
  | pubrec
  | pubrel
  | pubcomp
  | subscribe
  | suback
  | unsubscribe
  | unsuback
  | pingreq
  | pingresp
  | disconnect
  deriving DecidableEq, Repr

namespace PacketType

/-- The enumerator's value, which is the type nibble on the wire. -/
def toNibble : PacketType → UInt8
  | reserved => 0
  | connect => 1
  | connack => 2
  | publish => 3
  | puback => 4
  | pubrec => 5
  | pubrel => 6
  | pubcomp => 7
  | subscribe => 8
  | suback => 9
  | unsubscribe => 10
  | unsuback => 11
  | pingreq => 12
  | pingresp => 13
  | disconnect => 14

/-- The cast from a type nibble; `none` is a nibble no enumerator has. -/
def ofNibble (nibble : UInt8) : Option PacketType :=
  [reserved, connect, connack, publish, puback, pubrec, pubrel, pubcomp, subscribe,
    suback, unsubscribe, unsuback, pingreq, pingresp, disconnect][nibble.toNat]?

/-- The three types whose flag bits are mandated to be `0b0010`. -/
def hasMandatedFlag (type : PacketType) : Bool :=
  type = pubrel || type = subscribe || type = unsubscribe

end PacketType

/-- Quality of service. The source's enumeration is one byte wide and a cast can
put any value into it, so the values no enumerator names are kept apart. -/
inductive QoS where
  | atMostOnce
  | atLeastOnce
  | exactlyOnce
  | outOfRange (excess : Fin 253)
  deriving DecidableEq, Repr

namespace QoS

/-- The byte held by the enumeration. -/
def toByte : QoS → UInt8
  | atMostOnce => 0
  | atLeastOnce => 1
  | exactlyOnce => 2
  | outOfRange excess => UInt8.ofNat (3 + excess.val)

/-- The cast of a two-bit field that has been checked to be at most two. -/
def ofTwoBits (bits : UInt8) : QoS :=
  if bits = 0 then atMostOnce else if bits = 1 then atLeastOnce else exactlyOnce

end QoS

/-- CONNACK return codes. -/
inductive ConnackCode where
  | accepted
  | unacceptableProtocolVersion
  | identifierRejected
  | serverUnavailable
  | badUsernameOrPassword
  | notAuthorized
  deriving DecidableEq, Repr

/-- The cast from a return code that has been checked against `notAuthorized`. -/
def ConnackCode.ofByte (code : UInt8) : ConnackCode :=
  if code = 0 then accepted
  else if code = 1 then unacceptableProtocolVersion
  else if code = 2 then identifierRejected
  else if code = 3 then serverUnavailable
  else if code = 4 then badUsernameOrPassword
  else notAuthorized

/-- Marker returned in SUBACK when the broker refuses a filter. -/
def kSubackFailure : UInt8 := 0x80

def kProtocolLevel311 : UInt8 := 4
def kMaxRemainingLength : Nat := 268435455
def kMaxVbiBytes : Nat := 4

/-- The one-byte type and flags header plus the decoded remaining length. -/
structure FixedHeader where
  type : PacketType := .reserved
  dup : Bool := false
  qos : QoS := .atMostOnce
  retain : Bool := false
  remainingLength : Nat := 0
  deriving DecidableEq, Repr

namespace FixedHeader

/-- The first byte as it appears on the wire. -/
def toByte (header : FixedHeader) : UInt8 :=
  let base := header.type.toNibble <<< 4
  if header.type = .publish then
    let base := if header.dup then base ||| 0x08 else base
    let base := base ||| ((header.qos.toByte &&& 0x03) <<< 1)
    if header.retain then base ||| 0x01 else base
  else if header.type.hasMandatedFlag then base ||| 0x02
  else base

/-- Decode the first byte, validating the flag bits against the packet type. -/
def fromByte (byte : UInt8) : Result FixedHeader :=
  let typeNibble := (byte >>> 4) &&& 0x0F
  let flags := byte &&& 0x0F
  if typeNibble = 0 then .error .malformedPacket
  else
    match PacketType.ofNibble typeNibble with
    | none => .error .malformedPacket
    | some type =>
      if type = .publish then
        let qos := (flags >>> 1) &&& 0x03
        if qos > 2 then .error .malformedPacket
        else .ok
          { type := type
            dup := flags &&& 0x08 ≠ 0
            qos := QoS.ofTwoBits qos
            retain := flags &&& 0x01 ≠ 0 }
      else
        let expected : UInt8 := if type.hasMandatedFlag then 0x02 else 0x00
        if flags ≠ expected then .error .malformedPacket else .ok { type := type }

end FixedHeader

/-- Bytes the variable byte integer encoding of `value` occupies; zero when the
value is out of range. -/
def vbiSize (value : Nat) : Nat :=
  if value > kMaxRemainingLength then 0
  else if value < 128 then 1
  else if value < 16384 then 2
  else if value < 2097152 then 3
  else 4

/-- The encoder's `do … while` loop. It runs at most `kMaxVbiBytes` times on a
value in range, which is what `rounds` counts down. -/
def vbiLoop : Nat → Nat → Bytes
  | 0, _ => []
  | rounds + 1, value =>
    let byte := UInt8.ofNat (value % 128)
    if value / 128 > 0 then (byte ||| 0x80) :: vbiLoop rounds (value / 128) else [byte]

/-- Encode `value` into a span of `room` bytes. -/
def vbiEncode (room value : Nat) : Result Bytes :=
  if value > kMaxRemainingLength then .error .invalidArgument
  else if room < vbiSize value then .error .bufferTooSmall
  else .ok (vbiLoop kMaxVbiBytes value)

/-- A decoded variable byte integer and the bytes it took. -/
structure VbiDecode where
  value : Nat := 0
  bytes : Nat := 0
  deriving DecidableEq, Repr

/-- The decoder's loop: `left` rounds remain, `taken` bytes have been read. -/
def vbiDecodeLoop : Nat → Nat → Nat → Nat → Bytes → Result VbiDecode
  | 0, _, _, _, _ => .error .malformedPacket
  | _ + 1, _, _, _, [] => .error .incomplete
  | left + 1, taken, value, multiplier, byte :: rest =>
    let value := value + (byte &&& 0x7F).toNat * multiplier
    if byte &&& 0x80 = 0 then
      -- The minimality check comes after the last byte, as in the source.
      if taken + 1 ≠ vbiSize value then .error .malformedPacket
      else .ok { value := value, bytes := taken + 1 }
    else vbiDecodeLoop left (taken + 1) value (multiplier * 128) rest

/-- Decode a variable byte integer from the front of `input`. -/
def vbiDecode (input : Bytes) : Result VbiDecode :=
  vbiDecodeLoop kMaxVbiBytes 0 0 1 input

/-- A received message. The source's views into the receive buffer are values
here: nothing writes the buffer while a handler runs. -/
structure Message where
  topic : Bytes := []
  payload : Bytes := []
  qos : QoS := .atMostOnce
  retain : Bool := false
  dup : Bool := false
  packetId : UInt16 := 0
  deriving DecidableEq, Repr

/-- Last will and testament; an empty topic means there is none. -/
structure Will where
  topic : Bytes := []
  payload : Bytes := []
  qos : QoS := .atMostOnce
  retain : Bool := false
  deriving DecidableEq, Repr

/-- Whether a will was given. -/
def Will.valid (will : Will) : Bool := !will.topic.isEmpty

/-- Parameters of the CONNECT packet. -/
structure ConnectOptions where
  clientId : Bytes := []
  username : Bytes := []
  password : Bytes := []
  will : Will := {}
  keepAliveS : UInt16 := 60
  cleanSession : Bool := true
  deriving DecidableEq, Repr

/-- Result of a completed CONNECT handshake. -/
structure ConnackInfo where
  code : ConnackCode := .accepted
  sessionPresent : Bool := false
  deriving DecidableEq, Repr

/-- One entry of a SUBSCRIBE request. -/
structure TopicSubscription where
  filter : Bytes
  qos : QoS := .atMostOnce
  deriving DecidableEq, Repr

end Mqtt
