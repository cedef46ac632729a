import Mathlib.Tactic.Ring
import Mqtt.Library.FrameSplitter
import Mqtt.Wire.Encoding

/-!
# Packets in a byte stream

What the decoders read back from the layouts of `Encoding`, each statement with
an arbitrary suffix behind the packet. A packet is self-delimiting: looking at
the front of a stream finds exactly the packet that was put there, and bytes
that arrive later do not change what has been found.
-/

namespace Mqtt

/-! ## The fixed header -/

/-- A header that can stand on the wire: a real type, a real QoS, and flags on a
PUBLISH only. -/
def FixedHeader.Sendable (header : FixedHeader) : Prop :=
  header.type ≠ .reserved ∧
    if header.type = .publish then validQos header.qos = true
    else header.dup = false ∧ header.qos = .atMostOnce ∧ header.retain = false

instance (header : FixedHeader) : Decidable header.Sendable :=
  inferInstanceAs (Decidable (_ ∧ _))

theorem FixedHeader.sendable_connack : ({ type := .connack } : FixedHeader).Sendable := by decide

theorem validQos_outOfRange (excess : Fin 253) : validQos (.outOfRange excess) = false := by
  have large : (QoS.outOfRange excess).toByte.toNat = 3 + excess.val := by
    simp only [QoS.toByte, UInt8.toNat_ofNat']
    omega
  simp only [validQos, decide_eq_false_iff_not, UInt8.le_iff_toNat_le, large, UInt8.reduceToNat]
  omega

private theorem fromByte_toByte_publish : ∀ qos ∈ [QoS.atMostOnce, .atLeastOnce, .exactlyOnce],
    ∀ dup retain, FixedHeader.fromByte
      (FixedHeader.toByte { type := .publish, dup := dup, qos := qos, retain := retain }) =
        .ok { type := .publish, dup := dup, qos := qos, retain := retain } := by decide

private theorem fromByte_toByte_other : ∀ type ∈ [PacketType.connect, .connack, .puback, .pubrec,
      .pubrel, .pubcomp, .subscribe, .suback, .unsubscribe, .unsuback, .pingreq, .pingresp,
      .disconnect],
    FixedHeader.fromByte (FixedHeader.toByte { type := type }) = .ok { type := type } := by decide

/-- The first byte read back. -/
theorem fromByte_toByte {header : FixedHeader} (sendable : header.Sendable) :
    FixedHeader.fromByte header.toByte = .ok { header with remainingLength := 0 } := by
  obtain ⟨type, dup, qos, retain, length⟩ := header
  obtain ⟨real, flags⟩ := sendable
  by_cases isPublish : type = .publish
  · subst isPublish
    simp only [if_true] at flags
    refine fromByte_toByte_publish qos ?_ dup retain
    cases qos with
    | outOfRange excess => simp [validQos_outOfRange] at flags
    | _ => simp
  · simp only [isPublish, if_false] at flags
    obtain ⟨rfl, rfl, rfl⟩ := flags
    refine fromByte_toByte_other type ?_
    cases type <;> simp_all

/-! ## The remaining length -/

private theorem lastDigit : ∀ digit < 128,
    UInt8.ofNat digit &&& 0x80 = 0 ∧ (UInt8.ofNat digit &&& 0x7F).toNat = digit := by decide

private theorem furtherDigit : ∀ digit < 128,
    (UInt8.ofNat digit ||| 0x80) &&& 0x80 ≠ 0 ∧
      ((UInt8.ofNat digit ||| 0x80) &&& 0x7F).toNat = digit := by decide

/-- The decoder reads back what the encoder's loop wrote, up to the minimality
check it makes last. -/
theorem vbiDecodeLoop_vbiLoop (left taken value acc multiplier : Nat) (rest : Bytes)
    (within : value < 128 ^ left) (some : 0 < left) :
    vbiDecodeLoop left taken acc multiplier (vbiLoop left value ++ rest) =
      if taken + (vbiLoop left value).length ≠ vbiSize (acc + value * multiplier) then
        .error .malformedPacket
      else .ok { value := acc + value * multiplier
                 bytes := taken + (vbiLoop left value).length } := by
  induction left generalizing taken value acc multiplier with
  | zero => omega
  | succ left ih =>
    have digit := Nat.mod_lt value (show 0 < 128 by decide)
    by_cases more : value / 128 > 0
    · have further : value / 128 < 128 ^ left := by
        rw [Nat.pow_succ] at within
        exact Nat.div_lt_of_lt_mul (by omega)
      have roundsLeft : 0 < left := by
        rcases Nat.eq_zero_or_pos left with rfl | positive
        · simp at further
          omega
        · exact positive
      have total : acc + value % 128 * multiplier + value / 128 * (multiplier * 128) =
          acc + value * multiplier := by
        have split := Nat.div_add_mod value 128
        calc acc + value % 128 * multiplier + value / 128 * (multiplier * 128)
            = acc + (128 * (value / 128) + value % 128) * multiplier := by ring
          _ = acc + value * multiplier := by rw [split]
      simp only [vbiLoop, if_pos more, List.cons_append, vbiDecodeLoop,
        if_neg (furtherDigit _ digit).1, (furtherDigit _ digit).2]
      rw [ih _ _ _ _ further roundsLeft, total]
      simp only [List.length_cons]
      rw [Nat.add_assoc, Nat.add_comm 1]
    · have small : value % 128 = value := Nat.mod_eq_of_lt (by omega)
      have last := lastDigit value (small ▸ digit)
      simp only [vbiLoop, if_neg more, small, List.cons_append, List.nil_append,
        vbiDecodeLoop, if_pos last.1, last.2, List.length_singleton]

/-- The remaining length read back. -/
theorem vbiDecode_vbiLoop {value : Nat} (within : value ≤ kMaxRemainingLength) (rest : Bytes) :
    vbiDecode (vbiLoop kMaxVbiBytes value ++ rest) =
      .ok { value := value, bytes := vbiSize value } := by
  have bounded : value < 128 ^ kMaxVbiBytes := by
    unfold kMaxRemainingLength at within
    simp only [kMaxVbiBytes]
    omega
  rw [vbiDecode, vbiDecodeLoop_vbiLoop _ _ _ _ _ _ bounded (by decide)]
  simp [length_vbiLoop within]

/-- Bytes behind a decided remaining length do not change it. -/
theorem vbiDecodeLoop_append {left taken acc multiplier : Nat} {input : Bytes}
    (decided : vbiDecodeLoop left taken acc multiplier input ≠ .error .incomplete) (more : Bytes) :
    vbiDecodeLoop left taken acc multiplier (input ++ more) =
      vbiDecodeLoop left taken acc multiplier input := by
  induction left generalizing taken acc multiplier input with
  | zero => rfl
  | succ left ih =>
    cases input with
    | nil => exact absurd rfl decided
    | cons byte rest =>
      simp only [List.cons_append, vbiDecodeLoop] at decided ⊢
      split_ifs at decided ⊢
      · rfl
      · rfl
      · exact ih decided

/-! ## Packet ids -/

/-- A 16-bit field is read back. -/
theorem u16Value_u16Bytes (value : UInt16) :
    u16Value (value >>> 8).toUInt8 value.toUInt8 = value := by
  apply UInt16.toNat_inj.mp
  have bound := value.toNat_lt
  have high : value.toNat >>> 8 % 2 ^ 8 = value.toNat / 256 := by
    rw [Nat.shiftRight_eq_div_pow]
    omega
  have whole : (value.toNat / 256) <<< 8 % 2 ^ 16 = (value.toNat / 256) <<< 8 := by
    rw [Nat.shiftLeft_eq]
    omega
  simp only [u16Value, UInt16.toNat_or, UInt16.toNat_shiftLeft, UInt8.toNat_toUInt16,
    UInt16.toNat_toUInt8, UInt16.toNat_shiftRight, UInt16.reduceToNat, Nat.reduceMod, high, whole]
  rw [← Nat.shiftLeft_add_eq_or_of_lt (Nat.mod_lt _ (by decide)), Nat.shiftLeft_eq]
  omega

theorem decodePacketId_u16Bytes {id : UInt16} (nonzero : id ≠ 0) :
    decodePacketId (u16Bytes id) = .ok id := by
  simp only [u16Bytes, decodePacketId, u16Value_u16Bytes, if_neg nonzero]

theorem u16Bytes_inj {first second : UInt16} (same : u16Bytes first = u16Bytes second) :
    first = second := by
  simp only [u16Bytes, List.cons.injEq, and_true] at same
  rw [← u16Value_u16Bytes first, same.1, same.2, u16Value_u16Bytes]

/-- An acknowledgement says what it acknowledges. -/
theorem ackPacket_inj {type type' : PacketType} {id id' : UInt16}
    (same : ackPacket type id = ackPacket type' id') :
    FixedHeader.toByte { type := type } = FixedHeader.toByte { type := type' } ∧ id = id' := by
  simp only [ackPacket, packetOf, frame, fixedHeaderBytes, List.cons_append, List.cons.injEq,
    length_u16Bytes, List.append_cancel_left_eq] at same
  exact ⟨same.1, u16Bytes_inj same.2⟩

/-! ## Whole packets -/

/-- A packet that can stand on the wire. -/
structure Packet where
  header : FixedHeader
  body : Bytes
  sendable : header.Sendable
  announced : header.remainingLength = body.length
  short : body.length ≤ kMaxRemainingLength

namespace Packet

/-- The packet with this body; its header announces the body's length. -/
def of (header : FixedHeader) (body : Bytes) (sendable : header.Sendable)
    (short : body.length ≤ kMaxRemainingLength) : Packet where
  header := { header with remainingLength := body.length }
  body := body
  sendable := sendable
  announced := rfl
  short := short

/-- The packet's bytes. -/
def bytes (packet : Packet) : Bytes := frame packet.header packet.body

theorem length_bytes (packet : Packet) :
    packet.bytes.length = 1 + vbiSize packet.body.length + packet.body.length := by
  rw [bytes, length_frame (by rw [packet.announced]; exact packet.short) packet.announced.symm,
    packet.announced]

/-- The body is what stands behind the fixed header. -/
theorem drop_bytes (packet : Packet) :
    packet.bytes.drop (1 + vbiSize packet.body.length) = packet.body := by
  have headed : (fixedHeaderBytes packet.header).length = 1 + vbiSize packet.body.length := by
    rw [fixedHeaderBytes, List.length_cons, packet.announced, length_vbiLoop packet.short,
      Nat.add_comm]
  rw [bytes, frame, ← headed, List.drop_left]

end Packet

/-- Looking at the front of a stream finds the packet that stands there. -/
theorem peekHeader_bytes (packet : Packet) (rest : Bytes) :
    peekHeader (packet.bytes ++ rest) =
      .ok { header := packet.header
            headerBytes := 1 + vbiSize packet.body.length
            totalBytes := packet.bytes.length } := by
  obtain ⟨⟨type, dup, qos, retain, length⟩, body, sendable, announced, short⟩ := packet
  obtain rfl : length = body.length := announced
  simp only [Packet.bytes, frame, fixedHeaderBytes, List.cons_append, List.append_assoc,
    peekHeader, fromByte_toByte sendable, vbiDecode_vbiLoop short, List.length_cons,
    List.length_append, length_vbiLoop short]
  congr 2
  omega

/-- The header and body of a packet, as its receiver reads them. -/
def readPacket (bytes : Bytes) : Option (FixedHeader × Bytes) :=
  match peekHeader bytes with
  | .error _ => none
  | .ok p => some (p.header, (bytes.drop p.headerBytes).take p.header.remainingLength)

theorem readPacket_short {bytes body : Bytes} {header : FixedHeader}
    (reads : readPacket bytes = some (header, body)) : body.length ≤ kMaxRemainingLength := by
  unfold readPacket at reads
  split at reads
  · cases reads
  · rename_i p peeked
    cases reads
    exact (List.length_take_le _ _).trans (peekHeader_remaining peeked)

/-- A packet is read back whole. -/
theorem readPacket_bytes (packet : Packet) :
    readPacket packet.bytes = some (packet.header, packet.body) := by
  have found := peekHeader_bytes packet []
  rw [List.append_nil] at found
  simp only [readPacket, found, packet.drop_bytes, packet.announced, List.take_length]

theorem readPacket_packetOf {header : FixedHeader} {body : Bytes} (sendable : header.Sendable)
    (short : body.length ≤ kMaxRemainingLength) :
    readPacket (packetOf header body) =
      some ({ header with remainingLength := body.length }, body) :=
  readPacket_bytes (.of header body sendable short)

theorem readPacket_ackPacket {type : PacketType}
    (sendable : ({ type := type } : FixedHeader).Sendable) (id : UInt16) :
    readPacket (ackPacket type id) =
      some ({ type := type, remainingLength := 2 }, u16Bytes id) := by
  rw [ackPacket, readPacket_packetOf sendable (by rw [length_u16Bytes]; decide), length_u16Bytes]

/-- Bytes that arrive later do not change what was decided about the front. -/
theorem peekHeader_stable {input : Bytes} (decided : peekHeader input ≠ .error .incomplete)
    (more : Bytes) : peekHeader (input ++ more) = peekHeader input := by
  cases input with
  | nil => exact absurd rfl decided
  | cons first rest =>
    simp only [peekHeader, List.cons_append] at decided ⊢
    cases parsed : FixedHeader.fromByte first with
    | error error => rfl
    | ok header =>
      have settled : vbiDecode rest ≠ .error .incomplete := by
        intro cut
        simp [parsed, cut] at decided
      have same : vbiDecode (rest ++ more) = vbiDecode rest := vbiDecodeLoop_append settled more
      rw [same]

/-- Later bytes do not change a header. -/
theorem peekHeader_append {input : Bytes} {p : PacketPeek} (found : peekHeader input = .ok p)
    (more : Bytes) : peekHeader (input ++ more) = .ok p :=
  (peekHeader_stable (by simp [found]) more).trans found

/-- A reader that finds a complete packet at the front of a stream has found the
packet that was put there. -/
theorem eq_of_peekHeader {input rest : Bytes} {packet : Packet} {p : PacketPeek} {more : Bytes}
    (stream : input ++ more = packet.bytes ++ rest) (found : peekHeader input = .ok p) :
    p.header = packet.header ∧ p.headerBytes = 1 + vbiSize packet.body.length ∧
      p.totalBytes = packet.bytes.length := by
  have here := peekHeader_append found more
  rw [stream, peekHeader_bytes] at here
  injection here with same
  simp [← same]

/-- A stream that has come as far as the end of its first packet starts with it. -/
theorem eq_append_of_complete {input rest : Bytes} {packet : Packet} {more : Bytes}
    (stream : input ++ more = packet.bytes ++ rest) (complete : packet.bytes.length ≤ input.length) :
    input = packet.bytes ++ input.drop packet.bytes.length ∧
      input.drop packet.bytes.length ++ more = rest := by
  have front : input.take packet.bytes.length = packet.bytes := by
    have whole := congrArg (List.take packet.bytes.length) stream
    rwa [List.take_append_of_le_length complete, List.take_left] at whole
  have split := List.take_append_drop packet.bytes.length input
  rw [front] at split
  refine ⟨split.symm, ?_⟩
  rw [← split, List.append_assoc] at stream
  simpa using List.append_cancel_left stream

/-- Only a remaining length that is cut off leaves the front undecided. -/
theorem vbiDecodeLoop_incomplete {left taken acc multiplier : Nat} {input : Bytes}
    (open_ : vbiDecodeLoop left taken acc multiplier input = .error .incomplete) :
    input.length < left := by
  induction left generalizing taken acc multiplier input with
  | zero => cases open_
  | succ left ih =>
    cases input with
    | nil => simp
    | cons byte rest =>
      simp only [vbiDecodeLoop] at open_
      split_ifs at open_
      · cases open_
      · have shorter := ih open_
        simp only [List.length_cons]
        omega

/-- A front that cannot be decided is shorter than a fixed header. -/
theorem peekHeader_incomplete {input : Bytes} (open_ : peekHeader input = .error .incomplete) :
    input.length ≤ kMaxVbiBytes := by
  cases input with
  | nil => simp
  | cons first rest =>
    simp only [peekHeader] at open_
    split at open_
    · rename_i bad
      injection open_ with same
      rw [fromByte_error bad] at same
      cases same
    · split at open_
      · rename_i bad
        injection open_ with same
        have shorter := vbiDecodeLoop_incomplete (same ▸ bad)
        simp only [List.length_cons]
        omega
      · cases open_

/-! ## Splitting a stream -/

/-- The complete packet at the front of a stream, with its size. -/
def frontPacket (stream : Bytes) : Option ((FixedHeader × Bytes) × Nat) :=
  match peekHeader stream with
  | .error _ => none
  | .ok p =>
    if p.totalBytes ≤ stream.length then
      some ((p.header, (stream.drop p.headerBytes).take p.header.remainingLength), p.totalBytes)
    else none

theorem frontPacket_eq_some_iff {stream : Bytes} {packet : FixedHeader × Bytes} {size : Nat} :
    frontPacket stream = some (packet, size) ↔
      ∃ p, peekHeader stream = .ok p ∧ p.totalBytes ≤ stream.length ∧
        packet = (p.header, (stream.drop p.headerBytes).take p.header.remainingLength) ∧
        size = p.totalBytes := by
  unfold frontPacket
  cases peekHeader stream with
  | error error => simp
  | ok p =>
    by_cases complete : p.totalBytes ≤ stream.length
    · simp [complete, eq_comm]
    · simp [complete]

/-- A byte stream as a sequence of packets. -/
def packetSplitter : Library.FrameSplitter UInt8 (FixedHeader × Bytes) where
  front := frontPacket
  sized found := by
    obtain ⟨p, peeked, complete, _, rfl⟩ := frontPacket_eq_some_iff.mp found
    have two := peekHeader_total peeked
    exact ⟨by omega, complete⟩
  stable found more := by
    obtain ⟨p, peeked, complete, isPacket, isSize⟩ := frontPacket_eq_some_iff.mp found
    have parts := peekHeader_size peeked
    refine frontPacket_eq_some_iff.mpr
      ⟨p, peekHeader_append peeked more, by rw [List.length_append]; omega, ?_, isSize⟩
    rw [isPacket, List.drop_append_of_le_length (by omega),
      List.take_append_of_le_length (by rw [List.length_drop]; omega)]

/-- The packets that are complete in a stream. -/
def packetsOf (stream : Bytes) : List (FixedHeader × Bytes) := packetSplitter.frames stream

/-- What follows the last complete packet of a stream. -/
def remainderOf (stream : Bytes) : Bytes := packetSplitter.leftover stream

end Mqtt
