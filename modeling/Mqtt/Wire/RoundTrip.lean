import Mqtt.Wire.Requests
import Mqtt.Wire.Utf8

/-!
# PUBLISH out and back

`Framing` and `Requests` read back what the encoders wrote. This module adds the
other direction: what the decoders accept has only one spelling, so encoding the
decoded fields of a PUBLISH gives back the bytes they were decoded from.
-/

namespace Mqtt

/-! ## The remaining length has one spelling -/

/-- `value` in base 128, least significant digit first, with `further` digits behind
the first one. -/
def vbiDigits : Nat → Nat → Bytes
  | 0, value => [UInt8.ofNat (value % 128)]
  | further + 1, value => (UInt8.ofNat (value % 128) ||| 0x80) :: vbiDigits further (value / 128)

/-- A byte is its low seven bits, and a mark that more follow. -/
theorem byte_eq_digit (byte : UInt8) :
    (byte &&& 0x7F).toNat < 128 ∧
      byte = if byte &&& 0x80 = 0 then UInt8.ofNat (byte &&& 0x7F).toNat
        else UInt8.ofNat (byte &&& 0x7F).toNat ||| 0x80 := by
  revert byte
  exact forall_byte (by decide +kernel)

/-- What the decoder's loop accepts is the digits of the value it adds. -/
theorem vbiDecodeLoop_digits {left taken acc multiplier : Nat} {input : Bytes}
    {decoded : VbiDecode} (found : vbiDecodeLoop left taken acc multiplier input = .ok decoded) :
    ∃ further value rest, input = vbiDigits further value ++ rest ∧
      decoded.bytes = taken + (further + 1) ∧ decoded.value = acc + value * multiplier ∧
      decoded.bytes = vbiSize decoded.value := by
  induction left generalizing taken acc multiplier input with
  | zero => cases found
  | succ left ih =>
    cases input with
    | nil => cases found
    | cons byte rest =>
      obtain ⟨digit, spelled⟩ := byte_eq_digit byte
      rw [vbiDecodeLoop] at found
      split at found
      case isTrue last =>
        rw [if_pos last] at spelled
        split at found
        · cases found
        next minimal =>
        injection found with same
        refine ⟨0, (byte &&& 0x7F).toNat, rest, ?_, by rw [← same], by rw [← same], ?_⟩
        · rw [vbiDigits, Nat.mod_eq_of_lt digit, ← spelled]
          rfl
        · rw [← same]
          exact not_not.mp minimal
      case isFalse more =>
        rw [if_neg more] at spelled
        obtain ⟨further, value, unread, rfl, bytes, sum, minimal⟩ := ih found
        refine ⟨further + 1, (byte &&& 0x7F).toNat + 128 * value, unread, ?_, by omega, ?_,
          minimal⟩
        · rw [vbiDigits, Nat.add_mul_mod_self_left, Nat.mod_eq_of_lt digit, ← spelled,
            Nat.add_mul_div_left _ _ (by decide), Nat.div_eq_of_lt digit, Nat.zero_add]
          rfl
        · rw [sum]
          ring

/-- The encoder's loop writes the digits of a value, as many as it needs. -/
theorem vbiLoop_eq_vbiDigits {rounds further value : Nat} (enough : further < rounds)
    (low : further = 0 ∨ 128 ^ further ≤ value) (high : value < 128 ^ (further + 1)) :
    vbiLoop rounds value = vbiDigits further value := by
  induction further generalizing rounds value with
  | zero =>
    obtain ⟨rounds, rfl⟩ := Nat.exists_eq_succ_of_ne_zero (Nat.ne_of_gt enough)
    rw [vbiLoop, vbiDigits, if_neg (by omega)]
  | succ further ih =>
    obtain ⟨rounds, rfl⟩ := Nat.exists_eq_succ_of_ne_zero (Nat.ne_of_gt (Nat.zero_lt_of_lt enough))
    have reached : 128 ^ further * 128 ≤ value := by
      simpa [pow_succ] using low
    have positive : 0 < 128 ^ further := Nat.pow_pos (by decide)
    have below : value / 128 < 128 ^ (further + 1) := by
      rw [pow_succ] at high
      exact Nat.div_lt_of_lt_mul (by omega)
    rw [vbiLoop, vbiDigits, if_pos (by omega), ih (by omega) (.inr (by omega)) below]

/-- The size of a value bounds it on both sides. -/
theorem vbiSize_bounds {further value : Nat} (within : value ≤ kMaxRemainingLength)
    (size : vbiSize value = further + 1) :
    further < kMaxVbiBytes ∧ (further = 0 ∨ 128 ^ further ≤ value) ∧
      value < 128 ^ (further + 1) := by
  rw [vbiSize, if_neg (by omega)] at size
  simp only [kMaxRemainingLength] at within
  obtain rfl | rfl | rfl | rfl : further = 0 ∨ further = 1 ∨ further = 2 ∨ further = 3 := by
    split_ifs at size <;> omega
  all_goals
    refine ⟨by decide, ?_⟩
    simp only [Nat.reduceAdd, Nat.reducePow, true_or, true_and]
    split_ifs at size <;> omega

/-- The decoder accepts one spelling of a remaining length, the encoder's. -/
theorem vbiDecode_spelling {input : Bytes} {decoded : VbiDecode}
    (found : vbiDecode input = .ok decoded) :
    ∃ rest, input = vbiLoop kMaxVbiBytes decoded.value ++ rest ∧
      decoded.bytes = vbiSize decoded.value := by
  have within := (vbiDecodeLoop_ok found).2
  obtain ⟨further, value, rest, spelled, bytes, sum, minimal⟩ := vbiDecodeLoop_digits found
  obtain rfl : value = decoded.value := by omega
  refine ⟨rest, ?_, minimal⟩
  have size : vbiSize decoded.value = further + 1 := by omega
  obtain ⟨few, low, high⟩ := vbiSize_bounds within size
  rw [spelled, vbiLoop_eq_vbiDigits few low high]

/-! ## The fields have one spelling -/

theorem u16Bytes_u16Value (high low : UInt8) : u16Bytes (u16Value high low) = [high, low] := by
  have value : (u16Value high low).toNat = high.toNat * 256 + low.toNat := by
    have highBound := high.toNat_lt
    simp only [u16Value, UInt16.toNat_or, UInt16.toNat_shiftLeft, UInt8.toNat_toUInt16,
      UInt16.reduceToNat, Nat.reduceMod]
    rw [Nat.mod_eq_of_lt (by rw [Nat.shiftLeft_eq]; omega),
      ← Nat.shiftLeft_add_eq_or_of_lt low.toNat_lt, Nat.shiftLeft_eq]
  have highBound := high.toNat_lt
  have lowBound := low.toNat_lt
  simp only [u16Bytes, List.cons.injEq, and_true]
  constructor <;> apply UInt8.toNat_inj.mp
  · simp only [UInt16.toNat_toUInt8, UInt16.toNat_shiftRight, value, UInt16.reduceToNat,
      Nat.reduceMod, Nat.shiftRight_eq_div_pow]
    omega
  · rw [UInt16.toNat_toUInt8, value]
    omega

/-- A first byte that is accepted says everything its header does. -/
theorem fromByte_spelling {byte : UInt8} {header : FixedHeader}
    (found : FixedHeader.fromByte byte = .ok header) :
    header.toByte = byte ∧ header.Sendable ∧ header.remainingLength = 0 := by
  have table : ∀ byte : UInt8, (match FixedHeader.fromByte byte with
      | .ok header =>
        decide (header.toByte = byte ∧ header.Sendable ∧ header.remainingLength = 0)
      | .error _ => true) = true := forall_byte (by decide +kernel)
  simpa only [found, decide_eq_true_eq] using table byte

theorem readPacket_sendable {bytes body : Bytes} {header : FixedHeader}
    (reads : readPacket bytes = some (header, body)) : header.Sendable := by
  unfold readPacket at reads
  split at reads
  · cases reads
  · rename_i p found
    obtain ⟨_, _, _, _, _, isHeader, _, rfl⟩ := peekHeader_ok found
    cases reads
    exact (fromByte_spelling isHeader).2.1

/-- A string that is accepted is its length and its bytes. -/
theorem readString_spelling {input s rest : Bytes} (read : readString input = .ok (s, rest)) :
    input = stringBytes s ++ rest ∧ s.length ≤ kMaxStringLen ∧
      (s ≠ [] → isValidMqttString s = true) := by
  unfold readString at read
  split at read
  next high low unread =>
    have bound := (u16Value high low).toNat_lt
    simp only at read
    split_ifs at read with empty short invalid
    · cases read
      have announced : u16Value high low = 0 := UInt16.toNat_inj.mp empty
      refine ⟨?_, Nat.zero_le _, fun some => absurd rfl some⟩
      rw [stringBytes, List.length_nil, show UInt16.ofNat 0 = u16Value high low from announced.symm,
        u16Bytes_u16Value]
      rfl
    · cases read
      have length : (unread.take (u16Value high low).toNat).length = (u16Value high low).toNat := by
        rw [List.length_take]
        omega
      refine ⟨?_, ?_, fun _ => by simpa using invalid⟩
      · rw [stringBytes, length, UInt16.ofNat_toNat, u16Bytes_u16Value, List.append_assoc,
          List.take_append_drop]
        rfl
      · rw [length, kMaxStringLen]
        omega
  · cases read

/-- A body that is accepted is the layout of the message decoded from it. -/
theorem decodePublish_spelling {header : FixedHeader} {body : Bytes} {m : Message}
    (decoded : decodePublish header body = .ok m) :
    body = publishBody m.topic m.payload m.qos m.packetId ∧
      m.topic ≠ [] ∧ m.topic.length ≤ kMaxStringLen ∧ isValidMqttString m.topic = true ∧
      m.retain = header.retain ∧ m.dup = header.dup ∧
      (m.qos = .atMostOnce → m.dup = false ∧ m.packetId = 0) := by
  unfold decodePublish at decoded
  split at decoded
  · cases decoded
  next topic rest read =>
    obtain ⟨rfl, short, valid⟩ := readString_spelling read
    simp only at decoded
    split_ifs at decoded with noTopic identified repeated
    · split at decoded
      · split_ifs at decoded
        cases decoded
        have named : topic ≠ [] := by simpa using noTopic
        refine ⟨?_, named, short, valid named, rfl, rfl, fun zero => absurd zero identified⟩
        rw [publishBody, if_pos identified, u16Bytes_u16Value]
        rfl
      · cases decoded
    · cases decoded
      have named : topic ≠ [] := by simpa using noTopic
      refine ⟨?_, named, short, valid named, rfl, rfl, fun _ => ⟨by simpa using repeated, rfl⟩⟩
      rw [publishBody, if_neg identified]
      rfl

/-! ## The round trip -/

theorem publishRemainingLength_of_valid {topic : Bytes} {payloadLen : Nat} {qos : QoS}
    (nonempty : topic ≠ []) (short : topic.length ≤ kMaxStringLen) (level : validQos qos = true)
    (valid : isValidMqttString topic = true)
    (within : utf8Size topic.length + ((if qos ≠ .atMostOnce then 2 else 0) + payloadLen) ≤
      kMaxRemainingLength) :
    publishRemainingLength topic payloadLen qos =
      .ok (utf8Size topic.length + ((if qos ≠ .atMostOnce then 2 else 0) + payloadLen)) := by
  have shape : ¬ (topic.isEmpty = true ∨ topic.length > kMaxStringLen) := by
    simp [nonempty]
    omega
  rw [publishRemainingLength, if_neg shape]
  simp only [checkedAdd, level, valid, bind, Except.bind, pure, Except.pure, Bool.not_true,
    Bool.false_eq_true, if_false]
  rw [if_neg (by omega)]
  dsimp only
  by_cases tracked : qos ≠ .atMostOnce
  · rw [if_pos tracked] at within ⊢
    rw [if_pos tracked, if_neg (by omega)]
    dsimp only
    rw [if_neg (by omega)]
    exact congrArg _ (by omega)
  · rw [if_neg tracked] at within ⊢
    rw [if_neg tracked, if_neg (by omega)]
    exact congrArg _ (by omega)

theorem decodePublish_publishBody_untracked {topic payload : Bytes} {header : FixedHeader}
    {size : Nat} (sized : publishRemainingLength topic payload.length header.qos = .ok size)
    (untracked : header.qos = .atMostOnce) (fresh : header.dup = false) (id : UInt16) :
    decodePublish header (publishBody topic payload header.qos id) =
      .ok { topic := topic, payload := payload, qos := header.qos, retain := header.retain,
            dup := header.dup } := by
  obtain ⟨nonempty, short, _, valid, _, _⟩ := publishRemainingLength_ok sized
  have named : topic.isEmpty = false := by simpa using nonempty
  simp only [decodePublish, publishBody, readString_stringBytes short valid, named, untracked,
    ne_eq, not_true, if_false, List.nil_append, fresh, Bool.false_eq_true]

/-- What a successful encoder was given, and what it wrote. -/
theorem encodePublish_ok {size count : Nat} {topic payload bytes : Bytes} {qos : QoS}
    {retain dup : Bool} {packetId : UInt16}
    (encoded : encodePublish size topic payload qos retain dup packetId = (.ok count, bytes)) :
    ∃ remaining, publishRemainingLength topic payload.length qos = .ok remaining ∧
      (qos ≠ .atMostOnce → packetId ≠ 0) ∧ (qos = .atMostOnce → dup = false) ∧
      bytes = publishPacket topic payload qos retain dup packetId ∧ count = bytes.length := by
  have named : qos ≠ .atMostOnce → packetId ≠ 0 := by
    intro tracked unnamed
    rw [encodePublish, if_pos ⟨tracked, unnamed⟩] at encoded
    cases encoded
  have fresh : qos = .atMostOnce → dup = false := by
    intro untracked
    by_contra repeated
    rw [encodePublish, if_neg (by simp [untracked]),
      if_pos ⟨untracked, by simpa using repeated⟩] at encoded
    cases encoded
  cases sized : publishRemainingLength topic payload.length qos with
  | error reason =>
    unfold encodePublish at encoded
    simp only [sized] at encoded
    split_ifs at encoded <;> cases encoded
  | ok remaining =>
    obtain ⟨rfl, rfl, _⟩ := Encodes.of_ok (encodes_publish named fresh sized) encoded
    exact ⟨remaining, rfl, named, fresh, rfl, rfl⟩

/-- What was encoded is read back as it was given, with no packet id at QoS 0. -/
theorem decodePublish_encodePublish {size count : Nat} {topic payload bytes : Bytes} {qos : QoS}
    {retain dup : Bool} {packetId : UInt16}
    (encoded : encodePublish size topic payload qos retain dup packetId = (.ok count, bytes)) :
    ∃ p, peekHeader bytes = .ok p ∧ p.header.type = .publish ∧ p.header.dup = dup ∧
      p.header.qos = qos ∧ p.header.retain = retain ∧ p.totalBytes = count ∧
      decodePublish p.header (bytes.drop p.headerBytes) =
        .ok { topic := topic, payload := payload, qos := qos, retain := retain, dup := dup,
              packetId := if qos = .atMostOnce then 0 else packetId } := by
  obtain ⟨remaining, sized, named, fresh, rfl, rfl⟩ := encodePublish_ok encoded
  obtain ⟨_, _, level, _, within, _⟩ := publishRemainingLength_ok sized
  have length := @length_publishBody topic payload qos packetId remaining sized
  let packet : Packet := .of { type := .publish, dup := dup, qos := qos, retain := retain }
    (publishBody topic payload qos packetId) ⟨by simp, by simpa using level⟩ (length ▸ within)
  have written : publishPacket topic payload qos retain dup packetId = packet.bytes := rfl
  have peeked := peekHeader_bytes packet []
  rw [List.append_nil] at peeked
  rw [written]
  refine ⟨_, peeked, rfl, rfl, rfl, rfl, rfl, ?_⟩
  dsimp only
  rw [packet.drop_bytes]
  by_cases tracked : qos = .atMostOnce
  · rw [if_pos tracked]
    exact decodePublish_publishBody_untracked sized tracked (fresh tracked) packetId
  · rw [if_neg tracked]
    exact decodePublish_publishBody sized tracked (named tracked)

/-- What was decoded from a whole packet is encoded to the same bytes. -/
theorem encodePublish_decodePublish {bytes : Bytes} {p : PacketPeek} {m : Message} {size : Nat}
    (found : peekHeader bytes = .ok p) (isPublish : p.header.type = .publish)
    (whole : p.totalBytes = bytes.length)
    (decoded : decodePublish p.header (bytes.drop p.headerBytes) = .ok m)
    (room : bytes.length ≤ size) :
    encodePublish size m.topic m.payload m.qos m.retain m.dup m.packetId =
      (.ok bytes.length, bytes) := by
  obtain ⟨first, rest, header, vbi, rfl, isHeader, remaining, rfl⟩ := peekHeader_ok found
  obtain ⟨spelledByte, sendable, _⟩ := fromByte_spelling isHeader
  obtain ⟨body, rfl, headed⟩ := vbiDecode_spelling remaining
  have within := (vbiDecodeLoop_ok remaining).2
  have headerLength := length_vbiLoop within
  have announced : vbi.value = body.length := by
    simp only [List.length_cons, List.length_append] at whole
    omega
  have behind : (first :: (vbiLoop kMaxVbiBytes vbi.value ++ body)).drop (1 + vbi.bytes) = body := by
    rw [Nat.add_comm, List.drop_succ_cons, headed, ← headerLength, List.drop_left]
  simp only [behind] at decoded
  obtain ⟨level, named⟩ := decodePublish_ok decoded
  obtain ⟨spelled, nonempty, short, valid, retained, repeated, untracked⟩ :=
    decodePublish_spelling decoded
  have legal : validQos m.qos = true := by
    have flags := sendable.2
    rw [if_pos isPublish] at flags
    rwa [level]
  have length : body.length =
      utf8Size m.topic.length + ((if m.qos ≠ .atMostOnce then 2 else 0) + m.payload.length) := by
    rw [spelled, publishBody, List.length_append, List.length_append, length_stringBytes]
    split <;> rfl
  have sized := publishRemainingLength_of_valid nonempty short legal valid
    (length ▸ announced ▸ within)
  have packet : publishPacket m.topic m.payload m.qos m.retain m.dup m.packetId =
      first :: (vbiLoop kMaxVbiBytes vbi.value ++ body) := by
    rw [publishPacket, ← spelled, packetOf, frame, fixedHeaderBytes, ← spelledByte, announced,
      List.cons_append, retained, repeated, level, ← isPublish]
    rfl
  have encodes := (encodes_publish named (fun zero => (untracked zero).1) sized size).1
    (packet ▸ room)
  rw [packet] at encodes
  exact encodes

/-- Encoding a PUBLISH and decoding it are inverse to each other. -/
theorem publish_roundTrip :
    (∀ size topic payload qos retain dup packetId count bytes,
      encodePublish size topic payload qos retain dup packetId = (.ok count, bytes) →
      ∃ p, peekHeader bytes = .ok p ∧ p.header.type = .publish ∧ p.header.dup = dup ∧
        p.header.qos = qos ∧ p.header.retain = retain ∧ p.totalBytes = count ∧
        decodePublish p.header (bytes.drop p.headerBytes) =
          .ok { topic := topic, payload := payload, qos := qos, retain := retain, dup := dup,
                packetId := if qos = .atMostOnce then 0 else packetId }) ∧
    (∀ bytes p m size,
      peekHeader bytes = .ok p → p.header.type = .publish → p.totalBytes = bytes.length →
      decodePublish p.header (bytes.drop p.headerBytes) = .ok m → bytes.length ≤ size →
      encodePublish size m.topic m.payload m.qos m.retain m.dup m.packetId =
        (.ok bytes.length, bytes)) :=
  ⟨fun _ _ _ _ _ _ _ _ _ encoded => decodePublish_encodePublish encoded,
    fun _ _ _ _ found isPublish whole decoded room =>
      encodePublish_decodePublish found isPublish whole decoded room⟩

/-- Both directions on a repeated QoS 1 message with a one-byte payload. -/
theorem publish_roundTrip_repeated :
    (∃ p, peekHeader [0x3A, 0x06, 0x00, 0x01, 0x61, 0x00, 0x07, 0x62] = .ok p ∧
      p.header.dup = true ∧ p.totalBytes = 8) ∧
    encodePublish 8 [0x61] [0x62] .atLeastOnce false true 7 =
      (.ok 8, [0x3A, 0x06, 0x00, 0x01, 0x61, 0x00, 0x07, 0x62]) := by
  constructor
  · obtain ⟨p, found, _, dup, _, _, total, _⟩ := publish_roundTrip.1 8 [0x61] [0x62] .atLeastOnce
      false true 7 8 [0x3A, 0x06, 0x00, 0x01, 0x61, 0x00, 0x07, 0x62] (by decide)
    exact ⟨p, found, dup, total⟩
  · exact publish_roundTrip.2 [0x3A, 0x06, 0x00, 0x01, 0x61, 0x00, 0x07, 0x62]
      { header := { type := .publish, dup := true, qos := .atLeastOnce, remainingLength := 6 }
        headerBytes := 2, totalBytes := 8 }
      { topic := [0x61], payload := [0x62], qos := .atLeastOnce, dup := true, packetId := 7 }
      8 (by decide) rfl rfl (by decide) (by decide)

end Mqtt
