import Mqtt.Client.Transmit

/-!
# The encoders and the space they need

One function predicts the size of a packet, another writes it, and the client computes
the size of its reservation with a third. They agree: with valid arguments an encoder
succeeds exactly when the span holds the predicted size, and the client reserves that.
-/

namespace Mqtt

/-- A call of one of the six encoders, but for the span. -/
inductive EncodeCall where
  | connect (opts : ConnectOptions)
  | publish (topic payload : Bytes) (qos : QoS) (retain dup : Bool) (packetId : UInt16)
  | ack (type : PacketType) (packetId : UInt16)
  | subscribe (packetId : UInt16) (subs : List TopicSubscription)
  | unsubscribe (packetId : UInt16) (filters : List Bytes)
  | empty (type : PacketType)

namespace EncodeCall

def encode : EncodeCall → Nat → Result Nat × Bytes
  | connect opts, size => encodeConnect size opts
  | publish topic payload qos retain dup packetId, size =>
    encodePublish size topic payload qos retain dup packetId
  | ack type packetId, size => encodeAck size type packetId
  | subscribe packetId subs, size => encodeSubscribe size packetId subs
  | unsubscribe packetId filters, size => encodeUnsubscribe size packetId filters
  | empty type, size => encodeEmpty size type

/-- The remaining length of the packet, or why the arguments are invalid. -/
def remaining : EncodeCall → Result Nat
  | connect opts => connectRemainingLength opts
  | publish topic payload qos _ dup packetId =>
    if qos ≠ .atMostOnce ∧ packetId = 0 then .error .invalidArgument
    else if qos = .atMostOnce ∧ dup then .error .invalidArgument
    else publishRemainingLength topic payload.length qos
  | ack type packetId => if isAckType type ∧ packetId ≠ 0 then .ok 2 else .error .invalidArgument
  | subscribe packetId subs =>
    if packetId = 0 then .error .invalidArgument else subscribeRemainingLength subs
  | unsubscribe packetId filters =>
    if packetId = 0 then .error .invalidArgument else unsubscribeRemainingLength filters
  | empty type => if type = .pingreq ∨ type = .disconnect then .ok 0 else .error .invalidArgument

/-- Invalid arguments are refused for a reason of their own, whatever the span. -/
theorem encode_of_error {call : EncodeCall} {error : Error}
    (invalid : call.remaining = .error error) :
    error ≠ .bufferTooSmall ∧ ∀ size, call.encode size = (.error error, []) := by
  cases call with
  | connect opts =>
    obtain rfl := connectRemainingLength_error invalid
    exact ⟨by decide, fun size => by simp only [encode, encodeConnect, show
      connectRemainingLength opts = _ from invalid]⟩
  | publish topic payload qos retain dup packetId =>
    simp only [remaining] at invalid
    split_ifs at invalid with unnamed repeated
    · cases invalid
      exact ⟨by decide, fun size => if_pos unnamed⟩
    · cases invalid
      exact ⟨by decide, fun size => (if_neg unnamed).trans (if_pos repeated)⟩
    · refine ⟨?_, fun size => by simp only [encode, encodePublish, if_neg unnamed,
        if_neg repeated, invalid]⟩
      obtain rfl | rfl := publishRemainingLength_error invalid <;> decide
  | ack type packetId =>
    simp only [remaining] at invalid
    split at invalid <;> cases invalid
    next bad =>
    refine ⟨by decide, fun size => ?_⟩
    simp only [encode, encodeAck]
    split_ifs with notAck zero
    · rfl
    · rfl
    · exact absurd ⟨by simpa using notAck, zero⟩ bad
  | subscribe packetId subs =>
    simp only [remaining] at invalid
    split_ifs at invalid with zero
    · cases invalid
      exact ⟨by decide, fun size => if_pos zero⟩
    · obtain rfl := subscribeRemainingLength_error invalid
      exact ⟨by decide, fun size => by simp only [encode, encodeSubscribe, if_neg zero, invalid]⟩
  | unsubscribe packetId filters =>
    simp only [remaining] at invalid
    split_ifs at invalid with zero
    · cases invalid
      exact ⟨by decide, fun size => if_pos zero⟩
    · obtain rfl := unsubscribeRemainingLength_error invalid
      exact ⟨by decide, fun size => by simp only [encode, encodeUnsubscribe, if_neg zero, invalid]⟩
  | empty type =>
    simp only [remaining] at invalid
    split at invalid <;> cases invalid
    next bad =>
    exact ⟨by decide, fun size => if_pos (not_or.mp bad)⟩

/-- Valid arguments make one packet, of the size their remaining length predicts. -/
theorem encodes_of_ok {call : EncodeCall} {rl : Nat} (valid : call.remaining = .ok rl) :
    rl ≤ kMaxRemainingLength ∧
      ∃ packet, packet.length = 1 + vbiSize rl + rl ∧ Encodes call.encode packet := by
  cases call with
  | connect opts =>
    obtain ⟨_, _, _, _, within, rfl⟩ := connectRemainingLength_ok valid
    exact ⟨within, _, length_packetOf within, encodes_connect valid⟩
  | publish topic payload qos retain dup packetId =>
    simp only [remaining] at valid
    split_ifs at valid with unnamed repeated
    have named : qos ≠ .atMostOnce → packetId ≠ 0 := fun tracked zero => unnamed ⟨tracked, zero⟩
    have fresh : qos = .atMostOnce → dup = false := fun untracked => by
      simpa [untracked] using repeated
    obtain ⟨_, _, _, _, within, _⟩ := publishRemainingLength_ok valid
    obtain rfl := @length_publishBody topic payload qos packetId rl valid
    exact ⟨within, _, length_packetOf within, encodes_publish named fresh valid⟩
  | ack type packetId =>
    simp only [remaining] at valid
    split at valid <;> cases valid
    next good =>
    exact ⟨by decide, _, length_ackPacket type packetId, encodes_ack good.1 good.2⟩
  | subscribe packetId subs =>
    simp only [remaining] at valid
    split at valid
    · cases valid
    next nonzero =>
    obtain ⟨_, within, _⟩ := subscribeRemainingLength_ok valid
    obtain rfl := @length_subscribeBody packetId subs rl valid
    exact ⟨within, _, length_packetOf within, encodes_subscribe nonzero valid⟩
  | unsubscribe packetId filters =>
    simp only [remaining] at valid
    split at valid
    · cases valid
    next nonzero =>
    obtain ⟨_, within, _⟩ := unsubscribeRemainingLength_ok valid
    obtain rfl := @length_unsubscribeBody packetId filters rl valid
    exact ⟨within, _, length_packetOf within, encodes_unsubscribe nonzero valid⟩
  | empty type =>
    simp only [remaining] at valid
    split at valid <;> cases valid
    next good =>
    exact ⟨by decide, _, length_emptyPacket type, encodes_empty good⟩

/-- The client reserves what the packet takes, so queueing it fails only for want of
space and adds exactly the reserved bytes. -/
theorem enqueueSized_of_ok {call : EncodeCall} {rl : Nat} {packet : Bytes} {cfg : Config}
    (c : Client cfg) (encodes : Encodes call.encode packet) (sized : packet.length = packetSize rl)
    (reserved : (c.tx.reserve (packetSize rl)).1 = true) :
    ∃ tx, c.enqueueSized (packetSize rl) call.encode = (.ok packet, { c with tx := tx }) ∧
      tx.peek = c.tx.peek ++ packet :=
  Client.enqueueSized_of_room encodes sized ((c.tx.reserve_iff _).mp reserved)

end EncodeCall

/-- Every encoder is exact about space. Invalid arguments are refused with one error that
is not about space. Valid ones make one packet of `1 + vbiSize rl + rl` bytes, which is
written if the span holds it and otherwise reported as too large for the span; the client
reserves that many bytes, and a reservation that was granted is filled. -/
theorem encoders_exact (call : EncodeCall) :
    (∀ error, call.remaining = .error error →
      error ≠ .bufferTooSmall ∧ ∀ size, call.encode size = (.error error, [])) ∧
    (∀ rl, call.remaining = .ok rl → ∃ packet,
      packet.length = 1 + vbiSize rl + rl ∧
      (∀ size, (packet.length ≤ size → call.encode size = (.ok packet.length, packet)) ∧
        (size < packet.length →
          ∃ part, part.length ≤ size ∧ call.encode size = (.error .bufferTooSmall, part))) ∧
      packetSize rl = packet.length ∧
      ∀ {cfg : Config} (c : Client cfg), (c.tx.reserve (packetSize rl)).1 = true →
        ∃ tx, c.enqueueSized (packetSize rl) call.encode = (.ok packet, { c with tx := tx }) ∧
          tx.peek = c.tx.peek ++ packet) := by
  refine ⟨fun error invalid => EncodeCall.encode_of_error invalid, fun rl valid => ?_⟩
  obtain ⟨within, packet, length, encodes⟩ := EncodeCall.encodes_of_ok valid
  have sized : packetSize rl = packet.length := (packetSize_eq within).trans length.symm
  exact ⟨packet, length, encodes, sized, fun c reserved =>
    EncodeCall.enqueueSized_of_ok c encodes sized.symm reserved⟩

end Mqtt
