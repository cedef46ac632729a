import Mqtt.Client.PacketEffects

/-!
# What a call and a timer do

One statement per application call and per timer, naming every case with its
condition and the whole resulting reaction.
-/

namespace Mqtt

variable {cfg : Config}

namespace Client

variable (c : Client cfg)

/-! ## Publishing -/

theorem freeOutboundSlot_some {c : Client cfg} {index : Nat}
    (found : c.freeOutboundSlot = some index) :
    ∃ slot, c.outbound[index]? = some slot ∧ c.slotAt index = slot ∧ slot.phase = .free := by
  unfold freeOutboundSlot at found
  rw [List.findIdx?_eq_some_iff_getElem] at found
  obtain ⟨within, isFree, _⟩ := found
  refine ⟨c.outbound[index], List.getElem?_eq_getElem within, ?_, by simpa using isFree⟩
  simp [slotAt, List.getD, List.getElem?_eq_getElem within]

/-- A failed publish may have scribbled into the buffer of a free slot. -/
def Scribbled (before after : List OutboundSlot) : Prop :=
  after = before ∨ ∃ index slot packet, before[index]? = some slot ∧ slot.phase = .free ∧
    packet.length = slot.packet.length ∧ after = before.set index { slot with packet := packet }

/-- The slot a successful publish fills. -/
def filledSlot (slot : OutboundSlot) (packet : Bytes) (qos : QoS) (id : UInt16)
    (now : UInt32) : OutboundSlot :=
  { packet := overwrite slot.packet packet
    packetId := id
    packetLen := UInt16.ofNat packet.length
    lastSentMs := now
    qos := qos
    phase := if qos = .atLeastOnce then .waitPuback else .waitPubrec }

theorem length_publishPacket {topic payload : Bytes} {qos : QoS} {retain dup : Bool}
    {packetId : UInt16} {size : Nat}
    (sized : publishRemainingLength topic payload.length qos = .ok size) :
    (publishPacket topic payload qos retain dup packetId).length = packetSize size := by
  have announced := @length_publishBody topic payload qos packetId size sized
  obtain ⟨_, _, _, _, within, _⟩ := publishRemainingLength_ok sized
  rw [publishPacket, length_packetOf (announced ▸ within), announced, packetSize_eq within]

/-- QoS 0 into a queue that has room for the packet. -/
theorem publishUntracked_of_room {topic payload : Bytes} {size : Nat} (retain : Bool)
    (sized : publishRemainingLength topic payload.length .atMostOnce = .ok size)
    (room : c.HasRoom (packetSize size)) :
    ∃ tx, tx.peek = c.tx.peek ++ publishPacket topic payload .atMostOnce retain false 0 ∧
      c.publishUntracked topic payload .atMostOnce retain =
        { queued := [{ bytes := publishPacket topic payload .atMostOnce retain false 0 }]
          client := { c with tx := tx } } := by
  have encodes := @encodes_publish topic payload .atMostOnce retain false 0 size
    (fun tracked => absurd rfl tracked) (fun _ => rfl) sized
  obtain ⟨tx, sent, peek⟩ := enqueueSized_of_room encodes (length_publishPacket sized) room
  exact ⟨tx, peek, by simp only [publishUntracked, sized, sent]⟩

/-- QoS 0 into a queue that has not. -/
theorem publishUntracked_of_full {topic payload : Bytes} {size : Nat} (retain : Bool)
    (sized : publishRemainingLength topic payload.length .atMostOnce = .ok size)
    (full : ¬ c.HasRoom (packetSize size)) :
    ∃ tx, tx.peek = c.tx.peek ∧ c.publishUntracked topic payload .atMostOnce retain =
      refuse { c with tx := tx } (refusal cfg (packetSize size)) := by
  obtain ⟨tx, sent, peek⟩ := enqueueSized_refusal
    (encodePublish · topic payload .atMostOnce retain false 0) full
  exact ⟨tx, peek, by simp only [publishUntracked, sized, sent]⟩

section IntoSlot

variable {index : Nat} {slot : OutboundSlot} {id : UInt16} {topic payload : Bytes} {qos : QoS}
  {size : Nat} (retain : Bool) (now : UInt32) (tracked : qos ≠ .atMostOnce) (nonzero : id ≠ 0)
  (here : c.outbound[index]? = some slot)
  (sized : publishRemainingLength topic payload.length qos = .ok size)

include tracked nonzero here sized

/-- QoS > 0 into a slot and a queue that have room for the packet. -/
theorem publishInto_of_room
    (fits : (publishPacket topic payload qos retain false id).length ≤ slot.packet.length)
    (room : c.HasRoom (publishPacket topic payload qos retain false id).length) :
    ∃ tx, tx.peek = c.tx.peek ++ publishPacket topic payload qos retain false id ∧
      c.publishInto index id topic payload qos retain now =
        { queued := [{ slot := some index, bytes := publishPacket topic payload qos retain false id }]
          packetId := some id
          readClock := true
          client := { c with
            tx := tx
            outbound := c.outbound.set index
              (filledSlot slot (publishPacket topic payload qos retain false id) qos id now) } } := by
  have same : c.slotAt index = slot := by simp [slotAt, List.getD, here]
  have encodes := @encodes_publish topic payload qos retain false id size
    (fun _ => nonzero) (fun untracked => absurd untracked tracked) sized
  have written := (encodes slot.packet.length).1 fits
  simp only at written
  generalize publishPacket topic payload qos retain false id = packet at *
  let stored : OutboundSlot := { slot with packet := overwrite slot.packet packet }
  obtain ⟨tx, sent, peek⟩ := @enqueue_of_room cfg (c.setSlot index stored) _ room
  refine ⟨tx, peek, ?_⟩
  simp only [publishInto, same, written, take_overwrite]
  rw [sent]
  simp only [stored, setSlot, List.set_set, filledSlot]

/-- QoS > 0 into a slot with room for the packet, and a queue without. -/
theorem publishInto_of_full
    (fits : (publishPacket topic payload qos retain false id).length ≤ slot.packet.length)
    (full : ¬ c.HasRoom (publishPacket topic payload qos retain false id).length) :
    ∃ tx packet, tx.peek = c.tx.peek ∧ packet.length = slot.packet.length ∧
      c.publishInto index id topic payload qos retain now =
        refuse { c with tx := tx, outbound := c.outbound.set index { slot with packet := packet } }
          .txQueueFull := by
  have same : c.slotAt index = slot := by simp [slotAt, List.getD, here]
  have encodes := @encodes_publish topic payload qos retain false id size
    (fun _ => nonzero) (fun untracked => absurd untracked tracked) sized
  have written := (encodes slot.packet.length).1 fits
  simp only at written
  generalize publishPacket topic payload qos retain false id = packet at *
  let stored : OutboundSlot := { slot with packet := overwrite slot.packet packet }
  obtain ⟨tx, sent, peek⟩ := @enqueue_of_full cfg (c.setSlot index stored) _ full
  refine ⟨tx, overwrite slot.packet packet, peek, length_overwrite fits, ?_⟩
  simp only [publishInto, same, written, take_overwrite]
  rw [sent]
  simp only [stored, setSlot]

/-- QoS > 0 into a slot that is too small for the packet. -/
theorem publishInto_of_large
    (large : slot.packet.length < (publishPacket topic payload qos retain false id).length) :
    ∃ packet, packet.length = slot.packet.length ∧
      c.publishInto index id topic payload qos retain now =
        refuse { c with outbound := c.outbound.set index { slot with packet := packet } }
          .payloadTooLarge := by
  have same : c.slotAt index = slot := by simp [slotAt, List.getD, here]
  have encodes := @encodes_publish topic payload qos retain false id size
    (fun _ => nonzero) (fun untracked => absurd untracked tracked) sized
  obtain ⟨part, partFits, short⟩ := (encodes slot.packet.length).2 large
  simp only at short
  refine ⟨overwrite slot.packet part, length_overwrite partFits, ?_⟩
  simp only [publishInto, same, short, if_true, setSlot]

end IntoSlot

/-- QoS > 0 with arguments that make no PUBLISH. -/
theorem publishInto_of_error {index : Nat} {slot : OutboundSlot} {id : UInt16}
    {topic payload : Bytes} {qos : QoS} {error : Error} (retain : Bool) (now : UInt32)
    (nonzero : id ≠ 0) (here : c.outbound[index]? = some slot)
    (unsized : publishRemainingLength topic payload.length qos = .error error) :
    c.publishInto index id topic payload qos retain now =
      refuse { c with outbound := c.outbound.set index slot } error := by
  have same : c.slotAt index = slot := by simp [slotAt, List.getD, here]
  have named : ¬ (qos ≠ .atMostOnce ∧ id = 0) := fun bad => nonzero bad.2
  have unrepeated : ¬ (qos = .atMostOnce ∧ (false : Bool) = true) := by simp
  have refused : encodePublish slot.packet.length topic payload qos retain false id =
      (.error error, []) := by
    simp only [encodePublish, if_neg named, if_neg unrepeated, unsized]
  have notSmall : ¬ error = .bufferTooSmall := by
    rcases publishRemainingLength_error unsized with rfl | rfl <;> simp
  simp only [publishInto, same, refused, if_neg notSmall, setSlot, overwrite,
    List.nil_append, List.length_nil, List.drop_zero]

/-- A tracked message that passes its checks and finds a free slot. -/
theorem publish_tracked {topic : Bytes} (payload : Bytes) {qos : QoS} {index : Nat} (retain : Bool)
    (now : UInt32) (up : c.state = .connected) (named : isValidTopicName topic = true)
    (short : topic.length ≤ cfg.maxTopicLen) (tracked : qos ≠ .atMostOnce)
    (slots : cfg.maxInflightOut ≠ 0) (found : c.freeOutboundSlot = some index) :
    c.publish topic payload qos retain now =
      if c.allocPacketId.1 = 0 then c.allocPacketId.2.refuse .noInflightSlot
      else c.allocPacketId.2.publishInto index c.allocPacketId.1 topic payload qos retain now := by
  simp only [publish, up, named, Nat.not_lt.mpr short, if_neg tracked, if_neg slots, found, ne_eq,
    not_true_eq_false, if_false, Bool.not_true, Bool.false_eq_true]

/-- An untracked message that passes its checks. -/
theorem publish_untracked {topic : Bytes} (payload : Bytes) (retain : Bool) (now : UInt32)
    (up : c.state = .connected) (named : isValidTopicName topic = true)
    (short : topic.length ≤ cfg.maxTopicLen) :
    c.publish topic payload .atMostOnce retain now =
      c.publishUntracked topic payload .atMostOnce retain := by
  simp only [publish, up, named, Nat.not_lt.mpr short, ne_eq, not_true_eq_false, if_false, if_true,
    Bool.not_true, Bool.false_eq_true]

/-- A publish is refused before the queue is asked for room, and not for want of it, or it
passes every check. -/
theorem publish_early (topic payload : Bytes) (qos : QoS) (retain : Bool) (now : UInt32) :
    (∃ error n outbound, error ≠ .ok ∧ error ≠ .txQueueFull ∧ Scribbled c.outbound outbound ∧
      c.publish topic payload qos retain now =
        refuse { c with nextPacketId := n, outbound := outbound } error) ∨
    (c.state = .connected ∧ isValidTopicName topic = true ∧ topic.length ≤ cfg.maxTopicLen ∧
      ∃ size, publishRemainingLength topic payload.length qos = .ok size ∧
      (qos = .atMostOnce ∨ qos ≠ .atMostOnce ∧ cfg.maxInflightOut ≠ 0 ∧
        c.allocPacketId.1 ≠ 0 ∧ ∃ index slot, c.freeOutboundSlot = some index ∧
        c.outbound[index]? = some slot ∧ slot.phase = .free ∧
        packetSize size ≤ slot.packet.length)) := by
  have refused : ∀ error, error ≠ .ok → error ≠ .txQueueFull →
      c.publish topic payload qos retain now = c.refuse error →
      ∃ error n outbound, error ≠ .ok ∧ error ≠ .txQueueFull ∧ Scribbled c.outbound outbound ∧
        c.publish topic payload qos retain now =
          refuse { c with nextPacketId := n, outbound := outbound } error :=
    fun error bad other same => ⟨error, c.nextPacketId, c.outbound, bad, other, .inl rfl, same⟩
  by_cases up : c.state = .connected
  swap
  · exact .inl (refused .notConnected (by simp) (by simp) (by simp only [publish, if_pos up]))
  have notDown : ¬ c.state ≠ .connected := fun down => down up
  by_cases badName : (!isValidTopicName topic) = true
  · exact .inl (refused .invalidArgument (by simp) (by simp)
      (by simp only [publish, if_neg notDown, if_pos badName]))
  by_cases long : topic.length > cfg.maxTopicLen
  · exact .inl (refused .topicTooLong (by simp) (by simp)
      (by simp only [publish, if_neg notDown, if_neg badName, if_pos long]))
  have named : isValidTopicName topic = true := by simpa using badName
  have short : topic.length ≤ cfg.maxTopicLen := Nat.not_lt.mp long
  by_cases untracked : qos = .atMostOnce
  · subst untracked
    cases sized : publishRemainingLength topic payload.length .atMostOnce with
    | ok size => exact .inr ⟨up, named, short, size, rfl, .inl rfl⟩
    | error error =>
      have known := publishRemainingLength_error sized
      refine .inl (refused error (by rcases known with rfl | rfl <;> simp)
        (by rcases known with rfl | rfl <;> simp) ?_)
      rw [c.publish_untracked payload retain now up named short]
      simp only [publishUntracked, sized]
  by_cases none : cfg.maxInflightOut = 0
  · exact .inl (refused .notSupported (by simp) (by simp)
      (by simp only [publish, if_neg notDown, if_neg badName, if_neg long, if_neg untracked,
            if_pos none]))
  cases found : c.freeOutboundSlot with
  | none =>
    exact .inl (refused .noInflightSlot (by simp) (by simp)
      (by simp only [publish, if_neg notDown, if_neg badName, if_neg long, if_neg untracked,
            if_neg none, found]))
  | some index =>
    obtain ⟨slot, here, _, isFree⟩ := freeOutboundSlot_some found
    have unfolded := c.publish_tracked payload retain now up named short untracked none found
    by_cases exhausted : c.allocPacketId.1 = 0
    · rw [if_pos exhausted] at unfolded
      exact .inl ⟨.noInflightSlot, _, c.outbound, by simp, by simp, .inl rfl, unfolded⟩
    rw [if_neg exhausted] at unfolded
    cases sized : publishRemainingLength topic payload.length qos with
    | error error =>
      have known := publishRemainingLength_error sized
      exact .inl ⟨error, _, _, by rcases known with rfl | rfl <;> simp,
        by rcases known with rfl | rfl <;> simp,
        .inr ⟨index, slot, slot.packet, here, isFree, rfl, rfl⟩,
        unfolded.trans (publishInto_of_error _ retain now exhausted here sized)⟩
    | ok size =>
      by_cases stored : packetSize size ≤ slot.packet.length
      · exact .inr ⟨up, named, short, size, rfl, .inr ⟨untracked, none, exhausted, index, slot,
          rfl, here, isFree, stored⟩⟩
      · obtain ⟨packet, length, same⟩ := c.allocPacketId.2.publishInto_of_large retain now
          untracked exhausted here sized (by rw [length_publishPacket sized]; omega)
        exact .inl ⟨.payloadTooLarge, _, _, by simp, by simp,
          .inr ⟨index, slot, packet, here, isFree, length, rfl⟩, unfolded.trans same⟩

theorem publish_cases (topic payload : Bytes) (qos : QoS) (retain : Bool) (now : UInt32) :
    (∃ error tx n outbound, error ≠ .ok ∧ tx.peek = c.tx.peek ∧
      Scribbled c.outbound outbound ∧
      c.publish topic payload qos retain now =
        refuse { c with tx := tx, nextPacketId := n, outbound := outbound } error) ∨
    (c.state = .connected ∧ qos = .atMostOnce ∧
      (∃ size, publishRemainingLength topic payload.length qos = .ok size) ∧ ∃ tx,
      tx.peek = c.tx.peek ++ publishPacket topic payload qos retain false 0 ∧
      c.publish topic payload qos retain now =
        { queued := [{ bytes := publishPacket topic payload qos retain false 0 }]
          client := { c with tx := tx } }) ∨
    (c.state = .connected ∧ qos ≠ .atMostOnce ∧
      (∃ size, publishRemainingLength topic payload.length qos = .ok size) ∧
      ∃ index slot id tx packet,
      c.freeOutboundSlot = some index ∧ c.outbound[index]? = some slot ∧ slot.phase = .free ∧
      c.allocPacketId.1 = id ∧ id ≠ 0 ∧
      packet = publishPacket topic payload qos retain false id ∧
      packet.length ≤ slot.packet.length ∧ c.HasRoom packet.length ∧
      tx.peek = c.tx.peek ++ packet ∧
      c.publish topic payload qos retain now =
        { queued := [{ slot := some index, bytes := packet }]
          packetId := some id
          readClock := true
          client := { c with
            tx := tx
            nextPacketId := c.allocPacketId.2.nextPacketId
            outbound := c.outbound.set index (filledSlot slot packet qos id now) } }) := by
  rcases c.publish_early topic payload qos retain now with
    ⟨error, n, outbound, bad, _, scribbled, same⟩ | ⟨up, named, short, size, sized, qosCase⟩
  · exact .inl ⟨error, c.tx, n, outbound, bad, rfl, scribbled, same⟩
  rcases qosCase with rfl | ⟨tracked, slots, given, index, slot, found, here, isFree, stored⟩
  · have unfolded := c.publish_untracked payload retain now up named short
    by_cases room : c.HasRoom (packetSize size)
    · obtain ⟨tx, peek, same⟩ := c.publishUntracked_of_room retain sized room
      exact .inr (.inl ⟨up, rfl, ⟨size, sized⟩, tx, peek, unfolded.trans same⟩)
    · obtain ⟨tx, peek, same⟩ := c.publishUntracked_of_full retain sized room
      exact .inl ⟨_, tx, c.nextPacketId, c.outbound, refusal_ne_ok _ _, peek, .inl rfl,
        unfolded.trans same⟩
  · have unfolded := c.publish_tracked payload retain now up named short tracked slots found
    rw [if_neg given] at unfolded
    have fits : (publishPacket topic payload qos retain false c.allocPacketId.1).length ≤
        slot.packet.length := by rwa [length_publishPacket sized]
    by_cases room : c.HasRoom (publishPacket topic payload qos retain false
      c.allocPacketId.1).length
    · obtain ⟨tx, peek, same⟩ := c.allocPacketId.2.publishInto_of_room retain now tracked given here
        sized fits room
      exact .inr (.inr ⟨up, tracked, ⟨size, sized⟩, index, slot, _, tx, _, found, here, isFree, rfl,
        given, rfl, fits, room, peek, unfolded.trans same⟩)
    · obtain ⟨tx, packet, peek, length, same⟩ := c.allocPacketId.2.publishInto_of_full retain now
        tracked given here sized fits room
      exact .inl ⟨.txQueueFull, tx, _, _, by simp, peek,
        .inr ⟨index, slot, packet, here, isFree, length, rfl⟩, unfolded.trans same⟩

/-! ## Connecting and disconnecting -/

/-- The client a successful `connect` leaves. -/
def opened (opts : ConnectOptions) (tx : TxQueue cfg.txBufferSize) (now : UInt32) : Client cfg :=
  { c.prepare opts with
    tx := tx
    cleanSession := opts.cleanSession
    keepAliveMs := opts.keepAliveS.toUInt32 * 1000
    connack := {}
    lastError := .ok
    connectStartedMs := now
    lastSentMs := now
    lastReceivedMs := now
    pingOutstanding := false
    state := .connecting }

theorem peek_prepare (opts : ConnectOptions) : (c.prepare opts).tx.peek = [] := by
  unfold prepare
  split <;> exact TxQueue.peek_clear _

theorem length_connectPacket {opts : ConnectOptions} {size : Nat}
    (sized : connectRemainingLength opts = .ok size) :
    (connectPacket opts).length = packetSize size := by
  obtain ⟨_, _, _, _, within, announced⟩ := connectRemainingLength_ok sized
  rw [connectPacket, length_packetOf (announced ▸ within), ← announced, packetSize_eq within]

/-- The CONNECT these options make fits the transmit buffer. -/
def ConnectFits (cfg : Config) (opts : ConnectOptions) : Prop :=
  ∀ size, connectRemainingLength opts = .ok size → packetSize size ≤ cfg.txBufferSize

/-- The options fail a check that `connect()` makes before anything else. -/
def BadOptions (cfg : Config) (opts : ConnectOptions) : Prop :=
  opts.clientId.length > cfg.maxClientIdLen ∨ opts.username.length > cfg.maxUsernameLen ∨
    opts.password.length > cfg.maxPasswordLen ∨
    (opts.will.valid = true ∧ (!isValidTopicName opts.will.topic) = true) ∨
    (opts.clientId.isEmpty = true ∧ (!opts.cleanSession) = true)

instance (cfg : Config) (opts : ConnectOptions) : Decidable (BadOptions cfg opts) :=
  inferInstanceAs (Decidable (_ ∨ _))

variable {c} in
theorem connect_begins {opts : ConnectOptions} (good : ¬ BadOptions cfg opts)
    (idle : c.state = .idle) (now : UInt32) : c.connect opts now = c.beginConnect opts now := by
  unfold BadOptions at good
  push Not at good
  obtain ⟨idFits, userFits, passFits, willOk, cleanOk⟩ := good
  unfold connect
  rw [if_neg (not_not.mpr idle), if_neg (by omega), if_neg (by omega), if_neg (by omega),
    if_neg (fun bad => willOk bad.1 bad.2), if_neg (fun bad => cleanOk bad.1 bad.2)]

variable {c} in
/-- Options that pass every check, and whose CONNECT fits, open a connection. -/
theorem connect_of_fits {opts : ConnectOptions} {size : Nat} (good : ¬ BadOptions cfg opts)
    (sized : connectRemainingLength opts = .ok size) (fits : packetSize size ≤ cfg.txBufferSize)
    (idle : c.state = .idle) (now : UInt32) :
    ∃ tx, tx.peek = connectPacket opts ∧ c.connect opts now =
      { queued := [{ bytes := connectPacket opts }], readClock := true,
        client := c.opened opts tx now } := by
  have room : (c.prepare opts).HasRoom (packetSize size) := by
    rwa [HasRoom, peek_prepare, List.length_nil, Nat.zero_add]
  obtain ⟨tx, sent, peek⟩ :=
    enqueueSized_of_room (encodes_connect sized) (length_connectPacket sized) room
  rw [peek_prepare, List.nil_append] at peek
  refine ⟨tx, peek, ?_⟩
  rw [connect_begins good idle]
  simp only [beginConnect, sized, sent, opened]

variable {c} in
/-- A CONNECT that does not fit the buffer fails only after the session was prepared. -/
theorem connect_of_large {opts : ConnectOptions} (good : ¬ BadOptions cfg opts)
    (large : ¬ ConnectFits cfg opts) (idle : c.state = .idle) (now : UInt32) :
    c.connect opts now = (c.prepare opts).refuse .bufferTooSmall := by
  simp only [ConnectFits, not_forall, Nat.not_le] at large
  obtain ⟨size, sized, large⟩ := large
  rw [connect_begins good idle]
  simp only [beginConnect, sized, enqueueSized, if_pos large]

/-- What `connect()` does to an idle client depends on its options alone: it refuses
them, finds that the CONNECT does not fit, or opens a connection. -/
theorem connect_uniform (opts : ConnectOptions) (now : UInt32) :
    (∃ error, error ≠ .ok ∧ ∀ c : Client cfg, c.state = .idle →
      c.connect opts now = c.refuse error) ∨
    ((¬ BadOptions cfg opts ∧ ¬ ConnectFits cfg opts) ∧ ∀ c : Client cfg, c.state = .idle →
      c.connect opts now = (c.prepare opts).refuse .bufferTooSmall) ∨
    ((∃ size, connectRemainingLength opts = .ok size) ∧
      ∀ c : Client cfg, c.state = .idle → ∃ tx, tx.peek = connectPacket opts ∧
        c.connect opts now =
          { queued := [{ bytes := connectPacket opts }], readClock := true,
            client := c.opened opts tx now }) := by
  by_cases bad : BadOptions cfg opts
  · refine .inl ⟨.invalidArgument, by simp, fun c idle => ?_⟩
    unfold BadOptions at bad
    unfold connect
    rw [if_neg (not_not.mpr idle)]
    split_ifs <;> first | rfl | (exfalso; tauto)
  cases sized : connectRemainingLength opts with
  | error error =>
    refine .inl ⟨error, by rw [connectRemainingLength_error sized]; simp, fun c idle => ?_⟩
    rw [connect_begins bad idle]
    simp only [beginConnect, sized]
  | ok size =>
    by_cases fits : packetSize size ≤ cfg.txBufferSize
    · exact .inr (.inr ⟨⟨size, rfl⟩, fun c idle => connect_of_fits bad sized fits idle now⟩)
    · have large : ¬ ConnectFits cfg opts := fun all => fits (all size sized)
      exact .inr (.inl ⟨⟨bad, large⟩, fun c idle => connect_of_large bad large idle now⟩)

/-- A connect is refused outright, fails after it emptied the buffers and
discarded the session, or leaves one CONNECT on the queue. -/
theorem connect_cases (opts : ConnectOptions) (now : UInt32) :
    (∃ error, error ≠ .ok ∧ c.connect opts now = c.refuse error) ∨
    (c.state = .idle ∧ ∃ error tx, error ≠ .ok ∧ tx.peek = [] ∧
      c.connect opts now = refuse { c.prepare opts with tx := tx } error) ∨
    (c.state = .idle ∧ (∃ size, connectRemainingLength opts = .ok size) ∧ ∃ tx,
      tx.peek = connectPacket opts ∧
      c.connect opts now =
        { queued := [{ bytes := connectPacket opts }], readClock := true,
          client := c.opened opts tx now }) := by
  by_cases idle : c.state = .idle
  swap
  · exact .inl ⟨.alreadyConnected, by simp, by simp only [connect, if_pos idle]⟩
  rcases @connect_uniform cfg opts now with
    ⟨error, bad, refuses⟩ | ⟨_, fails⟩ | ⟨sized, opens⟩
  · exact .inl ⟨error, bad, refuses c idle⟩
  · exact .inr (.inl ⟨idle, .bufferTooSmall, _, by simp, c.peek_prepare opts, fails c idle⟩)
  · obtain ⟨tx, peek, same⟩ := opens c idle
    exact .inr (.inr ⟨idle, sized, tx, peek, same⟩)

/-- A disconnect is refused, queues a DISCONNECT, or closes hard. -/
theorem disconnect_cases :
    (c.state = .idle ∧ c.disconnect = c.refuse .notConnected) ∨
    (c.state = .connected ∧ c.HasRoom 2 ∧ ∃ tx,
      tx.peek = c.tx.peek ++ emptyPacket .disconnect ∧
      c.disconnect =
        { queued := [{ bytes := emptyPacket .disconnect }]
          client := { c with tx := tx, state := .disconnecting } }) ∨
    (c.state ≠ .idle ∧ (c.state = .connected → ¬ c.HasRoom 2) ∧ ∃ tx,
      c.disconnect = shutdown { c with tx := tx } .ok) := by
  by_cases idle : c.state = .idle
  · exact .inl ⟨idle, by simp only [disconnect, if_pos idle]⟩
  by_cases up : c.state = .connected
  · by_cases room : c.HasRoom 2
    · obtain ⟨tx, sent, peek⟩ := enqueueEmpty_of_room .disconnect (.inr rfl) room
      refine .inr (.inl ⟨up, room, tx, peek, ?_⟩)
      simp only [disconnect, if_neg idle, if_pos up, sent]
    · obtain ⟨error, tx, sent, _, _⟩ := enqueueEmpty_of_full .disconnect room
      refine .inr (.inr ⟨idle, fun _ => room, tx, ?_⟩)
      simp only [disconnect, if_neg idle, if_pos up, sent]
  · refine .inr (.inr ⟨idle, fun connected => absurd connected up, c.tx, ?_⟩)
    simp only [disconnect, if_neg idle, if_neg up]

/-! ## Subscribing -/

theorem length_subscribePacket {packetId : UInt16} {subs : List TopicSubscription} {size : Nat}
    (sized : subscribeRemainingLength subs = .ok size) :
    (subscribePacket packetId subs).length = packetSize size := by
  have announced := @length_subscribeBody packetId subs size sized
  obtain ⟨_, within, _⟩ := subscribeRemainingLength_ok sized
  rw [subscribePacket, length_packetOf (announced ▸ within), announced, packetSize_eq within]

theorem length_unsubscribePacket {packetId : UInt16} {filters : List Bytes} {size : Nat}
    (sized : unsubscribeRemainingLength filters = .ok size) :
    (unsubscribePacket packetId filters).length = packetSize size := by
  have announced := @length_unsubscribeBody packetId filters size sized
  obtain ⟨_, within, _⟩ := unsubscribeRemainingLength_ok sized
  rw [unsubscribePacket, length_packetOf (announced ▸ within), announced, packetSize_eq within]

/-- Registering filters changes the table and the counter behind it only. -/
theorem foldl_registerFilter_shape (handler : Option Nat) (subs : List TopicSubscription)
    (c : Client cfg) (ids : List UInt16) :
    ∃ subscriptions nextSubId more,
      subs.foldl (registerFilter handler) (c, ids) =
        ({ c with subscriptions := subscriptions, nextSubId := nextSubId }, ids ++ more) := by
  induction subs generalizing c ids with
  | nil => exact ⟨c.subscriptions, c.nextSubId, [], by simp⟩
  | cons s rest ih =>
    obtain ⟨subscriptions, nextSubId, one, step⟩ : ∃ subscriptions nextSubId one,
        registerFilter handler (c, ids) s =
          ({ c with subscriptions := subscriptions, nextSubId := nextSubId }, ids ++ [one]) := by
      cases found : c.findSubscription s.filter with
      | some index => exact ⟨_, c.nextSubId, _, by simp only [registerFilter, found]; rfl⟩
      | none => exact ⟨_, _, _, by simp only [registerFilter, found]; rfl⟩
    obtain ⟨subscriptions', nextSubId', more, run⟩ := ih
      { c with subscriptions := subscriptions, nextSubId := nextSubId } (ids ++ [one])
    refine ⟨subscriptions', nextSubId', one :: more, ?_⟩
    rw [List.foldl_cons, step, run]
    simp

/-- The client a successful `subscribe` leaves. -/
def subscribed (subs : List TopicSubscription) (handler : Option Nat)
    (tx : TxQueue cfg.txBufferSize) (now : UInt32) : Client cfg :=
  let registered := subs.foldl (registerFilter handler)
    ({ c.allocPacketId.2 with tx := tx }, [])
  { registered.1 with
    pending := c.pending ++
      [{ subs := registered.2, sentMs := now, packetId := c.allocPacketId.1,
         expected := .suback }] }

theorem subscribed_shape (subs : List TopicSubscription) (handler : Option Nat)
    (tx : TxQueue cfg.txBufferSize) (now : UInt32) :
    ∃ n subscriptions nextSubId pending, c.subscribed subs handler tx now =
      { c with tx := tx, nextPacketId := n, subscriptions := subscriptions,
               nextSubId := nextSubId, pending := pending } := by
  obtain ⟨subscriptions, nextSubId, more, run⟩ := foldl_registerFilter_shape handler subs
    { c.allocPacketId.2 with tx := tx } []
  refine ⟨c.allocPacketId.2.nextPacketId, subscriptions, nextSubId,
    (c.subscribed subs handler tx now).pending, ?_⟩
  simp only [subscribed, run]
  rfl

/-- A request that passes every check is handed to the queue. -/
theorem subscribe_passes {subs : List TopicSubscription} {size : Nat} (handler : Option Nat)
    (now : UInt32) (up : c.state = .connected)
    (shape : ¬ (subs.isEmpty = true ∨ subs.length > cfg.maxTopicsPerRequest))
    (checked : checkFilters subs cfg.maxTopicLen = .ok) (awaitable : c.ackTableFull = false)
    (slots : c.subscriptions.length + c.newEntries subs ≤ cfg.maxSubscriptions)
    (sized : subscribeRemainingLength subs = .ok size) (given : c.allocPacketId.1 ≠ 0) :
    c.subscribe subs handler now =
      c.allocPacketId.2.sendSubscribe c.allocPacketId.1 size subs handler now := by
  have notDown : ¬ c.state ≠ .connected := fun down => down up
  have valid : ¬ checkFilters subs cfg.maxTopicLen ≠ .ok := fun bad => bad checked
  have notFull : ¬ c.ackTableFull = true := by simp [awaitable]
  have few : ¬ c.subscriptions.length + c.newEntries subs > cfg.maxSubscriptions := by omega
  simp only [subscribe, if_neg notDown, if_neg shape, if_neg valid, if_neg notFull, if_neg few,
    sized, if_neg given]

/-- A request that passes every check and fits the queue is sent. -/
theorem subscribe_of_room {subs : List TopicSubscription} {size : Nat} (handler : Option Nat)
    (now : UInt32) (up : c.state = .connected)
    (shape : ¬ (subs.isEmpty = true ∨ subs.length > cfg.maxTopicsPerRequest))
    (checked : checkFilters subs cfg.maxTopicLen = .ok) (awaitable : c.ackTableFull = false)
    (slots : c.subscriptions.length + c.newEntries subs ≤ cfg.maxSubscriptions)
    (sized : subscribeRemainingLength subs = .ok size) (given : c.allocPacketId.1 ≠ 0)
    (room : c.HasRoom (packetSize size)) :
    ∃ tx, tx.peek = c.tx.peek ++ subscribePacket c.allocPacketId.1 subs ∧
      c.subscribe subs handler now =
        { queued := [{ bytes := subscribePacket c.allocPacketId.1 subs }]
          packetId := some c.allocPacketId.1
          readClock := true
          client := c.subscribed subs handler tx now } := by
  have room : c.allocPacketId.2.HasRoom (packetSize size) := room
  obtain ⟨tx, sent, peek⟩ := enqueueSized_of_room
    (encodes_subscribe given sized) (length_subscribePacket sized) room
  obtain ⟨subscriptions, nextSubId, more, run⟩ := foldl_registerFilter_shape handler subs
    { c.allocPacketId.2 with tx := tx } []
  refine ⟨tx, peek, ?_⟩
  rw [c.subscribe_passes handler now up shape checked awaitable slots sized given]
  simp only [sendSubscribe, sent, subscribed, run]
  rfl

theorem checkFilters_cases (subs : List TopicSubscription) (maxTopicLen : Nat) :
    checkFilters subs maxTopicLen = .ok ∨ checkFilters subs maxTopicLen = .invalidArgument ∨
      checkFilters subs maxTopicLen = .topicTooLong := by
  induction subs with
  | nil => exact .inl rfl
  | cons asked rest ih =>
    unfold checkFilters
    split_ifs
    · exact .inr (.inl rfl)
    · exact .inr (.inr rfl)
    · exact ih

/-- A subscribe is refused before the queue is asked for room, and not for want of it, or it
passes every check. -/
theorem subscribe_early (subs : List TopicSubscription) (handler : Option Nat) (now : UInt32) :
    (∃ error n, error ≠ .ok ∧ error ≠ .txQueueFull ∧
      c.subscribe subs handler now = refuse { c with nextPacketId := n } error) ∨
    (c.state = .connected ∧ ¬ (subs.isEmpty = true ∨ subs.length > cfg.maxTopicsPerRequest) ∧
      checkFilters subs cfg.maxTopicLen = .ok ∧ c.ackTableFull = false ∧
      c.subscriptions.length + c.newEntries subs ≤ cfg.maxSubscriptions ∧
      c.allocPacketId.1 ≠ 0 ∧ ∃ size, subscribeRemainingLength subs = .ok size) := by
  have refused : ∀ error, error ≠ .ok → error ≠ .txQueueFull →
      c.subscribe subs handler now = c.refuse error →
      ∃ error n, error ≠ .ok ∧ error ≠ .txQueueFull ∧
        c.subscribe subs handler now = refuse { c with nextPacketId := n } error :=
    fun error bad other same => ⟨error, c.nextPacketId, bad, other, same⟩
  by_cases up : c.state = .connected
  swap
  · exact .inl (refused .notConnected (by simp) (by simp) (by simp only [subscribe, if_pos up]))
  have notDown : ¬ c.state ≠ .connected := fun down => down up
  by_cases shape : subs.isEmpty = true ∨ subs.length > cfg.maxTopicsPerRequest
  · exact .inl (refused .invalidArgument (by simp) (by simp)
      (by simp only [subscribe, if_neg notDown, if_pos shape]))
  by_cases invalid : checkFilters subs cfg.maxTopicLen ≠ .ok
  · refine .inl (refused _ invalid ?_
      (by simp only [subscribe, if_neg notDown, if_neg shape, if_pos invalid]))
    rcases checkFilters_cases subs cfg.maxTopicLen with same | same | same <;> simp [same]
  by_cases full : c.ackTableFull = true
  · exact .inl (refused .noPendingAckSlot (by simp) (by simp)
      (by simp only [subscribe, if_neg notDown, if_neg shape, if_neg invalid, if_pos full]))
  by_cases many : c.subscriptions.length + c.newEntries subs > cfg.maxSubscriptions
  · exact .inl (refused .noSubscriptionSlot (by simp) (by simp)
      (by simp only [subscribe, if_neg notDown, if_neg shape, if_neg invalid, if_neg full,
            if_pos many]))
  cases sized : subscribeRemainingLength subs with
  | error error =>
    have known := subscribeRemainingLength_error sized
    refine .inl (refused error (by simp [known]) (by simp [known]) ?_)
    simp only [subscribe, if_neg notDown, if_neg shape, if_neg invalid, if_neg full,
      if_neg many, sized]
  | ok size =>
    by_cases exhausted : c.allocPacketId.1 = 0
    · refine .inl ⟨.noPendingAckSlot, c.allocPacketId.2.nextPacketId, by simp, by simp, ?_⟩
      simp only [subscribe, if_neg notDown, if_neg shape, if_neg invalid, if_neg full,
        if_neg many, sized, if_pos exhausted]
      rfl
    · exact .inr ⟨up, shape, not_not.mp invalid, by simpa using full, Nat.not_lt.mp many,
        exhausted, size, rfl⟩

/-- A subscribe fails, or leaves one SUBSCRIBE on the queue. -/
theorem subscribe_cases (subs : List TopicSubscription) (handler : Option Nat) (now : UInt32) :
    (∃ error tx n, error ≠ .ok ∧ tx.peek = c.tx.peek ∧
      c.subscribe subs handler now =
        refuse { c with tx := tx, nextPacketId := n } error) ∨
    (c.state = .connected ∧ subs.length ≤ cfg.maxTopicsPerRequest ∧
      checkFilters subs cfg.maxTopicLen = .ok ∧ c.ackTableFull = false ∧
      c.subscriptions.length + c.newEntries subs ≤ cfg.maxSubscriptions ∧
      c.allocPacketId.1 ≠ 0 ∧ (∃ size, subscribeRemainingLength subs = .ok size) ∧ ∃ tx,
      tx.peek = c.tx.peek ++ subscribePacket c.allocPacketId.1 subs ∧
      c.subscribe subs handler now =
        { queued := [{ bytes := subscribePacket c.allocPacketId.1 subs }]
          packetId := some c.allocPacketId.1
          readClock := true
          client := c.subscribed subs handler tx now }) := by
  rcases c.subscribe_early subs handler now with
    ⟨error, n, bad, _, same⟩ | ⟨up, shape, checked, awaitable, slots, given, size, sized⟩
  · exact .inl ⟨error, c.tx, n, bad, rfl, same⟩
  by_cases room : c.allocPacketId.2.HasRoom (packetSize size)
  · exact .inr ⟨up, by omega, checked, awaitable, slots, given, ⟨size, sized⟩,
      c.subscribe_of_room handler now up shape checked awaitable slots sized given room⟩
  · obtain ⟨error, tx, sent, bad, peek⟩ :=
      enqueueSized_of_full (encodeSubscribe · c.allocPacketId.1 subs) room
    refine .inl ⟨error, tx, c.allocPacketId.2.nextPacketId, bad, peek, ?_⟩
    rw [c.subscribe_passes handler now up shape checked awaitable slots sized given]
    simp only [sendSubscribe, sent]
    rfl

/-- The same for a request to withdraw filters. -/
theorem unsubscribe_passes {filters : List Bytes} {size : Nat} (now : UInt32)
    (up : c.state = .connected)
    (shape : ¬ (filters.isEmpty = true ∨ filters.length > cfg.maxTopicsPerRequest))
    (awaitable : c.ackTableFull = false)
    (sized : unsubscribeRemainingLength filters = .ok size) (given : c.allocPacketId.1 ≠ 0) :
    c.unsubscribe filters now =
      c.allocPacketId.2.sendUnsubscribe c.allocPacketId.1 size filters now := by
  have notDown : ¬ c.state ≠ .connected := fun down => down up
  have notFull : ¬ c.ackTableFull = true := by simp [awaitable]
  simp only [unsubscribe, if_neg notDown, if_neg shape, if_neg notFull, sized, if_neg given]

theorem unsubscribe_early (filters : List Bytes) (now : UInt32) :
    (∃ error n, error ≠ .ok ∧ error ≠ .txQueueFull ∧
      c.unsubscribe filters now = refuse { c with nextPacketId := n } error) ∨
    (c.state = .connected ∧
      ¬ (filters.isEmpty = true ∨ filters.length > cfg.maxTopicsPerRequest) ∧
      c.ackTableFull = false ∧ c.allocPacketId.1 ≠ 0 ∧
      ∃ size, unsubscribeRemainingLength filters = .ok size) := by
  have refused : ∀ error, error ≠ .ok → error ≠ .txQueueFull →
      c.unsubscribe filters now = c.refuse error →
      ∃ error n, error ≠ .ok ∧ error ≠ .txQueueFull ∧
        c.unsubscribe filters now = refuse { c with nextPacketId := n } error :=
    fun error bad other same => ⟨error, c.nextPacketId, bad, other, same⟩
  by_cases up : c.state = .connected
  swap
  · exact .inl (refused .notConnected (by simp) (by simp) (by simp only [unsubscribe, if_pos up]))
  have notDown : ¬ c.state ≠ .connected := fun down => down up
  by_cases shape : filters.isEmpty = true ∨ filters.length > cfg.maxTopicsPerRequest
  · exact .inl (refused .invalidArgument (by simp) (by simp)
      (by simp only [unsubscribe, if_neg notDown, if_pos shape]))
  by_cases full : c.ackTableFull = true
  · exact .inl (refused .noPendingAckSlot (by simp) (by simp)
      (by simp only [unsubscribe, if_neg notDown, if_neg shape, if_pos full]))
  cases sized : unsubscribeRemainingLength filters with
  | error error =>
    have known := unsubscribeRemainingLength_error sized
    refine .inl (refused error (by simp [known]) (by simp [known]) ?_)
    simp only [unsubscribe, if_neg notDown, if_neg shape, if_neg full, sized]
  | ok size =>
    by_cases exhausted : c.allocPacketId.1 = 0
    · refine .inl ⟨.noPendingAckSlot, c.allocPacketId.2.nextPacketId, by simp, by simp, ?_⟩
      simp only [unsubscribe, if_neg notDown, if_neg shape, if_neg full, sized,
        if_pos exhausted]
      rfl
    · exact .inr ⟨up, shape, by simpa using full, exhausted, size, rfl⟩

/-- An unsubscribe fails, or leaves one UNSUBSCRIBE on the queue. -/
theorem unsubscribe_cases (filters : List Bytes) (now : UInt32) :
    (∃ error tx n, error ≠ .ok ∧ tx.peek = c.tx.peek ∧
      c.unsubscribe filters now = refuse { c with tx := tx, nextPacketId := n } error) ∨
    (c.state = .connected ∧ filters.length ≤ cfg.maxTopicsPerRequest ∧
      c.ackTableFull = false ∧ c.allocPacketId.1 ≠ 0 ∧
      (∃ size, unsubscribeRemainingLength filters = .ok size) ∧ ∃ tx,
      tx.peek = c.tx.peek ++ unsubscribePacket c.allocPacketId.1 filters ∧
      c.unsubscribe filters now =
        { queued := [{ bytes := unsubscribePacket c.allocPacketId.1 filters }]
          packetId := some c.allocPacketId.1
          readClock := true
          client := { c with
            tx := tx
            nextPacketId := c.allocPacketId.2.nextPacketId
            pending := c.pending ++
              [{ subs := c.knownSubIds filters, sentMs := now, packetId := c.allocPacketId.1,
                 expected := .unsuback }] } }) := by
  rcases c.unsubscribe_early filters now with
    ⟨error, n, bad, _, same⟩ | ⟨up, shape, awaitable, given, size, sized⟩
  · exact .inl ⟨error, c.tx, n, bad, rfl, same⟩
  have unfolded := c.unsubscribe_passes now up shape awaitable sized given
  by_cases room : c.allocPacketId.2.HasRoom (packetSize size)
  · obtain ⟨tx, sent, peek⟩ := enqueueSized_of_room
      (encodes_unsubscribe given sized) (length_unsubscribePacket sized) room
    refine .inr ⟨up, by omega, awaitable, given, ⟨size, sized⟩, tx, peek, ?_⟩
    simp only [unfolded, sendUnsubscribe, sent]
    rfl
  · obtain ⟨error, tx, sent, bad, peek⟩ :=
      enqueueSized_of_full (encodeUnsubscribe · c.allocPacketId.1 filters) room
    refine .inl ⟨error, tx, c.allocPacketId.2.nextPacketId, bad, peek, ?_⟩
    simp only [unfolded, sendUnsubscribe, sent]
    rfl

end Client
end Mqtt
